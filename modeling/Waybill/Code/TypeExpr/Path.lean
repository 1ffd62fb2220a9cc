import Waybill.Code.Attribute.Read

/-!
# Paths and bounds

A path is a sequence of names, each of which may have arguments between angle brackets. In a type
the arguments follow the name; in an expression, where `<` compares, there is a `::` between the
two. Among arguments the lifetimes are written first. A bound is a lifetime or a trait, which is a
path that may have arguments in parentheses as well.

## Main definitions

* `Waybill.Code.PathRead`, `Waybill.Code.Reader.path` — paths.
* `Waybill.Code.Reader.qualifiedPath` — paths behind a type in angle brackets.
* `Waybill.Code.Reader.bound`, `Waybill.Code.Reader.bounds` — bounds.
-/

namespace Waybill.Code

/-- One argument: whether it is a lifetime, its tokens, and its type if it is one. -/
structure ArgumentRead where
  isLifetime : Bool
  written : List Token
  type : Option TypeExpr

/-- Arguments with the commas behind them, where there are any: lifetimes first, then the others,
and a comma between the two. -/
def orderArguments (arguments : List (ArgumentRead × List Token)) : List Token :=
  let (lifetimes, others) := arguments.partition fun (a, _) => a.isLifetime
  let write (ready : Bool) (part : List (ArgumentRead × List Token)) : List Token × Bool :=
    part.foldl (fun (done, ready) (a, comma) =>
      let between := if ready then [] else symbol ","
      (done ++ between ++ a.written ++ comma, !comma.isEmpty)) ([], ready)
  let written := lifetimes.flatMap fun (a, comma) => a.written ++ comma
  let ready := match lifetimes.getLast? with
    | some (_, comma) => !comma.isEmpty
    | none => true
  written ++ (write ready others).1

/-- Arguments between angle brackets. -/
def angleTokens (arguments : List (ArgumentRead × List Token)) : List Token :=
  symbol "<" ++ orderArguments arguments ++ symbol ">"

/-- A name of a path, with the `::` in front of its arguments and the arguments, if it has any. -/
structure SegmentRead where
  name : String
  separator : List Token
  arguments : Option (List (ArgumentRead × List Token))

/-- A name of a path with its arguments, as tokens. -/
def SegmentRead.written (s : SegmentRead) : List Token :=
  match s.arguments with
  | some arguments => .word s.name :: s.separator ++ angleTokens arguments
  | none => [.word s.name]

/-- A path: whether `::` stands in front of it, the names before the last one, and the last one. -/
structure PathRead where
  isRooted : Bool
  before : List SegmentRead
  last : SegmentRead

namespace PathRead

/-- A path up to its last name. -/
def start (p : PathRead) : List Token :=
  (if p.isRooted then symbol "::" else []) ++ p.before.flatMap (·.written ++ symbol "::")

/-- A path, as tokens. -/
def written (p : PathRead) : List Token := p.start ++ p.last.written

/-- Whether a path is a single name, perhaps with arguments. -/
def isSingle (p : PathRead) : Bool := !p.isRooted && p.before.isEmpty

/-- Whether no name of a path has arguments. -/
def isPlain (p : PathRead) : Bool :=
  p.before.all (·.arguments.isNone) && p.last.arguments.isNone

/-- The first argument of the last name, if it is a type. -/
def argument (p : PathRead) : Option TypeExpr :=
  p.last.arguments.bind fun arguments => arguments.head?.bind (·.1.type)

end PathRead

namespace Reader

/-! ### Arguments -/

/-- A constant in place of a type: a literal, a name or a block. -/
def constantArgument (g : Grammar) : Reader (List Token) := do
  if ← atConstant then constant
  else if ← atIdentifier then return [.word (← identifier)]
  else
    return braces (← group .brace (do return (← innerAttributeTokens g) ++ (← g.statements)))

/-- Whether a literal or a block comes next. -/
def atConstantArgument : Reader Bool := return (← atConstant) || (← atGroup .brace)

/-- Lifetimes and whatever else a bound holds for. -/
def forLifetimes? (g : Grammar) : Reader (List Token) := do
  if ← atWord "for" then
    let start := (← keyword "for") ++ (← takeSymbol "<")
    let names ← listUntil (atSymbol ">") "," (return (← g.parameter).1)
    return start ++ joined names ++ (← takeSymbol ">")
  else return []

/-- Types with commas, up to the end. -/
def typesToEnd (g : Grammar) : Reader (List Token) :=
  return joined (← listUntil atEnd "," (typeTokens g))

/-- The output of a function, if one is written. -/
def output? (g : Grammar) (plus : Bool) : Reader (List Token) := do
  if ← atSymbol "->" then return (← takeSymbol "->") ++ (← g.type plus).written
  else return []

/-- Whether `::` and parentheses come next. -/
def atParentheses : Reader Bool :=
  looking fun tokens => startsWithSymbol "::" tokens && startsWithGroup .parenthesis (tokens.drop 2)

/-- Whether `::` and arguments come next. -/
def atTurbofish : Reader Bool :=
  looking fun tokens => startsWithSymbol "::" tokens && startsWithSymbol "<" (tokens.drop 2)

/-- Parameters of a trait in parentheses, with its output. -/
def callArguments (g : Grammar) : Reader (List Token) := do
  let inner ← group .parenthesis (typesToEnd g)
  return parentheses inner ++ (← output? g false)

/-- Lists of what a type depends on. -/
def capture : Reader (List Token) := do
  let start := (← keyword "use") ++ (← takeSymbol "<")
  let names ← listUntil (atSymbol ">") "," do
    if ← atLifetime then return (⟨true, ← lifetime, none⟩ : ArgumentRead)
    else if ← atWord "Self" then return ⟨false, ← keyword "Self", none⟩
    else return ⟨false, [.word (← identifier)], none⟩
  return start ++ orderArguments names ++ (← takeSymbol ">")

/-- One argument. -/
def argument (g : Grammar) : Reader ArgumentRead := do
  let isBound ← looking fun tokens => startsWithSymbol "+" (skipOne tokens)
  if (← atLifetime) && !isBound then return ⟨true, ← lifetime, none⟩
  if ← atConstantArgument then return ⟨false, ← constantArgument g, none⟩
  let t ← g.type true
  if t.form == .single && (← atSymbol "=") then
    let equals ← takeSymbol "="
    let value ← if ← atConstantArgument then constantArgument g else typeTokens g
    return ⟨false, t.written ++ equals ++ value, none⟩
  else if t.form == .single && (← atSymbol ":") then
    let colon ← takeSymbol ":"
    let stop : Reader Bool := return (← atSymbol ",") || (← atSymbol ">")
    let bounds ← listWhile stop "+" (return (← g.bound false true).written)
    return ⟨false, t.written ++ colon ++ joined bounds, none⟩
  else return ⟨false, t.written, some t.type⟩

/-- Arguments in angle brackets. -/
def arguments (g : Grammar) : Reader (List (ArgumentRead × List Token)) := do
  let _ ← takeSymbol "<"
  let all ← listUntil (atSymbol ">") "," (argument g)
  let _ ← takeSymbol ">"
  return all

/-! ### Paths -/

/-- A name of a path with its arguments. -/
def segment (g : Grammar) (inExpression : Bool) : Reader SegmentRead := do
  let word ← anyWord
  if ["super", "self", "crate", "try"].contains word then return ⟨word, [], none⟩
  require (isName word || word == "Self")
  let atAngle := (← atSymbol "<") && !(← atSymbol "<=")
  if (!inExpression && atAngle) || (← atTurbofish) then
    let separator ← takeSymbol? "::"
    return ⟨word, separator, some (← arguments g)⟩
  else return ⟨word, [], none⟩

/-- A path. -/
def path (g : Grammar) (inExpression : Bool) : Reader PathRead := do
  let root ← takeSymbol? "::"
  let first ← segment g inExpression
  let more ← many (return (← atSymbol "::") && !(← atParentheses)) do
    let _ ← takeSymbol "::"
    segment g inExpression
  match more.reverse with
  | [] => return ⟨!root.isEmpty, [], first⟩
  | last :: before => return ⟨!root.isEmpty, first :: before.reverse, last⟩

/-- A path, or a path behind a type in angle brackets. The tokens are those of all of it; the path
is there if nothing is in front of it. -/
def qualifiedPath (g : Grammar) (inExpression : Bool) : Reader (List Token × Option PathRead) := do
  if ← atSymbol "<" then
    let start := (← takeSymbol "<") ++ (← typeTokens g)
    let role ← if ← atWord "as" then do
        let word ← keyword "as"
        pure (word ++ (← path g false).written)
      else pure []
    let stop := (← takeSymbol ">") ++ (← takeSymbol "::")
    let first ← segment g inExpression
    let more ← many (atSymbol "::") do
      return (← takeSymbol "::") ++ (← segment g inExpression).written
    return (start ++ role ++ stop ++ first.written ++ more.flatten, none)
  else
    let p ← path g inExpression
    return (p.written, some p)

/-- Whether an invocation of a macro follows a path without arguments. -/
def atInvocation : Option PathRead → Reader Bool
  | some p => return p.isPlain && (← atSymbol "!") && !(← atSymbol "!=")
  | none => return false

/-- The mark of an invocation and what is handed to the macro, as it is written; the answer says
whether that is in braces. -/
def invocation : Reader (List Token × Bool) := do
  let mark ← takeSymbol "!"
  let isBraced ← atGroup .brace
  return (mark ++ [← anyGroup], isBraced)

/-! ### Bounds -/

/-- A trait with its arguments; the answer says whether it has a mark of constants. -/
def traitBound (g : Grammar) (constants : Bool) : Reader (List Token × Bool) := do
  let lifetimes ← forLifetimes? g
  let mark ←
    if ← atGroup .bracket then pure (brackets (← group .bracket (keyword "const")))
    else keyword? "const"
  require (mark.isEmpty || constants)
  let question ← takeSymbol? "?"
  require (lifetimes.isEmpty || question.isEmpty)
  let p ← path g false
  let lacksArguments := p.last.arguments.all (·.isEmpty)
  let written ←
    if lacksArguments && ((← atGroup .parenthesis) || (← atParentheses)) then do
      let _ ← takeSymbol? "::"
      pure (p.start ++ [.word p.last.name] ++ (← callArguments g))
    else pure p.written
  return (lifetimes ++ mark ++ question ++ written, !mark.isEmpty)

/-- A bound. It may be a list of what a type depends on if `captures` is set, and a trait with a
mark of constants if `constants` is; the latter is kept as it is written. -/
def bound (g : Grammar) (captures constants : Bool) : Reader BoundRead := do
  if ← atLifetime then return ⟨← lifetime, .lifetime⟩
  else if ← atWord "use" then
    require captures
    return ⟨← capture, .capture⟩
  else
    let written ← eitherWay do
      if ← atGroup .parenthesis then
        let (inner, isMarked) ← group .parenthesis (traitBound g constants)
        return (parentheses inner, isMarked)
      else traitBound g constants
    return ⟨written, .trait⟩

/-- Whether a bound may come next. -/
def atBound (constants : Bool) : Reader Bool := looking fun tokens =>
  match tokens with
  | .word _ :: _ => true
  | .group .parenthesis _ :: _ => true
  | .group .bracket _ :: _ => constants
  | _ => startsWithSymbol "::" tokens || startsWithSymbol "?" tokens || startsWithLifetime tokens

/-- Bounds with `+` between them, at least one of them a trait. Without `plus` there is only one. -/
def bounds (g : Grammar) (plus captures constants : Bool) : Reader (List Token) := do
  let first ← bound g captures constants
  let more ← many (return plus && (← atSymbol "+")) do
    let mark ← takeSymbol "+"
    if ← atBound constants then return (mark, some (← bound g captures constants))
    else return (mark, none)
  require (first.form == .trait || more.any fun (_, b) => b.any (·.form == .trait))
  return first.written ++ more.flatMap fun (mark, b) =>
    mark ++ (b.map (·.written)).getD []

end Reader

end Waybill.Code
