import Waybill.Code.Expression.Operator
import Waybill.Code.Generics
import Waybill.Code.Lexer.Numeral

/-!
# Reading expressions

An expression is made of operands with operators between them. An operand is a literal, a path, a
group, a block or a construct with blocks, with signs in front of it, and with calls, fields and
indices behind it.

## Main definitions

* `Waybill.Code.Reader.operand` — an operand.
* `Waybill.Code.Reader.wholeExpression` — an expression.
* `Waybill.Code.Reader.leadingExpression` — an expression at the start of a statement.
-/

namespace Waybill.Code.Reader

/-- A block, as an expression. -/
def blockForm (written : List Token) : ExpressionRead := ⟨written, .block⟩

/-- A block with attributes inside of it. -/
def attributedBlock (g : Grammar) : Reader (List Token) := do
  let inner ← group .brace (do return (← innerAttributeTokens g) ++ (← g.statements))
  return braces inner

/-- Expressions with commas, up to the end. -/
def expressionsToEnd (g : Grammar) : Reader (List Token) :=
  return joined (← listUntil atEnd "," (expression g true))

/-- Whether an expression can start here. -/
def atExpression : Reader Bool := looking fun tokens =>
  let mark (s : String) (longer : List String) := startsWithSymbol s tokens &&
    !longer.any (startsWithSymbol · tokens)
  match tokens with
  | .word w :: _ => w != "as"
  | .group _ _ :: _ | .literal _ :: _ => true
  | _ => mark "!" ["!="] || mark "-" ["-=", "->"] || mark "*" ["*="] || mark "|" ["|="] ||
      mark "&" ["&="] || mark ".." [] || mark "<" ["<=", "<<="] || mark "::" [] ||
      startsWithLifetime tokens || mark "#" []

/-- An expression behind a word such as `return`, if one follows. -/
def result? (g : Grammar) : Reader (List Token) := do
  if ← atExpression then expression g true else return []

/-! ### Blocks and constructs with blocks -/

/-- A choice between blocks, `else` by `else`. -/
def choice (g : Grammar) : Reader (List Token) := do
  let attributes ← attributeTokens g
  let part : Reader (List Token) := do
    return (← keyword "if") ++ (← expression g false) ++ (← block g)
  let (written, _) ← extend (fun (written, isOpen) => do
    if !isOpen || !(← atWord "else") then return none
    let start ← keyword "else"
    if ← atWord "if" then return some (written ++ start ++ (← part), true)
    else return some (written ++ start ++ (← block g), false)) (attributes ++ (← part), true)
  return written

/-- Whether a list of lifetimes for a closure comes next, and not a loop. -/
def startsWithBinder (tokens : List Token) : Bool :=
  startsWithWord ["for"] tokens && startsWithParameters (tokens.drop 1)

/-- What a block is repeated for, with the block. -/
def loop (g : Grammar) : Reader (List Token) := do
  let attributes ← attributeTokens g
  let start ←
    if ← atWord "while" then do
      let word ← keyword "while"
      pure (word ++ (← expression g false))
    else if ← atWord "for" then do
      let word ← keyword "for"
      let bound ← bindings g
      pure (word ++ bound.written ++ (← keyword "in") ++ (← expression g false))
    else keyword "loop"
  return attributes ++ start ++ (← attributedBlock g)

/-- Whether a repeated block comes next. -/
def atLoop : Reader Bool := atAnyOf ["while", "for", "loop"]

/-- A repeated block or a plain one behind its name. -/
def labeled (g : Grammar) : Reader ExpressionRead := do
  let label := (← lifetime) ++ (← takeSymbol ":")
  if ← atLoop then return blockForm (label ++ (← loop g))
  else return blockForm (label ++ (← attributedBlock g))

/-- One of the ways to go on in a choice by value: what the value is bound to, and an expression. -/
def arm (g : Grammar) : Reader (List Token) := do
  let attributes ← attributeTokens g
  let bound ← bindings g
  let guard ← if ← atWord "if" then do
      let word ← keyword "if"
      pure (word ++ (← expression g true))
    else pure []
  let arrow ← takeSymbol "=>"
  let value ← g.leading
  let comma ← if value.form == .block || (← atEnd) then takeSymbol? "," else takeSymbol ","
  return attributes ++ bound.written ++ guard ++ arrow ++ value.written ++ comma

/-- A choice by value. -/
def selection (g : Grammar) : Reader (List Token) := do
  let start := (← keyword "match") ++ (← expression g false)
  let inner ← group .brace do
    let attributes ← innerAttributeTokens g
    return attributes ++ (← many (return !(← atEnd)) (arm g)).flatten
  return start ++ braces inner

/-- Whether one of some words with a block behind it comes next. -/
def atBlockOf (words : List String) : Reader Bool := looking fun tokens =>
  startsWithWord words tokens && startsWithGroup .brace (tokens.drop 1)

/-- A block, or a construct that ends in one and needs nothing behind it, if one comes next. -/
def blockExpression? (g : Grammar) : Reader (Option ExpressionRead) := do
  let form (written : List Token) : Option ExpressionRead := some ⟨written, .block⟩
  if ← atWord "if" then return form (← choice g)
  else if (← atLoop) && !(← looking startsWithBinder) then return form (← loop g)
  else if ← atWord "match" then return form (← selection g)
  else if ← atBlockOf ["try"] then return form ((← keyword "try") ++ (← block g))
  else if ← atBlockOf ["unsafe", "const"] then
    return form ([.word (← anyWord)] ++ (← attributedBlock g))
  else if ← atGroup .brace then return form (← attributedBlock g)
  else if ← atLifetime then return some (← labeled g)
  else return none

/-! ### Operands -/

/-- A parameter of a closure. -/
def closureParameter (g : Grammar) : Reader (List Token) := do
  let attributes ← attributeTokens g
  let bound ← g.binding
  if ← atSymbol ":" then
    return attributes ++ bound.written ++ (← takeSymbol ":") ++ (← typeTokens g)
  else return attributes ++ bound.written

/-- A closure. -/
def closure (g : Grammar) (structures : Bool) : Reader (List Token) := do
  let start := (← forLifetimes? g) ++ (← keyword? "const") ++ (← keyword? "static") ++
    (← keyword? "async") ++ (← keyword? "move") ++ (← takeSymbol "|")
  let parameters ← listUntil (atSymbol "|") "," (closureParameter g)
  let start := start ++ joined parameters ++ (← takeSymbol "|")
  if ← atSymbol "->" then
    let arrow ← takeSymbol "->"
    return start ++ arrow ++ (← typeTokens g) ++ (← block g)
  else return start ++ (← expression g structures)

/-- Whether a closure comes next. -/
def startsWithClosure (tokens : List Token) : Bool :=
  let next := tokens.drop 1
  startsWithSymbol "|" tokens || startsWithWord ["move", "static"] tokens ||
    startsWithBinder tokens ||
    (startsWithWord ["const"] tokens && !startsWithGroup .brace next) ||
    (startsWithWord ["async"] tokens && (startsWithSymbol "|" next || startsWithWord ["move"] next))

/-- Whether a block comes next that runs on its own. -/
def startsWithTask (tokens : List Token) : Bool :=
  let next := tokens.drop 1
  startsWithWord ["async"] tokens && (startsWithGroup .brace next ||
    (startsWithWord ["move"] next && startsWithGroup .brace (next.drop 1)))

/-- A field of a structure with its value, or a name for both. -/
def fieldValue (g : Grammar) : Reader (List Token) := do
  let (name, isNumber) ← member
  if isNumber || (← atSymbol ":") then
    return name ++ (← takeSymbol ":") ++ (← expression g true)
  else return name

/-- The fields of a structure. Two dots, and perhaps an expression, stand for all others and come
last. -/
def fieldValues (g : Grammar) : Reader (List Token) := do
  let (written, _) ← extend (fun (written, isOpen) => do
    if !isOpen || (← atEnd) then return none
    if ← atSymbol ".." then
      let dots ← takeSymbol ".."
      let others ← if ← atEnd then pure [] else expression g true
      return some (written ++ dots ++ others, false)
    let attributes ← attributeTokens g
    let field ← fieldValue g
    let comma ← if ← atEnd then pure [] else takeSymbol ","
    return some (written ++ attributes ++ field ++ comma, true)) ([], true)
  return written

/-- A path, an invocation of a macro, or a structure with its fields. -/
def pathExpression (g : Grammar) (structures : Bool) : Reader ExpressionRead := do
  let (written, path) ← qualifiedPath g true
  if ← atInvocation path then
    let (inner, isBraced) ← invocation
    return ⟨written ++ inner, .invocation isBraced⟩
  else if structures && (← atGroup .brace) then
    return .of (written ++ braces (← group .brace (fieldValues g)))
  else return .of written

/-- An array by its elements, or by one of them and the number of its copies. -/
def arrayExpression (g : Grammar) : Reader (List Token) := do
  if ← atEnd then return []
  let first ← expression g true
  if ← atSymbol ";" then return first ++ (← takeSymbol ";") ++ (← expression g true)
  else if ← atEnd then return first
  else return first ++ (← takeSymbol ",") ++ (← expressionsToEnd g)

/-- A jump out of a block, perhaps with its name and a value. -/
def exit (g : Grammar) (structures : Bool) : Reader (List Token) := do
  let start ← keyword "break"
  let label ← lifetime?
  require (label.isEmpty || !(← atSymbol ":"))
  let start := start ++ label
  if !structures && (← atGroup .brace) then return start else return start ++ (← result? g)

/-- A binding that holds or not. -/
def condition? (g : Grammar) (structures : Bool) : Reader (List Token) := do
  let start ← keyword "let"
  let bound ← bindings g
  let equals ← takeSymbol "="
  let value ← g.operations structures .compare (← g.operand structures)
  return start ++ bound.written ++ equals ++ value.written

/-- What the language has for itself, as it is written. -/
def builtin : Reader (List Token) := verbatim do
  let _ ← anyWord
  let _ ← takeSymbol "#"
  let _ ← identifier
  require (← atGroup .parenthesis)
  let _ ← anyGroup

/-- Whether a path comes next. -/
def startsWithValue (tokens : List Token) : Bool :=
  let next := tokens.drop 1
  startsWithName tokens || startsWithSymbol "::" tokens || startsWithSymbol "<" tokens ||
    startsWithWord ["self", "Self", "super", "crate"] tokens ||
    (startsWithWord ["try"] tokens && (startsWithSymbol "!" next || startsWithSymbol "::" next))

/-- An operand without anything in front of it or behind it. -/
def atom (g : Grammar) (structures : Bool) : Reader ExpressionRead := do
  if let some e ← blockExpression? g then return e
  let isBuiltin ← looking fun tokens =>
    startsWithWord ["builtin"] tokens && startsWithSymbol "#" (tokens.drop 1)
  if isBuiltin then
    return .of (← builtin)
  else if ← atConstant then return .of (← constant)
  else if ← looking startsWithTask then
    return .of ((← keyword "async") ++ (← keyword? "move") ++ (← block g))
  else if ← looking startsWithClosure then return .of (← closure g structures)
  else if ← looking startsWithValue then pathExpression g structures
  else if ← atGroup .parenthesis then
    return .of (parentheses (← group .parenthesis (expressionsToEnd g)))
  else if ← atWord "break" then return .of (← exit g structures)
  else if ← atWord "continue" then return .of ((← keyword "continue") ++ (← lifetime?))
  else if ← atWord "return" then return .of ((← keyword "return") ++ (← result? g))
  else if ← atWord "become" then
    return .of (← verbatim do
      let _ ← keyword "become"
      let _ ← expression g true)
  else if ← atGroup .bracket then
    return .of (brackets (← group .bracket (arrayExpression g)))
  else if ← atWord "let" then return .of (← condition? g structures)
  else if ← atWord "yield" then return .of ((← keyword "yield") ++ (← result? g))
  else if ← atSymbol ".." then rangeExpression g structures []
  else if ← atWord "_" then return .of (← keyword "_")
  else refuse

/-- A number in a field with a point, such as `0.1`, as the numbers of two fields. -/
def fieldNumber? (text : String) : Option Nat :=
  match numeralValue text.toList with
  | .integer n "" => if n < Nat.pow 2 32 then some n else none
  | _ => none

/-- A field by its number. -/
def numbered (n : Nat) : List Token := [.literal ⟨toString n, .integer n ""⟩]

/-- The fields of a number with a point, the first of which is behind a dot already, and whether the
number ends with its point. -/
def splitFields (text : String) : Reader (List Token × Bool) := do
  let parts := text.splitOn "."
  let (parts, isOpen) := match parts.reverse with
    | "" :: before => (before.reverse, true)
    | _ => (parts, false)
  match parts.mapM fieldNumber? with
  | some ns => return (separated "." (ns.map numbered), isOpen)
  | none => refuse

/-- A field, a call of a method or a wait, behind its dot. -/
def memberBehind (g : Grammar) (e : List Token) : Reader (List Token) := do
  if ← atWord "await" then return e ++ (← keyword "await")
  let (name, isNumber) ← member
  let arguments ← if !isNumber && (← atSymbol "::") then do
      let separator ← takeSymbol "::"
      pure (separator ++ angleTokens (← arguments g))
    else pure []
  if !arguments.isEmpty || (!isNumber && (← atGroup .parenthesis)) then
    let inner ← group .parenthesis (expressionsToEnd g)
    return e ++ name ++ arguments ++ parentheses inner
  else return e ++ name

/-- What stands behind a dot. -/
def behindDot (g : Grammar) (e : List Token) : Reader (List Token) := do
  match ← rest with
  | .literal ⟨text, .decimal _⟩ :: _ =>
    let _ ← anyToken
    let (fields, isOpen) ← splitFields text
    if isOpen then memberBehind g (e ++ fields ++ symbol ".") else return e ++ fields
  | _ => memberBehind g e

/-- One thing behind an operand: a call, a field, an index or a question mark. -/
def suffix (g : Grammar) (e : ExpressionRead) : Reader (Option ExpressionRead) := do
  let isRange := e.form == .range
  if ← atGroup .parenthesis then
    let inner ← group .parenthesis (expressionsToEnd g)
    return some (.of (e.written ++ parentheses inner))
  else if (← atSymbol ".") && !(← atSymbol "..") && !isRange then
    return some (.of (← behindDot g (e.written ++ (← takeSymbol "."))))
  else if ← atGroup .bracket then
    let inner ← group .bracket (expression g true)
    return some (.of (e.written ++ brackets inner))
  else if (← atSymbol "?") && !isRange then
    return some (.of (e.written ++ (← takeSymbol "?")))
  else return none

/-- An operand with what stands behind it. -/
def suffixed (g : Grammar) (structures : Bool) : Reader ExpressionRead := do
  extend (suffix g) (← atom g structures)

/-- An operand with signs in front of it. -/
def operand (g : Grammar) (structures : Bool) : Reader ExpressionRead := do
  let attributes ← attributeTokens g
  if ← atSymbol "&" then
    let start ← takeSymbol "&"
    let isRaw ← looking fun tokens =>
      startsWithWord ["raw"] tokens && startsWithWord ["mut", "const"] (tokens.drop 1)
    let marks ←
      if isRaw then pure [.word (← anyWord), .word (← anyWord)] else keyword? "mut"
    return .of (attributes ++ start ++ marks ++ (← g.operand structures).written)
  for sign in ["*", "!", "-"] do
    if ← atSymbol sign then
      return .of (attributes ++ (← takeSymbol sign) ++ (← g.operand structures).written)
  let e ← suffixed g structures
  require (attributes.isEmpty || e.form != .range)
  return { e with written := attributes ++ e.written }

/-! ### Expressions -/

/-- An expression. -/
def wholeExpression (g : Grammar) (structures : Bool) : Reader ExpressionRead := do
  operations g structures .jump (← operand g structures)

/-- An expression at the start of a statement. A block ends it, unless a dot or a question mark
follows. -/
def leadingExpression (g : Grammar) : Reader ExpressionRead := do
  let attributes ← attributeTokens g
  let e ← match ← blockExpression? g with
    | some e => pure e
    | none => operand g true
  let e : ExpressionRead := { e with written := attributes ++ e.written }
  if e.form != .block then operations g true .jump e
  else if ((← atSymbol ".") && !(← atSymbol "..")) || (← atSymbol "?") then
    operations g true .jump (← extend (suffix g) e)
  else return e

end Waybill.Code.Reader
