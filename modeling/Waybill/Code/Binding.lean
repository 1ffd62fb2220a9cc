import Waybill.Code.TypeExpr.Path

/-!
# What values are bound to

A value is bound to a name, taken apart into the values of a structure, a tuple or a slice, or
compared with constants and ranges. Alternatives stand between bars.

## Main definitions

* `Waybill.Code.Reader.binding` — what a value is bound to, without alternatives.
* `Waybill.Code.Reader.bindings` — alternatives.
-/

namespace Waybill.Code

/-- A binding that is no name. -/
def BindingRead.of (written : List Token) : BindingRead := ⟨written, none, false⟩

namespace Reader

/-- Whether a bar comes next that stands between alternatives. -/
def atBar : Reader Bool :=
  return (← atSymbol "|") && !(← atSymbol "||") && !(← atSymbol "|=")

/-- Alternatives with bars between them and perhaps in front of them. -/
def bindings (g : Grammar) : Reader BindingRead := do
  let bar ← takeSymbol? "|"
  let first ← g.binding
  let more ← many atBar do return (← takeSymbol "|") ++ (← g.binding).written
  if bar.isEmpty && more.isEmpty then return first
  else return .of (bar ++ first.written ++ more.flatten)

/-- Alternatives with commas, up to the end; each says whether it is a range without a start or an
end. -/
def bindingsToEnd (g : Grammar) : Reader (List Token × Bool) := do
  let all ← listUntil atEnd "," (bindings g)
  return (all.flatMap fun (b, comma) => b.written ++ comma, all.any (·.1.isOpen))

/-! ### Ranges -/

/-- The mark of a range, and whether the range includes its end. Three dots are an old way to write
that. -/
def rangeMark (old : Bool) : Reader (List Token × Bool) := do
  if ← atSymbol "..=" then return (← takeSymbol "..=", true)
  else if ← atSymbol "..." then
    require old
    let _ ← takeSymbol "..."
    return (symbol "..=", true)
  else return (← takeSymbol "..", false)

/-- The end of a range, if there is one. -/
def rangeBound? (g : Grammar) : Reader (Option (List Token)) := do
  let ends ← looking fun tokens =>
    tokens.isEmpty || startsWithSymbol "|" tokens || startsWithSymbol "=" tokens ||
      (startsWithSymbol ":" tokens && !startsWithSymbol "::" tokens) ||
      startsWithSymbol "," tokens || startsWithSymbol ";" tokens || startsWithWord ["if"] tokens
  let isPath ← looking fun tokens =>
    startsWithName tokens || startsWithSymbol "::" tokens || startsWithSymbol "<" tokens ||
      startsWithWord ["self", "Self", "super", "crate"] tokens
  if ends then return none
  else if ← atConstant then return some (← constant)
  else if isPath then return some (← qualifiedPath g true).1
  else
    let start ← keyword "const"
    let inner ← group .brace (do return (← innerAttributeTokens g) ++ (← g.statements))
    return some (start ++ braces inner)

/-- A range behind its start. -/
def rangeBehind (g : Grammar) (start : List Token) : Reader BindingRead := do
  let (mark, isClosed) ← rangeMark true
  let stop ← rangeBound? g
  require (stop.isSome || !isClosed)
  return ⟨start ++ mark ++ stop.getD [], none, stop.isNone⟩

/-- A constant, or a range that starts with one. -/
def constantBinding (g : Grammar) : Reader BindingRead := do
  match ← rangeBound? g with
  | some start => if ← atSymbol ".." then rangeBehind g start else return .of start
  | none => refuse

/-! ### Structures -/

/-- A field by its name or its number, and whether it is a number. -/
def member : Reader (List Token × Bool) := do
  if ← atIdentifier then return ([.word (← identifier)], false)
  else
    match ← anyToken with
    | .literal l =>
      match l.value with
      | .integer n "" =>
        require (n < Nat.pow 2 32)
        return ([.literal ⟨toString n, .integer n ""⟩], true)
      | _ => refuse
    | _ => refuse

/-- A field of a structure and what it is bound to, or a name for both. -/
def fieldBinding (g : Grammar) : Reader (List Token) := do
  let marks := (← keyword? "box") ++ (← keyword? "ref") ++ (← keyword? "mut")
  if marks.isEmpty then
    let (name, isNumber) ← member
    if isNumber || (← atSymbol ":") then
      return name ++ (← takeSymbol ":") ++ (← bindings g).written
    else return name
  else return marks ++ [.word (← identifier)]

/-- The fields of a structure. Two dots stand for all others and come last. -/
def fieldBindings (g : Grammar) : Reader (List Token) := do
  let (written, _) ← extend (fun (written, isOpen) => do
    if !isOpen || (← atEnd) then return none
    let attributes ← attributeTokens g
    if ← atSymbol ".." then return some (written ++ attributes ++ (← takeSymbol ".."), false)
    let field ← fieldBinding g
    let comma ← if ← atEnd then pure [] else takeSymbol ","
    return some (written ++ attributes ++ field ++ comma, true)) ([], true)
  return written

/-! ### Bindings -/

/-- A path, and what stands behind it. -/
def pathBinding (g : Grammar) : Reader BindingRead := do
  let (written, path) ← qualifiedPath g true
  if ← atInvocation path then return .of (written ++ (← invocation).1)
  else if ← atGroup .brace then
    return .of (written ++ braces (← group .brace (fieldBindings g)))
  else if ← atGroup .parenthesis then
    let (inner, _) ← group .parenthesis (bindingsToEnd g)
    return .of (written ++ parentheses inner)
  else if ← atSymbol ".." then rangeBehind g written
  else return .of written

/-- A name, perhaps with marks in front of it and another binding of the same value behind it. -/
def nameBinding (g : Grammar) : Reader BindingRead := do
  let borrowed ← keyword? "ref"
  let mutable ← keyword? "mut"
  let name ← if ← atWord "self" then anyWord else identifier
  let written := borrowed ++ mutable ++ [.word name]
  if ← atSymbol "@" then
    return .of (written ++ (← takeSymbol "@") ++ (← g.binding).written)
  else return ⟨written, if borrowed.isEmpty then some name else none, false⟩

/-- Whether a path with something behind it comes next, and not a name. -/
def startsWithPath (tokens : List Token) : Bool :=
  let next := tokens.drop 1
  (startsWithName tokens && (["::", "!", ".."].any (startsWithSymbol · next) ||
    startsWithGroup .brace next || startsWithGroup .parenthesis next)) ||
  (startsWithWord ["self"] tokens && startsWithSymbol "::" next) || startsWithSymbol "::" tokens ||
  startsWithSymbol "<" tokens || startsWithWord ["Self", "super", "crate"] tokens

/-- What a value is bound to. -/
def binding (g : Grammar) : Reader BindingRead := do
  if ← looking startsWithPath then pathBinding g
  else if ← atWord "_" then return .of (← keyword "_")
  else if ← atWord "box" then
    return .of (← verbatim do
      let _ ← keyword "box"
      let _ ← g.binding)
  else if (← atSymbol "-") || (← atConstant) || (← atWord "const") then constantBinding g
  else if (← atAnyOf ["ref", "mut", "self"]) || (← atIdentifier) then nameBinding g
  else if ← atSymbol "&" then
    return .of ((← takeSymbol "&") ++ (← keyword? "mut") ++ (← g.binding).written)
  else if ← atGroup .parenthesis then
    let (inner, _) ← group .parenthesis (bindingsToEnd g)
    return .of (parentheses inner)
  else if ← atGroup .bracket then
    let (inner, isOpen) ← group .bracket (bindingsToEnd g)
    require !isOpen
    return .of (brackets inner)
  else if (← atSymbol "..") && !(← atSymbol "...") then
    let (mark, isClosed) ← rangeMark false
    match ← rangeBound? g with
    | some stop => return ⟨mark ++ stop, none, true⟩
    | none =>
      require !isClosed
      return .of mark
  else refuse

end Reader

end Waybill.Code
