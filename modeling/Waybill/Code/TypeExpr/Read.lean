import Waybill.Code.TypeExpr.Path

/-!
# Reading types

A type is a path with arguments, a reference or pointer, a group in parentheses, an array or slice,
a function, or a list of bounds. Bounds behind a type make a list of bounds of it, if the type is
itself a bound.

## Main definitions

* `Waybill.Code.Reader.type` — a type.
-/

namespace Waybill.Code.Reader

/-! ### Functions -/

/-- The receiver of a function type that may be changed, as it is written. -/
def mutableReceiver (g : Grammar) : Reader (List Token) := verbatim do
  let _ ← keyword "mut"
  let _ ← keyword "self"
  if (← atSymbol ":") && !(← atSymbol "::") then
    let _ ← takeSymbol ":"
    let _ ← typeTokens g

/-- A name and a colon, if they come next: a name of something to come, not of a path. -/
def label? (also : List String) : Reader (List Token) := do
  let isLabel ← looking fun tokens =>
    (startsWithName tokens || startsWithWord also tokens) && startsWithSymbol ":" (tokens.drop 1) &&
      !startsWithSymbol "::" (tokens.drop 1)
  if isLabel then return [.word (← anyWord)] ++ (← takeSymbol ":") else return []

/-- Whether `...` comes next, perhaps behind a name and a colon. -/
def atVariadic : Reader Bool := looking fun tokens =>
  startsWithSymbol "..." tokens || ((startsWithName tokens || startsWithWord ["_"] tokens) &&
    startsWithSymbol ":" (tokens.drop 1) && startsWithSymbol "..." (tokens.drop 2))

/-- An input of a function type, which may be a receiver if it is the first, and whether it is three
dots, which no other input follows. -/
def functionInput (g : Grammar) (isFirst : Bool) : Reader (List Token × Bool) := do
  let attributes ← attributeTokens g
  let receives ← looking fun tokens =>
    startsWithWord ["mut"] tokens && startsWithWord ["self"] (tokens.drop 1)
  if ← atVariadic then
    return (attributes ++ (← label? ["_"]) ++ (← takeSymbol "..."), true)
  else if isFirst && receives then return (attributes ++ (← mutableReceiver g), false)
  else
    let name ← label? (if isFirst then ["_", "self"] else ["_"])
    return (attributes ++ name ++ (← typeTokens g), false)

/-- The inputs of a function type. -/
def functionInputs (g : Grammar) : Reader (List Token) := do
  let (written, _) ← extend (fun (written, isOpen) => do
    if !isOpen || (← atEnd) then return none
    let (input, isLast) ← functionInput g written.isEmpty
    let comma ← if isLast || (← atEnd) then takeSymbol? "," else takeSymbol ","
    return some (written ++ input ++ comma, !isLast)) ([], true)
  return written

/-- A function type. -/
def functionType (g : Grammar) : Reader (List Token) := do
  let start := (← keyword? "unsafe") ++ (← convention?) ++ (← keyword "fn")
  let inner ← group .parenthesis (functionInputs g)
  return start ++ parentheses inner ++ (← output? g false)

/-! ### Types -/

/-- Further bounds behind the first one, each of which has to be there. -/
def boundsBehind (g : Grammar) : Reader (List Token) := do
  let more ← many (atSymbol "+") do return (← takeSymbol "+") ++ (← bound g false false).written
  return more.flatten

/-- A type that is a list of bounds, which are the first one and others behind it. -/
def boundsType (first more : List Token) : TypeRead :=
  ⟨.other (first ++ more), if more.isEmpty then .bare else .other⟩

/-- What stands in parentheses, and whether it can be the first of several bounds: nothing, a type,
several with commas, or bounds. -/
def parenthesized (g : Grammar) : Reader (TypeExpr × Bool) := do
  if ← atEnd then return (.unit, false)
  if ← atLifetime then return (.other (parentheses (← bounds g true false false)), false)
  let first ← g.type true
  if ← atSymbol "," then
    let comma ← takeSymbol ","
    return (.other (parentheses (first.written ++ comma ++ (← typesToEnd g))), false)
  return (.grouped (parentheses first.written) first.type, first.form != .other)

/-- A type that starts with parentheses. -/
def parenthesizedType (g : Grammar) (plus : Bool) : Reader TypeRead := do
  let relaxed ← looking fun tokens =>
    match tokens with
    | .group _ inner :: _ => startsWithSymbol "?" inner
    | _ => false
  if relaxed then
    let first ← group .parenthesis (return (← traitBound g false).1)
    return boundsType (parentheses first) (← boundsBehind g)
  let (type, isBound) ← group .parenthesis (parenthesized g)
  if plus && isBound && (← atSymbol "+") then
    return boundsType type.tokens (← boundsBehind g)
  else return ⟨type, .other⟩

/-- A type that starts with a path, which lifetimes stand in front of. -/
def pathType (g : Grammar) (plus : Bool) (lifetimes : List Token) : Reader TypeRead := do
  let (written, path) ← qualifiedPath g false
  match path with
  | none => return ⟨.other (lifetimes ++ written), .other⟩
  | some p =>
    if ← atInvocation path then
      return ⟨.other (written ++ (← invocation).1), .other⟩
    else if !lifetimes.isEmpty || (plus && (← atSymbol "+")) then
      let more ← many (return plus && (← atSymbol "+")) do
        let mark ← takeSymbol "+"
        if ← atBound false then return mark ++ (← bound g false false).written else return mark
      return boundsType (lifetimes ++ written) more.flatten
    else
      return ⟨.named written p.last.name p.argument, if p.isSingle then .single else .path⟩

/-- An array or a slice. -/
def arrayType (g : Grammar) : Reader TypeRead := do
  let inner ← group .bracket do
    let item ← typeTokens g
    if ← atSymbol ";" then return item ++ (← takeSymbol ";") ++ (← expression g true)
    else return item
  return ⟨.other (brackets inner), .other⟩

/-- A list of bounds behind `dyn`. With a star it is kept as it is written. -/
def traitObject (g : Grammar) (plus : Bool) : Reader (List Token) := eitherWay do
  let start ← keyword "dyn"
  let star ← takeSymbol? "*"
  return (start ++ star ++ (← bounds g plus false false), !star.isEmpty)

/-- A type, to which further bounds may be added or not. -/
def type (g : Grammar) (plus : Bool) : Reader TypeRead := do
  let lifetimes ← forLifetimes? g
  let other (written : List Token) : TypeRead := ⟨.other written, .other⟩
  let isPath := (← atIdentifier) || (← atAnyOf ["super", "self", "Self", "crate"])
  if ← atAnyOf ["fn", "unsafe", "extern"] then return other (lifetimes ++ (← functionType g))
  else if isPath then pathType g plus lifetimes
  else
    require lifetimes.isEmpty
    if (← atSymbol "::") || (← atSymbol "<") then pathType g plus []
    else if ← atGroup .parenthesis then parenthesizedType g plus
    else if ← atGroup .bracket then arrayType g
    else if ← atSymbol "&" then
      let start := (← takeSymbol "&") ++ (← lifetime?) ++ (← keyword? "mut")
      let target ← g.type false
      return ⟨.reference (start ++ target.written) target.type, .other⟩
    else if ← atSymbol "*" then
      let start := (← takeSymbol "*") ++
        (← if ← atWord "const" then keyword "const" else keyword "mut")
      return other (start ++ (← g.type false).written)
    else if (← atSymbol "!") && !(← atSymbol "!=") then return other (← takeSymbol "!")
    else if ← atWord "_" then return other (← keyword "_")
    else if ← atWord "dyn" then return other (← traitObject g plus)
    else if ← atWord "impl" then
      return other ((← keyword "impl") ++ (← bounds g plus true true))
    else if ← atLifetime then return other (← bounds g true false false)
    else refuse

end Waybill.Code.Reader
