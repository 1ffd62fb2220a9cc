import Waybill.Code.Binding
import Waybill.Code.Declaration
import Waybill.Code.Generics

/-!
# Signatures of functions

A function is declared by its qualifiers, its name, its inputs and the type that it returns. An
input whose name is bound in a plain way keeps its name.

## Main definitions

* `Waybill.Code.Reader.visibility` — what may use a declaration.
* `Waybill.Code.Reader.signature` — a signature, as tokens and as a declaration.
* `Waybill.Code.Reader.atFunction` — whether a signature comes next.
-/

namespace Waybill.Code.Reader

/-- Places that a visibility can name. -/
def isPlace (word : String) : Bool := ["crate", "self", "super"].contains word

/-- What may use a declaration. -/
def visibility : Reader (List Token) := do
  if ← atWord "pub" then
    let start ← keyword "pub"
    match ← rest with
    | .group .parenthesis [.word place] :: _ =>
      if isPlace place then return start ++ [← anyToken] else return start
    | .group .parenthesis (.word "in" :: _) :: _ =>
      let inner ← group .parenthesis (do return (← keyword "in") ++ (← modulePath))
      return start ++ parentheses inner
    | _ => return start
  else return []

/-! ### Inputs -/

/-- The receiver of a method. -/
def receiver (g : Grammar) : Reader (List Token × Receiver) := do
  let borrowed ← takeSymbol? "&"
  let lifetime ← if borrowed.isEmpty then pure [] else lifetime?
  let mutable ← keyword? "mut"
  let start := borrowed ++ lifetime ++ mutable ++ (← keyword "self")
  if borrowed.isEmpty && (← atSymbol ":") then
    let colon ← takeSymbol ":"
    return (start ++ colon ++ (← typeTokens g), ⟨false, !mutable.isEmpty, true⟩)
  else return (start, ⟨!borrowed.isEmpty, !mutable.isEmpty, false⟩)

/-- An input, which may be a receiver if it is the first; three dots are none, and no other input
follows them. -/
def input (g : Grammar) (isFirst : Bool) : Reader (List Token × Option Input) := do
  let attributes ← attributes g
  let start := attributes.flatMap Attribute.tokens
  if ← atSymbol "..." then return (start ++ (← takeSymbol "..."), none)
  match receiver g (← rest) with
  | some ((written, r), after) =>
    require isFirst
    set after
    return (start ++ written, some (.receiver r))
  | none =>
    if ← looking fun tokens => startsWithName tokens && startsWithSymbol "<" (tokens.drop 1) then
      let type ← g.type true
      return (start ++ [.word "_"] ++ symbol ":" ++ type.written,
        some (.parameter ⟨attributes, none, type.type⟩))
    let bound ← g.binding
    let start := start ++ bound.written ++ (← takeSymbol ":")
    if ← atSymbol "..." then return (start ++ (← takeSymbol "..."), none)
    let type ← g.type true
    return (start ++ type.written, some (.parameter ⟨attributes, bound.name, type.type⟩))

/-- Inputs with commas, as tokens and one by one, and whether more of them may follow at a call. -/
def inputs (g : Grammar) : Reader (List Token × List Input × Bool) := do
  let (written, all, isVariadic) ← extend (fun (written, all, isVariadic) => do
    if isVariadic || (← atEnd) then return none
    let (first, kind) ← input g written.isEmpty
    let comma ← if ← atEnd then pure [] else takeSymbol ","
    return some (written ++ first ++ comma, kind.toList ++ all, kind.isNone)) ([], [], false)
  return (written, all.reverse, isVariadic)

/-! ### Signatures -/

/-- What stands in front of the name of a function. -/
structure Qualifiers where
  isConst : List Token
  isAsync : List Token
  isUnsafe : List Token
  isSafe : List Token
  convention : List Token

/-- The qualifiers of a function. One that is elsewhere may be said to be safe. -/
def qualifiers (elsewhere : Bool) : Reader Qualifiers := do
  let isConst ← keyword? "const"
  let isAsync ← keyword? "async"
  let isUnsafe ← keyword? "unsafe"
  let isSafe ← if elsewhere && isUnsafe.isEmpty then keyword? "safe" else pure []
  return ⟨isConst, isAsync, isUnsafe, isSafe, ← convention?⟩

/-- Whether a function comes next. -/
def atFunction (elsewhere : Bool) : Reader Bool := looking fun tokens =>
  ((do
    let _ ← qualifiers elsewhere
    keyword "fn" : Reader (List Token)) tokens).isSome

/-- A signature, as tokens and as a declaration without attributes and without a body. -/
def signature (g : Grammar) (elsewhere : Bool) : Reader (List Token × MethodDeclaration) := do
  let q ← qualifiers elsewhere
  let start := q.isConst ++ q.isAsync ++ q.isUnsafe ++ q.isSafe ++ q.convention ++
    (← keyword "fn")
  let name ← identifier
  let parameters ← generics g
  let (inner, inputs, isVariadic) ← group .parenthesis (inputs g)
  let arrow ← takeSymbol? "->"
  let returns ← if arrow.isEmpty then pure none else some <$> g.type true
  let conditions ← conditions? g
  let written := start ++ [.word name] ++ parameters ++ parentheses inner ++ arrow ++
    (returns.map (·.written)).getD [] ++ conditions.getD []
  return (written, {
    attributes := []
    isConst := !q.isConst.isEmpty
    isAsync := !q.isAsync.isEmpty
    isUnsafe := !q.isUnsafe.isEmpty
    hasConvention := !q.convention.isEmpty
    name
    isGeneric := !parameters.isEmpty || conditions.isSome
    inputs
    isVariadic
    returns := returns.map (·.type)
    hasBody := false })

end Waybill.Code.Reader
