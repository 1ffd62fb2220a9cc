import Waybill.Code.TypeExpr.Path

/-!
# Parameters and conditions

Declarations may be generic in lifetimes, types and constants, and may hold under conditions on them
only. Among parameters the lifetimes are written first.

## Main definitions

* `Waybill.Code.Reader.parameter`, `Waybill.Code.Reader.generics` — parameters.
* `Waybill.Code.Reader.conditions?` — conditions.
-/

namespace Waybill.Code.Reader

/-- Whether a sequence of bounds ends here, with one of some marks among others. -/
def atBoundsEnd (marks : List Char) : Reader Bool := looking fun tokens =>
  match tokens with
  | [] => true
  | .group .brace _ :: _ => true
  | .mark c _ :: _ => marks.contains c && !startsWithSymbol "::" tokens
  | _ => false

/-- Lifetimes with `+` between them, up to where a condition holds. -/
def lifetimeList (stop : Reader Bool) : Reader (List Token) :=
  return joined (← listWhile stop "+" lifetime)

/-- Bounds behind a colon. A colon with no bound behind it is left out. -/
def bounded? (bounds : Reader (List Token)) : Reader (List Token) := do
  let colon ← takeSymbol? ":"
  let all ← if colon.isEmpty then pure [] else bounds
  return if all.isEmpty then [] else colon ++ all

/-- Bounds of a parameter or of a type, up to where a condition holds. -/
def boundList (g : Grammar) (stop : Reader Bool) : Reader (List Token) :=
  return joined (← listWhile stop "+" (return (← g.bound false true).written))

/-- A parameter, and whether it is a lifetime. -/
def parameter (g : Grammar) : Reader (List Token × Bool) := do
  let attributes ← attributeTokens g
  let atAssigned : Reader (List Token) := takeSymbol? "="
  if ← atLifetime then
    let name ← lifetime
    return (attributes ++ name ++ (← bounded? (lifetimeList (atBoundsEnd [',', '>']))), true)
  else if ← atWord "const" then
    let start := (← keyword "const") ++ [.word (← identifier)] ++ (← takeSymbol ":")
    let type ← typeTokens g
    let equals ← atAssigned
    let value ← if equals.isEmpty then pure [] else constantArgument g
    return (attributes ++ start ++ type ++ equals ++ value, false)
  else
    let name := [.word (← identifier)]
    let bounds ← bounded? (boundList g (atBoundsEnd [',', '>', '=']))
    let equals ← atAssigned
    let value ← if equals.isEmpty then pure [] else typeTokens g
    return (attributes ++ name ++ bounds ++ equals ++ value, false)

/-- Parameters in angle brackets; there may be none. -/
def generics (g : Grammar) : Reader (List Token) := do
  if ← atSymbol "<" then
    let _ ← takeSymbol "<"
    let all ← listUntil (atSymbol ">") "," do
      let before ← rest
      let attributes ← attributeTokens g
      if ← atWord "_" then
        return (⟨false, attributes ++ (← keyword "_"), none⟩ : ArgumentRead)
      else
        set before
        let (written, isLifetime) ← parameter g
        return ⟨isLifetime, written, none⟩
    let _ ← takeSymbol ">"
    return if all.isEmpty then [] else angleTokens all
  else return []

/-- A condition on a lifetime or on a type. -/
def condition (g : Grammar) : Reader (List Token) := do
  if ← looking fun tokens => startsWithLifetime tokens && startsWithSymbol ":" (skipOne tokens) then
    let start := (← lifetime) ++ (← takeSymbol ":")
    return start ++ (← lifetimeList (atBoundsEnd [',', ';', ':', '=']))
  else
    let lifetimes ← forLifetimes? g
    let type ← typeTokens g
    let colon ← takeSymbol ":"
    return lifetimes ++ type ++ colon ++ (← boundList g (atBoundsEnd [',', ';', ':', '=']))

/-- Whether parameters in angle brackets come next, and not a path behind a type in them. -/
def startsWithParameters (tokens : List Token) : Bool :=
  let next := tokens.drop 1
  let after := skipOne next
  startsWithSymbol "<" tokens && (startsWithSymbol ">" next || startsWithSymbol "#" next ||
    ((startsWithLifetime next || startsWithName next) && (startsWithSymbol ">" after ||
      startsWithSymbol "," after || (startsWithSymbol ":" after && !startsWithSymbol "::" after) ||
      startsWithSymbol "=" after)) ||
    startsWithWord ["const"] next)

/-- Conditions with commas behind a `where`; nothing if there is no such word. -/
def conditions? (g : Grammar) : Reader (Option (List Token)) := do
  if ← atWord "where" then
    let start ← keyword "where"
    require !(← looking startsWithParameters)
    let all ← listWhile (atBoundsEnd [',', ';', ':', '=']) "," (condition g)
    return some (if all.isEmpty then [] else start ++ joined all)
  else return none

/-- Conditions, as tokens. -/
def conditionTokens (g : Grammar) : Reader (List Token) := return (← conditions? g).getD []

end Waybill.Code.Reader
