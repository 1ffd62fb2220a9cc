import Waybill.Code.Attribute
import Waybill.Code.Grammar

/-!
# Reading attributes

Attributes stand in front of what they describe, or inside of it at its start. Arguments in brackets
may be any tokens; a value behind `=` is an expression.

## Main definitions

* `Waybill.Code.Reader.attributes`, `Waybill.Code.Reader.innerAttributes` — attributes as they are.
* `Waybill.Code.Reader.attributeTokens` — attributes as tokens.
-/

namespace Waybill.Code.Reader

/-- What stands between the brackets of an attribute. -/
def attributeBody (g : Grammar) (encloses : Bool) : Reader Attribute := do
  let path ← if ← atWord "unsafe" then keyword "unsafe" else modulePath
  match ← rest with
  | .group delimiter inner :: _ =>
    let _ ← anyGroup
    return ⟨encloses, path, .arguments delimiter inner⟩
  | _ =>
    if (← atSymbol "=") && !(← atSymbol "==") && !(← atSymbol "=>") then
      let _ ← takeSymbol "="
      require !(← atSymbol "#")
      return ⟨encloses, path, .value (← expression g true)⟩
    else return ⟨encloses, path, .nothing⟩

/-- Attributes in front of what they describe. -/
def attributes (g : Grammar) : Reader (List Attribute) :=
  many (atSymbol "#") do
    let _ ← takeSymbol "#"
    group .bracket (attributeBody g false)

/-- Attributes inside of what they describe. -/
def innerAttributes (g : Grammar) : Reader (List Attribute) :=
  let next := looking fun tokens =>
    startsWithSymbol "#" tokens && startsWithSymbol "!" (tokens.drop 1)
  many next do
    modify (·.drop 2)
    group .bracket (attributeBody g true)

/-- Attributes in front of what they describe, as tokens. -/
def attributeTokens (g : Grammar) : Reader (List Token) :=
  return (← attributes g).flatMap Attribute.tokens

/-- Attributes inside of what they describe, as tokens. -/
def innerAttributeTokens (g : Grammar) : Reader (List Token) :=
  return (← innerAttributes g).flatMap Attribute.tokens

end Waybill.Code.Reader
