import Waybill.Code.Grammar.Depth

/-!
# Reading declarations

Methods and traits are read as the language writes them. What no operation may have, such as bodies
and items that are no methods, is read like anything else, and forgotten.

## Main definitions

* `Waybill.Code.MethodDeclaration.read`, `Waybill.Code.TraitDeclaration.read`.
-/

namespace Waybill.Code

open Reader

/-- The method that a sequence of tokens declares. -/
def MethodDeclaration.read (tokens : List Token) : Option MethodDeclaration :=
  let g := Grammar.of tokens
  let reader : Reader MethodDeclaration := do return (← traitFunction g (← Reader.attributes g)).2
  reader.run tokens

/-- The trait that a sequence of tokens declares. -/
def TraitDeclaration.read (tokens : List Token) : Option TraitDeclaration :=
  let g := Grammar.of tokens
  let reader : Reader TraitDeclaration := do
    let outer ← Reader.attributes g
    return (← trait g outer (← Reader.visibility)).2
  reader.run tokens

end Waybill.Code
