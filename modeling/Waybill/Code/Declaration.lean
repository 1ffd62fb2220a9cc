import Waybill.Code.Attribute
import Waybill.Code.TypeExpr

/-!
# Declarations

A method is declared by its attributes, its qualifiers, its name, its inputs and the type that it
returns; a trait by its attributes, its name, its bounds and its items. Declarations hold whatever
may be written, including what no operation may have; what an operation must be is said elsewhere.

## Main definitions

* `Waybill.Code.MethodDeclaration`, `Waybill.Code.Input`, `Waybill.Code.Receiver`.
* `Waybill.Code.TraitDeclaration`, `Waybill.Code.TraitItem`.
-/

namespace Waybill.Code

/-- The receiver of a method: whether it is borrowed, may be changed, and has a type of its own. -/
structure Receiver where
  isBorrowed : Bool
  isMutable : Bool
  isTyped : Bool
deriving DecidableEq, Repr

/-- The receiver `&self`. -/
def Receiver.shared : Receiver := ⟨true, false, false⟩

/-- An input of a method behind its receiver. It has no name if it is taken apart where it is
declared. -/
structure Parameter where
  attributes : List Attribute
  name : Option String
  type : TypeExpr
deriving Repr

/-- An input of a method. -/
inductive Input where
  | receiver (r : Receiver)
  | parameter (p : Parameter)
deriving Repr

/-- A method as it is declared. -/
structure MethodDeclaration where
  attributes : List Attribute
  isConst : Bool
  isAsync : Bool
  isUnsafe : Bool
  hasConvention : Bool
  name : String
  isGeneric : Bool
  inputs : List Input
  isVariadic : Bool
  returns : Option TypeExpr
  hasBody : Bool
deriving Repr

/-- What a trait declares. -/
inductive TraitItem where
  | method (declaration : MethodDeclaration)
  | other
deriving Repr

/-- A trait as it is declared. -/
structure TraitDeclaration where
  attributes : List Attribute
  visibility : List Token
  isUnsafe : Bool
  isAuto : Bool
  name : String
  isGeneric : Bool
  bounds : List (List Token)
  items : List TraitItem
deriving Repr

end Waybill.Code
