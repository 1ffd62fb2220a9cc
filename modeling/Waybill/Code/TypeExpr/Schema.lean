import Waybill.Code.TypeExpr
import Waybill.Json.Schema

/-!
# Schemas of types

What a value of a declared type looks like. Types with a name of their own have the schemas that are
given for them; scalars, sequences and values that may be missing are known by their names.

## Main definitions

* `Waybill.Code.TypeExpr.schema` — the schema of a type.
-/

namespace Waybill.Code

/-- The integer types. -/
def integerTypes : List IntegerType :=
  [.unsigned 8, .unsigned 16, .unsigned 32, .unsigned 64, .unsigned 128,
    .signed 8, .signed 16, .signed 32, .signed 64, .signed 128,
    { IntegerType.unsigned 64 with name := "usize" },
    { IntegerType.signed 64 with name := "isize" }]

/-- The schema of a type with a name and without arguments, if it is a scalar. -/
def scalarSchema? (name : String) : Option Schema :=
  match integerTypes.find? fun t => t.name == name with
  | some type => some (.integer type)
  | none =>
    match Scalar.ofName? name with
    | some .boolean => some .boolean
    | some .character => some .character
    | some .text => some .text
    | some .ownedText => some .text
    | some .float => some .double
    | _ => none

/-- The schema of a type; `named` has the schemas of the types with a name of their own. -/
def TypeExpr.schema (named : String → Schema) : TypeExpr → Schema
  | .named _ "Option" (some value) => .optional (value.schema named)
  | .named _ "Vec" (some item) => .list (item.schema named)
  | .named _ name _ => (scalarSchema? name).getD (named name)
  | .reference _ target => target.schema named
  | .grouped _ inner => inner.schema named
  | .unit => .unit
  | .other _ => .any

end Waybill.Code
