import Waybill.Datum

/-!
# Schemas

A schema says what a decoded value must look like. Records name their fields in the order in which
they are written; a field that is missing is an error unless it is optional or has a default, and a
strict record refuses fields it does not know.

## Main definitions

* `Waybill.Schema`, `Waybill.Schema.Field`.
* `Waybill.IntegerType` — the integer types and their ranges.
* `Waybill.Schema.expectation` — what an error says was expected.
-/

namespace Waybill

/-- An integer type: its name and its range. -/
structure IntegerType where
  name : String
  least : Int
  greatest : Int
deriving DecidableEq, Repr

namespace IntegerType

/-- The unsigned type of the given number of bits. -/
def unsigned (bits : Nat) : IntegerType := ⟨s!"u{bits}", 0, Nat.pow 2 bits - 1⟩

/-- The signed type of the given number of bits. -/
def signed (bits : Nat) : IntegerType :=
  ⟨s!"i{bits}", -Nat.pow 2 (bits - 1), Nat.pow 2 (bits - 1) - 1⟩

/-- Whether an integer is in the range of the type. -/
def holds (type : IntegerType) (i : Int) : Bool := type.least ≤ i && i ≤ type.greatest

end IntegerType

/-- What a decoded value must look like. -/
inductive Schema where
  /-- Any value. -/
  | any
  | boolean
  | integer (type : IntegerType)
  | double
  | character
  | text
  | unit
  | list (item : Schema)
  | tuple (items : List Schema)
  | map (value : Schema)
  | optional (value : Schema)
  /-- A record with its fields: their names, the values they have when they are missing, and their
  schemas. -/
  | record (name : String) (strict : Bool) (fields : List (String × Option Datum × Schema))

namespace Schema

/-- What an error says was expected. -/
def expectation : Schema → String
  | any => "any valid JSON value"
  | boolean => "a boolean"
  | integer type => type.name
  | double => "f64"
  | character => "a character"
  | text => "a string"
  | unit => "unit"
  | list _ => "a sequence"
  | tuple items => s!"a tuple of size {items.length}"
  | map _ => "a map"
  | optional value => expectation value
  | record name _ _ => "struct " ++ name

/-- The value that stands in for a missing field of a record. -/
def missing? (default : Option Datum) : Schema → Option Datum
  | optional _ => some (default.getD .absent)
  | _ => default

end Schema

end Waybill
