import Waybill.Number.Decimal

/-!
# Data

A datum is a value as it is given to a request or taken from a response: a scalar, an optional
value, a sequence, a map or a record. Bodies are written from data (`Waybill.Datum.json`,
`Waybill.Datum.form`), and path segments, query items and headers from their displayed form.

## Main definitions

* `Waybill.Datum` — values.
* `Waybill.Datum.display?` — the displayed form of a scalar.
-/

namespace Waybill

/-- A value that is sent or received. -/
inductive Datum where
  /-- No value of an optional type. -/
  | absent
  /-- The one value of the unit type. -/
  | unit
  | boolean (value : Bool)
  | integer (value : Int)
  /-- An integer of a type of 128 bits, which not every format can hold. -/
  | wide (value : Int)
  | double (value : Binary)
  | single (value : Binary)
  | character (value : Char)
  | text (value : String)
  | bytes (value : List UInt8)
  /-- A value of an optional type. -/
  | present (value : Datum)
  | list (items : List Datum)
  | tuple (items : List Datum)
  | map (entries : List (Datum × Datum))
  | record (fields : List (String × Datum))
  /-- A named alternative without content. -/
  | variant (name : String)
  /-- A named alternative with content. -/
  | tagged (name : String) (value : Datum)
deriving Repr

namespace Datum

/-- The displayed form of a boolean. -/
def ofBool (b : Bool) : String := if b then "true" else "false"

/-- The displayed form of a scalar; other values have none. -/
def display? : Datum → Option String
  | boolean b => some (ofBool b)
  | integer i => some (toString i)
  | wide i => some (toString i)
  | double x => some (Decimal.plain .double x)
  | single x => some (Decimal.plain .single x)
  | character c => some c.toString
  | text s => some s
  | _ => none

/-- The displayed form of a value, empty for a value that has none. -/
def display (d : Datum) : String := d.display?.getD ""

end Datum

end Waybill
