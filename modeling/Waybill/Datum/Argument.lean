import Waybill.Datum
import Waybill.Text.Utf8

/-!
# Data as arguments

An argument goes into a request as a whole, or by its parts: a value that may be missing adds one
thing or none, a sequence adds one thing for each element, and an uploaded value is taken as bytes.
A value that is not of such a form counts as present, has no elements, and has no bytes.

## Main definitions

* `Waybill.Datum.present?`, `Waybill.Datum.elements`, `Waybill.Datum.octets`.
-/

namespace Waybill.Datum

/-- The value of an argument that may be missing. -/
def present? : Datum → Option Datum
  | absent => none
  | present d => some d
  | d => some d

/-- The value of an argument that may be missing, given that it is there or not. -/
def ofOption : Option Datum → Datum
  | none => absent
  | some d => present d

/-- The elements of a sequence. -/
def elements : Datum → List Datum
  | list items => items
  | _ => []

/-- The byte that an element of a sequence of bytes is. -/
def octet : Datum → UInt8
  | integer i => UInt8.ofNat i.toNat
  | _ => 0

/-- The bytes of a text or of a sequence of bytes. -/
def octets : Datum → List UInt8
  | text s => Utf8.bytes s
  | bytes bs => bs
  | list items => items.map octet
  | _ => []

@[simp] theorem present?_ofOption (d : Option Datum) : (ofOption d).present? = d := by
  cases d <;> rfl

end Waybill.Datum
