import Waybill.Datum
import Waybill.Datum.EncodeError
import Waybill.Query

/-!
# Data as query pairs

A map or a record is written as one pair for each entry, in order; so is a sequence of tuples of
two. A value that is a sequence gives one pair for each of its items under the same key, an absent
value gives none, and nested structures are refused.

Keys and values are scalars. Numbers with a point are written with one place at least.

## Main definitions

* `Waybill.Form.doubleStyle`, `Waybill.Form.singleStyle` — how forms write numbers with a point.
* `Waybill.Datum.formKey`, `Waybill.Datum.formValues` — the two sides of pairs.
* `Waybill.Datum.formPairs`, `Waybill.Datum.form`.
-/

namespace Waybill

namespace Form

/-- Numbers of 64 bits in forms: as in JSON, but a positive exponent has no sign. -/
def doubleStyle : Decimal.Style := ⟨-5, 16, false⟩

/-- Numbers of 32 bits in forms: as in JSON, but a positive exponent has no sign. -/
def singleStyle : Decimal.Style := ⟨-6, 13, false⟩

end Form

namespace Datum

/-- The text of a scalar in a form; other values have none. -/
def formScalar? : Datum → Option (Except EncodeError String)
  | boolean b => some (.ok (ofBool b))
  | integer i => some (.ok (toString i))
  | wide i => some (.ok (toString i))
  | double x => some (.ok (Decimal.write .double Form.doubleStyle x))
  | single x => some (.ok (Decimal.write .single Form.singleStyle x))
  | character c => some (.ok c.toString)
  | text s => some (.ok s)
  | bytes bs => some <| match Utf8.text bs with
    | .ok s => .ok s
    | .error fault => .error (.invalidText fault)
  | variant name => some (.ok name)
  | _ => none

/-- The key of a pair. -/
def formKey (d : Datum) : Except EncodeError String :=
  d.formScalar?.getD (.error .unsupportedKey)

/-- The text of an item of a sequence, or none for an absent item. -/
def formItem : Datum → Except EncodeError (List String)
  | absent => .ok []
  | present d => formItem d
  | d =>
    match d.formScalar? with
    | some written => written.map ([·])
    | none => .error .unsupportedValue

/-- The values written under a key, one pair each. -/
def formValues : Datum → Except EncodeError (List String)
  | absent => .ok []
  | present d => formValues d
  | list ds => (ds.mapM formItem).map List.flatten
  | d => formItem d

/-- The pairs of a key and a value. -/
def formEntry (k d : Datum) : Except EncodeError (List Query.Pair) := do
  let key ← k.formKey
  let values ← d.formValues
  .ok (values.map fun value => (key, value))

/-- The pairs of one item of a sequence, which must be a tuple of two or absent. -/
def formPair : Datum → Except EncodeError (List Query.Pair)
  | absent => .ok []
  | tuple [k, d] => formEntry k d
  | present d => formPair d
  | wide _ => .error .wideInteger
  | _ => .error .unsupportedPair

/-- The pairs of a body. -/
def formPairs : Datum → Except EncodeError (List Query.Pair)
  | absent => .ok []
  | unit => .ok []
  | present d => formPairs d
  | list ds => (ds.mapM formPair).map List.flatten
  | tuple ds => (ds.mapM formPair).map List.flatten
  | map entries => (entries.mapM fun (k, d) => formEntry k d).map List.flatten
  | record fields => (fields.mapM fun (name, d) => formEntry (text name) d).map List.flatten
  | wide _ => .error .wideInteger
  | _ => .error .notPairs

/-- A body of query pairs. -/
def form (d : Datum) : Except EncodeError String := d.formPairs.map Query.writePairs

end Datum

end Waybill
