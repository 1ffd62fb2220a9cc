import Waybill.Text.Utf8

/-!
# Why a datum has no text in a format

## Main definitions

* `Waybill.EncodeError`, `Waybill.EncodeError.message`.
-/

namespace Waybill

/-- Why a datum has no text in a format. -/
inductive EncodeError where
  /-- A key of a JSON object that is no scalar. -/
  | keyNotText
  /-- A key of a JSON object that is an infinity or undefined. -/
  | keyNotFinite
  /-- A body of query pairs that is neither a map, a record nor a sequence of pairs. -/
  | notPairs
  | unsupportedPair
  | unsupportedKey
  | unsupportedValue
  | wideInteger
  | invalidText (fault : Utf8.Fault)
deriving DecidableEq, Repr

/-- The wording of an error. -/
def EncodeError.message : EncodeError → String
  | .keyNotText => "key must be a string"
  | .keyNotFinite => "float key must be finite (got NaN or +/-inf)"
  | .notPairs => "top-level serializer supports only maps and structs"
  | .unsupportedPair => "unsupported pair"
  | .unsupportedKey => "unsupported key"
  | .unsupportedValue => "unsupported value"
  | .wideInteger => "i128 is not supported"
  | .invalidText fault => "invalid UTF-8: " ++ fault.message

end Waybill
