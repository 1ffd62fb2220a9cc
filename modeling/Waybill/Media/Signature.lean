import Waybill.Text.Ascii

/-!
# Media types by signature

The media type of a payload is told from its first bytes. A signature is a list of bytes, some of
which may be anything; JSON is told from its first byte that is no blank. Rows are tried in order,
and data that fits none is a stream of octets.

## Main definitions

* `Waybill.Signature`, `Waybill.Signature.fits` — a pattern at the start of data.
* `Waybill.MediaRow`, `Waybill.mediaRows` — the table.
* `Waybill.mediaTypeOf` — the media type of data.
-/

namespace Waybill

/-- Bytes at the start of data; `none` stands for any byte. -/
abbrev Signature := List (Option UInt8)

namespace Signature

/-- Whether data starts with the signature. -/
def fits : Signature → List UInt8 → Bool
  | [], _ => true
  | _ :: _, [] => false
  | want :: rest, b :: bs => (want.all (· == b)) && fits rest bs

/-- The signature of given bytes. -/
def exactly (bs : List UInt8) : Signature := bs.map some

/-- Any bytes, as many as given. -/
def anything (n : Nat) : Signature := List.replicate n none

end Signature

/-- Whether the first byte that is no ASCII blank opens an object or an array. -/
def looksLikeJson (data : List UInt8) : Bool :=
  match data.dropWhile Ascii.isBlankByte with
  | b :: _ => b == 0x7B || b == 0x5B
  | [] => false

/-- A row of the table: a media type and the test for it. -/
structure MediaRow where
  type : String
  test : List UInt8 → Bool

/-- A row that asks for one of several signatures. -/
def MediaRow.ofSignatures (type : String) (signatures : List Signature) : MediaRow :=
  ⟨type, fun data => signatures.any (·.fits data)⟩

/-- The table, in the order in which its rows are tried. -/
def mediaRows : List MediaRow := [
  .ofSignatures "image/png" [.exactly [0x89, 0x50, 0x4E, 0x47]],
  .ofSignatures "image/jpeg" [.exactly [0xFF, 0xD8, 0xFF]],
  .ofSignatures "image/gif" [.exactly [0x47, 0x49, 0x46, 0x38]],
  .ofSignatures "image/webp"
    [.exactly [0x52, 0x49, 0x46, 0x46] ++ .anything 4 ++ .exactly [0x57, 0x45, 0x42, 0x50]],
  .ofSignatures "application/pdf" [.exactly [0x25, 0x50, 0x44, 0x46]],
  .ofSignatures "application/zip" [.exactly [0x50, 0x4B, 0x03, 0x04]],
  .ofSignatures "application/gzip" [.exactly [0x1F, 0x8B]],
  .ofSignatures "image/tiff"
    [.exactly [0x49, 0x49, 0x2A, 0x00], .exactly [0x4D, 0x4D, 0x00, 0x2A]],
  .ofSignatures "video/mp4" [.anything 4 ++ .exactly [0x66, 0x74, 0x79, 0x70]],
  .ofSignatures "image/bmp" [.exactly [0x42, 0x4D]],
  ⟨"application/json", looksLikeJson⟩]

/-- The type of data that fits no row. -/
def octetStream : String := "application/octet-stream"

/-- The media type of data: that of the first row that fits. -/
def mediaTypeOf (data : List UInt8) : String :=
  ((mediaRows.find? (·.test data)).map (·.type)).getD octetStream

end Waybill
