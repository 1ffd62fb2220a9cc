import Waybill.Text.Ascii
import Waybill.Text.Utf8

/-!
# Percent-encoding

A byte written as `%` and two hexadecimal digits stands for itself wherever a URL would read the
character as something else. An encoding is fixed by the set of ASCII characters it escapes;
characters beyond ASCII are always escaped, byte by byte of their UTF-8 form.

`Percent.encode` is defined character by character, so that it distributes over concatenation, and
`Percent.decode` reads bytes back. Decoding leaves a `%` without two digits as it is.

## Main definitions

* `Waybill.Percent.EscapeSet` — the ASCII characters that an encoding escapes.
* `Waybill.Percent.encode`, `Waybill.Percent.decode`.
* `Waybill.Percent.segmentSet` — the set for a value that fills one path segment.

## Main results

* `Waybill.Percent.encode_append` — encoding distributes over concatenation.
-/

namespace Waybill.Percent

/-- The ASCII characters that an encoding escapes. -/
abbrev EscapeSet := Char → Bool

/-- A digit of base sixteen with capital letters. -/
def capitalHexDigit (n : Nat) : Char :=
  if n < 10 then Char.ofNat ('0'.toNat + n) else Char.ofNat ('A'.toNat + (n - 10))

/-- A byte as `%` and two digits. -/
def triplet (b : UInt8) : List Char :=
  ['%', capitalHexDigit (b.toNat / 16), capitalHexDigit (b.toNat % 16)]

/-- A character under an encoding. -/
def encodeChar (escaped : EscapeSet) (c : Char) : List Char :=
  if Ascii.isAscii c && !escaped c then [c] else (String.utf8EncodeChar c).flatMap triplet

/-- Characters under an encoding. -/
def encode (escaped : EscapeSet) (cs : List Char) : List Char := cs.flatMap (encodeChar escaped)

@[simp] theorem encode_nil (escaped : EscapeSet) : encode escaped [] = [] := rfl

@[simp] theorem encode_cons (escaped : EscapeSet) (c : Char) (cs : List Char) :
    encode escaped (c :: cs) = encodeChar escaped c ++ encode escaped cs := rfl

@[simp] theorem encode_append (escaped : EscapeSet) (xs ys : List Char) :
    encode escaped (xs ++ ys) = encode escaped xs ++ encode escaped ys := by
  simp [encode]

/-- A text under an encoding. -/
def encodeText (escaped : EscapeSet) (s : String) : String :=
  String.ofList (encode escaped s.toList)

/-- The value of a byte that is a hexadecimal digit. -/
def digit? (b : UInt8) : Option Nat := Ascii.hexValue? (Char.ofNat b.toNat)

/-- The bytes that percent-encoded bytes stand for. A `%` without two digits stands for itself. -/
def decode : List UInt8 → List UInt8
  | 0x25 :: h :: l :: rest =>
    match digit? h, digit? l with
    | some x, some y => UInt8.ofNat (16 * x + y) :: decode rest
    | _, _ => 0x25 :: decode (h :: l :: rest)
  | b :: rest => b :: decode rest
  | [] => []

/-- The bytes that a percent-encoded text stands for. -/
def decodeText (s : String) : List UInt8 := decode (Utf8.bytes s)

/-- The set for a value that fills one path segment: controls, and the characters by which a path
would end, be split, or be read as an escape. -/
def segmentSet : EscapeSet := fun c =>
  Ascii.isControl c || " \"#%/<>?`\x7b\x7d".toList.contains c

/-- A value written so that it fills exactly one path segment. -/
def segment (value : String) : String := encodeText segmentSet value

end Waybill.Percent
