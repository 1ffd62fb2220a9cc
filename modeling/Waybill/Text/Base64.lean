/-!
# Base64

Bytes are written three at a time as four characters of a fixed alphabet; one or two bytes at the
end are filled up with `=`. Reading accepts exactly what writing produces: the filling must be
there, and the bits that it stands for must be zero.

## Main definitions

* `Waybill.Base64.encode` — bytes as base64.
* `Waybill.Base64.decode?` — the bytes that a text is the base64 form of.
-/

namespace Waybill.Base64

/-- The character for a number below 64. -/
def letter (n : Nat) : Char :=
  if n < 26 then Char.ofNat (65 + n)
  else if n < 52 then Char.ofNat (71 + n)
  else if n < 62 then Char.ofNat (n - 4)
  else if n == 62 then '+'
  else '/'

/-- The number that a character stands for. -/
def value? (c : Char) : Option Nat :=
  if 'A' ≤ c && c ≤ 'Z' then some (c.toNat - 65)
  else if 'a' ≤ c && c ≤ 'z' then some (c.toNat - 71)
  else if '0' ≤ c && c ≤ '9' then some (c.toNat + 4)
  else if c == '+' then some 62
  else if c == '/' then some 63
  else none

/-- Bytes as characters. -/
def encodeBytes : List UInt8 → List Char
  | [] => []
  | [a] => [letter (a.toNat / 4), letter (a.toNat % 4 * 16), '=', '=']
  | [a, b] =>
    [letter (a.toNat / 4), letter (a.toNat % 4 * 16 + b.toNat / 16), letter (b.toNat % 16 * 4), '=']
  | a :: b :: c :: rest =>
    letter (a.toNat / 4) :: letter (a.toNat % 4 * 16 + b.toNat / 16) ::
      letter (b.toNat % 16 * 4 + c.toNat / 64) :: letter (c.toNat % 64) :: encodeBytes rest

/-- Bytes as base64. -/
def encode (bs : List UInt8) : String := String.ofList (encodeBytes bs)

/-- The three bytes of four characters. -/
def three (w x y z : Nat) : List UInt8 :=
  [UInt8.ofNat (w * 4 + x / 16), UInt8.ofNat (x % 16 * 16 + y / 4), UInt8.ofNat (y % 4 * 64 + z)]

/-- The bytes of a last group of four characters, which may be filled up. -/
def decodeLast (a b c d : Char) : Option (List UInt8) := do
  let w ← value? a
  let x ← value? b
  if c == '=' && d == '=' then
    if x % 16 == 0 then some [UInt8.ofNat (w * 4 + x / 16)] else none
  else
    let y ← value? c
    if d == '=' then
      if y % 4 == 0 then some [UInt8.ofNat (w * 4 + x / 16), UInt8.ofNat (x % 16 * 16 + y / 4)]
      else none
    else
      let z ← value? d
      some (three w x y z)

/-- The bytes that characters are the base64 form of. -/
def decodeChars : List Char → Option (List UInt8)
  | [] => some []
  | [a, b, c, d] => decodeLast a b c d
  | a :: b :: c :: d :: rest => do
    let w ← value? a
    let x ← value? b
    let y ← value? c
    let z ← value? d
    let bytes ← decodeChars rest
    some (three w x y z ++ bytes)
  | _ => none

/-- The bytes that a text is the base64 form of. -/
def decode? (s : String) : Option (List UInt8) := decodeChars s.toList

end Waybill.Base64
