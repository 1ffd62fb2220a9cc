import Waybill.Json.Tree
import Waybill.Text.Utf8

/-!
# Numbers and texts of JSON

The numbers and texts of a JSON body are read from a cursor, a count of bytes and the bytes after
them. A text is decoded from UTF-8 once its escapes are undone.

A number with a point or an exponent is computed from as many digits as fit 64 bits, scaled by a
power of ten in floating-point arithmetic. The result can differ from the nearest number in its last
bit, and the same digits always give the same number.

## Main definitions

* `Waybill.Json.Cursor` — a place in a body.
* `Waybill.Json.Number.ofParts?` — the number that digits stand for.
* `Waybill.Json.readNumber`, `Waybill.Json.readText` — scalars at a cursor.
-/

namespace Waybill.Json

/-- A count of bytes and the bytes after them. -/
structure Cursor where
  offset : Nat
  rest : List UInt8
deriving Repr

/-- The cursor after some bytes. -/
def Cursor.advance (c : Cursor) (n : Nat) : Cursor := ⟨c.offset + n, c.rest.drop n⟩

/-- The place of a fault that shows at the next byte, or at the end. -/
def Cursor.peek (c : Cursor) : Nat := if c.rest.isEmpty then c.offset else c.offset + 1

/-- A fault at the next byte, or at the end. -/
def Cursor.fault (c : Cursor) (cause : Cause) : Fault := ⟨cause, c.peek⟩

/-- Bytes that may stand between the parts of a JSON text. -/
def isBlank (b : UInt8) : Bool := b == 0x20 || b == 0x0A || b == 0x09 || b == 0x0D

/-- The cursor after blanks. -/
def Cursor.skipBlanks (c : Cursor) : Cursor := c.advance (c.rest.takeWhile isBlank).length

/-! ### Numbers -/

/-- Decimal digits. -/
def isDigit (b : UInt8) : Bool := 0x30 ≤ b && b ≤ 0x39

/-- The digits of a number: before the point, after it if there is one, and the exponent with its
sign if there is one. -/
structure NumberParts where
  negative : Bool
  whole : List Nat
  fraction : Option (List Nat)
  exponent : Option (Bool × List Nat)

/-- A number with more digits at its end, as long as it fits the given number of bits, and how many
were taken. -/
def accumulate (bits n : Nat) : List Nat → Nat × Nat
  | [] => (n, 0)
  | d :: rest =>
    if 10 * n + d < Nat.pow 2 bits then
      let (n, taken) := accumulate bits (10 * n + d) rest
      (n, taken + 1)
    else (n, 0)

/-- A power of ten as a floating-point number. -/
def powerOfTen (n : Nat) : Binary := Binary.ofNat .double false (Nat.pow 10 n)

/-- A number scaled by a power of ten, one step for at most 308 places. A result that is too large
has no value. -/
def scaleBy : Nat → Binary → Int → Option Binary
  | 0, x, _ => some x
  | fuel + 1, x, e =>
    if e.natAbs ≤ 308 then
      if 0 ≤ e then
        let y := Binary.mul .double x (powerOfTen e.natAbs)
        if y.isInfinite then none else some y
      else some (Binary.div .double x (powerOfTen e.natAbs))
    else if x.isZero then some x
    else if 0 ≤ e then none
    else scaleBy fuel (Binary.div .double x (powerOfTen 308)) (e + 308)

/-- A floating-point number of digits and a power of ten. -/
def floating? (negative : Bool) (digits : Nat) (e : Int) : Option Number :=
  (scaleBy 8 (Binary.ofNat .double false digits) e).map fun x =>
    .floating (if negative then x.negate else x)

/-- The number of digits of an exponent at its end that are not looked at: those after the first
with which it no longer fits 31 bits. -/
def unreadExponent (p : NumberParts) : Nat :=
  match p.exponent with
  | none => 0
  | some (_, ds) => ds.length - ((accumulate 31 0 ds).2 + 1)

/-- The number that digits stand for, if it is in range. -/
def Number.ofParts? (p : NumberParts) : Option Number :=
  let (n, taken) := accumulate 64 0 p.whole
  let dropped := p.whole.length - taken
  if p.fraction.isNone && p.exponent.isNone && dropped == 0 then
    if !p.negative then some (.integer n)
    else if n == 0 || Nat.pow 2 63 < n then some (.floating (Binary.ofNat .double true n))
    else some (.integer (-n))
  else
    let (n, places) := accumulate 64 n (p.fraction.getD [])
    let e : Int := dropped - places
    match p.exponent with
    | none => floating? p.negative n e
    | some (small, ds) =>
      let (k, taken) := accumulate 31 0 ds
      if taken == ds.length then floating? p.negative n (if small then e - k else e + k)
      else if n != 0 && !small then none
      else some (.floating (Binary.ofNat .double p.negative 0))

/-- A number that was read: its parts and the cursor after it. -/
abbrev NumberScan := Except (Fault × Fault) (NumberParts × Cursor)

/-- A fault that is the end of the text for those who want the value, and a bad number for those who
pass over it; within the text it is a bad number for both. -/
def endOfNumber (c : Cursor) : Fault × Fault :=
  if c.rest.isEmpty then (⟨.endInValue, c.offset⟩, ⟨.invalidNumber, c.offset⟩)
  else (c.fault .invalidNumber, c.fault .invalidNumber)

/-- The values of the digits at a cursor. -/
def digitsAt (c : Cursor) : List Nat := (c.rest.takeWhile isDigit).map fun b => b.toNat - 0x30

/-- The exponent at a cursor, if there is one. -/
def scanExponent (p : NumberParts) (c : Cursor) : NumberScan :=
  match c.rest with
  | b :: _ =>
    if b == 0x65 || b == 0x45 then
      let c := c.advance 1
      let (small, c) := match c.rest with
        | 0x2D :: _ => (true, c.advance 1)
        | 0x2B :: _ => (false, c.advance 1)
        | _ => (false, c)
      let ds := digitsAt c
      if ds.isEmpty then .error (endOfNumber c)
      else .ok ({ p with exponent := some (small, ds) }, c.advance ds.length)
    else .ok (p, c)
  | [] => .ok (p, c)

/-- The point and the digits after it, if there is one, and the exponent. -/
def scanFraction (p : NumberParts) (c : Cursor) : NumberScan :=
  match c.rest with
  | 0x2E :: _ =>
    let c := c.advance 1
    let ds := digitsAt c
    if ds.isEmpty then .error (endOfNumber c)
    else scanExponent { p with fraction := some ds } (c.advance ds.length)
  | _ => scanExponent p c

/-- An unsigned number. Only zero itself starts with a zero. -/
def scanUnsigned (negative : Bool) (c : Cursor) : NumberScan :=
  match c.rest with
  | 0x30 :: _ =>
    let c := c.advance 1
    if (digitsAt c).isEmpty then scanFraction ⟨negative, [0], none, none⟩ c
    else .error (c.fault .invalidNumber, c.fault .invalidNumber)
  | _ =>
    let ds := digitsAt c
    if ds.isEmpty then .error (endOfNumber c)
    else scanFraction ⟨negative, ds, none, none⟩ (c.advance ds.length)

/-- The number at a cursor, and the cursor after it. -/
def readNumber (c : Cursor) : Leaf Number × Option Cursor :=
  let scan := match c.rest with
    | 0x2D :: _ => scanUnsigned true (c.advance 1)
    | _ => scanUnsigned false c
  match scan with
  | .error (wanted, passed) => (⟨c.offset, .error wanted, .error passed⟩, none)
  | .ok (parts, after) =>
    let value := match Number.ofParts? parts with
      | some n => .ok n
      | none => .error ⟨.numberOutOfRange, after.offset - unreadExponent parts⟩
    (⟨c.offset, value, .ok after.offset⟩, some after)

/-! ### Texts -/

/-- The number that four bytes denote as digits of base sixteen. -/
def hexFour? (a b c d : UInt8) : Option Nat :=
  [a, b, c, d].foldlM (fun n x => (Ascii.hexValue? (Char.ofNat x.toNat)).map (16 * n + ·)) 0

/-- The four digits at a cursor. -/
def readHex (c : Cursor) : Except Fault (Nat × Cursor) :=
  match c.rest with
  | x :: y :: z :: w :: _ =>
    match hexFour? x y z w with
    | some n => .ok (n, c.advance 4)
    | none => .error ⟨.invalidEscape, c.offset + 4⟩
  | rest => .error ⟨.endInText, c.offset + rest.length⟩

/-- The byte that a short escape stands for. -/
def shortEscape? (b : UInt8) : Option UInt8 :=
  if b == 0x22 || b == 0x5C || b == 0x2F then some b
  else if b == 0x62 then some 0x08
  else if b == 0x66 then some 0x0C
  else if b == 0x6E then some 0x0A
  else if b == 0x72 then some 0x0D
  else if b == 0x74 then some 0x09
  else none

/-- The bytes of a code point. -/
def pointBytes (n : Nat) : List UInt8 := String.utf8EncodeChar (Char.ofNat n)

/-- The byte at a cursor must be the given one for a pair of escapes to go on. -/
def expectHalf (c : Cursor) (b : UInt8) : Except Fault Cursor :=
  match c.rest with
  | [] => .error ⟨.endInText, c.offset⟩
  | x :: _ => if x == b then .ok (c.advance 1) else .error ⟨.halfSurrogate, c.offset + 1⟩

/-- The bytes of a code point escaped by its number; one beyond 16 bits is written as a pair. -/
def readPoint (c : Cursor) : Except Fault (List UInt8 × Cursor) := do
  let (high, c) ← readHex c
  if 0xDC00 ≤ high && high ≤ 0xDFFF then .error ⟨.loneSurrogate, c.offset⟩
  else if high < 0xD800 || 0xDBFF < high then .ok (pointBytes high, c)
  else
    let c ← expectHalf c 0x5C
    let c ← expectHalf c 0x75
    let (low, c) ← readHex c
    if low < 0xDC00 || 0xDFFF < low then .error ⟨.loneSurrogate, c.offset⟩
    else .ok (pointBytes ((high - 0xD800) * 0x400 + (low - 0xDC00) + 0x10000), c)

/-- The bytes that an escape stands for; the cursor is after its backslash. -/
def readEscape (c : Cursor) : Except Fault (List UInt8 × Cursor) :=
  match c.rest with
  | [] => .error ⟨.endInText, c.offset⟩
  | b :: _ =>
    if b == 0x75 then readPoint (c.advance 1)
    else match shortEscape? b with
      | some x => .ok ([x], c.advance 1)
      | none => .error ⟨.invalidEscape, c.offset + 1⟩

/-- The bytes of a text up to its closing quote, escapes undone, and the cursor after the quote. -/
def readContent : Nat → Cursor → Except Fault (List UInt8 × Cursor)
  | 0, c => .error ⟨.endInText, c.offset⟩
  | fuel + 1, c =>
    match c.rest with
    | [] => .error ⟨.endInText, c.offset⟩
    | b :: _ =>
      if b == 0x22 then .ok ([], c.advance 1)
      else if b == 0x5C then do
        let (bytes, c) ← readEscape (c.advance 1)
        let (more, c) ← readContent fuel c
        .ok (bytes ++ more, c)
      else if b < 0x20 then .error ⟨.controlCharacter, c.offset + 1⟩
      else do
        let (more, c) ← readContent fuel (c.advance 1)
        .ok (b :: more, c)

/-- The cursor after an escape that nobody looks at. -/
def passEscape (c : Cursor) : Except Fault Cursor :=
  match c.rest with
  | [] => .error ⟨.endInText, c.offset⟩
  | b :: _ =>
    if b == 0x75 then (readHex (c.advance 1)).map (·.2)
    else if (shortEscape? b).isSome then .ok (c.advance 1)
    else .error ⟨.invalidEscape, c.offset + 1⟩

/-- The cursor after the closing quote of a text that nobody looks at. -/
def passContent : Nat → Cursor → Except Fault Cursor
  | 0, c => .error ⟨.endInText, c.offset⟩
  | fuel + 1, c =>
    match c.rest with
    | [] => .error ⟨.endInText, c.offset⟩
    | b :: _ =>
      if b == 0x22 then .ok (c.advance 1)
      else if b == 0x5C then do passContent fuel (← passEscape (c.advance 1))
      else if b < 0x20 then .error ⟨.controlCharacter, c.offset⟩
      else passContent fuel (c.advance 1)

/-- The text at a cursor, which is at its opening quote, and the cursor after it. -/
def readText (c : Cursor) : Leaf String × Option Cursor :=
  let inside := c.advance 1
  let fuel := c.rest.length + 1
  let value := do
    let (bytes, after) ← readContent fuel inside
    match Utf8.text bytes with
    | .ok s => .ok s
    | .error fault => .error ⟨.invalidCodePoint, after.offset - bytes.length + fault.index⟩
  let passed := passContent fuel inside
  (⟨c.offset, value, passed.map (·.offset)⟩, passed.toOption)

end Waybill.Json
