/-!
# ASCII letters and case folding

Names on the wire (methods, header names, media types) are compared without regard to the case of
the letters `A` to `Z`, and of no other letters. This module fixes that comparison as equality of
folded texts, together with the few character classes that the grammars of the library share.

## Main definitions

* `Waybill.Ascii.fold` — a text with its ASCII capitals lowered.
* `Waybill.Ascii.sameFold` — equality of two texts up to ASCII case.
* `Waybill.Ascii.isAscii`, `Waybill.Ascii.isControl`, `Waybill.Ascii.isHexDigit` — character
  classes.
* `Waybill.Ascii.isBlankByte` — the bytes that count as ASCII white space.
-/

namespace Waybill.Ascii

/-- The characters of a text with `A` to `Z` lowered and all others kept. -/
def fold (s : String) : List Char := s.toList.map Char.toLower

/-- Equality of two texts up to the case of ASCII letters. -/
def sameFold (a b : String) : Bool := fold a == fold b

theorem sameFold_iff {a b : String} : sameFold a b = true ↔ fold a = fold b := by
  simp [sameFold]

theorem sameFold_refl (a : String) : sameFold a a = true := by simp [sameFold]

theorem sameFold_comm (a b : String) : sameFold a b = sameFold b a := by
  simp only [sameFold, Bool.beq_comm]

/-- Characters with one byte in UTF-8. -/
def isAscii (c : Char) : Bool := c.toNat < 0x80

/-- The C0 controls and DEL. -/
def isControl (c : Char) : Bool := c.toNat < 0x20 || c.toNat == 0x7F

/-- Digits of base sixteen in either case. -/
def isHexDigit (c : Char) : Bool :=
  c.isDigit || ('a' ≤ c && c ≤ 'f') || ('A' ≤ c && c ≤ 'F')

/-- The value of a digit of base sixteen; characters that are no such digits have none. -/
def hexValue? (c : Char) : Option Nat :=
  if c.isDigit then some (c.toNat - '0'.toNat)
  else if 'a' ≤ c && c ≤ 'f' then some (c.toNat - 'a'.toNat + 10)
  else if 'A' ≤ c && c ≤ 'F' then some (c.toNat - 'A'.toNat + 10)
  else none

/-- Letters of the Latin alphabet without diacritics. -/
def isLetter (c : Char) : Bool := c.isAlpha

/-- Letters, digits and the underscore: the characters of a placeholder's name. -/
def isWord (c : Char) : Bool := c.isAlphanum || c == '_'

/-- Space, tab, line feed, form feed and carriage return. The vertical tab is not among them. -/
def isBlankByte (b : UInt8) : Bool := b == 0x20 || b == 0x09 || b == 0x0A || b == 0x0C || b == 0x0D

end Waybill.Ascii
