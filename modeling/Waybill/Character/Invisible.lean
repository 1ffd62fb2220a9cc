import Waybill.Character.CodeSet

/-!
# Invisible code points

Code points that leave no trace of their own in a line of text.

## Main definitions

* `Waybill.Invisible.ignorable` — code points that are shown as nothing at all.
* `Waybill.Invisible.blank`, `Waybill.Invisible.noncharacter` and others of their kind.
-/

namespace Waybill.Invisible

/-- Code points that are shown as nothing at all, unless a device knows better. -/
def ignorable : CodeSet := .ofPacked [
  "bD0r10sC0Yw21XoJ1YL4X*R4Q4XHFadK0XpaRFdF0b00YF8Xlb73bcF7uhq5Z*V"]

/-- Code points that are shown as nothing by exception. -/
def otherIgnorable : CodeSet := .ofRanges [
  (0x34F, 0x34F), (0x115F, 0x1160), (0x17B4, 0x17B5), (0x2065, 0x2065), (0x3164, 0x3164),
  (0xFFA0, 0xFFA0), (0xFFF0, 0xFFF8), (0xE0000, 0xE0000), (0xE0002, 0xE001F), (0xE0080, 0xE00FF),
  (0xE01F0, 0xE0FFF)]

/-- White space. -/
def blank : CodeSet := .ofRanges [
  (0x9, 0xD), (0x20, 0x20), (0x85, 0x85), (0xA0, 0xA0), (0x1680, 0x1680), (0x2000, 0x200A),
  (0x2028, 0x2029), (0x202F, 0x202F), (0x205F, 0x205F), (0x3000, 0x3000)]

/-- The two invisible joiners. -/
def joinControl : CodeSet := .ofRanges [
  (0x200C, 0x200D)]

/-- Marks of the direction of a text. -/
def directionControl : CodeSet := .ofRanges [
  (0x61C, 0x61C), (0x200E, 0x200F), (0x202A, 0x202E), (0x2066, 0x2069)]

/-- Selectors of a form of the character before them. -/
def variation : CodeSet := .ofRanges [
  (0x180B, 0x180D), (0x180F, 0x180F), (0xFE00, 0xFE0F), (0xE0100, 0xE01EF)]

/-- Code points that will never be characters. -/
def noncharacter : CodeSet := .ofPacked [
  "X*kGVmE1X**U1X**U1X**U1X**U1X**U1X**U1X**U1X**U1X**U1X**U1X**U1X**U1X**U1X**U1X**U1X**U1"]

/-- Characters that are not to be used any more. -/
def deprecated : CodeSet := .ofRanges [
  (0x149, 0x149), (0x673, 0x673), (0xF77, 0xF77), (0xF79, 0xF79), (0x17A3, 0x17A4),
  (0x206A, 0x206F), (0x2329, 0x232A), (0xE0001, 0xE0001)]

end Waybill.Invisible
