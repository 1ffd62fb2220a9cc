import Waybill.Character.Category
import Waybill.Character.Sign

/-!
# Characters of identifiers

An identifier starts with a letter or an underscore and goes on with letters, digits, marks and
connectors, of any script. The properties `ID_Start` and `ID_Continue` say so in terms of the
categories; `XID_Start` and `XID_Continue` leave out what would not stay an identifier in all the
forms in which a text can be written.

## Main definitions

* `Waybill.Identifier.start`, `Waybill.Identifier.part` — the properties.
* `Waybill.isIdentifierStart`, `Waybill.isIdentifierPart`.
-/

namespace Waybill

namespace Identifier

/-- Code points that may start an identifier by exception. -/
def otherStart : CodeSet := .ofRanges [
  (0x1885, 0x1886), (0x2118, 0x2118), (0x212E, 0x212E), (0x309B, 0x309C)]

/-- Code points that may follow in an identifier by exception. -/
def otherPart : CodeSet := .ofRanges [
  (0xB7, 0xB7), (0x387, 0x387), (0x1369, 0x1371), (0x19DA, 0x19DA), (0x200C, 0x200D),
  (0x30FB, 0x30FB), (0xFF65, 0xFF65)]

/-- Code points that do not stay a part of an identifier. -/
def unstablePart : CodeSet := .ofRanges [
  (0x37A, 0x37A), (0x309B, 0x309C), (0xFC5E, 0xFC63), (0xFDFA, 0xFDFB), (0xFE70, 0xFE70),
  (0xFE72, 0xFE72), (0xFE74, 0xFE74), (0xFE76, 0xFE76), (0xFE78, 0xFE78), (0xFE7A, 0xFE7A),
  (0xFE7C, 0xFE7C), (0xFE7E, 0xFE7E)]

/-- Code points that do not stay the start of an identifier, besides those. -/
def unstableStart : CodeSet := .ofRanges [
  (0xE33, 0xE33), (0xEB3, 0xEB3), (0xFF9E, 0xFF9F)]

/-- Code points without a meaning in the syntax of languages. -/
def unreserved (s : CodeSet) : CodeSet := (s.diff Sign.patternSyntax).diff Sign.patternBlank

/-- The property `ID_Start`. -/
def looseStart : CodeSet :=
  unreserved ((Category.set [.uppercaseLetter, .lowercaseLetter, .titlecaseLetter, .modifierLetter,
    .otherLetter, .letterNumber]).union otherStart)

/-- The property `ID_Continue`. -/
def loosePart : CodeSet :=
  unreserved (.unionAll [looseStart, otherPart, Category.set [.nonspacingMark, .spacingMark,
    .decimalNumber, .connectorPunctuation]])

/-- The property `XID_Start`. -/
def start : CodeSet := (looseStart.diff unstablePart).diff unstableStart

/-- The property `XID_Continue`. -/
def part : CodeSet := loosePart.diff unstablePart

end Identifier

/-- Characters that may start an identifier. -/
def isIdentifierStart (c : Char) : Bool :=
  if c.toNat < 0x80 then c.isAlpha || c == '_' else Identifier.start.has c

/-- Characters that may follow in an identifier. -/
def isIdentifierPart (c : Char) : Bool :=
  if c.toNat < 0x80 then c.isAlphanum || c == '_' else Identifier.part.has c

end Waybill
