import Waybill.Character.Age
import Waybill.Character.Fold
import Waybill.Character.Invisible
import Waybill.Character.Letter

/-!
# The alphabet of patterns

Patterns know the characters of one version of the Unicode standard. Whatever came later is
unassigned for them, has no properties and no case.

## Main definitions

* `Waybill.Pattern.known` — the code points as patterns know them.
* `Waybill.Pattern.Alphabet` — the sets with a short name, over all scripts and in ASCII.
* `Waybill.Pattern.Alphabet.closed` — a set without regard to case.
-/

namespace Waybill.Pattern

/-- The code points that came into use after the version that patterns follow. -/
def newest : CodeSet := Age.since (17, 0)

/-- The other code points. -/
def known : CodeSet := newest.complement

/-- Which characters the sets with a short name are about. -/
inductive Alphabet where
  | ascii
  | unicode
deriving DecidableEq, Repr

/-- Ranges of characters as a set. -/
def chars (ranges : List (Char × Char)) : CodeSet :=
  .ofRanges (ranges.map fun (first, last) => (first.toNat, last.toNat))

/-- Decimal digits of ASCII. -/
def asciiDigit : CodeSet := chars [('0', '9')]

/-- Parts of words in ASCII. -/
def asciiWord : CodeSet := chars [('0', '9'), ('A', 'Z'), ('_', '_'), ('a', 'z')]

/-- Blanks of ASCII. -/
def asciiBlank : CodeSet := chars [('\t', '\r'), (' ', ' ')]

/-- Decimal digits of all scripts. -/
def anyDigit : CodeSet := (Category.set [.decimalNumber]).inter known

/-- Letters, marks, digits, connectors and joiners of all scripts. -/
def anyWord : CodeSet := .inter known (.unionAll [Letter.alphabetic, Invisible.joinControl,
  Category.set [.nonspacingMark, .spacingMark, .enclosingMark, .decimalNumber,
    .connectorPunctuation]])

namespace Alphabet

/-- Decimal digits. -/
def digit : Alphabet → CodeSet
  | ascii => asciiDigit
  | unicode => anyDigit

/-- Parts of words. -/
def word : Alphabet → CodeSet
  | ascii => asciiWord
  | unicode => anyWord

/-- Blanks. -/
def blank : Alphabet → CodeSet
  | ascii => asciiBlank
  | unicode => Invisible.blank

/-- The members of a set, and the letters of ASCII that differ from one in case only. -/
def closedAscii (s : CodeSet) : CodeSet :=
  .unionAll [s,
    .ofRanges ((s.inter (chars [('A', 'Z')])).ranges.map fun (a, b) => (a + 32, b + 32)),
    .ofRanges ((s.inter (chars [('a', 'z')])).ranges.map fun (a, b) => (a - 32, b - 32))]

/-- The members of a set, and what differs from one in case only. -/
def closed : Alphabet → CodeSet → CodeSet
  | ascii => closedAscii
  | unicode => Fold.close known

end Alphabet

end Waybill.Pattern
