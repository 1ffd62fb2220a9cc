import Waybill.Character.Category
import Waybill.Character.Invisible
import Waybill.Character.Mark
import Waybill.Text.Ascii

/-!
# Characters shown by their code point

A quoted text shows most characters as themselves. Controls, format characters, separators, private
and unassigned code points are shown by their code point instead, and so are letters that leave no
trace and marks that would join the character before them. The two sound marks of half width stand
on their own and are shown as they are.

## Main definitions

* `Waybill.isShownByCode` — the characters that a quoted text shows by their code point.
-/

namespace Waybill

/-- Code points that would not be seen, or not where they stand. -/
def hiddenSet : CodeSet :=
  .unionAll [
    Category.set [.control, .format, .surrogate, .privateUse, .unassigned, .lineSeparator,
      .paragraphSeparator, .spaceSeparator],
    Mark.extending.diff (Category.set [.modifierLetter]),
    Invisible.ignorable]

/-- Characters that a quoted text shows by their code point. -/
def isShownByCode (c : Char) : Bool :=
  if c.toNat < 0x80 then Ascii.isControl c else hiddenSet.has c

end Waybill
