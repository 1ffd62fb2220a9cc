import Waybill.Character.Category
import Waybill.Character.Composition
import Waybill.Character.Direction
import Waybill.Text.Ascii
import Waybill.Url.Domain.Mapping
import Waybill.Url.Punycode

/-!
# Domain names

The name of a host in the web may hold characters beyond ASCII. Its ASCII form is found in steps:
every character is read as the table of domain names says, the text is composed, it is cut into
labels at its dots, and a label beyond ASCII is encoded behind the marker `xn--`. A label that comes
with the marker must stand for one that the steps would have kept as it is.

A label must not start with a mark. An invisible joiner must stand where it has an effect on the
letters around it. If any label of the name holds letters or digits of a script that is written from
right to left, every label must run in one direction from its first character to its last.

## Main definitions

* `Waybill.Domain.joinersFit`, `Waybill.Domain.runsOneWay` — the conditions on labels.
* `Waybill.Domain.decodeLabel?`, `Waybill.Domain.encodeLabel` — the marker `xn--`.
* `Waybill.Domain.toAscii?` — the ASCII form of a name.
-/

namespace Waybill.Domain

/-- ASCII characters that no domain holds: those that end or split a URL, the percent sign, blanks
and controls. -/
def isForbidden (c : Char) : Bool :=
  Ascii.isControl c || " #/:<>?@[\\]^|%".toList.contains c

/-! ### Joiners -/

/-- The class of marks that suppress the vowel of a letter and join it to the next. -/
def viramaClass : Nat := 9

/-- Whether a letter after transparent characters is of one of the given joinings. -/
def meets (joinings : List Joining) (cs : List Char) : Bool :=
  match cs.dropWhile (Joining.of · == .transparent) with
  | c :: _ => joinings.contains (Joining.of c)
  | [] => false

/-- Whether a joiner fits between the characters before it, last first, and those after it. The one
that separates letters may also stand between letters that would be joined. -/
def joinerFits (c : Char) (before after : List Char) : Bool :=
  let afterVirama := (before.head?.map Composition.combiningClass) == some viramaClass
  if c == '\u200C' then
    afterVirama || (meets [.forward, .dual] before && meets [.backward, .dual] after)
  else if c == '\u200D' then afterVirama
  else true

/-- Whether all joiners of a label fit, given the characters before it, last first. -/
def joinersFit (before : List Char) : List Char → Bool
  | [] => true
  | c :: rest => joinerFits c before rest && joinersFit (c :: before) rest

/-! ### Direction -/

/-- Whether a character belongs to a script that is written from right to left. -/
def isRightToLeft (c : Char) : Bool :=
  [Direction.rightToLeft, .arabicLetter, .arabicNumber].contains (Direction.of c)

/-- Directions that any label may hold. -/
def neutralDirections : List Direction := [.europeanNumber, .europeanSeparator,
  .europeanTerminator, .commonSeparator, .nonspacingMark, .boundaryNeutral, .otherNeutral]

/-- Whether all characters are of some directions, and the last that is no mark is of others. -/
def runs (inside atEnd : List Direction) (ds : List Direction) : Bool :=
  ds.all inside.contains &&
    ((ds.reverse.dropWhile (· == .nonspacingMark)).head?.map atEnd.contains).getD false

/-- Whether a label runs in one direction. -/
def runsOneWay (label : List Char) : Bool :=
  let ds := label.map Direction.of
  match ds with
  | [] => true
  | .leftToRight :: _ =>
    runs (.leftToRight :: neutralDirections) [.leftToRight, .europeanNumber] ds
  | .rightToLeft :: _ | .arabicLetter :: _ =>
    runs ([.rightToLeft, .arabicLetter, .arabicNumber] ++ neutralDirections)
        [.rightToLeft, .arabicLetter, .europeanNumber, .arabicNumber] ds &&
      !(ds.contains .europeanNumber && ds.contains .arabicNumber)
  | _ => false

/-! ### Labels -/

/-- The marker of a label that stands for one beyond ASCII. -/
def marker : List Char := "xn--".toList

/-- Whether a label is one that reading and composing leave as it is. -/
def isSettled (label : List Char) : Bool :=
  label.all (fun c => mapped? c == some [c]) && Composition.composed label == label

/-- The greatest length of a label after the marker. -/
def decodeLimit : Nat := 2000

/-- The greatest length of a label beyond ASCII. -/
def encodeLimit : Nat := 1000

/-- The label that is meant. One with the marker must stand for a settled label beyond ASCII. -/
def decodeLabel? (label : List Char) : Option (List Char) :=
  if marker.isPrefixOf label then
    let written := label.drop marker.length
    if decodeLimit < written.length then none
    else (Punycode.decode? written).filter fun meant =>
      !meant.all Ascii.isAscii && isSettled meant
  else some label

/-- Whether a label that is meant may stand in a name. -/
def isValidLabel (label : List Char) : Bool :=
  joinersFit [] label && !(label.head?.map fun c => (Category.of c).isMark).getD false

/-- The ASCII form of a label. -/
def encodeLabel? (label : List Char) : Option (List Char) :=
  if label.all Ascii.isAscii then some label
  else if encodeLimit < label.length then none
  else some (marker ++ Punycode.encode label)

/-- The ASCII form of a name. -/
def toAscii? (cs : List Char) : Option (List Char) := do
  let plain ← cs.mapM mapped?
  let labels := (Composition.composed plain.flatten).splitOn '.'
  let meant ← labels.mapM decodeLabel?
  let oneWay := !meant.any (·.any isRightToLeft) || meant.all runsOneWay
  if !oneWay || !meant.all isValidLabel then none
  else
    let written ← labels.mapM encodeLabel?
    let domain := ['.'].intercalate written
    if domain.any isForbidden then none else some domain

end Waybill.Domain
