import Waybill.Pattern.Alphabet
import Waybill.Text.Blank

/-!
# How patterns are read

Flags change how the rest of a group is read. One of them makes blanks and comments stand for
nothing, nearly everywhere in a pattern.

## Main definitions

* `Waybill.Pattern.SyntaxFault`, `Waybill.Pattern.Reading` — why a text is no pattern.
* `Waybill.Pattern.Flags`, `Waybill.Pattern.Flags.negated` — how a group is read.
* `Waybill.Pattern.Flags.takeSpaced`, `Waybill.Pattern.Flags.skipSpaces` — reading past blanks.
-/

namespace Waybill.Pattern

/-- Why a text is no pattern. -/
inductive SyntaxFault where
  | unclosedClass
  | unclosedGroup
  | unopenedGroup
  | nothingToRepeat
  | invalidCount
  | invalidEscape
  | invalidRange
  | invalidFlag
  | invalidName
  | repeatedName
  | unsupportedLook
  | unknownProperty
  /-- Something that is not of ASCII where nothing else is allowed. -/
  | beyondAscii
  | tooDeep
  | tooLarge
deriving DecidableEq, Repr

/-- A result of reading. -/
abbrev Reading := Except SyntaxFault

/-- How a group is read. -/
structure Flags where
  anyCase : Bool
  lines : Bool
  dotAll : Bool
  spaced : Bool
  /-- Whether a carriage return ends a line too. -/
  returns : Bool
  alphabet : Alphabet
deriving DecidableEq, Repr

namespace Flags

/-- The flags at the start of a pattern. -/
def plain : Flags := ⟨false, false, false, false, false, .unicode⟩

/-- A set as it is meant with regard to case. -/
def closed (flags : Flags) (s : CodeSet) : CodeSet :=
  if flags.anyCase then flags.alphabet.closed s else s

/-- A set or what is not in it, once case has been seen to. Within ASCII nothing can be negated,
since what is left could be a part of a character. -/
def negated (flags : Flags) (negative : Bool) (s : CodeSet) : Reading CodeSet :=
  if !negative then .ok s
  else match flags.alphabet with
    | .unicode => .ok s.complement
    | .ascii => .error .beyondAscii

/-- The characters at the start of a text for which a condition holds, and the rest. If blanks stand
for nothing, they and comments are left out, between the characters and after them; `comment`
says whether the text starts in one. -/
def takeSpaced (flags : Flags) (wanted : Char → Bool) : Bool → List Char → List Char × List Char
  | _, [] => ([], [])
  | comment, c :: rest =>
    if comment then takeSpaced flags wanted (c != '\n') rest
    else if flags.spaced && isBlank c then takeSpaced flags wanted false rest
    else if flags.spaced && c == '#' then takeSpaced flags wanted true rest
    else if wanted c then
      let (taken, rest) := takeSpaced flags wanted false rest
      (c :: taken, rest)
    else ([], c :: rest)

/-- A text from the first character that stands for something. -/
def skipSpaces (flags : Flags) (cs : List Char) : List Char :=
  (flags.takeSpaced (fun _ => false) false cs).2

/-- The content of braces, after the opening one, and what follows them. -/
def readBraced (flags : Flags) (cs : List Char) : Reading (List Char × List Char) :=
  match flags.takeSpaced (· != '\x7d') false cs with
  | (inside, _ :: rest) => .ok (inside, rest)
  | (_, []) => .error .invalidEscape

end Flags

end Waybill.Pattern
