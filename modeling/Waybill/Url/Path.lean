import Waybill.Url

/-!
# Reading the path of a URL

A path is read segment by segment, and written as it is read. A segment that is a dot, escaped or
not, is dropped, and one of two dots takes the segment before it with it, but never a drive letter.
In the scheme `file` a drive letter at the start of the path is written with a colon, and stands for
a place on this machine, so that no host is kept before it.

Tabs and line breaks are skipped wherever they stand. They matter in one place: a drive letter that
is read up to such a character is taken for a segment, and a slash follows it.

## Main definitions

* `Waybill.Url.Site` — what a path has to know of the text around it.
* `Waybill.Url.Site.stepBack` — the path after a segment of two dots.
* `Waybill.Url.Site.readPath` — the path that a text stands for.
-/

namespace Waybill.Url

/-- Tabs and line breaks, which are skipped wherever they stand. -/
def isSkipped (c : Char) : Bool := c == '\t' || c == '\n' || c == '\r'

/-- The characters of a text that count. -/
def significant (cs : List Char) : List Char := cs.filter (!isSkipped ·)

/-- The first character that counts, and the text after it. -/
def next? : List Char → Option (Char × List Char)
  | [] => none
  | c :: rest => if isSkipped c then next? rest else some (c, rest)

/-- Whether a character separates segments. -/
def isSeparator (kind : SchemeKind) (c : Char) : Bool := c == '/' || (kind.isSpecial && c == '\\')

/-- Whether a segment is a step to the same place, its dot escaped or not. -/
def isSingleDot (cs : List Char) : Bool :=
  cs == ['.'] || cs.map Char.toLower == "%2e".toList

/-- Whether a segment is a step back, its dots escaped or not. -/
def isDoubleDot (cs : List Char) : Bool :=
  let lowered := cs.map Char.toLower
  lowered == "..".toList || lowered == ".%2e".toList || lowered == "%2e.".toList ||
    lowered == "%2e%2e".toList

/-- A drive letter: a letter and a colon, or a bar for the colon. -/
def isDriveLetter : List Char → Bool
  | [c, mark] => c.isAlpha && (mark == ':' || mark == '|')
  | _ => false

/-- A drive letter with its colon. -/
def isDrive : List Char → Bool
  | [c, ':'] => c.isAlpha
  | _ => false

/-- Whether a segment starts with a drive letter that ends there or at a backslash. -/
def startsAtDrive : List Char → Bool
  | c :: mark :: rest =>
    c.isAlpha && (mark == ':' || mark == '|') && (rest.isEmpty || rest.head? == some '\\')
  | _ => false

/-- The part of a path up to its last slash, which is kept. -/
def upToSlash (path : List Char) : List Char := (path.reverse.dropWhile (· != '/')).reverse

/-- The part of a path after its last slash. -/
def pastSlash (path : List Char) : List Char := (path.reverse.takeWhile (· != '/')).reverse

/-- What a path has to know of the text around it: the syntax of the scheme, and whether a slash
stands right before the path. -/
structure Site where
  kind : SchemeKind
  afterSlash : Bool

/-- A path while it is read: what is written before the segment at hand, and that segment. -/
structure Draft where
  before : List Char
  segment : List Char

/-- Everything that is written of a path. -/
def Draft.text (d : Draft) : List Char := d.before ++ d.segment

namespace Site

/-- Whether the text ends with a slash after a path. -/
def endsWithSlash (s : Site) (path : List Char) : Bool :=
  match path.getLast? with
  | none => s.afterSlash
  | some c => c == '/'

/-- The path with a slash at its end. -/
def withSlash (s : Site) (path : List Char) : List Char :=
  if s.endsWithSlash path then path else path ++ ['/']

/-- Whether the slash at the end of a path may go together with the segment before it: it is not
the one at the start, and that segment is no drive letter. -/
def losesSlash (path : List Char) : Bool :=
  path.dropLast.contains '/' && !startsAtDrive (pastSlash path.dropLast)

/-- The path without its last segment. The drive letter of a file stays. -/
def pop (s : Site) (path : List Char) : List Char :=
  if s.kind == .file && (isDrive path || isDrive (pastSlash path)) then path else upToSlash path

/-- The path after a segment of two dots. -/
def stepBack (s : Site) (path : List Char) (followed : Bool) : List Char :=
  let path := s.pop (if s.endsWithSlash path && losesSlash path then path.dropLast else path)
  if followed then s.withSlash path else path

/-- A stretch of a segment is written. After a drive letter that was read as far as the stretch
before, a slash comes first, and the segment loses its first character to the path. -/
def write (s : Site) (d : Draft) (stretch : List Char) : Draft :=
  if stretch.isEmpty then d
  else
    let d :=
      if s.kind == .file && isDrive (d.text.drop 1) then
        let text := d.text ++ ['/']
        ⟨text.take (d.before.length + 1), text.drop (d.before.length + 1)⟩
      else d
    { d with segment := d.segment ++ Percent.encode pathSet stretch }

/-- The draft after all of a segment. -/
def draft (s : Site) (path segment : List Char) : Draft :=
  (segment.splitOnP isSkipped).foldl s.write ⟨path, []⟩

/-- The path after a segment, and whether the segment is a drive letter at its start. `followed`
says whether a separator comes after the segment. -/
def place (s : Site) (d : Draft) (followed : Bool) : List Char × Bool :=
  let slash := if followed then ['/'] else []
  if isDoubleDot d.segment then (s.stepBack d.before followed, false)
  else if isSingleDot d.segment then (s.withSlash d.before, false)
  else if s.kind == .file && d.before.length == 1 && isDriveLetter d.segment then
    (d.before ++ d.segment.take 1 ++ ':' :: slash, true)
  else (d.text ++ slash, false)

/-- The path after segments, given the path so far, and whether one of them was a drive letter at
its start. -/
def readSegments (s : Site) (path : List Char) : List (List Char) → List Char × Bool
  | [] => (path, false)
  | [segment] => s.place (s.draft path segment) false
  | segment :: rest =>
    let (path, drive) := s.place (s.draft path segment) true
    let (path, later) := readSegments s path rest
    (path, drive || later)

/-- The path after a text, given the path so far, and whether it starts with a drive letter. The
path of a file has no empty segment at its start. -/
def readPath (s : Site) (path cs : List Char) : List Char × Bool :=
  let (path, drive) := s.readSegments path (cs.splitOnP (isSeparator s.kind))
  (if s.kind == .file then '/' :: path.dropWhile (· == '/') else path, drive)

/-- The path that a text stands for where it follows the authority. In the special schemes it has a
slash at its start, in the others it may be empty. -/
def readPathStart (s : Site) (cs : List Char) : List Char × Bool :=
  match next? cs with
  | none => s.readPath (if s.kind.isSpecial && !s.afterSlash then ['/'] else []) cs
  | some (c, rest) =>
    if s.kind.isSpecial then
      if s.afterSlash then s.readPath [] cs
      else s.readPath ['/'] (if isSeparator s.kind c then rest else cs)
    else s.readPath (if c == '/' then [] else ['/']) cs

end Site

end Waybill.Url
