import Waybill.Pattern
import Waybill.Pattern.Flags
import Waybill.Pattern.Property

/-!
# Escapes in patterns

A backslash gives a letter a meaning, and takes that of any other sign of ASCII away.

## Main definitions

* `Waybill.Pattern.Escape`, `Waybill.Pattern.readEscape`.
-/

namespace Waybill.Pattern

/-- What an escape stands for. -/
inductive Escape where
  | char (c : Char)
  | set (s : CodeSet)
  | look (l : Look)

/-- Signs that stand for themselves after a backslash. -/
def isEscapable (c : Char) : Bool := Ascii.isAscii c && !c.isAlphanum && c != '<' && c != '>'

/-- A character by its code point in hexadecimal digits. -/
def hexChar (digits : List Char) : Reading Char :=
  match digits.mapM Ascii.hexValue? with
  | some values =>
    let n := values.foldl (fun n d => 16 * n + d) 0
    if digits.isEmpty || !n.isValidChar then .error .invalidEscape else .ok (Char.ofNat n)
  | none => .error .invalidEscape

/-- As many characters as said, without the blanks after each of them. -/
def takeDigits (flags : Flags) : Nat → List Char → Reading (List Char × List Char)
  | 0, cs => .ok ([], cs)
  | _, [] => .error .invalidEscape
  | n + 1, c :: rest => do
    let (taken, rest) ← takeDigits flags n (flags.skipSpaces rest)
    .ok (c :: taken, rest)

/-- A code point in braces, or in so many digits. Within ASCII, two digits are a byte, and only
those of ASCII are characters. -/
def readHex (flags : Flags) (digits : Nat) (cs : List Char) : Reading (Escape × List Char) := do
  match flags.skipSpaces cs with
  | '\x7b' :: rest =>
    let (inside, rest) ← flags.readBraced rest
    .ok (.char (← hexChar inside), rest)
  | cs =>
    let (inside, rest) ← takeDigits flags digits cs
    let c ← hexChar inside
    if flags.alphabet == .ascii && digits == 2 && !Ascii.isAscii c then .error .beyondAscii
    else .ok (.char c, rest)

/-- A set of characters with a property, by one letter or by what stands in braces. -/
def readProperty (flags : Flags) (negative : Bool) (cs : List Char) :
    Reading (Escape × List Char) := do
  let (inside, rest) ← match flags.skipSpaces cs with
    | '\x7b' :: rest => flags.readBraced rest
    | c :: rest => if c == '\\' then .error .unknownProperty else .ok ([c], rest)
    | [] => .error .unknownProperty
  if flags.alphabet == .ascii then .error .beyondAscii
  else match Property.set? inside with
    | some s => do .ok (.set (← flags.negated negative (flags.closed s)), rest)
    | none => .error .unknownProperty

/-- A set with a letter of its own. -/
def readShorthand (flags : Flags) (negative : Bool) (s : CodeSet) (rest : List Char) :
    Reading (Escape × List Char) := do
  .ok (.set (← flags.negated negative s), rest)

/-- The edges that have a name. -/
def edge? (name : String) : Option Edge :=
  if name == "start" then some .start
  else if name == "end" then some .stop
  else if name == "start-half" then some .startHalf
  else if name == "end-half" then some .stopHalf
  else none

/-- The edge after a `\b`, perhaps with its name in braces. Braces with something else are a number
of repetitions. -/
def readEdge (flags : Flags) (cs : List Char) : Reading (Edge × List Char) :=
  let isLetter (c : Char) := c.isAlpha || c == '-'
  match cs with
  | '\x7b' :: rest =>
    match flags.skipSpaces rest with
    | [] => .error .invalidEscape
    | c :: _ =>
      if !isLetter c then .ok (.boundary, cs)
      else match flags.takeSpaced isLetter false rest with
        | (name, '\x7d' :: rest) =>
          match edge? (String.ofList name) with
          | some edge => .ok (edge, rest)
          | none => .error .invalidEscape
        | _ => .error .invalidEscape
  | _ => .ok (.boundary, cs)

/-- An escape, after its backslash. -/
def readEscape (flags : Flags) (cs : List Char) : Reading (Escape × List Char) :=
  let letters := flags.alphabet
  match cs with
  | [] => .error .invalidEscape
  | c :: rest =>
    if c == 'd' then readShorthand flags false letters.digit rest
    else if c == 'D' then readShorthand flags true letters.digit rest
    else if c == 'w' then readShorthand flags false letters.word rest
    else if c == 'W' then readShorthand flags true letters.word rest
    else if c == 's' then readShorthand flags false letters.blank rest
    else if c == 'S' then readShorthand flags true letters.blank rest
    else if c == 'p' then readProperty flags false rest
    else if c == 'P' then readProperty flags true rest
    else if c == 'n' then .ok (.char '\n', rest)
    else if c == 't' then .ok (.char '\t', rest)
    else if c == 'r' then .ok (.char '\r', rest)
    else if c == 'a' then .ok (.char '\x07', rest)
    else if c == 'f' then .ok (.char '\x0C', rest)
    else if c == 'v' then .ok (.char '\x0B', rest)
    else if c == 'x' then readHex flags 2 rest
    else if c == 'u' then readHex flags 4 rest
    else if c == 'U' then readHex flags 8 rest
    else if c == 'A' then .ok (.look .start, rest)
    else if c == 'z' then .ok (.look .stop, rest)
    else if c == 'b' then do
      let (edge, rest) ← readEdge flags rest
      .ok (.look (.word edge letters), rest)
    else if c == 'B' then .ok (.look (.word .noBoundary letters), rest)
    else if c == '<' then .ok (.look (.word .start letters), rest)
    else if c == '>' then .ok (.look (.word .stop letters), rest)
    else if isEscapable c then .ok (.char c, rest)
    else .error .invalidEscape

end Waybill.Pattern
