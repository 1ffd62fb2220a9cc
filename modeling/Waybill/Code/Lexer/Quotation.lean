import Waybill.Text.Ascii

/-!
# Quoted literals

What stands between the quotes of a literal is read character by character, by a machine with one
state for each place inside an escape. Three kinds of texts differ in which characters and escapes
they allow. A line break may be escaped; it and the blanks after it are left out. A carriage return
must stand before a line feed, and the two count as the line feed.

Raw texts have no escapes and end at a quote with as many `#` as they began with.

## Main definitions

* `Waybill.Code.TextKind`, `Waybill.Code.Inside` — the kinds and the states.
* `Waybill.Code.Inside.step` — reading one character.
* `Waybill.Code.readQuoted`, `Waybill.Code.readOne`, `Waybill.Code.readRaw` — texts, single
  characters and raw texts.
-/

namespace Waybill.Code

/-- The kinds of quoted literals. -/
inductive TextKind where
  | text
  | bytes
  /-- A text that ends with a zero, and so has none inside. -/
  | terminated
deriving DecidableEq, Repr

/-- Where a reader is. -/
inductive Inside where
  | plain
  /-- After a carriage return. -/
  | lineBreak
  /-- After a backslash. -/
  | escape
  | firstDigit
  | secondDigit (first : Nat)
  /-- Before the brace of an escaped code point. -/
  | codePoint
  | codeDigits (value count : Nat)
  /-- In the blanks after an escaped line break. -/
  | gap
  /-- After a carriage return in these blanks. -/
  | gapLineBreak
deriving DecidableEq, Repr

/-- Characters that a letter stands for after a backslash. -/
def escapedBy (kind : TextKind) (c : Char) : Option Char :=
  if c == 'n' then some '\n'
  else if c == 'r' then some '\r'
  else if c == 't' then some '\t'
  else if c == '\\' || c == '\'' || c == '"' then some c
  else if c == '0' && kind != .terminated then some '\x00'
  else none

/-- Whether a kind of text may hold a character. -/
def TextKind.allows (kind : TextKind) (c : Char) : Bool :=
  match kind with
  | .text => true
  | .bytes => Ascii.isAscii c
  | .terminated => c != '\x00'

/-- A character that an escape stands for, if it may stand there. -/
def TextKind.yields (kind : TextKind) (n : Nat) : Option (Option Char × Inside) :=
  if n.isValidChar && !(kind == .terminated && n == 0) then some (some (Char.ofNat n), .plain)
  else none

/-- One character outside escapes. -/
def Inside.plainStep (kind : TextKind) (c : Char) : Option (Option Char × Inside) :=
  if c == '\r' then some (none, .lineBreak)
  else if c == '\\' then some (none, .escape)
  else if kind.allows c then some (some c, .plain)
  else none

/-- One character: what it adds to the text, and the next state. -/
def Inside.step (kind : TextKind) (c : Char) : Inside → Option (Option Char × Inside)
  | .plain => plainStep kind c
  | .lineBreak => if c == '\n' then some (some '\n', .plain) else none
  | .escape =>
    if c == 'x' then some (none, .firstDigit)
    else if c == 'u' && kind != .bytes then some (none, .codePoint)
    else if c == '\n' then some (none, .gap)
    else if c == '\r' then some (none, .gapLineBreak)
    else (escapedBy kind c).map fun d => (some d, .plain)
  | .firstDigit =>
    match Ascii.hexValue? c with
    | some v => if v < 8 || kind != .text then some (none, .secondDigit v) else none
    | none => none
  | .secondDigit first =>
    match Ascii.hexValue? c with
    | some v => kind.yields (16 * first + v)
    | none => none
  | .codePoint => if c == '{' then some (none, .codeDigits 0 0) else none
  | .codeDigits value count =>
    match Ascii.hexValue? c with
    | some v => if count < 6 then some (none, .codeDigits (16 * value + v) (count + 1)) else none
    | none =>
      if c == '_' && count > 0 then some (none, .codeDigits value count)
      else if c == '}' && count > 0 then kind.yields value
      else none
  | .gap =>
    if c == ' ' || c == '\t' || c == '\n' then some (none, .gap)
    else if c == '\r' then some (none, .gapLineBreak)
    else plainStep kind c
  | .gapLineBreak => if c == '\n' then some (none, .gap) else none

/-- Whether a quote ends the text. -/
def Inside.mayEnd : Inside → Bool
  | .plain => true
  | .gap => true
  | _ => false

/-- What a text stands for up to its closing quote, and what follows. -/
def readQuoted (kind : TextKind) (state : Inside) : List Char → Option (List Char × List Char)
  | [] => none
  | c :: rest =>
    if c == '"' && state.mayEnd then some ([], rest)
    else
      match state.step kind c with
      | none => none
      | some (added, next) =>
        (readQuoted kind next rest).map fun (cs, rest) => (added.toList ++ cs, rest)

/-- The first character that an escape stands for, and what follows. -/
def readOne (kind : TextKind) (state : Inside) : List Char → Option (Char × List Char)
  | [] => none
  | c :: rest =>
    match state.step kind c with
    | none => none
    | some (some d, _) => some (d, rest)
    | some (none, next) => readOne kind next rest

/-- The character between single quotes, without the opening quote. Line breaks cannot be escaped
there. -/
def readSingle (kind : TextKind) : List Char → Option (Char × List Char)
  | '\\' :: '\n' :: _ => none
  | '\\' :: '\r' :: _ => none
  | '\\' :: rest => readOne kind .escape rest
  | c :: rest => if kind.allows c then some (c, rest) else none
  | [] => none

/-- The inside of a raw text up to a quote with the given number of `#`, and what follows. -/
def readRaw (kind : TextKind) (hashes : Nat) : List Char → Option (List Char × List Char)
  | [] => none
  | c :: rest =>
    if c == '"' && (List.replicate hashes '#').isPrefixOf rest then some ([], rest.drop hashes)
    else if c == '\r' && rest.head? != some '\n' then none
    else if !kind.allows c then none
    else (readRaw kind hashes rest).map fun (cs, rest) => (c :: cs, rest)

end Waybill.Code
