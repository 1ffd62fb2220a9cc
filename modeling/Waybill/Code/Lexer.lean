import Waybill.Code.Lexer.Numeral
import Waybill.Code.Lexer.Quotation
import Waybill.Code.Token
import Waybill.Text.Blank

/-!
# Reading tokens

A text is read token by token. Blanks and comments are skipped, except comments that document what
follows: these become attributes. Brackets must match; what stands between two of them is a group.

A literal is tried first, then a mark, then a word, so that `b"x"` is no word followed by a text. A
quote mark is the start of a lifetime only if a name follows it and no quote mark follows the name.

## Main definitions

* `Waybill.Code.skip` — blanks and comments.
* `Waybill.Code.leaf` — a token that is no group.
* `Waybill.Code.lex` — the tokens of a text.
-/

namespace Waybill.Code

/-- Marks of the language. -/
def isMark (c : Char) : Bool := "~!@#$%^&*-=+|;:,<.>/?'".toList.contains c

/-- Blanks between tokens; the two marks of writing direction count. -/
def isGap (c : Char) : Bool := isBlank c || c.toNat == 0x200E || c.toNat == 0x200F

/-- Whether a text starts with another one. -/
def startsWith (cs : List Char) (start : String) : Bool := start.toList.isPrefixOf cs

/-- What stands before the rest of a text. -/
def before (cs rest : List Char) : List Char := cs.take (cs.length - rest.length)

/-! ### Comments -/

/-- What follows the end of a comment; `depth` comments are open. -/
def afterComment (depth : Nat) : List Char → Option (List Char)
  | '/' :: '*' :: rest => afterComment (depth + 1) rest
  | '*' :: '/' :: rest => if depth ≤ 1 then some rest else afterComment (depth - 1) rest
  | _ :: rest => afterComment depth rest
  | [] => none

/-- A line without its end, and what follows it. -/
def splitLine : List Char → List Char × List Char
  | [] => ([], [])
  | '\n' :: rest => ([], '\n' :: rest)
  | '\r' :: '\n' :: rest => ([], '\n' :: rest)
  | c :: rest =>
    let (line, after) := splitLine rest
    (c :: line, after)

/-- Whether a line comment starts here that documents nothing. -/
def isLineComment (cs : List Char) : Bool :=
  startsWith cs "//" && (!startsWith cs "///" || startsWith cs "////") && !startsWith cs "//!"

/-- Whether a block comment starts here that documents nothing. -/
def isBlockComment (cs : List Char) : Bool :=
  startsWith cs "/**/" ||
    (startsWith cs "/*" && (!startsWith cs "/**" || startsWith cs "/***") && !startsWith cs "/*!")

/-- A text without the blanks and comments at its start, at most `fuel` of them. -/
def skipUpTo : Nat → List Char → List Char
  | 0, cs => cs
  | fuel + 1, cs =>
    if isLineComment cs then skipUpTo fuel (splitLine cs).2
    else if isBlockComment cs then
      match afterComment 0 cs with
      | some rest => skipUpTo fuel rest
      | none => cs
    else
      match cs with
      | c :: rest => if isGap c then skipUpTo fuel rest else cs
      | [] => []

/-- A text without the blanks and comments at its start. -/
def skip (cs : List Char) : List Char := skipUpTo cs.length cs

/-- A comment that documents something, whether it documents what encloses it, and what follows. -/
def docComment (cs : List Char) : Option (List Char × Bool × List Char) :=
  let block (inner : Bool) : Option (List Char × Bool × List Char) :=
    (afterComment 0 cs).map fun rest =>
      let whole := before cs rest
      ((whole.drop 3).take (whole.length - 5), inner, rest)
  let line (inner : Bool) : Option (List Char × Bool × List Char) :=
    let (text, rest) := splitLine (cs.drop 3)
    some (text, inner, rest)
  if startsWith cs "//!" then line true
  else if startsWith cs "/*!" then block true
  else if startsWith cs "///" then if startsWith cs "////" then none else line false
  else if startsWith cs "/**" && !startsWith cs "/***" then block false
  else none

/-- Whether every carriage return stands before a line feed. -/
def hasNoLoneReturn : List Char → Bool
  | '\r' :: '\n' :: rest => hasNoLoneReturn rest
  | '\r' :: _ => false
  | _ :: rest => hasNoLoneReturn rest
  | [] => true

/-- The attribute that a comment becomes. -/
def docTokens (text : List Char) (inner : Bool) : List Token :=
  symbol "#" ++ (if inner then symbol "!" else []) ++
    brackets (.word "doc" :: symbol "=" ++ [textLiteral (String.ofList text)])

/-! ### Single tokens -/

/-- The `#`s before the quote of a raw text, and what follows the quote. -/
def rawOpening (cs : List Char) : Option (Nat × List Char) :=
  let hashes := (cs.takeWhile (· == '#')).length
  match cs.drop hashes with
  | '"' :: rest => if hashes ≤ 255 then some (hashes, rest) else none
  | _ => none

/-- A raw text, after the letters that announce it. -/
def rawText (kind : TextKind) (cs : List Char) : Option (List Char × List Char) :=
  (rawOpening cs).bind fun (hashes, rest) => readRaw kind hashes rest

/-- What a quoted literal stands for, and what follows its closing quote. -/
def quotedLiteral : List Char → Option (LiteralValue × List Char)
  | '"' :: rest =>
    (readQuoted .text .plain rest).map fun (s, rest) => (.text (String.ofList s), rest)
  | 'r' :: rest => (rawText .text rest).map fun (s, rest) => (.text (String.ofList s), rest)
  | 'b' :: '"' :: rest => (readQuoted .bytes .plain rest).map fun (_, rest) => (.other, rest)
  | 'b' :: 'r' :: rest => (rawText .bytes rest).map fun (_, rest) => (.other, rest)
  | 'b' :: '\'' :: rest =>
    match readSingle .bytes rest with
    | some (_, '\'' :: rest) => some (.other, rest)
    | _ => none
  | 'c' :: '"' :: rest => (readQuoted .terminated .plain rest).map fun (_, rest) => (.other, rest)
  | 'c' :: 'r' :: rest => (rawText .terminated rest).map fun (_, rest) => (.other, rest)
  | '\'' :: rest =>
    match readSingle .text rest with
    | some (c, '\'' :: rest) => some (.character c, rest)
    | _ => none
  | _ => none

/-- A literal, and what follows it with its suffix. -/
def literalToken (cs : List Char) : Option (Literal × List Char) :=
  match quotedLiteral cs with
  | some (value, rest) =>
    let rest := afterSuffix rest
    some (⟨String.ofList (before cs rest), value⟩, rest)
  | none =>
    (afterNumeral cs).map fun rest =>
      let written := before cs rest
      (⟨String.ofList written, numeralValue written⟩, rest)

/-- A mark at the start of a text. Comments do not start with a mark. -/
def markAt (cs : List Char) : Option (Char × List Char) :=
  match cs with
  | c :: rest =>
    if startsWith cs "//" || startsWith cs "/*" then none
    else if isMark c then some (c, rest) else none
  | [] => none

/-- A name, perhaps a keyword that `r#` makes a name, and what follows. -/
def wordToken (cs : List Char) : Option (List Char × List Char) :=
  match cs with
  | 'r' :: '#' :: rest =>
    match readWord rest with
    | some (name, rest) =>
      if ["_", "super", "self", "Self", "crate"].contains (String.ofList name) then none
      else some ('r' :: '#' :: name, rest)
    | none => none
  | _ => readWord cs

/-- Beginnings of literals, which are no names even when the literal is faulty. -/
def literalStarts : List String :=
  ["r\"", "r#\"", "r##", "b\"", "b'", "br\"", "br#", "c\"", "cr\"", "cr#"]

/-- A mark as a token. -/
def markToken (cs : List Char) : Option (Token × List Char) :=
  (markAt cs).bind fun (c, rest) =>
    if c == '\'' then
      match wordToken rest with
      | some (_, after) =>
        if after.head? == some '\'' || (after.head? == some '#' && !startsWith rest "r#") then none
        else some (.mark c true, rest)
      | none => none
    else some (.mark c (markAt rest).isSome, rest)

/-- A token that is no group. -/
def leaf (cs : List Char) : Option (Token × List Char) :=
  match literalToken cs with
  | some (value, rest) => some (.literal value, rest)
  | none =>
    match markToken cs with
    | some answer => some answer
    | none =>
      if literalStarts.any (startsWith cs) then none
      else (wordToken cs).map fun (name, rest) => (.word (String.ofList name), rest)

/-! ### Sequences -/

/-- The delimiter that a bracket opens. -/
def Delimiter.ofOpening? (c : Char) : Option Delimiter :=
  if c == '(' then some .parenthesis
  else if c == '[' then some .bracket
  else if c == '{' then some .brace
  else none

/-- The delimiter that a bracket closes. -/
def Delimiter.ofClosing? (c : Char) : Option Delimiter :=
  if c == ')' then some .parenthesis
  else if c == ']' then some .bracket
  else if c == '}' then some .brace
  else none

/-- The mark of code that could not be read, which is a literal of its own. -/
def faultMark : String := "(/*ERROR*/)"

/-- The tokens of a text. `met` has the tokens of the innermost open group in reverse, and `outer`
the groups around it with what was met before them. -/
def lexUpTo : Nat → List (Delimiter × List Token) → List Token → List Char → Option (List Token)
  | 0, _, _, _ => none
  | fuel + 1, outer, met, cs =>
    let cs := skip cs
    match docComment cs with
    | some (text, inner, rest) =>
      if hasNoLoneReturn text then
        lexUpTo fuel outer ((docTokens text inner).reverse ++ met) rest
      else none
    | none =>
      match cs with
      | [] => if outer.isEmpty then some met.reverse else none
      | c :: rest =>
        if startsWith cs faultMark then
          lexUpTo fuel outer (.literal ⟨faultMark, .other⟩ :: met) (cs.drop faultMark.length)
        else
          match Delimiter.ofOpening? c, Delimiter.ofClosing? c with
          | some delimiter, _ => lexUpTo fuel ((delimiter, met) :: outer) [] rest
          | none, some delimiter =>
            match outer with
            | (opened, before) :: outer =>
              if opened == delimiter then
                lexUpTo fuel outer (.group delimiter met.reverse :: before) rest
              else none
            | [] => none
          | none, none =>
            match leaf cs with
            | some (token, rest) => lexUpTo fuel outer (token :: met) rest
            | none => none

/-- A text without the mark of its byte order. -/
def withoutByteOrder : List Char → List Char
  | c :: rest => if c.toNat == 0xFEFF then rest else c :: rest
  | [] => []

/-- The tokens of a text, if it is code. -/
def lex (s : String) : Option (List Token) :=
  let cs := withoutByteOrder s.toList
  lexUpTo (cs.length + 1) [] [] cs

/-- Fixed code, written as a text: the tokens of the text with the gaps of symbols. -/
def code (s : String) : List Token := regapped ((lex s).getD [])

end Waybill.Code
