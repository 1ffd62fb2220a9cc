import Waybill.Code.Literal

/-!
# Tokens

Code is a sequence of words, marks and literals, with groups between brackets. A mark knows whether
the next token follows it without a gap. The text of a sequence has one space between two tokens,
except after such marks and inside parentheses and square brackets.

## Main definitions

* `Waybill.Code.Token`, `Waybill.Code.Delimiter`.
* `Waybill.Code.textOf` — the text of a sequence.
* `Waybill.Code.symbol`, `Waybill.Code.parentheses`, `Waybill.Code.brackets`,
  `Waybill.Code.braces` — sequences.
-/

namespace Waybill.Code

/-- What a group stands between. -/
inductive Delimiter where
  | parenthesis
  | bracket
  | brace
deriving DecidableEq, Repr

/-- A token. -/
inductive Token where
  | word (name : String)
  /-- A punctuation character; `joined` says that the next token follows without a gap. -/
  | mark (c : Char) (joined : Bool)
  | literal (value : Literal)
  | group (delimiter : Delimiter) (inner : List Token)
deriving Repr

namespace Delimiter

/-- The bracket before a group. -/
def opening : Delimiter → String
  | parenthesis => "("
  | bracket => "["
  | brace => "\x7b "

/-- The bracket after a group, which is empty or not. -/
def closing (isEmpty : Bool) : Delimiter → String
  | parenthesis => ")"
  | bracket => "]"
  | brace => if isEmpty then "\x7d" else " \x7d"

end Delimiter

/-- What stands between a token and the next one. -/
def Token.gap : Token → String
  | .mark _ true => ""
  | _ => " "

mutual

/-- The text of a token. -/
def Token.text : Token → String
  | .word name => name
  | .mark c _ => c.toString
  | .literal value => value.written
  | .group delimiter inner =>
    delimiter.opening ++ textOf inner ++ delimiter.closing inner.isEmpty

/-- The text of a sequence of tokens. -/
def textOf : List Token → String
  | [] => ""
  | [t] => t.text
  | t :: u :: rest => t.text ++ t.gap ++ textOf (u :: rest)

end

/-- Marks that belong together. -/
def marks : List Char → List Token
  | [] => []
  | [c] => [.mark c false]
  | c :: d :: rest => .mark c true :: marks (d :: rest)

/-- A symbol made of marks. -/
def symbol (s : String) : List Token := marks s.toList

/-- A sequence in parentheses. -/
def parentheses (inner : List Token) : List Token := [.group .parenthesis inner]

/-- A sequence in square brackets. -/
def brackets (inner : List Token) : List Token := [.group .bracket inner]

/-- A sequence in braces. -/
def braces (inner : List Token) : List Token := [.group .brace inner]

/-- The literal of a text. -/
def textLiteral (s : String) : Token := .literal (.ofText s)

/-- Sequences with a symbol between any two. -/
def separated (separator : String) (parts : List (List Token)) : List Token :=
  (symbol separator).intercalate parts

/-- Sequences with a symbol after each. -/
def terminated (terminator : String) (parts : List (List Token)) : List Token :=
  parts.flatMap (· ++ symbol terminator)

/-! ### Gaps of symbols -/

/-- Marks that make one symbol. -/
def isPair (a b : Char) : Bool :=
  (a == ':' && b == ':') || (a == '-' && b == '>') || (a == '=' && b == '>')

mutual

/-- A token whose groups have no gaps but those of symbols. -/
def Token.regapped : Token → Token
  | .group delimiter inner => .group delimiter (regapped inner)
  | .mark c _ => .mark c (c == '\'')
  | t => t

/-- A sequence in which marks are joined only to make a symbol or the name of a lifetime, however it
was written. -/
def regapped : List Token → List Token
  | .mark a joined :: .mark b next :: rest =>
    if joined && isPair a b then .mark a true :: .mark b false :: regapped rest
    else .mark a (a == '\'') :: regapped (.mark b next :: rest)
  | t :: rest => t.regapped :: regapped rest
  | [] => []

end

end Waybill.Code
