import Waybill.Text.Quoted

/-!
# What is wrong with a JSON text

A fault of the text is a cause and the number of bytes up to the place where it shows. Diagnostics
give that place as a line and a column, both of which follow from the bytes before it.

## Main definitions

* `Waybill.Json.Cause`, `Waybill.Json.Fault`.
* `Waybill.Json.Place`, `Waybill.Json.place` — lines and columns.
-/

namespace Waybill.Json

/-- What is wrong with a JSON text. -/
inductive Cause where
  | endInValue
  | endInText
  | endInArray
  | endInObject
  | expectedColon
  | expectedCommaOrBracket
  | expectedCommaOrBrace
  | expectedWord
  | expectedValue
  | invalidEscape
  | invalidNumber
  | numberOutOfRange
  | invalidCodePoint
  | controlCharacter
  | keyNotText
  | loneSurrogate
  | halfSurrogate
  | trailingComma
  | trailingCharacters
  | tooDeep
deriving DecidableEq, Repr

/-- The wording of a cause. -/
def Cause.message : Cause → String
  | .endInValue => "EOF while parsing a value"
  | .endInText => "EOF while parsing a string"
  | .endInArray => "EOF while parsing a list"
  | .endInObject => "EOF while parsing an object"
  | .expectedColon => "expected `:`"
  | .expectedCommaOrBracket => "expected `,` or `]`"
  | .expectedCommaOrBrace => "expected `,` or `\x7d`"
  | .expectedWord => "expected ident"
  | .expectedValue => "expected value"
  | .invalidEscape => "invalid escape"
  | .invalidNumber => "invalid number"
  | .numberOutOfRange => "number out of range"
  | .invalidCodePoint => "invalid unicode code point"
  | .controlCharacter =>
    "control character (\\u0000-\\u001F) found while parsing a string"
  | .keyNotText => "key must be a string"
  | .loneSurrogate => "lone leading surrogate in hex escape"
  | .halfSurrogate => "unexpected end of hex escape"
  | .trailingComma => "trailing comma"
  | .trailingCharacters => "trailing characters"
  | .tooDeep => "recursion limit exceeded"

/-- A cause, and the number of bytes up to the place where it shows. -/
structure Fault where
  cause : Cause
  offset : Nat
deriving DecidableEq, Repr

/-- A place in a text. -/
structure Place where
  line : Nat
  column : Nat
deriving DecidableEq, Repr

/-- The place after the given number of bytes: lines count from one, and a column is the number of
bytes since the line break. -/
def place (body : List UInt8) (offset : Nat) : Place :=
  let before := body.take offset
  ⟨1 + before.count 0x0A, (before.reverse.takeWhile (· != 0x0A)).length⟩

end Waybill.Json
