import Waybill.Text.Quoted

/-!
# Literals of code

A literal keeps the way it is written, because generated code repeats what a declaration says, and
what it stands for, as far as anything looks into it. Texts and characters that are put into
generated code are written with escapes for whatever would not be seen.

## Main definitions

* `Waybill.Code.Literal`, `Waybill.Code.LiteralValue`.
* `Waybill.Code.Literal.ofText`, `Waybill.Code.Literal.ofChar` — literals for values.
-/

namespace Waybill.Code

/-- What a literal stands for. -/
inductive LiteralValue where
  | text (value : String)
  | character (value : Char)
  /-- A whole number and the type that is written behind it. -/
  | integer (value : Nat) (suffix : String)
  /-- A number with a fraction or an exponent, and the type that is written behind it. -/
  | decimal (suffix : String)
  /-- Bytes and texts that end with a zero. -/
  | other
deriving DecidableEq, Repr

/-- A literal: how it is written, and what it stands for. -/
structure Literal where
  written : String
  value : LiteralValue
deriving DecidableEq, Repr

namespace Literal

/-- A character of a text; `next` is the one after it. A zero before an octal digit is written in
full, so that the two are not read as one escape. -/
def escaped (c : Char) (next : Option Char) : String :=
  if c == '\x00' && next.any (fun d => '0' ≤ d && d ≤ '7') then "\\x00" else Quoted.char ['"'] c

/-- The inside of a text. -/
def inside : List Char → String
  | [] => ""
  | c :: rest => escaped c rest.head? ++ inside rest

/-- The literal of a text. -/
def ofText (s : String) : Literal := ⟨"\"" ++ inside s.toList ++ "\"", .text s⟩

/-- The literal of a text without quotes and backslashes, written as it is. -/
def verbatim (s : String) : Literal := ⟨"r\"" ++ s ++ "\"", .text s⟩

/-- The literal of a character. -/
def ofChar (c : Char) : Literal := ⟨"'" ++ Quoted.char ['\''] c ++ "'", .character c⟩

/-- The text that a literal stands for. -/
def text? (l : Literal) : Option String :=
  match l.value with
  | .text s => some s
  | _ => none

/-- Whether a literal is a number. -/
def isNumber (l : Literal) : Bool :=
  match l.value with
  | .integer _ _ | .decimal _ => true
  | _ => false

@[simp] theorem text?_ofText (s : String) : (ofText s).text? = some s := rfl

end Literal

end Waybill.Code
