import Waybill.Text.Hidden

/-!
# Quoted texts

Diagnostics and generated string literals show a text between quotes. Quotes and backslashes carry
a backslash, the common controls have a letter, and other characters that would not be seen are
shown by their code point in braces.

## Main definitions

* `Waybill.Quoted.char` — one character inside quotes.
* `Waybill.Quoted.text` — a text between double quotes, as diagnostics show it.
* `Waybill.hexDigits` — a number in base sixteen.
-/

namespace Waybill

/-- A number in base sixteen with small letters. -/
def hexDigits (n : Nat) : String := String.ofList (Nat.toDigits 16 n)

namespace Quoted

/-- A character shown by its code point. -/
def byCode (c : Char) : String := "\\u\x7b" ++ hexDigits c.toNat ++ "\x7d"

/-- A character inside quotes; `quotes` are the quotes that carry a backslash. -/
def char (quotes : List Char) (c : Char) : String :=
  if c == '\x00' then "\\0"
  else if c == '\t' then "\\t"
  else if c == '\r' then "\\r"
  else if c == '\n' then "\\n"
  else if c == '\\' then "\\\\"
  else if quotes.contains c then "\\" ++ c.toString
  else if isShownByCode c then byCode c
  else c.toString

/-- The inside of a quoted text. -/
def inside (quotes : List Char) (cs : List Char) : String := String.join (cs.map (char quotes))

/-- A text between double quotes. -/
def text (s : String) : String := "\"" ++ inside ['"'] s.toList ++ "\""

end Quoted

end Waybill
