/-!
# Packed tables

The properties of characters are data of the Unicode standard: thousands of numbers, most of them
small. A table keeps them as rows of digits of base 32, two kinds of digit to each value: one that
goes on and one that ends a number. The rows are a way to break long lines, and a number may go on
in the next row.

## Main definitions

* `Waybill.Packed.numbers` — the numbers of a table.
* `Waybill.Packed.signed` — whole numbers of either sign, which alternate in their packed form.
-/

namespace Waybill.Packed

/-- The value of a digit, below 32 for a digit that ends a number. -/
def digit (c : Char) : Nat :=
  if c.isDigit then c.toNat - '0'.toNat
  else if c.isUpper then c.toNat - 'A'.toNat + 10
  else if c.isLower then c.toNat - 'a'.toNat + 36
  else if c == '+' then 62
  else 63

/-- The numbers before a digit, with the part of the next that is read, and the digit. -/
def push (state : Array Nat × Nat) (c : Char) : Array Nat × Nat :=
  let d := digit c
  if 32 ≤ d then (state.1, 32 * state.2 + (d - 32)) else (state.1.push (32 * state.2 + d), 0)

/-- The numbers of a table. -/
def numbers (rows : List String) : List Nat :=
  (rows.foldl (fun state row => row.foldl push state) (#[], 0)).1.toList

/-- The whole number that a packed number stands for: 0, -1, 1, -2, 2 and so on. -/
def signed (n : Nat) : Int := if n % 2 == 0 then (n / 2 : Nat) else -((n / 2 : Nat) : Int) - 1

end Waybill.Packed
