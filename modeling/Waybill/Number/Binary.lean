/-!
# Binary floating-point numbers

Numbers on the wire that are not integers are binary floating-point numbers of 64 or 32 bits. They
are kept here as what they denote, a significand times a power of two, so that every operation on
them is exact arithmetic followed by one rounding.

Rounding goes to the nearest number of the format and, between two that are equally near, to the one
with an even significand. A quotient that is too large rounds to an infinity.

## Main definitions

* `Waybill.Binary` — a floating-point number.
* `Waybill.Binary.Format`, `Waybill.Binary.Format.double`, `Waybill.Binary.Format.single`.
* `Waybill.Binary.round` — the number of a format nearest to a quotient.
* `Waybill.Binary.ofNat`, `Waybill.Binary.mul`, `Waybill.Binary.div` — rounded arithmetic.
-/

namespace Waybill

/-- A floating-point number: `± significand · 2 ^ exponent`, an infinity, or no number. -/
inductive Binary where
  | finite (negative : Bool) (significand : Nat) (exponent : Int)
  | infinite (negative : Bool)
  | notANumber
deriving DecidableEq, Repr

namespace Binary

/-- The bits of a significand and the range of exponents. -/
structure Format where
  precision : Nat
  least : Int
  greatest : Int
deriving DecidableEq, Repr

/-- The format of 64 bits. -/
def Format.double : Format := ⟨53, -1074, 971⟩

/-- The format of 32 bits. -/
def Format.single : Format := ⟨24, -149, 104⟩

/-- A quotient `num / den · 2 ^ -exponent` as a new quotient of natural numbers. -/
def scale (num den : Nat) (exponent : Int) : Nat × Nat :=
  if exponent ≤ 0 then (num * Nat.pow 2 (-exponent).toNat, den)
  else (num, den * Nat.pow 2 exponent.toNat)

/-- The natural number nearest to a quotient, an even one if two are equally near. -/
def nearest (num den : Nat) : Nat :=
  let q := num / den
  let r := num % den
  if 2 * r < den then q
  else if den < 2 * r then q + 1
  else if q % 2 == 0 then q else q + 1

/-- The exponent with which the quotient has as many bits as the format holds, or the least one. -/
def exponentOf (f : Format) (num den : Nat) : Int :=
  let e : Int := (Nat.log2 num : Int) - Nat.log2 den - f.precision
  let (n, d) := scale num den e
  let e := if n < d * Nat.pow 2 f.precision then e else e + 1
  if e < f.least then f.least else e

/-- The number of the format nearest to the quotient of two natural numbers. -/
def round (f : Format) (negative : Bool) (num den : Nat) : Binary :=
  if num == 0 then .finite negative 0 f.least
  else
    let e := exponentOf f num den
    let (n, d) := scale num den e
    let m := nearest n d
    let (m, e) :=
      if m == Nat.pow 2 f.precision then (Nat.pow 2 (f.precision - 1), e + 1) else (m, e)
    if f.greatest < e then .infinite negative else .finite negative m e

/-- The number nearest to a natural number, with a sign. -/
def ofNat (f : Format) (negative : Bool) (n : Nat) : Binary := round f negative n 1

/-- The number nearest to an integer. -/
def ofInt (f : Format) (i : Int) : Binary := ofNat f (i < 0) i.natAbs

/-- Whether the number is zero, of either sign. -/
def isZero : Binary → Bool
  | finite _ m _ => m == 0
  | _ => false

/-- Whether the number is an infinity. -/
def isInfinite : Binary → Bool
  | infinite _ => true
  | _ => false

/-- The rounded product of two finite numbers; other operands give no number. -/
def mul (f : Format) : Binary → Binary → Binary
  | finite s m e, finite t n k =>
    let (num, den) := scale (m * n) 1 (-(e + k))
    round f (s != t) num den
  | infinite s, finite t _ _ => .infinite (s != t)
  | finite s _ _, infinite t => .infinite (s != t)
  | _, _ => .notANumber

/-- The rounded quotient of two finite numbers of which the second is not zero; other operands give
no number. -/
def div (f : Format) : Binary → Binary → Binary
  | finite s m e, finite t n k =>
    if n == 0 then .notANumber
    else
      let (num, den) := scale m n (k - e)
      round f (s != t) num den
  | _, _ => .notANumber

/-- The same number with the opposite sign. -/
def negate : Binary → Binary
  | finite s m e => .finite (!s) m e
  | infinite s => .infinite (!s)
  | notANumber => .notANumber

end Binary

end Waybill
