import Waybill.Number.Binary
import Waybill.Text.Ascii

/-!
# Decimal texts of binary numbers

A finite binary number is written with the fewest decimal digits that still round to it; of the
texts with that many digits, the one nearest to the number is taken. Reading a decimal text rounds
once, to the nearest number of the format.

Which of the shortest digits are written positionally, and how an exponent looks, differs between
the places where numbers appear. These decisions are values of `Decimal.Style`.

## Main definitions

* `Waybill.Decimal.shortest` — the digits of a number and the power of ten they are scaled by.
* `Waybill.Decimal.Style`, `Waybill.Decimal.write` — digits as text.
* `Waybill.Decimal.plain` — digits without an exponent.
* `Waybill.Decimal.read?` — the number that a decimal text stands for.
-/

namespace Waybill.Decimal

/-! ### The shortest digits -/

/-- The interval of reals that round to `significand · 2 ^ exponent`, in units of
`2 ^ (exponent - 2)`: its ends, and whether they belong to it. The lower half is narrower where the
spacing of the format changes. -/
def interval (f : Binary.Format) (significand : Nat) (exponent : Int) : Nat × Nat × Bool :=
  let low :=
    if significand == Nat.pow 2 (f.precision - 1) && f.least < exponent then 4 * significand - 1
    else 4 * significand - 2
  (low, 4 * significand + 2, significand % 2 == 0)

/-- A quotient of natural numbers that equals `n · 2 ^ binary / 10 ^ decimal`. -/
def ratio (n : Nat) (binary decimal : Int) : Nat × Nat :=
  (n * Nat.pow 2 binary.toNat * Nat.pow 10 (-decimal).toNat,
    Nat.pow 2 (-binary).toNat * Nat.pow 10 decimal.toNat)

/-- Whether a multiple of `10 ^ decimal` lies in the interval. -/
def inside (f : Binary.Format) (significand : Nat) (exponent decimal : Int) (digits : Nat) : Bool :=
  let (low, high, closed) := interval f significand exponent
  let (ln, ld) := ratio low (exponent - 2) decimal
  let (hn, hd) := ratio high (exponent - 2) decimal
  if closed then ln ≤ digits * ld && digits * hd ≤ hn else ln < digits * ld && digits * hd < hn

/-- The multiple of `10 ^ decimal` next to the number, if one lies in the interval; the nearer of
two, and the even one of two that are equally near. -/
def onGrid? (f : Binary.Format) (significand : Nat) (exponent decimal : Int) : Option Nat :=
  let (n, d) := ratio significand exponent decimal
  let below := n / d
  let best := Binary.nearest n d
  let other := if best == below then below + 1 else below
  if inside f significand exponent decimal best then some best
  else if inside f significand exponent decimal other then some other
  else none

/-- The coarsest grid with a hit, tried downwards from the given power of ten. -/
def search (f : Binary.Format) (significand : Nat) (exponent : Int) :
    Nat → Int → Option (Nat × Int)
  | 0, _ => none
  | fuel + 1, decimal =>
    match onGrid? f significand exponent decimal with
    | some digits => some (digits, decimal)
    | none => search f significand exponent fuel (decimal - 1)

/-- The fewest digits that round to a positive number, with the power of ten they are scaled by.
The search starts above the number and ends within its precision. -/
def shortest (f : Binary.Format) (significand : Nat) (exponent : Int) : Nat × Int :=
  let top := ((Nat.log2 significand : Int) + exponent) * 30103 / 100000 + 2
  (search f significand exponent 24 top).getD (0, 0)

/-! ### Writing -/

/-- Where a decimal text turns to an exponent, and how the exponent looks. A number
`0.d₁d₂… · 10 ^ point` is written positionally when `low < point ≤ high`. -/
structure Style where
  low : Int
  high : Int
  /-- Whether a positive exponent carries a sign. -/
  signed : Bool

/-- `n` zeros. -/
def zeros (n : Nat) : String := String.ofList (List.replicate n '0')

/-- The exponent part of a text. -/
def exponentPart (style : Style) (e : Int) : String :=
  if e < 0 then s!"e{e}" else if style.signed then s!"e+{e}" else s!"e{e}"

/-- Digits scaled by a power of ten, as text with a point or an exponent. -/
def layOut (style : Style) (digits : Nat) (decimal : Int) : String :=
  let ds := toString digits
  let point : Int := ds.length + decimal
  if style.low < point && point ≤ style.high then
    if 0 ≤ decimal then ds ++ zeros decimal.toNat ++ ".0"
    else if 0 < point then
      String.ofList (ds.toList.take point.toNat) ++ "." ++
        String.ofList (ds.toList.drop point.toNat)
    else "0." ++ zeros (-point).toNat ++ ds
  else
    let tail := String.ofList (ds.toList.drop 1)
    String.ofList (ds.toList.take 1) ++ (if tail.isEmpty then "" else "." ++ tail) ++
      exponentPart style (point - 1)

/-- A sign for negative numbers. -/
def sign (negative : Bool) : String := if negative then "-" else ""

/-- A finite number in a style; zero has one place after the point. Infinities and undefined numbers
have no such text. -/
def write? (f : Binary.Format) (style : Style) : Binary → Option String
  | .finite negative m e =>
    if m == 0 then some (sign negative ++ "0.0")
    else
      let (digits, decimal) := shortest f m e
      some (sign negative ++ layOut style digits decimal)
  | _ => none

/-- The words for what is no finite number. -/
def word : Binary → String
  | .infinite negative => sign negative ++ "inf"
  | _ => "NaN"

/-- A number in a style, or the word for it. -/
def write (f : Binary.Format) (style : Style) (x : Binary) : String :=
  (write? f style x).getD (word x)

/-- A number without an exponent, and without a point when it is an integer. -/
def plain (f : Binary.Format) : Binary → String
  | .finite negative m e =>
    if m == 0 then sign negative ++ "0"
    else
      let (digits, decimal) := shortest f m e
      let ds := toString digits
      let point : Int := ds.length + decimal
      sign negative ++
        if 0 ≤ decimal then ds ++ zeros decimal.toNat
        else if 0 < point then
          String.ofList (ds.toList.take point.toNat) ++ "." ++
            String.ofList (ds.toList.drop point.toNat)
        else "0." ++ zeros (-point).toNat ++ ds
  | x => word x

/-! ### Reading -/

/-- The number nearest to `digits · 10 ^ decimal`. Scales beyond the range of the format are decided
by the number of digits, without writing them out. -/
def ofDigits (f : Binary.Format) (negative : Bool) (digits : Nat) (decimal : Int) : Binary :=
  if digits == 0 then .finite negative 0 f.least
  else
    let point : Int := (Nat.toDigits 10 digits).length + decimal
    if 400 < point then .infinite negative
    else if point < -400 then .finite negative 0 f.least
    else
      let (n, d) := ratio digits 0 (-decimal)
      Binary.round f negative n d

/-- The natural number that decimal digits denote. -/
def natOfDigits (cs : List Char) : Nat := cs.foldl (fun n c => 10 * n + (c.toNat - '0'.toNat)) 0

/-- The exponent after the mark `e`: an optional sign and at least one digit. -/
def exponent? (cs : List Char) : Option Int :=
  let (negative, ds) := match cs with
    | '-' :: ds => (true, ds)
    | '+' :: ds => (false, ds)
    | ds => (false, ds)
  if ds.isEmpty || !ds.all Char.isDigit then none
  else some (if negative then -(natOfDigits ds : Int) else natOfDigits ds)

/-- The number that an unsigned decimal text stands for: digits with an optional point and at least
one digit in all, and an optional exponent. -/
def unsigned? (f : Binary.Format) (negative : Bool) (cs : List Char) : Option Binary :=
  let whole := cs.takeWhile Char.isDigit
  let rest := cs.dropWhile Char.isDigit
  let (fraction, rest) := match rest with
    | '.' :: rest => (rest.takeWhile Char.isDigit, rest.dropWhile Char.isDigit)
    | _ => ([], rest)
  if whole.isEmpty && fraction.isEmpty then none
  else
    let number (e : Int) :=
      ofDigits f negative (natOfDigits (whole ++ fraction)) (e - fraction.length)
    match rest with
    | [] => some (number 0)
    | c :: rest => if c == 'e' || c == 'E' then (exponent? rest).map number else none

/-- The number that a decimal text stands for: an optional sign, then digits or one of the words
`inf`, `infinity` and `nan` in any case. -/
def read? (f : Binary.Format) (s : String) : Option Binary :=
  let (negative, cs) := match s.toList with
    | '-' :: cs => (true, cs)
    | '+' :: cs => (false, cs)
    | cs => (false, cs)
  let lowered := String.ofList (cs.map Char.toLower)
  if lowered == "inf" || lowered == "infinity" then some (.infinite negative)
  else if lowered == "nan" then some .notANumber
  else unsigned? f negative cs

end Waybill.Decimal
