import Waybill.Code.Literal
import Waybill.Text.Ascii
import Waybill.Text.Identifier

/-!
# Numerals

A numeral is a run of digits with underscores between them, perhaps in base two, eight or sixteen,
or with a fraction and an exponent, and perhaps with the name of a type behind it. Its extent is
found first; then it is told whether it is a whole number, and which one.

## Main definitions

* `Waybill.Code.readWord` — a name.
* `Waybill.Code.afterNumeral` — what follows a numeral.
* `Waybill.Code.numeralValue` — what a numeral stands for.
-/

namespace Waybill.Code

/-- A name at the start of a text, and what follows. -/
def readWord : List Char → Option (List Char × List Char)
  | [] => none
  | c :: rest =>
    if isIdentifierStart c then
      some (c :: rest.takeWhile isIdentifierPart, rest.dropWhile isIdentifierPart)
    else none

/-- What follows the name at the start of a text, if there is one. -/
def afterSuffix (cs : List Char) : List Char :=
  match readWord cs with
  | some (_, rest) => rest
  | none => cs

/-- Whether a whole text is a name. -/
def isWord (cs : List Char) : Bool :=
  match readWord cs with
  | some (_, []) => true
  | _ => false

/-- A text that no part of a name follows. -/
def atBreak (cs : List Char) : Option (List Char) :=
  match cs with
  | c :: _ => if isIdentifierPart c then none else some cs
  | [] => some cs

/-- Digits of base ten and the underscores between them. -/
def isDigitOrGap (c : Char) : Bool := c.isDigit || c == '_'

/-- What follows an exponent, whose letter has been read. -/
def afterExponent (cs : List Char) : Option (List Char) :=
  let digits :=
    match cs.dropWhile (· == '_') with
    | '+' :: rest => rest
    | '-' :: rest => rest
    | _ => cs
  if (digits.takeWhile isDigitOrGap).any Char.isDigit then some (digits.dropWhile isDigitOrGap)
  else none

/-- What follows a number with a fraction or an exponent. -/
def afterDecimalDigits : List Char → Option (List Char)
  | [] => none
  | c :: rest =>
    if !c.isDigit then none
    else
      match rest.dropWhile isDigitOrGap with
      | '.' :: after =>
        if after.head?.any fun d => d == '.' || isIdentifierStart d then none
        else
          match after.dropWhile isDigitOrGap with
          | e :: more =>
            if e == 'e' || e == 'E' then some ((afterExponent more).getD (e :: more))
            else some (e :: more)
          | [] => some []
      | e :: more => if e == 'e' || e == 'E' then afterExponent more else none
      | [] => none

/-- The base that a number announces, and its digits. -/
def splitBase : List Char → Nat × List Char
  | '0' :: 'x' :: rest => (16, rest)
  | '0' :: 'o' :: rest => (8, rest)
  | '0' :: 'b' :: rest => (2, rest)
  | cs => (10, cs)

/-- What follows the digits of a base. `started` says that a digit was read. A decimal digit that is
too large for the base is a fault, and so is a number without digits. -/
def afterBaseDigits (base : Nat) (started : Bool) : List Char → Option (List Char)
  | [] => if started then some [] else none
  | c :: rest =>
    if c == '_' then
      if !started && base == 10 then none else afterBaseDigits base started rest
    else
      match Ascii.hexValue? c with
      | some v =>
        if v < base then afterBaseDigits base true rest
        else if c.isDigit then none
        else if started then some (c :: rest) else none
      | none => if started then some (c :: rest) else none

/-- What follows a whole number. -/
def afterWholeDigits (cs : List Char) : Option (List Char) :=
  let (base, digits) := splitBase cs
  afterBaseDigits base false digits

/-- What follows a numeral, with the name of a type behind it. -/
def afterNumeral (cs : List Char) : Option (List Char) :=
  let decimal := (afterDecimalDigits cs).bind fun rest => atBreak (afterSuffix rest)
  match decimal with
  | some rest => some rest
  | none => (afterWholeDigits cs).bind fun rest => atBreak (afterSuffix rest)

/-! ### Values -/

/-- Whether the letter `e` and what follows it make a number decimal: it is an exponent with digits
and perhaps the name of a type. -/
def isExponent (cs : List Char) : Bool :=
  let rest := cs.dropWhile isDigitOrGap
  let hasDigits := (cs.takeWhile isDigitOrGap).any Char.isDigit
  match rest with
  | [] => hasDigits
  | c :: _ => c == '-' || c == '+' || (hasDigits && isWord rest)

/-- The value of digits up to the suffix, and the suffix; nothing for decimal numbers and for digits
that the base does not have. -/
def wholeValue (base value : Nat) (started : Bool) : List Char → Option (Nat × List Char)
  | [] => if started then some (value, []) else none
  | c :: rest =>
    if c == '_' then wholeValue base value started rest
    else if base == 10 && (c == '.' || ((c == 'e' || c == 'E') && isExponent rest)) then none
    else
      match if c.isDigit || base > 10 then Ascii.hexValue? c else none with
      | some v => if v < base then wholeValue base (value * base + v) true rest else none
      | none => if started then some (value, c :: rest) else none

/-- The suffix of a decimal number. The flags say whether a point, an exponent, its sign and its
digits were read. -/
def decimalSuffix (point exponent sign digits : Bool) : List Char → Option (List Char)
  | [] => if exponent && !digits then none else some []
  | c :: rest =>
    let stop := if exponent && !digits then none else some (c :: rest)
    if c == '_' then decimalSuffix point exponent sign digits rest
    else if c.isDigit then decimalSuffix point exponent sign (digits || exponent) rest
    else if c == '.' then
      if exponent || point then none else decimalSuffix true exponent sign digits rest
    else if c == 'e' || c == 'E' then
      let next := (rest.dropWhile (· == '_')).head?
      if !(next.any fun d => d == '-' || d == '+' || d.isDigit) then stop
      else if exponent then if digits then stop else none
      else decimalSuffix point true sign digits rest
    else if c == '-' || c == '+' then
      if sign || digits || !exponent then none else decimalSuffix point exponent true digits rest
    else stop

/-- The suffix of a numeral, if it is empty or a name. -/
def suffix? (cs : List Char) : Option String :=
  if cs.isEmpty || isWord cs then some (String.ofList cs) else none

/-- What a numeral stands for. -/
def numeralValue (cs : List Char) : LiteralValue :=
  let (base, digits) := splitBase cs
  let whole := (wholeValue base 0 false digits).bind fun (n, rest) =>
    (suffix? rest).map (LiteralValue.integer n)
  match whole with
  | some v => v
  | none =>
    match (decimalSuffix false false false false cs).bind suffix? with
    | some s => .decimal s
    | none => .other

end Waybill.Code
