import Waybill.Pattern

/-!
# The size of patterns

A pattern is looked for with two automata on bytes, one that reads a text forward and keeps the
places of groups, and one that reads it backward. A pattern for which one of them would be too
large is refused. An automaton has a state for each byte of a character; a set of characters is
as many states as it takes to tell its members by their bytes; a repetition with a limit is as many
copies.

## Main definitions

* `Waybill.Pattern.byteRanges` — the ranges of bytes that the members of a set are written with.
* `Waybill.Pattern.Expression.size`, `Waybill.Pattern.Expression.isTooLarge`.
-/

namespace Waybill.Pattern

/-! ### Sets as ranges of bytes -/

/-- The ranges of bytes for the numbers from `first` to `last`, which are written with a leading
byte and `n` more of six bits each, in rising order. -/
def bytesBetween (lead : Nat) : Nat → Nat → Nat → List (List (Nat × Nat))
  | 0, first, last => [[(lead + first, lead + last)]]
  | n + 1, first, last =>
    let unit := Nat.pow 64 (n + 1)
    let (a, b) := (first / unit, last / unit)
    let (low, high) := (first % unit, last % unit)
    let part (digit low high : Nat) :=
      (bytesBetween 0x80 n low high).map ((lead + digit, lead + digit) :: ·)
    if a == b then part a low high
    else
      let full := List.replicate (n + 1) (0x80, 0xBF)
      let a' := if low == 0 then a else a + 1
      let b' := if high + 1 == unit then b + 1 else b
      (if low == 0 then [] else part a low (unit - 1)) ++
      (if a' < b' then [(lead + a', lead + b' - 1) :: full] else []) ++
      (if high + 1 == unit then [] else part b 0 high)

/-- The lengths in which characters are written: the number of bytes after the leading one, the
leading byte of the number zero, and the first and the last code point. -/
def lengths : List (Nat × Nat × Nat × Nat) := [
  (0, 0, 0, 0x7F), (1, 0xC0, 0x80, 0x7FF), (2, 0xE0, 0x800, 0xD7FF), (2, 0xE0, 0xE000, 0xFFFF),
  (3, 0xF0, 0x10000, 0x10FFFF)]

/-- The ranges of bytes that the members of a set are written with, in rising order. -/
def byteRanges (s : CodeSet) : List (List (Nat × Nat)) :=
  s.ranges.flatMap fun (first, last) =>
    lengths.flatMap fun (n, lead, least, greatest) =>
      let (a, b) := (max first least, min last greatest)
      if a ≤ b then bytesBetween lead n a b else []

/-- Rows with the same first entry that follow each other, each group by what comes after. -/
def branches : List (List (Nat × Nat)) → List (List (List (Nat × Nat)))
  | [] => []
  | [] :: rest => branches rest
  | (r :: row) :: rest =>
    match rest, branches rest with
    | (r' :: _) :: _, group :: groups =>
      if r == r' then (row :: group) :: groups else [row] :: group :: groups
    | _, groups => [row] :: groups

/-- The rows that are still ahead at each place inside of some rows, the start included. -/
def rowsAhead : Nat → List (List (Nat × Nat)) → List (List (List (Nat × Nat)))
  | 0, _ => []
  | n + 1, rows => rows :: ((branches rows).filter (· != [[]])).flatMap (rowsAhead n)

/-- The number of entries in which rows differ from the row before them. -/
def newEntries : List (Nat × Nat) → List (List (Nat × Nat)) → Nat
  | _, [] => 0
  | before, row :: rest =>
    let common := ((row.zip before).takeWhile fun (a, b) => a == b).length
    row.length - common + newEntries row rest

/-! ### Sizes in bytes -/

/-- The way in which an automaton reads. -/
inductive Way where
  | forward
  | backward
deriving DecidableEq, Repr

/-- The size of a state. -/
def stateSize : Nat := 32

/-- The size of a set that has members beyond ASCII. Forward, states from which the same lies ahead
are one; backward, those from which the same has been read. -/
def Way.setSize (way : Way) (s : CodeSet) : Nat :=
  let rows := byteRanges s
  match way with
  | .forward => ((rowsAhead 4 rows).eraseDups.map fun rows =>
      stateSize + 8 * (branches rows).length).foldl (· + ·) stateSize
  | .backward => stateSize * (2 + newEntries [] rows) + 4 * rows.length

/-- The size of an expression that reads a member of a set. -/
def Way.oneSize (way : Way) (s : CodeSet) : Nat :=
  match s.ranges with
  | [(a, b)] =>
    if a == b then stateSize * (Char.ofNat a).utf8Size
    else if b < 0x80 then 2 * stateSize + 8
    else way.setSize s
  | ranges =>
    if ranges.all (·.2 < 0x80) then 2 * stateSize + 8 * ranges.length else way.setSize s

/-- The size of a repetition of something of a size. -/
def timesSize (size : Nat) (mayStay : Bool) (least : Nat) : Option Nat → Nat
  | none =>
    if least == 0 then size + (if mayStay then 3 * stateSize + 16 else stateSize + 8)
    else least * size + stateSize + 8
  | some most =>
    if least == 0 && most == 1 then size + 2 * stateSize + 8
    else if most ≤ least then least * size
    else (if least == 0 then stateSize else least * size) + stateSize +
      (most - least) * (size + stateSize + 8)

/-- The size of an expression, which may be one of several to choose from. -/
def Expression.size (way : Way) (chosen : Bool) : Expression → Nat
  | .either a b => (if chosen then 0 else 2 * stateSize) + a.size way true + b.size way true
  | .nothing | .look _ => (if chosen then 4 else 0) + stateSize
  | .one s => (if chosen then 4 else 0) + way.oneSize s
  | .both a b => (if chosen then 4 else 0) + a.size way false + b.size way false
  | .times a least most =>
    (if chosen then 4 else 0) + timesSize (a.size way false) a.mayStay least most
  | .group a => (if chosen then 4 else 0) + a.size way false +
      (if way == .forward then 2 * stateSize else 0)

/-- The size of what every automaton has: a start at any place of a text, the place of the whole,
and the end. -/
def frameSize : Nat := 5 * stateSize + 8

/-- The size that an automaton may have. -/
def sizeLimit : Nat := 10 * 1024 * 1024

/-- Whether an automaton for an expression would be too large. -/
def Expression.isTooLarge (e : Expression) : Bool :=
  [Way.forward, Way.backward].any fun way => sizeLimit < e.size way false + frameSize

end Waybill.Pattern
