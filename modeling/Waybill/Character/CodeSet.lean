import Waybill.Character.Packed

/-!
# Sets of code points

A set of code points is kept by its bounds: the places, in rising order, where membership changes,
starting from outside. A code point is a member if the number of bounds up to it is odd. Two sets
are combined by any Boolean operation in one pass over the bounds of both.

## Main definitions

* `Waybill.CodeSet`, `Waybill.CodeSet.contains`, `Waybill.CodeSet.ranges`.
* `Waybill.CodeSet.combine` — a Boolean operation on two sets, and `Waybill.CodeSet.union`,
  `Waybill.CodeSet.inter`, `Waybill.CodeSet.diff`, `Waybill.CodeSet.symmDiff`,
  `Waybill.CodeSet.complement`.
* `Waybill.CodeSet.ofPacked` — the set of a packed table.
-/

namespace Waybill

/-- The number of entries of a rising array that are at most `n`, when it is known to be between
`lo` and `hi`. -/
def countUpTo (a : Array Nat) (n lo hi : Nat) : Nat :=
  if lo < hi then
    let mid := (lo + hi) / 2
    if a.getD mid 0 ≤ n then countUpTo a n (mid + 1) hi else countUpTo a n lo mid
  else lo
termination_by hi - lo

/-- A set of code points by its bounds. -/
structure CodeSet where
  bounds : Array Nat
deriving DecidableEq, Repr, Inhabited

namespace CodeSet

/-- Whether a code point is a member. -/
def contains (s : CodeSet) (n : Nat) : Bool := countUpTo s.bounds n 0 s.bounds.size % 2 == 1

/-- Whether a character is a member. -/
def has (s : CodeSet) (c : Char) : Bool := s.contains c.toNat

/-- The set without members. -/
def empty : CodeSet := ⟨#[]⟩

/-- The number of code points. -/
def limit : Nat := 0x110000

/-- The set of all code points. -/
def all : CodeSet := ⟨#[0, limit]⟩

/-- The code points from `first` to `last`. -/
def range (first last : Nat) : CodeSet := if first ≤ last then ⟨#[first, last + 1]⟩ else empty

/-- A single code point. -/
def single (n : Nat) : CodeSet := range n n

/-- Ranges from bounds, in pairs. -/
def pairs : List Nat → List (Nat × Nat)
  | first :: stop :: rest => (first, stop - 1) :: pairs rest
  | _ => []

/-- The ranges of a set in rising order. -/
def ranges (s : CodeSet) : List (Nat × Nat) := pairs s.bounds.toList

/-- Whether a set has no members. -/
def isEmpty (s : CodeSet) : Bool := s.bounds.isEmpty

/-- The bounds of a combination of two sets, given the bounds that are still ahead, whether the
place is inside the first set, inside the second, and inside the result. -/
def mergeBounds (op : Bool → Bool → Bool) :
    List Nat → List Nat → Bool → Bool → Bool → Array Nat → Array Nat
  | [], [], _, _, _, out => out
  | a :: as, [], x, y, z, out =>
    let x := !x
    mergeBounds op as [] x y (op x y) (if op x y == z then out else out.push a)
  | [], b :: bs, x, y, z, out =>
    let y := !y
    mergeBounds op [] bs x y (op x y) (if op x y == z then out else out.push b)
  | a :: as, b :: bs, x, y, z, out =>
    if a < b then
      let x := !x
      mergeBounds op as (b :: bs) x y (op x y) (if op x y == z then out else out.push a)
    else if b < a then
      let y := !y
      mergeBounds op (a :: as) bs x y (op x y) (if op x y == z then out else out.push b)
    else
      let x := !x
      let y := !y
      mergeBounds op as bs x y (op x y) (if op x y == z then out else out.push a)
termination_by as bs => as.length + bs.length

/-- The code points for which an operation holds of the membership in two sets. It must not hold
outside of both. -/
def combine (op : Bool → Bool → Bool) (s t : CodeSet) : CodeSet :=
  ⟨mergeBounds op s.bounds.toList t.bounds.toList false false false #[]⟩

/-- Members of one of two sets. -/
def union : CodeSet → CodeSet → CodeSet := combine (· || ·)

/-- Members of both sets. -/
def inter : CodeSet → CodeSet → CodeSet := combine (· && ·)

/-- Members of the first set alone. -/
def diff : CodeSet → CodeSet → CodeSet := combine fun x y => x && !y

/-- Members of exactly one of two sets. -/
def symmDiff : CodeSet → CodeSet → CodeSet := combine (· != ·)

/-- The code points that are no members. -/
def complement (s : CodeSet) : CodeSet := all.diff s

/-- The union of sets. -/
def unionAll (sets : List CodeSet) : CodeSet := sets.foldl union empty

/-- The set of ranges in any order. -/
def ofRanges (rs : List (Nat × Nat)) : CodeSet := unionAll (rs.map fun r => range r.1 r.2)

/-- The bounds of single code points in rising order, given the last bounds so far, last first. -/
def risingBounds (bounds : List Nat) : List Nat → List Nat
  | [] => bounds.reverse
  | n :: rest =>
    match bounds with
    | stop :: before =>
      if stop == n then risingBounds ((n + 1) :: before) rest
      else risingBounds ((n + 1) :: n :: stop :: before) rest
    | [] => risingBounds [n + 1, n] rest

/-- The set of code points that are given in rising order, each once. -/
def ofRising (ns : List Nat) : CodeSet := ⟨(risingBounds [] ns).toArray⟩

/-- Bounds from numbers that alternate between the distance to the next range and one less than the
length of that range. -/
def packedBounds (p : Nat) : List Nat → List Nat
  | gap :: size :: rest =>
    (p + gap) :: (p + gap + size + 1) :: packedBounds (p + gap + size + 1) rest
  | _ => []

/-- The set of a packed table. -/
def ofPacked (rows : List String) : CodeSet := ⟨(packedBounds 0 (Packed.numbers rows)).toArray⟩

end CodeSet

end Waybill
