import Waybill.Character.CodeSet

/-!
# Properties with values

A property that gives every code point one of a few values is kept as the stretches of code points
on which the value stays the same.

## Main definitions

* `Waybill.Partition`, `Waybill.Partition.value`, `Waybill.Partition.set`.
* `Waybill.Partition.ofPacked` — the property of a packed table.
-/

namespace Waybill

/-- A property of code points: the first code point of each stretch, in rising order from zero, and
the value on it. -/
structure Partition where
  starts : Array Nat
  values : Array Nat
deriving Inhabited

namespace Partition

/-- The value at a code point. -/
def value (p : Partition) (n : Nat) : Nat :=
  p.values.getD (countUpTo p.starts n 0 p.starts.size - 1) 0

/-- The value at a character. -/
def of (p : Partition) (c : Char) : Nat := p.value c.toNat

/-- The stretches as first code point, code point after the last, and value. -/
def stretches (p : Partition) : List (Nat × Nat × Nat) :=
  let starts := p.starts.toList
  starts.zip ((starts.drop 1 ++ [CodeSet.limit]).zip p.values.toList)

/-- The code points with a value that satisfies a condition. Neighbouring stretches are joined. -/
def set (p : Partition) (wanted : Nat → Bool) : CodeSet :=
  let step (state : Array Nat × Bool) (s : Nat × Nat × Nat) : Array Nat × Bool :=
    if wanted s.2.2 == state.2 then state else (state.1.push s.1, wanted s.2.2)
  let (bounds, inside) := p.stretches.foldl step (#[], false)
  ⟨if inside then bounds.push CodeSet.limit else bounds⟩

/-- The stretches of numbers that alternate between lengths and values. -/
def unpack (p : Nat) : List Nat → List (Nat × Nat)
  | size :: value :: rest => (p, value) :: unpack (p + size) rest
  | _ => []

/-- The property of a packed table. -/
def ofPacked (rows : List String) : Partition :=
  let stretches := unpack 0 (Packed.numbers rows)
  ⟨(stretches.map (·.1)).toArray, (stretches.map (·.2)).toArray⟩

end Partition

end Waybill
