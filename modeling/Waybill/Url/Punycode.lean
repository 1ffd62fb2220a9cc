import Waybill.Text.Ascii

/-!
# Punycode

A label of a host name with characters beyond ASCII travels as ASCII: the ASCII characters of the
label, then the others as a sequence of insertions. Each insertion is a number that counts the
steps from the insertion before, over code points in rising order and over positions within the
label; numbers are written in base 36 with the least digit first, and thresholds that adapt to the
sizes met so far mark the last digit.

## Main definitions

* `Waybill.Punycode.encode` — a label as ASCII, without a marker in front.
* `Waybill.Punycode.decode?` — the label that such ASCII stands for.
-/

namespace Waybill.Punycode

/-- A digit of base 36: letters count from zero, then the decimal digits. -/
def digitChar (n : Nat) : Char :=
  if n < 26 then Char.ofNat ('a'.toNat + n) else Char.ofNat ('0'.toNat + (n - 26))

/-- The value of a digit of base 36. -/
def digitValue? (c : Char) : Option Nat :=
  if c.isLower then some (c.toNat - 'a'.toNat)
  else if c.isUpper then some (c.toNat - 'A'.toNat)
  else if c.isDigit then some (c.toNat - '0'.toNat + 26)
  else none

/-- The threshold of the digit at place `k`, which is a multiple of 36. -/
def threshold (k bias : Nat) : Nat :=
  if k ≤ bias then 1 else if bias + 26 ≤ k then 26 else k - bias

theorem threshold_bounds (k bias : Nat) : 1 ≤ threshold k bias ∧ threshold k bias ≤ 26 := by
  unfold threshold
  split
  · omega
  · split <;> omega

/-- The last step of an adaptation: divisions by 35 until the number is small. -/
def settle (delta k : Nat) : Nat :=
  if 455 < delta then settle (delta / 35) (k + 36) else k + 36 * delta / (delta + 38)
termination_by delta
decreasing_by exact Nat.div_lt_self (by omega) (by decide)

/-- The bias after an insertion into a label that then has `points` characters. -/
def adapt (delta points : Nat) (first : Bool) : Nat :=
  let delta := if first then delta / 700 else delta / 2
  settle (delta + delta / points) 0

/-- A number in base 36 with thresholds, from place `k` on. -/
def writeNumber (bias k n : Nat) : List Char :=
  let t := threshold k bias
  if n < t then [digitChar n]
  else digitChar (t + (n - t) % (36 - t)) :: writeNumber bias (k + 36) ((n - t) / (36 - t))
termination_by n
decreasing_by
  have h := threshold_bounds k bias
  calc (n - threshold k bias) / (36 - threshold k bias)
      ≤ n - threshold k bias := Nat.div_le_self _ _
    _ < n := by omega

/-- The state of an encoding: what is written, the steps since the last insertion, the bias, and the
number of characters handled. -/
structure Progress where
  out : List Char
  delta : Nat
  bias : Nat
  handled : Nat

/-- One character of the label passes while the insertions of code point `point` are written. -/
def pass (basic point : Nat) (st : Progress) (c : Char) : Progress :=
  if c.toNat < point then { st with delta := st.delta + 1 }
  else if c.toNat == point then
    { out := st.out ++ writeNumber st.bias 36 st.delta
      delta := 0
      bias := adapt st.delta (st.handled + 1) (st.handled == basic)
      handled := st.handled + 1 }
  else st

/-- The insertions of the given code points, which rise. -/
def insertions (label : List Char) (basic : Nat) : List Nat → Nat → Progress → Progress
  | [], _, st => st
  | point :: rest, from_, st =>
    let st := { st with delta := st.delta + (point - from_) * (st.handled + 1) }
    let st := label.foldl (pass basic point) st
    insertions label basic rest (point + 1) { st with delta := st.delta + 1 }

/-- A list of numbers in rising order, each once. -/
def rising (ns : List Nat) : List Nat := (ns.mergeSort (· ≤ ·)).eraseDups

/-- A label as ASCII. -/
def encode (label : List Char) : List Char :=
  let basic := label.filter Ascii.isAscii
  let others := rising ((label.filter fun c => !Ascii.isAscii c).map Char.toNat)
  let st := insertions label basic.length others 128 ⟨[], 0, 72, basic.length⟩
  basic ++ (if basic.isEmpty then [] else ['-']) ++ st.out

/-- A number in base 36 read from place `k` on, added to `i` with weight `w`, and the rest. -/
def readNumber (bias : Nat) : List Char → Nat → Nat → Nat → Option (Nat × List Char)
  | [], _, _, _ => none
  | c :: rest, k, w, i =>
    match digitValue? c with
    | none => none
    | some d =>
      let t := threshold k bias
      if d < t then some (i + d * w, rest)
      else readNumber bias rest (k + 36) (w * (36 - t)) (i + d * w)

theorem length_lt_of_readNumber {bias k w i : Nat} {cs : List Char} {r : Nat × List Char}
    (h : readNumber bias cs k w i = some r) : r.2.length < cs.length := by
  induction cs generalizing k w i with
  | nil => simp [readNumber] at h
  | cons c rest ih =>
    simp only [readNumber] at h
    split at h
    · simp at h
    · split at h
      · simp only [Option.some.injEq] at h
        subst h
        simp
      · have := ih h
        simp only [List.length_cons]
        omega

/-- The label after the insertions that the characters stand for. -/
def insertAll? (bias point i : Nat) (label : List Char) (cs : List Char) : Option (List Char) :=
  match cs with
  | [] => some label
  | c :: rest =>
    match h : readNumber bias (c :: rest) 36 1 i with
    | none => none
    | some (j, after) =>
      let points := label.length + 1
      let point := point + j / points
      let position := j % points
      if point < 0xD800 || (0xDFFF < point && point < 0x110000) then
        insertAll? (adapt (j - i) points (i == 0)) point (position + 1)
          (label.take position ++ Char.ofNat point :: label.drop position) after
      else none
termination_by cs.length
decreasing_by
  have := length_lt_of_readNumber h
  simpa using this

/-- The label that ASCII stands for. The last hyphen ends the characters that stand for
themselves. -/
def decode? (cs : List Char) : Option (List Char) :=
  let reversedTail := cs.reverse.takeWhile (· != '-')
  let reversedHead := (cs.reverse.dropWhile (· != '-')).drop 1
  if !cs.all Ascii.isAscii then none
  else insertAll? 72 128 0 reversedHead.reverse reversedTail.reverse

end Waybill.Punycode
