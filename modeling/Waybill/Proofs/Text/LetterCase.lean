import Waybill.Proofs.Text.Ascii
import Waybill.Proofs.Text.Decoding
import Waybill.Text.LetterCase

/-!
# Capitals and the underscore

The capital form of a character may be several characters, and it may be a letter of ASCII for a
character beyond ASCII. It is never the underscore, unless the character is one itself. Beyond ASCII
this is a matter of the table, which is decided run by run once its digits are read one by one.

## Main definitions

* `Waybill.Packed.readNumbers`: the numbers of a table, read by recursion over its digits.

## Main results

* `Waybill.Packed.numbers_eq`: a table has the numbers that its digits have in one row.
* `Waybill.underscore_not_mem_capitals`: no capital is an underscore.
-/

namespace Waybill

namespace Packed

/-- The numbers of digits, the first of which goes on from a part that was read. -/
def readNumbers (part : Nat) : List Char → List Nat
  | [] => []
  | c :: rest =>
    if 32 ≤ digit c then readNumbers (32 * part + (digit c - 32)) rest
    else (32 * part + digit c) :: readNumbers 0 rest

theorem foldl_push (cs : List Char) (before : Array Nat) (part : Nat) :
    (cs.foldl push (before, part)).1.toList = before.toList ++ readNumbers part cs := by
  induction cs generalizing before part with
  | nil => simp [readNumbers]
  | cons c cs ih =>
    rw [List.foldl_cons, push, readNumbers]
    simp only
    split
    · exact ih _ _
    · rw [ih, Array.toList_push, List.append_assoc, List.singleton_append]

/-- A table has the numbers that its digits have in one row. -/
theorem numbers_eq (rows : List String) :
    numbers rows = readNumbers 0 (rows.flatMap String.toList) := by
  rw [numbers]
  simp only [String.foldl_eq_foldl_toList]
  rw [← List.foldl_flatMap, foldl_push, List.nil_append]

end Packed

/-! ### Capitals beyond ASCII -/

/-- A run of characters with one capital each misses the underscore, which has the number 95. -/
theorem misses_of_mem_capitalRuns :
    ∀ r ∈ capitalRuns, 95 < r.distance + r.first ∨ r.distance + r.last < 95 := by
  have hall : capitalRuns.all
      (fun r => decide (95 < r.distance + r.first ∨ r.distance + r.last < 95)) = true := by
    rw [capitalRuns, Packed.numbers_eq]
    simp only [packedCapitals, List.flatMap_cons, List.flatMap_nil]
    repeat rw [String.toList_ofList]
    decide +kernel
  exact Ascii.forall_mem_of_all hall

theorem misses_of_mem_capitalSequences :
    ∀ p ∈ capitalSequences, '_' ∉ p.2.map Char.ofNat := by
  have hall : capitalSequences.toList.all (fun p => decide ('_' ∉ p.2.map Char.ofNat)) = true := by
    decide +kernel
  exact fun p hp => Ascii.forall_mem_of_all hall p (Array.mem_toList_iff.mpr hp)

theorem eq_of_ofNat_eq_underscore {n : Nat} (h : Char.ofNat n = '_') : n = 95 := by
  by_cases hvalid : n.isValidChar
  · have hnat := congrArg Char.toNat h
    rwa [Utf8.toNat_ofNat hvalid] at hnat
  · rw [Char.ofNat, dif_neg hvalid] at h
    cases h

theorem ofNat_ne_underscore_of_applyRuns? {n m : Nat} (h : applyRuns? capitalRuns n = some m) :
    Char.ofNat m ≠ '_' := by
  obtain ⟨r, hfind, rfl⟩ := Option.map_eq_some_iff.mp h
  have hmisses := misses_of_mem_capitalRuns r (List.mem_of_find?_eq_some hfind)
  have hholds := List.find?_some hfind
  simp only [Bool.and_eq_true, decide_eq_true_eq] at hholds
  intro hunderscore
  have heq := eq_of_ofNat_eq_underscore hunderscore
  omega

theorem capitals_of_isAscii {c : Char} (h : Ascii.isAscii c = true) : capitals c = [c.toUpper] :=
  if_pos (of_decide_eq_true h)

/-- **No capital is an underscore**, but that of the underscore. -/
theorem underscore_not_mem_capitals {c : Char} (h : c ≠ '_') : '_' ∉ capitals c := by
  unfold capitals
  split
  case isTrue hascii =>
    rw [List.mem_singleton]
    exact Ne.symm (Ascii.forall_isAscii (P := fun c => c ≠ '_' → c.toUpper ≠ '_') (by decide) c
      (decide_eq_true hascii) h)
  case isFalse =>
    split
    case h_1 n ns hfind =>
      exact misses_of_mem_capitalSequences (n, ns) (Array.mem_of_find?_eq_some hfind)
    case h_2 =>
      rw [List.mem_singleton]
      cases hruns : applyRuns? capitalRuns c.toNat with
      | none => exact h.symm
      | some m => exact Ne.symm (ofNat_ne_underscore_of_applyRuns? hruns)

end Waybill
