import Waybill.Proofs.Text.Cutting
import Waybill.Text.Blank

/-!
# Trimmed texts

Trimming takes blanks away at the two ends of a text and nothing else, so blanks that are put around
a text are lost again. A text is trimmed already if neither its first nor its last character is a
blank, whatever stands between them.

## Main results

* `Waybill.trim_append`: blanks around a text do not matter.
* `Waybill.exists_eq_append_trim`: what is lost is blanks.
* `Waybill.trim_eq_self_iff`: which texts are trimmed already.
* `Waybill.trim_eq_nil_iff`: which texts are lost altogether.
-/

namespace Waybill

variable {before after cs : List Char}

/-- A letter is no blank in either case. -/
theorem isBlank_of_isBlank_toLower {c : Char} (h : isBlank c.toLower = false) :
    isBlank c = false := by
  by_cases hcapital : 65 ≤ c.toNat ∧ c.toNat ≤ 90
  · simp only [isBlank, Bool.or_eq_false_iff, Bool.and_eq_false_iff, decide_eq_false_iff_not,
      beq_eq_false_iff_ne]
    omega
  · have hkept : c.toLower = c := by
      refine dif_neg fun hbounds => hcapital ?_
      have hlow : 65 ≤ c.toNat := UInt32.le_iff_toNat_le.mp hbounds.1
      have hhigh : c.toNat ≤ 90 := UInt32.le_iff_toNat_le.mp hbounds.2
      exact ⟨hlow, hhigh⟩
    rwa [hkept] at h

/-! ### Both ends -/

theorem trim_eq (cs : List Char) : trim cs = (cs.dropWhile isBlank).rdropWhile isBlank := rfl

/-- **Blanks around a text do not matter.** -/
theorem trim_append (hbefore : ∀ c ∈ before, isBlank c = true)
    (hafter : ∀ c ∈ after, isBlank c = true) (cs : List Char) :
    trim (before ++ cs ++ after) = trim cs := by
  rw [trim_eq, trim_eq, List.append_assoc, List.dropWhile_append_of_pos hbefore,
    List.dropWhile_append]
  split
  · rename_i hempty
    rw [List.isEmpty_iff.mp hempty, List.dropWhile_eq_nil_iff.mpr hafter]
  · exact Cutting.rdropWhile_append_of_forall _ hafter

/-- What is lost by trimming is blanks. -/
theorem exists_eq_append_trim (cs : List Char) : ∃ before after, cs = before ++ trim cs ++ after ∧
    (∀ c ∈ before, isBlank c = true) ∧ ∀ c ∈ after, isBlank c = true := by
  refine ⟨cs.takeWhile isBlank, (cs.dropWhile isBlank).rtakeWhile isBlank, ?_,
    fun _ => List.mem_takeWhile_imp, fun _ => List.mem_rtakeWhile_imp⟩
  rw [trim_eq, List.append_assoc, List.rdropWhile_append_rtakeWhile,
    List.takeWhile_append_dropWhile]

@[simp]
theorem trim_trim (cs : List Char) : trim (trim cs) = trim cs := by
  obtain ⟨before, after, heq, hbefore, hafter⟩ := exists_eq_append_trim cs
  have htrim := trim_append hbefore hafter (trim cs)
  rwa [← heq, eq_comm] at htrim

theorem length_trim_le (cs : List Char) : (trim cs).length ≤ cs.length :=
  (List.rdropWhile_prefix _ _).length_le.trans (List.length_dropWhile_le _ _)

theorem eq_nil_of_trim_eq_self (before cs after : List Char)
    (hbefore : ∀ c ∈ before, isBlank c = true) (hafter : ∀ c ∈ after, isBlank c = true)
    (h : trim (before ++ cs ++ after) = before ++ cs ++ after) : before = [] ∧ after = [] := by
  have hlength := length_trim_le cs
  rw [← trim_append hbefore hafter, h, List.length_append, List.length_append] at hlength
  exact ⟨List.length_eq_zero_iff.mp (by omega), List.length_eq_zero_iff.mp (by omega)⟩

/-- **A text is trimmed already** if neither of its ends is a blank. -/
theorem trim_eq_self_iff : trim cs = cs ↔
    (∀ c, cs.head? = some c → isBlank c = false) ∧
      ∀ c, cs.getLast? = some c → isBlank c = false := by
  constructor
  · intro h
    refine ⟨fun c hc => Bool.eq_false_iff.mpr fun hblank => ?_,
      fun c hc => Bool.eq_false_iff.mpr fun hblank => ?_⟩
    · obtain ⟨rest, rfl⟩ := List.head?_eq_some_iff.mp hc
      have hends := eq_nil_of_trim_eq_self [c] rest []
        (by simpa using hblank) (by simp) (by simpa using h)
      cases hends.1
    · obtain ⟨init, rfl⟩ := List.getLast?_eq_some_iff.mp hc
      have hends := eq_nil_of_trim_eq_self [] init [c]
        (by simp) (by simpa using hblank) (by simpa using h)
      cases hends.2
  · rintro ⟨hhead, hlast⟩
    have hstart : cs.dropWhile isBlank = cs := by
      cases cs with
      | nil => rfl
      | cons c rest => exact List.dropWhile_cons_of_neg (by simp [hhead c rfl])
    rw [trim_eq, hstart, List.rdropWhile_eq_self_iff]
    intro hne
    rw [hlast _ (List.getLast?_eq_getLast_of_ne_nil hne)]
    exact Bool.false_ne_true

/-- Nothing is left of blanks, and of nothing else. -/
theorem trim_eq_nil_iff : trim cs = [] ↔ ∀ c ∈ cs, isBlank c = true := by
  constructor
  · intro h
    obtain ⟨before, after, heq, hbefore, hafter⟩ := exists_eq_append_trim cs
    rw [h, List.append_nil] at heq
    rw [heq]
    exact List.forall_mem_append.mpr ⟨hbefore, hafter⟩
  · intro h
    have htrim := trim_append h (List.forall_mem_nil _) []
    simpa [trim_nil] using htrim

end Waybill
