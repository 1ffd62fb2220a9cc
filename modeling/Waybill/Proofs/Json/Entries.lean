import Mathlib.Data.List.Induction
import Mathlib.Data.List.Nodup
import Mathlib.Data.String.Basic
import Waybill.Json.Value

/-!
# Sorted entries

The entries of an object are kept in the order of their keys. Entries with distinct keys have one
such order, so that neither sorting nor looking a key up depends on the order in which they were
written.

## Main definitions

* `Waybill.Json.IsOrdered`: entries in the order of their keys.

## Main results

* `Waybill.Json.isOrdered_sorted`, `Waybill.Json.perm_sorted`: what sorting gives.
* `Waybill.Json.sorted_eq_of_perm`, `Waybill.Json.member?_eq_of_perm`: the order in which entries
  with distinct keys are written plays no part.
* `Waybill.Json.member?_sorted`: of several entries with one key the last one stays.
* `Waybill.Json.IsOrdered.find?_reverse_eq_some_iff`: the last entry of some kind is that with the
  greatest key.
-/

namespace Waybill.Json

variable {α : Type}

/-- Entries in the order of their keys. -/
def IsOrdered (entries : List (String × α)) : Prop := entries.Pairwise fun a b => a.1 < b.1

theorem IsOrdered.nodup {entries : List (String × α)} (h : IsOrdered entries) :
    (entries.map Prod.fst).Nodup :=
  List.pairwise_map.mpr (h.imp fun hlt => ne_of_lt hlt)

/-- The same entries have one order. -/
theorem IsOrdered.eq_of_perm {xs ys : List (String × α)} (hxs : IsOrdered xs) (hys : IsOrdered ys)
    (h : xs.Perm ys) : xs = ys :=
  h.eq_of_pairwise (fun _ _ _ _ hlt hgt => absurd hlt (lt_asymm hgt)) hxs hys

/-! ### Inserting -/

theorem mem_of_mem_insert {key : String} {value : α} {entries : List (String × α)}
    {m : String × α} (h : m ∈ insert key value entries) : m = (key, value) ∨ m ∈ entries := by
  induction entries with
  | nil => exact .inl (List.mem_singleton.mp h)
  | cons first entries ih =>
    rw [insert] at h
    split at h
    · exact List.mem_cons.mp h
    · split at h
      · rcases List.mem_cons.mp h with h | h
        · exact .inl h
        · exact .inr (List.mem_cons_of_mem _ h)
      · rcases List.mem_cons.mp h with h | h
        · exact .inr (h ▸ List.mem_cons_self)
        · rcases ih h with h | h
          · exact .inl h
          · exact .inr (List.mem_cons_of_mem _ h)

theorem IsOrdered.insert {entries : List (String × α)} (h : IsOrdered entries) (key : String)
    (value : α) : IsOrdered (insert key value entries) := by
  induction entries with
  | nil => exact List.pairwise_singleton _ _
  | cons first entries ih =>
    obtain ⟨hfirst, hrest⟩ := List.pairwise_cons.mp h
    rw [Json.insert]
    split
    case isTrue hlt =>
      refine List.pairwise_cons.mpr ⟨fun m hm => ?_, h⟩
      rcases List.mem_cons.mp hm with rfl | hm
      · exact hlt
      · exact lt_trans hlt (hfirst m hm)
    case isFalse hge =>
      split
      case isTrue heq =>
        refine List.pairwise_cons.mpr ⟨fun m hm => ?_, hrest⟩
        rw [heq]
        exact hfirst m hm
      case isFalse hne =>
        refine List.pairwise_cons.mpr ⟨fun m hm => ?_, ih hrest⟩
        rcases mem_of_mem_insert hm with rfl | hm
        · exact lt_of_le_of_ne (not_lt.mp hge) (Ne.symm hne)
        · exact hfirst m hm

theorem perm_insert {entries : List (String × α)} {key : String}
    (hkey : key ∉ entries.map Prod.fst) (value : α) :
    (insert key value entries).Perm ((key, value) :: entries) := by
  induction entries with
  | nil => exact .refl _
  | cons first entries ih =>
    rw [List.map_cons, List.mem_cons, not_or] at hkey
    rw [insert]
    split
    · exact .refl _
    · rw [if_neg hkey.1]
      exact ((ih hkey.2).cons first).trans (.swap _ _ _)

/-! ### Sorting -/

theorem sorted_concat (entries : List (String × α)) (last : String × α) :
    sorted (entries ++ [last]) = insert last.1 last.2 (sorted entries) := by
  rw [sorted, List.foldl_append]
  rfl

theorem mem_of_mem_sorted {entries : List (String × α)} {m : String × α}
    (h : m ∈ sorted entries) : m ∈ entries := by
  induction entries using List.reverseRecOn with
  | nil => cases h
  | append_singleton entries last ih =>
    rw [sorted_concat] at h
    rcases mem_of_mem_insert h with rfl | h
    · exact List.mem_append_right _ (List.mem_singleton_self _)
    · exact List.mem_append_left _ (ih h)

/-- Sorting gives the order of the keys. -/
theorem isOrdered_sorted (entries : List (String × α)) : IsOrdered (sorted entries) := by
  induction entries using List.reverseRecOn with
  | nil => exact .nil
  | append_singleton entries last ih =>
    rw [sorted_concat]
    exact ih.insert _ _

/-- Sorting keeps entries with distinct keys. -/
theorem perm_sorted {entries : List (String × α)} (h : (entries.map Prod.fst).Nodup) :
    (sorted entries).Perm entries := by
  induction entries using List.reverseRecOn with
  | nil => exact .refl _
  | append_singleton entries last ih =>
    rw [List.map_append, List.nodup_append'] at h
    have hperm := ih h.1
    have hkey : last.1 ∉ (sorted entries).map Prod.fst := by
      rw [(hperm.map Prod.fst).mem_iff]
      exact fun hmem => h.2.2 hmem (by simp)
    rw [sorted_concat]
    exact ((perm_insert hkey last.2).trans (hperm.cons last)).trans
      (List.perm_append_singleton last entries).symm

/-- **Entries with distinct keys have one order.** -/
theorem sorted_eq_of_perm {xs ys : List (String × α)} (h : xs.Perm ys)
    (hnodup : (xs.map Prod.fst).Nodup) : sorted xs = sorted ys := by
  have hys : (ys.map Prod.fst).Nodup := (h.map Prod.fst).nodup_iff.mp hnodup
  exact (isOrdered_sorted xs).eq_of_perm (isOrdered_sorted ys)
    ((perm_sorted hnodup).trans (h.trans (perm_sorted hys).symm))

theorem sorted_of_isOrdered {entries : List (String × α)} (h : IsOrdered entries) :
    sorted entries = entries :=
  (isOrdered_sorted entries).eq_of_perm h (perm_sorted h.nodup)

/-! ### Looking keys up -/

theorem member?_eq_some_iff {entries : List (String × α)} (h : (entries.map Prod.fst).Nodup)
    {key : String} {value : α} : member? key entries = some value ↔ (key, value) ∈ entries := by
  induction entries with
  | nil => simp [member?]
  | cons first entries ih =>
    obtain ⟨k, v⟩ := first
    rw [List.map_cons, List.nodup_cons] at h
    rw [member?, List.find?_cons, List.mem_cons]
    by_cases hk : k = key
    · subst hk
      simp only [beq_self_eq_true, Option.map_some, Option.some.injEq, Prod.mk.injEq, true_and]
      constructor
      · exact fun heq => .inl heq.symm
      · rintro (heq | hmem)
        · exact heq.symm
        · exact absurd (List.mem_map_of_mem hmem) h.1
    · have hbeq : (k == key) = false := beq_eq_false_iff_ne.mpr hk
      simp only [hbeq, Prod.mk.injEq, Ne.symm hk, false_and, false_or]
      exact ih h.2

/-- **What is found under a key does not depend on the order of the entries.** -/
theorem member?_eq_of_perm {xs ys : List (String × α)} (h : xs.Perm ys)
    (hnodup : (xs.map Prod.fst).Nodup) (key : String) : member? key xs = member? key ys := by
  have hys : (ys.map Prod.fst).Nodup := (h.map Prod.fst).nodup_iff.mp hnodup
  refine Option.ext fun value => ?_
  rw [member?_eq_some_iff hnodup, member?_eq_some_iff hys, h.mem_iff]

/-! ### Several entries with one key -/

theorem member?_cons (key : String) (first : String × α) (entries : List (String × α)) :
    member? key (first :: entries) =
      if first.1 = key then some first.2 else member? key entries := by
  rw [member?, List.find?_cons]
  split
  case h_1 hbeq => rw [if_pos (eq_of_beq hbeq), Option.map_some]
  case h_2 hbeq => rw [if_neg (beq_eq_false_iff_ne.mp hbeq), member?]

/-- What is found after inserting is what was inserted, and under other keys what was there. -/
theorem member?_insert (key other : String) (value : α) (entries : List (String × α)) :
    member? other (insert key value entries) =
      if key = other then some value else member? other entries := by
  induction entries with
  | nil => rw [insert, member?_cons]
  | cons first entries ih =>
    rw [insert]
    split
    case isTrue => rw [member?_cons]
    case isFalse =>
      split
      case isTrue heq =>
        rw [member?_cons, member?_cons, ← heq]
        split_ifs
        all_goals rfl
      case isFalse hne =>
        rw [member?_cons, ih, member?_cons]
        split_ifs with hfirst hkey
        · exact absurd (hkey.trans hfirst.symm) hne
        · rfl
        · rfl
        · rfl

/-- **Of several entries with one key the last one stays.** -/
theorem member?_sorted (key : String) (entries : List (String × α)) :
    member? key (sorted entries) = member? key entries.reverse := by
  induction entries using List.reverseRecOn with
  | nil => rfl
  | append_singleton entries last ih =>
    rw [sorted_concat, member?_insert, ih, List.reverse_concat, member?_cons]

/-- **The last entry of some kind is that with the greatest key**, if the entries are in order. -/
theorem IsOrdered.find?_reverse_eq_some_iff {entries : List (String × α)} (h : IsOrdered entries)
    {p : String × α → Bool} {m : String × α} :
    entries.reverse.find? p = some m ↔
      m ∈ entries ∧ p m = true ∧ ∀ m' ∈ entries, p m' = true → m'.1 ≤ m.1 := by
  induction entries using List.reverseRecOn with
  | nil => simp
  | append_singleton entries last ih =>
    obtain ⟨hentries, -, hlast⟩ := List.pairwise_append.mp h
    have hless : ∀ m' ∈ entries, m'.1 < last.1 := fun m' hm' => hlast m' hm' last (by simp)
    rw [List.reverse_concat, List.find?_cons]
    split
    case h_1 hp =>
      constructor
      · intro heq
        obtain rfl := Option.some.inj heq
        refine ⟨by simp, hp, fun m' hm' _ => ?_⟩
        rcases List.mem_append.mp hm' with hm' | hm'
        · exact (hless m' hm').le
        · rw [List.mem_singleton.mp hm']
      · rintro ⟨hm, -, hgreatest⟩
        rcases List.mem_append.mp hm with hm | hm
        · exact absurd (hgreatest last (by simp) hp) (not_le.mpr (hless m hm))
        · rw [List.mem_singleton.mp hm]
    case h_2 hp =>
      have hp' : ¬p last = true := Bool.eq_false_iff.mp hp
      have hmem : ∀ m', p m' = true → (m' ∈ entries ++ [last] ↔ m' ∈ entries) := by
        intro m' hm'
        rw [List.mem_append, List.mem_singleton, or_iff_left]
        rintro rfl
        exact hp' hm'
      rw [ih hentries]
      constructor
      · rintro ⟨hm, hpm, hgreatest⟩
        exact ⟨(hmem m hpm).mpr hm, hpm,
          fun m' hm' hpm' => hgreatest m' ((hmem m' hpm').mp hm') hpm'⟩
      · rintro ⟨hm, hpm, hgreatest⟩
        exact ⟨(hmem m hpm).mp hm, hpm,
          fun m' hm' hpm' => hgreatest m' ((hmem m' hpm').mpr hm') hpm'⟩

end Waybill.Json
