import Mathlib.Data.List.DropRight

/-!
# Cutting lists at marks

A text is cut at its marks in two ways: into all pieces between them, and once, at the first or the
last mark. This module says what the pieces hold and what happens to them when the text is written
in another way, mark by mark and character by character.

The functions without the elements at the end of a list are spelled in the library with two
reversals, which is `List.rdropWhile`.

A mark of several elements is found at its first occurrence, which is `List.dropInfix?`. That is
where it was written if it starts nowhere in what stands before.

## Main definitions

* `Waybill.Cutting.upTo?`: a list is cut at a closing, which is known by its first element.
* `Waybill.Cutting.Clear`: a list in which no occurrence of another one starts.

## Main results

* `Waybill.Cutting.splitOnP_flatMap`: a list that is written element by element, with marks written
  as marks, has as pieces the pieces of the list as they are written.
* `Waybill.Cutting.flatten_splitOnP`: the pieces hold all elements that are no marks.
* `Waybill.Cutting.intercalate_cons`: pieces put together with a separator, from the first one on.
* `Waybill.Cutting.cut_append_of_not_mem`: what stands before the first mark, and what behind it.
* `Waybill.Cutting.upTo?_eq_some_iff`, `Waybill.Cutting.dropInfix?_of_clear`: where a list is cut.
-/

namespace Waybill.Cutting

variable {α β : Type*}

/-! ### All pieces -/

theorem not_mark_of_mem_splitOnP {p : α → Bool} {xs w : List α} {x : α}
    (hw : w ∈ xs.splitOnP p) (hx : x ∈ w) : p x = false := by
  induction xs generalizing w with
  | nil =>
    rw [List.splitOnP_nil, List.mem_singleton] at hw
    simp [hw] at hx
  | cons a xs ih =>
    rw [List.splitOnP_cons_eq_if_modifyHead] at hw
    obtain ⟨first, others, hcut⟩ := List.exists_cons_of_ne_nil (List.splitOnP_ne_nil p xs)
    rw [hcut] at hw ih
    by_cases ha : p a = true
    · rw [if_pos ha, List.mem_cons] at hw
      rcases hw with rfl | hw
      · simp at hx
      · exact ih hw hx
    · rw [if_neg ha, List.modifyHead_cons, List.mem_cons] at hw
      rcases hw with rfl | hw
      · rcases List.mem_cons.mp hx with rfl | hx
        · simpa using ha
        · exact ih List.mem_cons_self hx
      · exact ih (List.mem_cons_of_mem _ hw) hx

/-- The pieces hold all elements that are no marks, in order. -/
theorem flatten_splitOnP (p : α → Bool) (xs : List α) :
    (xs.splitOnP p).flatten = xs.filter (!p ·) := by
  induction xs with
  | nil => simp
  | cons a xs ih =>
    obtain ⟨first, others, hcut⟩ := List.exists_cons_of_ne_nil (List.splitOnP_ne_nil p xs)
    rw [List.splitOnP_cons_eq_if_modifyHead]
    by_cases ha : p a = true
    · simp [ha, ih]
    · rw [if_neg ha, hcut, List.modifyHead_cons]
      rw [hcut] at ih
      simp [ha, ← ih]

theorem mem_of_mem_splitOnP {p : α → Bool} {xs w : List α} {x : α}
    (hw : w ∈ xs.splitOnP p) (hx : x ∈ w) : x ∈ xs := by
  have h : x ∈ (xs.splitOnP p).flatten := List.mem_flatten_of_mem hw hx
  rw [flatten_splitOnP] at h
  exact List.mem_of_mem_filter h

/-- A list in front that holds no marks goes with the first piece. -/
theorem splitOnP_append_of_forall {p : α → Bool} {xs : List α} (h : ∀ x ∈ xs, p x = false)
    (ys : List α) : (xs ++ ys).splitOnP p = (ys.splitOnP p).modifyHead (xs ++ ·) := by
  induction xs with
  | nil =>
    obtain ⟨first, others, hcut⟩ := List.exists_cons_of_ne_nil (List.splitOnP_ne_nil p ys)
    simp [hcut]
  | cons a xs ih =>
    have ha : p a = false := h a List.mem_cons_self
    rw [List.cons_append, List.splitOnP_cons_eq_if_modifyHead, if_neg (by simp [ha]),
      ih fun x hx => h x (List.mem_cons_of_mem _ hx), List.modifyHead_modifyHead]
    rfl

/-- **Writing element by element keeps the pieces.** If every marked element is written as one mark
and every other without marks, the pieces of what is written are the pieces as they are written. -/
theorem splitOnP_flatMap {p : α → Bool} {q : β → Bool} {write : α → List β} {xs : List α}
    (hmark : ∀ x ∈ xs, p x = true → ∃ m, q m = true ∧ write x = [m])
    (hother : ∀ x ∈ xs, p x = false → ∀ c ∈ write x, q c = false) :
    (xs.flatMap write).splitOnP q = (xs.splitOnP p).map (·.flatMap write) := by
  induction xs with
  | nil => simp
  | cons a xs ih =>
    have ih := ih (fun x hx => hmark x (List.mem_cons_of_mem _ hx))
      (fun x hx => hother x (List.mem_cons_of_mem _ hx))
    obtain ⟨first, others, hcut⟩ := List.exists_cons_of_ne_nil (List.splitOnP_ne_nil p xs)
    rw [List.flatMap_cons, List.splitOnP_cons_eq_if_modifyHead]
    cases ha : p a with
    | true =>
      obtain ⟨m, hm, hwrite⟩ := hmark a List.mem_cons_self ha
      rw [hwrite, List.singleton_append, List.splitOnP_cons_eq_if_modifyHead, if_pos hm, if_pos rfl,
        ih]
      rfl
    | false =>
      rw [splitOnP_append_of_forall (hother a List.mem_cons_self ha), ih, hcut]
      rfl

theorem splitOnP_dropWhile_suffix {p q : α → Bool} (h : ∀ x, q x = true → p x = true)
    (xs : List α) : (xs.dropWhile q).splitOnP p <:+ xs.splitOnP p := by
  induction xs with
  | nil => exact List.suffix_refl _
  | cons a xs ih =>
    cases ha : q a with
    | true =>
      rw [List.dropWhile_cons_of_pos ha, List.splitOnP_cons_eq_if_modifyHead, if_pos (h a ha)]
      exact ih.trans (List.suffix_cons [] _)
    | false =>
      have hkept : (a :: xs).dropWhile q = a :: xs := List.dropWhile_cons_of_neg (by simp [ha])
      simp only [hkept, List.suffix_refl]

/-- Of pieces that are put together with a separator, each but the first has one before it. -/
theorem intercalate_cons (sep w : List α) (rest : List (List α)) :
    sep.intercalate (w :: rest) = w ++ rest.flatMap (sep ++ ·) := by
  induction rest generalizing w with
  | nil => rw [List.intercalate_singleton, List.flatMap_nil, List.append_nil]
  | cons v more ih =>
    rw [List.intercalate_cons_cons, ih, List.flatMap_cons, List.append_assoc, List.append_assoc]

theorem mem_intercalate {sep : List α} {xs : List (List α)} {x : α}
    (hx : x ∈ sep.intercalate xs) : x ∈ sep ∨ ∃ w ∈ xs, x ∈ w := by
  cases xs with
  | nil => simp at hx
  | cons w rest =>
    rw [intercalate_cons, List.mem_append, List.mem_flatMap] at hx
    rcases hx with hx | ⟨v, hv, hx⟩
    · exact Or.inr ⟨w, List.mem_cons_self, hx⟩
    · rcases List.mem_append.mp hx with hx | hx
      · exact Or.inl hx
      · exact Or.inr ⟨v, List.mem_cons_of_mem _ hv, hx⟩

/-! ### The first mark -/

section FirstMark

variable [BEq α] [LawfulBEq α] {mark : α} {xs : List α}

theorem bne_of_not_mem (h : mark ∉ xs) : ∀ x ∈ xs, (x != mark) = true :=
  fun _ hx => bne_iff_ne.mpr (ne_of_mem_of_not_mem hx h)

theorem cut_of_not_mem (h : mark ∉ xs) :
    xs.takeWhile (· != mark) = xs ∧ xs.dropWhile (· != mark) = [] :=
  ⟨List.takeWhile_eq_self_iff.mpr (bne_of_not_mem h),
    List.dropWhile_eq_nil_iff.mpr (bne_of_not_mem h)⟩

/-- A list is cut at its first mark. -/
theorem cut_append_of_not_mem (h : mark ∉ xs) (rest : List α) :
    (xs ++ mark :: rest).takeWhile (· != mark) = xs ∧
      (xs ++ mark :: rest).dropWhile (· != mark) = mark :: rest := by
  rw [List.takeWhile_append_of_pos (bne_of_not_mem h),
    List.dropWhile_append_of_pos (bne_of_not_mem h)]
  simp

/-- What stands before the first mark, and what stands behind the closing that starts with it. -/
def upTo? (mark : α) (more xs : List α) : Option (List α × List α) :=
  ((xs.dropWhile (· != mark)).dropPrefix? (mark :: more)).map fun rest =>
    (xs.takeWhile (· != mark), rest)

theorem not_mem_takeWhile_bne : mark ∉ xs.takeWhile (· != mark) := by
  intro h
  simpa using List.mem_takeWhile_imp h

/-- **A list is cut at a closing** exactly if this stands there, and its first element does not
stand before it. -/
theorem upTo?_eq_some_iff {more front rest : List α} :
    upTo? mark more xs = some (front, rest) ↔
      xs = front ++ (mark :: more ++ rest) ∧ mark ∉ front := by
  constructor
  · intro h
    obtain ⟨after, hafter, heq⟩ := Option.map_eq_some_iff.mp h
    obtain ⟨rfl, rfl⟩ := Prod.mk.inj heq
    obtain ⟨closing, hdrop, hclosing⟩ := List.dropPrefix?_eq_some_iff.mp hafter
    obtain rfl := beq_iff_eq.mp hclosing
    refine ⟨?_, not_mem_takeWhile_bne⟩
    rw [← hdrop, List.takeWhile_append_dropWhile]
  · rintro ⟨rfl, hmark⟩
    obtain ⟨hfront, hclosing⟩ := cut_append_of_not_mem hmark (more ++ rest)
    rw [upTo?, List.cons_append, hfront, hclosing, ← List.cons_append,
      List.dropPrefix?_append_of_beq rest (beq_iff_eq.mpr rfl)]
    rfl

end FirstMark

/-! ### The first occurrence of a list -/

section FirstOccurrence

variable {mark xs ys : List α} {x : α}

/-- No occurrence of `mark` starts in the first list when the second one follows it. -/
inductive Clear (mark : List α) : List α → List α → Prop
  | nil (ys : List α) : Clear mark [] ys
  | cons {x : α} {xs ys : List α} (start : ¬mark <+: x :: (xs ++ ys)) (rest : Clear mark xs ys) :
      Clear mark (x :: xs) ys

theorem Clear.append {zs : List α} (hxs : Clear mark xs (ys ++ zs)) (hys : Clear mark ys zs) :
    Clear mark (xs ++ ys) zs := by
  induction xs with
  | nil => exact hys
  | cons x xs ih =>
    obtain _ | ⟨hstart, hrest⟩ := hxs
    rw [List.cons_append]
    refine .cons ?_ (ih hrest)
    rwa [List.append_assoc]

theorem clear_of_not_mem (h : x ∉ xs) : Clear (x :: mark) xs ys := by
  induction xs with
  | nil => exact .nil ys
  | cons y xs ih =>
    refine .cons (fun hprefix => h ?_) (ih fun hmem => h (List.mem_cons_of_mem _ hmem))
    rw [(List.cons_prefix_cons.mp hprefix).1]
    exact List.mem_cons_self

/-- What starts a list and does not hold a certain element ends before this element. -/
theorem prefix_of_prefix_append_cons (hx : x ∉ mark) (h : mark <+: xs ++ x :: ys) :
    mark <+: xs := by
  induction xs generalizing mark with
  | nil =>
    cases mark with
    | nil => exact List.nil_prefix
    | cons y mark =>
      obtain rfl := (List.cons_prefix_cons.mp h).1
      exact absurd List.mem_cons_self hx
  | cons z xs ih =>
    cases mark with
    | nil => exact List.nil_prefix
    | cons y mark =>
      obtain ⟨rfl, hmark⟩ := List.cons_prefix_cons.mp h
      exact List.cons_prefix_cons.mpr
        ⟨rfl, ih (fun hmem => hx (List.mem_cons_of_mem _ hmem)) hmark⟩

/-- No occurrence starts in a list that does not hold what stands behind the first element, if this
element comes next and does not stand there again. -/
theorem clear_of_not_isInfix (hx : x ∉ mark) (h : ¬mark <:+: xs) :
    Clear (x :: mark) xs (x :: ys) := by
  induction xs with
  | nil => exact .nil _
  | cons y xs ih =>
    have hrest : ¬mark <:+: xs := fun hmark => h (List.infix_cons hmark)
    refine .cons (fun hprefix => hrest ?_) (ih hrest)
    exact (prefix_of_prefix_append_cons hx (List.cons_prefix_cons.mp hprefix).2).isInfix

/-- **A list is cut at the first occurrence** of another one, if none starts before. -/
theorem dropInfix?_of_clear [BEq α] [LawfulBEq α] (h : Clear mark xs (mark ++ ys)) :
    (xs ++ (mark ++ ys)).dropInfix? mark = some (xs, ys) := by
  rw [List.dropInfix?_eq_some_iff]
  refine ⟨⟨mark, by rw [List.append_assoc], beq_iff_eq.mpr rfl⟩, ?_⟩
  intro before found after heq hfound
  obtain rfl := beq_iff_eq.mp hfound
  rw [List.append_assoc] at heq
  induction xs generalizing before with
  | nil => exact Nat.zero_le _
  | cons x xs ih =>
    obtain _ | ⟨hstart, hrest⟩ := h
    cases before with
    | nil => exact absurd ⟨after, heq.symm⟩ hstart
    | cons y before => exact Nat.succ_le_succ (ih before hrest (List.cons.inj heq).2)

end FirstOccurrence

/-! ### The ends of a list -/

theorem rdropWhile_append_of_forall {p : α → Bool} (xs : List α) {ys : List α}
    (h : ∀ y ∈ ys, p y = true) : (xs ++ ys).rdropWhile p = xs.rdropWhile p := by
  induction ys using List.reverseRecOn with
  | nil => rw [List.append_nil]
  | append_singleton ys y ih =>
    rw [← List.append_assoc, List.rdropWhile_concat_pos _ _ _ (h y (by simp))]
    exact ih fun z hz => h z (by simp [hz])

/-- What a list loses at its end it loses at the end of a longer one, if not all of it is lost or
the longer one stops there. -/
theorem rdropWhile_append_of_getLast {p : α → Bool} {xs : List α} (ys : List α)
    (h : ∀ x, xs.getLast? = some x → p x = false) :
    (xs ++ ys).rdropWhile p = xs ++ ys.rdropWhile p := by
  induction ys using List.reverseRecOn with
  | nil =>
    rw [List.append_nil, List.rdropWhile_nil, List.append_nil, List.rdropWhile_eq_self_iff]
    intro hne
    rw [h _ (List.getLast?_eq_getLast_of_ne_nil hne)]
    exact Bool.false_ne_true
  | append_singleton ys y ih =>
    rw [← List.append_assoc]
    by_cases hy : p y = true
    · rw [List.rdropWhile_concat_pos _ _ _ hy, List.rdropWhile_concat_pos _ _ _ hy, ih]
    · rw [List.rdropWhile_concat_neg _ _ _ hy, List.rdropWhile_concat_neg _ _ _ hy,
        List.append_assoc]

end Waybill.Cutting
