import Mathlib.Data.List.Forall2

/-!
# Steps that may fail

Much of what is read, built and run here goes step by step and stops at the first step that fails.
These lemmas take such a sequence apart: it has a result if each step has one, and its failure is
that of one of its steps.

## Main results

* `Waybill.Steps.bind_eq_ok_iff`, `Waybill.Steps.bind_eq_error_iff`: two steps.
* `Waybill.Steps.mapM_eq_ok_iff`, `Waybill.Steps.exists_mapM_eq_ok`,
  `Waybill.Steps.exists_of_mapM_eq_error`, `Waybill.Steps.mapM_eq_error_iff`: one step for each
  element of a list.
* `Waybill.Steps.mapM_replace`: one element of a list has another step in its place.
* `Waybill.Steps.exists_of_mem_left`, `Waybill.Steps.exists_of_mem_right`,
  `Waybill.Steps.exists_forall₂`, `Waybill.Steps.forall₂_imp`, `Waybill.Steps.forall₂_comp`: lists
  related one by one.
-/

namespace Waybill.Steps

variable {ε α β : Type}

/-! ### Lists related one by one -/

/-- In lists that are related one by one, every element has one that it is related to. -/
theorem exists_of_mem_left {R : α → β → Prop} {xs : List α} {ys : List β}
    (h : List.Forall₂ R xs ys) {x : α} (hx : x ∈ xs) : ∃ y ∈ ys, R x y := by
  induction h with
  | nil => cases hx
  | @cons x' y xs ys hfirst hrest ih =>
    rcases List.mem_cons.mp hx with rfl | hx
    · exact ⟨y, List.mem_cons_self, hfirst⟩
    · obtain ⟨y', hy', h'⟩ := ih hx
      exact ⟨y', List.mem_cons_of_mem _ hy', h'⟩

/-- Elements that are each related to something are related one by one. -/
theorem exists_forall₂ {R : α → β → Prop} {xs : List α} (h : ∀ x ∈ xs, ∃ y, R x y) :
    ∃ ys, List.Forall₂ R xs ys := by
  induction xs with
  | nil => exact ⟨[], .nil⟩
  | cons x xs ih =>
    rw [List.forall_mem_cons] at h
    obtain ⟨⟨y, hy⟩, hrest⟩ := h
    obtain ⟨ys, hys⟩ := ih hrest
    exact ⟨y :: ys, .cons hy hys⟩

theorem exists_of_mem_right {R : α → β → Prop} {xs : List α} {ys : List β}
    (h : List.Forall₂ R xs ys) {y : β} (hy : y ∈ ys) : ∃ x ∈ xs, R x y :=
  exists_of_mem_left h.flip hy

/-- A relation of elements one by one may be weakened for the elements of the list. -/
theorem forall₂_imp {R S : α → β → Prop} {xs : List α} {ys : List β} (h : List.Forall₂ R xs ys)
    (himp : ∀ x ∈ xs, ∀ y, R x y → S x y) : List.Forall₂ S xs ys :=
  ((List.forall₂_and_left xs ys).mpr ⟨himp, h⟩).imp fun _ y hxy => hxy.1 y hxy.2

/-- Relations of elements one by one may be put together. -/
theorem forall₂_comp {γ : Type} {R : α → β → Prop} {S : β → γ → Prop} {T : α → γ → Prop}
    {xs : List α} {ys : List β} {zs : List γ} (hxy : List.Forall₂ R xs ys)
    (hyz : List.Forall₂ S ys zs) (himp : ∀ x ∈ xs, ∀ y z, R x y → S y z → T x z) :
    List.Forall₂ T xs zs := by
  induction hxy generalizing zs with
  | nil =>
    obtain rfl := List.forall₂_nil_left_iff.mp hyz
    exact .nil
  | @cons x y xs ys hfirst _ ih =>
    obtain ⟨z, zs, hz, hzs, rfl⟩ := List.forall₂_cons_left_iff.mp hyz
    exact .cons (himp x List.mem_cons_self y z hfirst hz)
      (ih hzs fun x' hx' => himp x' (List.mem_cons_of_mem _ hx'))

/-! ### Steps -/

/-- Two steps have a result if both have one. -/
theorem bind_eq_ok_iff {x : Except ε α} {f : α → Except ε β} {b : β} :
    (x >>= f) = .ok b ↔ ∃ a, x = .ok a ∧ f a = .ok b := by
  cases x with
  | error e =>
    constructor
    · rintro ⟨⟩
    · rintro ⟨a, ⟨⟩, -⟩
  | ok a =>
    constructor
    · intro h
      exact ⟨a, rfl, h⟩
    · rintro ⟨_, ⟨⟩, h⟩
      exact h

/-- Two steps fail with the first one, or with the second one on the result of the first. -/
theorem bind_eq_error_iff {x : Except ε α} {f : α → Except ε β} {e : ε} :
    (x >>= f) = .error e ↔ x = .error e ∨ ∃ a, x = .ok a ∧ f a = .error e := by
  cases x with
  | error e' =>
    constructor
    · intro h
      exact .inl (congrArg Except.error (Except.error.inj h))
    · rintro (h | ⟨a, ⟨⟩, -⟩)
      exact congrArg Except.error (Except.error.inj h)
  | ok a =>
    constructor
    · intro h
      exact .inr ⟨a, rfl, h⟩
    · rintro (⟨⟨⟩⟩ | ⟨_, ⟨⟩, h⟩)
      exact h

/-- The results for the elements of a list are results one by one. -/
theorem mapM_eq_ok_iff {f : α → Except ε β} {xs : List α} {ys : List β} :
    xs.mapM f = .ok ys ↔ List.Forall₂ (fun x y => f x = .ok y) xs ys := by
  induction xs generalizing ys with
  | nil =>
    rw [List.mapM_nil, List.forall₂_nil_left_iff]
    exact ⟨fun h => (Except.ok.inj h).symm, fun h => congrArg Except.ok h.symm⟩
  | cons x xs ih =>
    rw [List.mapM_cons, bind_eq_ok_iff, List.forall₂_cons_left_iff]
    constructor
    · rintro ⟨y, hy, h⟩
      obtain ⟨ys', hys', h⟩ := bind_eq_ok_iff.mp h
      exact ⟨y, ys', hy, ih.mp hys', (Except.ok.inj h).symm⟩
    · rintro ⟨y, ys', hy, hys', rfl⟩
      exact ⟨y, hy, bind_eq_ok_iff.mpr ⟨ys', ih.mpr hys', rfl⟩⟩

theorem exists_of_mem_mapM {f : α → Except ε β} {xs : List α} {ys : List β}
    (h : xs.mapM f = .ok ys) {y : β} (hy : y ∈ ys) : ∃ x ∈ xs, f x = .ok y :=
  exists_of_mem_right (mapM_eq_ok_iff.mp h) hy

/-- A list fails with the failure of the first of its elements that has no result. -/
theorem mapM_eq_error_iff {f : α → Except ε β} {xs : List α} {e : ε} :
    xs.mapM f = .error e ↔ ∃ before x rest, xs = before ++ x :: rest ∧
      (∀ x' ∈ before, ∃ y, f x' = .ok y) ∧ f x = .error e := by
  induction xs with
  | nil =>
    constructor
    · rintro ⟨⟩
    · rintro ⟨before, x, rest, h, -⟩
      exact absurd h.symm (List.append_ne_nil_of_right_ne_nil before (List.cons_ne_nil x rest))
  | cons x xs ih =>
    rw [List.mapM_cons, bind_eq_error_iff]
    constructor
    · rintro (h | ⟨y, hy, h⟩)
      · exact ⟨[], x, xs, rfl, by simp, h⟩
      · rcases bind_eq_error_iff.mp h with h | ⟨ys, -, ⟨⟩⟩
        obtain ⟨before, x', rest, rfl, hbefore, hx'⟩ := ih.mp h
        exact ⟨x :: before, x', rest, rfl, List.forall_mem_cons.mpr ⟨⟨y, hy⟩, hbefore⟩, hx'⟩
    · rintro ⟨before, x', rest, heq, hbefore, hx'⟩
      cases before with
      | nil =>
        obtain ⟨rfl, rfl⟩ := List.cons.inj heq
        exact .inl hx'
      | cons first before =>
        obtain ⟨rfl, rfl⟩ := List.cons.inj heq
        obtain ⟨⟨y, hy⟩, hbefore⟩ := List.forall_mem_cons.mp hbefore
        exact .inr ⟨y, hy, bind_eq_error_iff.mpr
          (.inl (ih.mpr ⟨before, x', rest, rfl, hbefore, hx'⟩))⟩

/-- A list fails with the failure of one of its elements. -/
theorem exists_of_mapM_eq_error {f : α → Except ε β} {xs : List α} {e : ε}
    (h : xs.mapM f = .error e) : ∃ x ∈ xs, f x = .error e := by
  obtain ⟨before, x, rest, rfl, -, hx⟩ := mapM_eq_error_iff.mp h
  exact ⟨x, List.mem_append_right _ List.mem_cons_self, hx⟩

/-- If every element has a result with some property, so has the list. -/
theorem exists_mapM_eq_ok {f : α → Except ε β} {P : α → β → Prop} {xs : List α}
    (h : ∀ x ∈ xs, ∃ y, f x = .ok y ∧ P x y) :
    ∃ ys, xs.mapM f = .ok ys ∧ List.Forall₂ P xs ys := by
  obtain ⟨ys, hys⟩ := exists_forall₂ h
  exact ⟨ys, mapM_eq_ok_iff.mpr (hys.imp fun _ _ hxy => hxy.1), hys.imp fun _ _ hxy => hxy.2⟩

theorem mapM_congr {f g : α → Except ε β} {xs : List α} (h : ∀ x ∈ xs, f x = g x) :
    xs.mapM f = xs.mapM g := by
  induction xs with
  | nil => rfl
  | cons x rest ih =>
    rw [List.forall_mem_cons] at h
    rw [List.mapM_cons, List.mapM_cons, h.1, ih h.2]

/-- One element of a list of steps has another step in its place. -/
theorem mapM_replace {f : α → Except ε β} {before after : List α} {x : α} {ys : List β}
    (h : (before ++ x :: after).mapM f = .ok ys) :
    ∃ earlier y later, ys = earlier ++ y :: later ∧ earlier.length = before.length ∧ f x = .ok y ∧
      ∀ x', (before ++ x' :: after).mapM f = (f x').map fun y' => earlier ++ y' :: later := by
  simp only [List.mapM_append, List.mapM_cons, bind_eq_ok_iff] at h
  obtain ⟨earlier, hbefore, _, ⟨y, hx, later, hafter, hmiddle⟩, heq⟩ := h
  obtain rfl := Except.ok.inj hmiddle
  obtain rfl := Except.ok.inj heq
  refine ⟨earlier, y, later, rfl, ?_, hx, fun x' => ?_⟩
  · exact (mapM_eq_ok_iff.mp hbefore).length_eq.symm
  · rw [List.mapM_append, List.mapM_cons, hbefore, hafter]
    cases f x' <;> rfl

end Waybill.Steps
