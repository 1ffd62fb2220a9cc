import Waybill.Proofs.Text.Cutting
import Waybill.Url.Path

/-!
# Paths of the web as lists of segments

In the schemes of the web a path is a list of segments, each with a slash before it. Reading a path
is a walk over what stands between its separators: a segment is put at the end of the list, a dot
leaves the list as it is, and two dots take its last segment away, unless that starts with a drive
letter. A walk that ends with a step of dots ends at an empty segment.

The walk is a function of the segments alone, so that what a text adds to a path, or takes from it,
can be counted. Texts are read as walks in `Waybill.Proofs.Url.Path`.

## Main definitions

* `Waybill.Url.pathText`, `Waybill.Url.segmentsOf`: the text of segments, and the segments of a
  text.
* `Waybill.Url.walk`: the segments that remain of a path when its steps are taken.

## Main results

* `Waybill.Url.segmentsOf_pathText`: the segments of a path are those it was made of.
* `Waybill.Url.walk_of_forall`: without steps a walk keeps all segments.
* `Waybill.Url.length_walk_le`, `Waybill.Url.walk_eq_of_length_walk`: every step but one at the end
  makes a path shorter.
* `Waybill.Url.mem_drop_walk`: what a walk puts behind the segments it starts from comes from the
  text that is read.
-/

namespace Waybill.Url

/-! ### Segments and their text -/

/-- The path of segments, each with a slash before it. -/
def pathText (segments : List (List Char)) : List Char := segments.flatMap ('/' :: ·)

/-- The segments of a path: what stands between its slashes, after the first of them. -/
def segmentsOf (path : List Char) : List (List Char) := (path.splitOn '/').drop 1

@[simp] theorem pathText_nil : pathText [] = [] := rfl

@[simp] theorem pathText_cons (s : List Char) (rest : List (List Char)) :
    pathText (s :: rest) = '/' :: (s ++ pathText rest) := rfl

@[simp] theorem pathText_append (xs ys : List (List Char)) :
    pathText (xs ++ ys) = pathText xs ++ pathText ys := by
  simp [pathText]

theorem exists_cons_of_pathText {segs : List (List Char)} (hne : segs ≠ []) :
    ∃ rest, pathText segs = '/' :: rest := by
  obtain ⟨s, others, rfl⟩ := List.exists_cons_of_ne_nil hne
  exact ⟨s ++ pathText others, rfl⟩

/-- Behind its first slash the pieces of a path are the pieces of its segments. -/
theorem splitOnP_of_pathText {p : Char → Bool} (hslash : p '/' = true) {segs : List (List Char)}
    {rest : List Char} (h : pathText segs = '/' :: rest) :
    rest.splitOnP p = segs.flatMap (·.splitOnP p) := by
  induction segs generalizing rest with
  | nil => cases h
  | cons s others ih =>
    obtain rfl : s ++ pathText others = rest := (List.cons.inj h).2
    rw [List.flatMap_cons]
    rcases others with _ | ⟨t, more⟩
    · simp
    · rw [pathText_cons, List.splitOnP_append_cons _ _ hslash, ih (pathText_cons t more)]

theorem flatMap_splitOnP_of_forall {p : Char → Bool} {segs : List (List Char)}
    (h : ∀ s ∈ segs, ∀ c ∈ s, p c = false) : segs.flatMap (·.splitOnP p) = segs := by
  have hcut : segs.flatMap (·.splitOnP p) = segs.flatMap ([·]) :=
    List.flatMap_congr fun s hs => List.splitOnP_eq_singleton (h s hs)
  rw [hcut, List.flatMap_singleton']

/-- The segments of a path are those it was made of. -/
theorem segmentsOf_pathText {segs : List (List Char)} (h : ∀ s ∈ segs, '/' ∉ s) :
    segmentsOf (pathText segs) = segs := by
  rcases segs with _ | ⟨s, rest⟩
  · rfl
  · have hcut : (s :: rest).flatMap (·.splitOnP (· == '/')) = s :: rest := by
      refine flatMap_splitOnP_of_forall fun t ht c hc => ?_
      rw [beq_eq_false_iff_ne]
      rintro rfl
      exact h t ht hc
    have hpieces := splitOnP_of_pathText (p := (· == '/')) rfl (pathText_cons s rest)
    rw [segmentsOf, List.splitOn_eq_splitOnP, pathText_cons,
      List.splitOnP_cons_eq_if_modifyHead, if_pos (beq_self_eq_true '/'), hpieces, hcut]
    rfl

/-- A path without the slashes at its end is the path of its segments without the empty ones at
their end. -/
theorem rdropWhile_pathText {segs : List (List Char)} (h : ∀ s ∈ segs, '/' ∉ s) :
    (pathText segs).rdropWhile (· == '/') = pathText (segs.rdropWhile List.isEmpty) := by
  induction segs using List.reverseRecOn with
  | nil => rfl
  | append_singleton segs s ih =>
    have ih := ih fun t ht => h t (by simp [ht])
    rw [pathText_append, pathText_cons, pathText_nil, List.append_nil]
    rcases s.eq_nil_or_concat' with rfl | ⟨before, last, rfl⟩
    · rw [List.rdropWhile_concat_pos _ _ _ rfl, List.rdropWhile_concat_pos _ _ _ rfl, ih]
    · have hlast : ¬(last == '/') = true := by
        rw [beq_iff_eq]
        rintro rfl
        exact h (before ++ ['/']) (by simp) (by simp)
      rw [← List.cons_append, ← List.append_assoc,
        List.rdropWhile_concat_neg (· == '/') _ last hlast,
        List.rdropWhile_concat_neg List.isEmpty segs (before ++ [last]) (by simp)]
      simp

/-! ### The walk over segments -/

/-- Whether a segment is a step. -/
def isStep (s : List Char) : Bool := isDoubleDot s || isSingleDot s

/-- The segments after a step back. A segment that starts with a drive letter is not left. -/
def back (stack : List (List Char)) : List (List Char) :=
  if stack.getLast?.any startsAtDrive then stack else stack.dropLast

/-- The segments after one more. -/
def step (stack : List (List Char)) (s : List Char) : List (List Char) :=
  if isDoubleDot s then back stack else if isSingleDot s then stack else stack ++ [s]

/-- The segments that remain when all steps are taken, given those so far. -/
def walk (stack segs : List (List Char)) : List (List Char) :=
  segs.foldl step stack ++ (if segs.getLast?.all isStep then [[]] else [])

theorem step_of_not_isStep (stack : List (List Char)) {s : List Char} (h : isStep s = false) :
    step stack s = stack ++ [s] := by
  rw [isStep, Bool.or_eq_false_iff] at h
  simp [step, h]

theorem back_isPrefix (stack : List (List Char)) : back stack <+: stack := by
  rw [back]
  split
  · exact List.prefix_refl stack
  · exact stack.dropLast_prefix

theorem step_isPrefix_of_isStep (stack : List (List Char)) {s : List Char} (h : isStep s = true) :
    step stack s <+: stack := by
  rw [isStep, Bool.or_eq_true] at h
  rw [step]
  split
  · exact back_isPrefix stack
  · rename_i hdouble
    exact (if_pos (h.resolve_left hdouble)).symm ▸ List.prefix_refl stack

theorem walk_cons (stack : List (List Char)) (s : List Char) {rest : List (List Char)}
    (hrest : rest ≠ []) : walk stack (s :: rest) = walk (step stack s) rest := by
  obtain ⟨t, more, rfl⟩ := List.exists_cons_of_ne_nil hrest
  rw [walk, walk, List.foldl_cons, List.getLast?_cons_cons]

theorem walk_append (stack : List (List Char)) {xs ys : List (List Char)} (hys : ys ≠ []) :
    walk stack (xs ++ ys) = walk (xs.foldl step stack) ys := by
  induction xs generalizing stack with
  | nil => rfl
  | cons x xs ih =>
    rw [List.cons_append, walk_cons stack x (by simp [hys]), ih, List.foldl_cons]

/-- **Without steps a walk keeps all segments.** -/
theorem foldl_step_of_forall (stack : List (List Char)) {segs : List (List Char)}
    (h : ∀ s ∈ segs, isStep s = false) : segs.foldl step stack = stack ++ segs := by
  induction segs generalizing stack with
  | nil => simp
  | cons s rest ih =>
    rw [List.foldl_cons, step_of_not_isStep stack (h s List.mem_cons_self),
      ih _ fun t ht => h t (List.mem_cons_of_mem _ ht), List.append_assoc]
    rfl

theorem walk_of_forall (stack : List (List Char)) {segs : List (List Char)} (hne : segs ≠ [])
    (h : ∀ s ∈ segs, isStep s = false) : walk stack segs = stack ++ segs := by
  have hlast : segs.getLast?.all isStep = false := by
    rw [List.getLast?_eq_getLast_of_ne_nil hne, Option.all_some]
    exact h _ (List.getLast_mem hne)
  rw [walk, foldl_step_of_forall stack h, hlast]
  simp

/-! ### What a walk can lose -/

theorem length_step_le (stack : List (List Char)) (s : List Char) :
    (step stack s).length ≤ stack.length + 1 := by
  cases h : isStep s with
  | true =>
    have := (step_isPrefix_of_isStep stack h).length_le
    omega
  | false => rw [step_of_not_isStep stack h, List.length_append, List.length_singleton]

theorem length_foldl_step_le (stack segs : List (List Char)) :
    (segs.foldl step stack).length ≤ stack.length + segs.length := by
  induction segs generalizing stack with
  | nil => exact Nat.le_refl _
  | cons s rest ih =>
    have hrest := ih (step stack s)
    have hstep := length_step_le stack s
    rw [List.foldl_cons, List.length_cons]
    omega

theorem walk_singleton (stack : List (List Char)) (s : List Char) :
    walk stack [s] = if isStep s then step stack s ++ [[]] else stack ++ [s] := by
  cases h : isStep s with
  | true => simp [walk, h]
  | false => simp [walk, h, step_of_not_isStep]

/-- **A walk adds at most one segment for each piece.** -/
theorem length_walk_le (stack : List (List Char)) {segs : List (List Char)} (hne : segs ≠ []) :
    (walk stack segs).length ≤ stack.length + segs.length := by
  obtain ⟨before, last, rfl⟩ := segs.eq_nil_or_concat'.resolve_left hne
  have hbefore := length_foldl_step_le stack before
  rw [walk_append stack (by simp), walk_singleton, List.length_append, List.length_singleton]
  split
  · rename_i hlast
    have := (step_isPrefix_of_isStep (before.foldl step stack) hlast).length_le
    rw [List.length_append, List.length_singleton]
    omega
  · rw [List.length_append, List.length_singleton]
    omega

theorem not_isStep_of_length_foldl (stack : List (List Char)) {segs : List (List Char)}
    (h : stack.length + segs.length ≤ (segs.foldl step stack).length) :
    ∀ s ∈ segs, isStep s = false := by
  induction segs generalizing stack with
  | nil => simp
  | cons s rest ih =>
    rw [List.foldl_cons, List.length_cons] at h
    have hrest := length_foldl_step_le (step stack s) rest
    have hstep := length_step_le stack s
    have hs : isStep s = false := by
      by_contra hs
      rw [Bool.not_eq_false] at hs
      have := (step_isPrefix_of_isStep stack hs).length_le
      omega
    intro t ht
    rcases List.mem_cons.mp ht with rfl | ht
    · exact hs
    · exact ih (step stack s) (by omega) t ht

/-- **A walk that adds one segment for each piece** meets no step but at its end, where it leaves an
empty segment. -/
theorem walk_eq_of_length_walk (stack : List (List Char)) {before : List (List Char)}
    {last : List Char}
    (h : stack.length + (before.length + 1) ≤ (walk stack (before ++ [last])).length) :
    (∀ s ∈ before, isStep s = false) ∧
      walk stack (before ++ [last]) = stack ++ before ++ [if isStep last then [] else last] := by
  have hbefore : ∀ s ∈ before, isStep s = false := by
    refine not_isStep_of_length_foldl stack ?_
    rw [walk_append stack (by simp), walk_singleton] at h
    split at h
    · rename_i hlast
      have := (step_isPrefix_of_isStep (before.foldl step stack) hlast).length_le
      rw [List.length_append, List.length_singleton] at h
      omega
    · rw [List.length_append, List.length_singleton] at h
      omega
  refine ⟨hbefore, ?_⟩
  rw [walk_append stack (by simp), walk_singleton, foldl_step_of_forall stack hbefore] at h ⊢
  split
  · rename_i hlast
    rw [if_pos hlast] at h
    have hsame : step (stack ++ before) last = stack ++ before := by
      refine (step_isPrefix_of_isStep _ hlast).eq_of_length_le ?_
      simp only [List.length_append, List.length_singleton] at h ⊢
      omega
    rw [hsame]
  · rfl

/-- What a step back leaves behind the first segments was there before. -/
theorem mem_drop_of_isPrefix {n : Nat} {xs ys : List (List Char)} (h : xs <+: ys) {x : List Char}
    (hx : x ∈ xs.drop n) : x ∈ ys.drop n := by
  obtain ⟨rest, rfl⟩ := h
  rw [List.drop_append]
  exact List.mem_append_left _ hx

theorem mem_drop_append_singleton {n : Nat} {xs : List (List Char)} {x y : List Char}
    (hx : x ∈ (xs ++ [y]).drop n) : x ∈ xs.drop n ∨ x = y := by
  rw [List.drop_append] at hx
  rcases List.mem_append.mp hx with hx | hx
  · exact Or.inl hx
  · exact Or.inr (List.mem_singleton.mp (List.mem_of_mem_drop hx))

/-- The invariant of a walk: behind any number of segments it puts only pieces that are no steps. -/
theorem mem_drop_foldl_step {n : Nat} {stack segs : List (List Char)} {x : List Char}
    (hx : x ∈ (segs.foldl step stack).drop n) :
    x ∈ stack.drop n ∨ (x ∈ segs ∧ isStep x = false) := by
  induction segs generalizing stack with
  | nil => exact Or.inl hx
  | cons s rest ih =>
    rcases ih hx with hx | ⟨hx, hstep⟩
    · cases hs : isStep s with
      | true => exact Or.inl (mem_drop_of_isPrefix (step_isPrefix_of_isStep stack hs) hx)
      | false =>
        rw [step_of_not_isStep stack hs] at hx
        rcases mem_drop_append_singleton hx with hx | rfl
        · exact Or.inl hx
        · exact Or.inr ⟨List.mem_cons_self, hs⟩
    · exact Or.inr ⟨List.mem_cons_of_mem _ hx, hstep⟩

/-- **What a walk puts behind the segments it starts from** is empty or a piece that is no step. -/
theorem mem_drop_walk {n : Nat} {stack segs : List (List Char)} {x : List Char}
    (hx : x ∈ (walk stack segs).drop n) :
    x ∈ stack.drop n ∨ x = [] ∨ (x ∈ segs ∧ isStep x = false) := by
  have hfoldl (h : x ∈ (segs.foldl step stack).drop n) :
      x ∈ stack.drop n ∨ x = [] ∨ (x ∈ segs ∧ isStep x = false) := by
    rcases mem_drop_foldl_step h with h | h
    · exact Or.inl h
    · exact Or.inr (Or.inr h)
  rw [walk] at hx
  split at hx
  · rcases mem_drop_append_singleton hx with hx | rfl
    · exact hfoldl hx
    · exact Or.inr (Or.inl rfl)
  · rw [List.append_nil] at hx
    exact hfoldl hx

theorem walk_ne_nil (stack : List (List Char)) {segs : List (List Char)} :
    walk stack segs ≠ [] := by
  rcases segs.eq_nil_or_concat' with rfl | ⟨before, last, rfl⟩
  · simp [walk]
  · rw [walk_append stack (by simp), walk_singleton]
    split <;> simp

end Waybill.Url
