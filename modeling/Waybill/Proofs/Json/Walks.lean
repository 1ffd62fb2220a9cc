import Mathlib.Data.List.Forall2
import Waybill.Json.Decode
import Waybill.Proofs.Steps

/-!
# Walks that succeed

A walk over a tree succeeds if it succeeds at every part it meets. For each way to put walks
together there is one lemma that takes a successful walk apart, so that a property of walks is
proved part by part.

## Main results

* `Waybill.Json.deeper_eq_ok_iff`, `Waybill.Json.stopOf_eq_ok_iff`,
  `Waybill.Json.stopOfMembers_eq_ok_iff`: brackets.
* `Waybill.Json.json_array_eq_ok_iff`, `Waybill.Json.json_object_eq_ok_iff`: the value of a tree.
* `Waybill.Json.pass_array_eq_ok_iff`, `Waybill.Json.pass_object_eq_ok_iff`: trees that are passed
  over.
-/

namespace Waybill.Json

/-! ### Results -/

theorem map_eq_ok_iff {ε α β : Type} {x : Except ε α} {f : α → β} {b : β} :
    x.map f = .ok b ↔ ∃ a, x = .ok a ∧ f a = b := by
  cases x with
  | error e =>
    constructor
    · rintro ⟨⟩
    · rintro ⟨a, ⟨⟩, -⟩
  | ok a =>
    constructor
    · exact fun h => ⟨a, rfl, Except.ok.inj h⟩
    · rintro ⟨_, ⟨⟩, rfl⟩
      rfl

theorem lift_eq_ok_iff {α : Type} {x : Except Fault α} {a : α} : lift x = .ok a ↔ x = .ok a := by
  cases x with
  | error fault =>
    constructor
    all_goals rintro ⟨⟩
  | ok b => exact ⟨fun h => congrArg _ (Except.ok.inj h), fun h => congrArg _ (Except.ok.inj h)⟩

theorem atStep_eq_ok_iff {α : Type} {step : Step} {x : Decoded α} {a : α} :
    atStep step x = .ok a ↔ x = .ok a := by
  cases x with
  | error failure =>
    constructor
    all_goals rintro ⟨⟩
  | ok b => exact ⟨fun h => h, fun h => h⟩

/-! ### Brackets -/

theorem deeper_eq_ok_iff {depth start inner : Nat} :
    deeper depth start = .ok inner ↔ 1 < depth ∧ inner = depth - 1 := by
  unfold deeper
  split
  · constructor
    · rintro ⟨⟩
    · rintro ⟨h, -⟩
      omega
  · constructor
    · intro h
      exact ⟨by omega, (Except.ok.inj h).symm⟩
    · rintro ⟨-, rfl⟩
      rfl

theorem stopOf_eq_ok_iff {ending : Ending} {stop : Nat} :
    stopOf ending = .ok stop ↔ ending = .closed stop := by
  cases ending with
  | closed stop' =>
    exact ⟨fun h => congrArg _ (Except.ok.inj h), fun h => congrArg _ (Ending.closed.inj h)⟩
  | broken | bare =>
    constructor
    all_goals rintro ⟨⟩

theorem stopOfMembers_eq_ok_iff {ending : Ending} {stop : Nat} :
    stopOfMembers ending = .ok stop ↔ ending = .closed stop := by
  cases ending with
  | closed stop' =>
    exact ⟨fun h => congrArg _ (Except.ok.inj h), fun h => congrArg _ (Ending.closed.inj h)⟩
  | broken =>
    constructor
    all_goals rintro ⟨⟩
  | bare key fault =>
    constructor
    · intro h
      obtain ⟨_, -, h⟩ := Steps.bind_eq_ok_iff.mp h
      cases h
    · rintro ⟨⟩

theorem passEnding_eq_ok_iff (change : Cause → Cause) {ending : Ending} :
    passEnding change ending = .ok () ↔ ∃ stop, ending = .closed stop := by
  cases ending with
  | closed stop => exact ⟨fun _ => ⟨stop, rfl⟩, fun _ => rfl⟩
  | broken =>
    constructor
    · rintro ⟨⟩
    · rintro ⟨_, ⟨⟩⟩
  | bare key fault =>
    constructor
    · intro h
      obtain ⟨_, -, h⟩ := Steps.bind_eq_ok_iff.mp h
      cases h
    · rintro ⟨_, ⟨⟩⟩

/-! ### The value of a tree -/

theorem json_number_eq_ok_iff {depth : Nat} {leaf : Leaf Number} {j : Json} :
    (Tree.number leaf).json depth = .ok j ↔ ∃ n, leaf.value = .ok n ∧ .number n = j := by
  rw [Tree.json, map_eq_ok_iff]
  simp only [lift_eq_ok_iff]

theorem json_text_eq_ok_iff {depth : Nat} {leaf : Leaf String} {j : Json} :
    (Tree.text leaf).json depth = .ok j ↔ ∃ s, leaf.value = .ok s ∧ .text s = j := by
  rw [Tree.json, map_eq_ok_iff]
  simp only [lift_eq_ok_iff]

/-- The value of an array. -/
theorem json_array_eq_ok_iff {depth start : Nat} {items : List Tree} {ending : Ending} {j : Json} :
    (Tree.array start items ending).json depth = .ok j ↔
      1 < depth ∧ (∃ stop, ending = .closed stop) ∧
        ∃ values, jsonOfItems (depth - 1) 0 items = .ok values ∧ j = .array values := by
  rw [Tree.json]
  constructor
  · intro h
    obtain ⟨inner, hdeeper, h⟩ := Steps.bind_eq_ok_iff.mp h
    obtain ⟨hdepth, rfl⟩ := deeper_eq_ok_iff.mp hdeeper
    obtain ⟨values, hvalues, hclose⟩ := Steps.bind_eq_ok_iff.mp h
    obtain ⟨stop, hstop, heq⟩ := Steps.bind_eq_ok_iff.mp hclose
    exact ⟨hdepth, ⟨stop, stopOf_eq_ok_iff.mp hstop⟩, values, hvalues, (Except.ok.inj heq).symm⟩
  · rintro ⟨hdepth, ⟨stop, rfl⟩, values, hvalues, rfl⟩
    rw [deeper_eq_ok_iff.mpr ⟨hdepth, rfl⟩]
    refine Steps.bind_eq_ok_iff.mpr ⟨_, rfl, Steps.bind_eq_ok_iff.mpr ⟨values, hvalues, ?_⟩⟩
    rfl

/-- The value of an object. -/
theorem json_object_eq_ok_iff {depth start : Nat} {members : List (Key × Tree)} {ending : Ending}
    {j : Json} :
    (Tree.object start members ending).json depth = .ok j ↔
      1 < depth ∧ (∃ stop, ending = .closed stop) ∧
        ∃ values, jsonOfMembers (depth - 1) members = .ok values ∧ j = .object (sorted values) := by
  rw [Tree.json]
  constructor
  · intro h
    obtain ⟨inner, hdeeper, h⟩ := Steps.bind_eq_ok_iff.mp h
    obtain ⟨hdepth, rfl⟩ := deeper_eq_ok_iff.mp hdeeper
    obtain ⟨values, hvalues, hclose⟩ := Steps.bind_eq_ok_iff.mp h
    obtain ⟨stop, hstop, heq⟩ := Steps.bind_eq_ok_iff.mp hclose
    exact ⟨hdepth, ⟨stop, stopOfMembers_eq_ok_iff.mp hstop⟩, values, hvalues,
      (Except.ok.inj heq).symm⟩
  · rintro ⟨hdepth, ⟨stop, rfl⟩, values, hvalues, rfl⟩
    rw [deeper_eq_ok_iff.mpr ⟨hdepth, rfl⟩]
    refine Steps.bind_eq_ok_iff.mpr ⟨_, rfl, Steps.bind_eq_ok_iff.mpr ⟨values, hvalues, ?_⟩⟩
    rfl

theorem jsonOfItems_cons_eq_ok_iff {depth i : Nat} {tree : Tree} {rest : List Tree}
    {values : List Json} :
    jsonOfItems depth i (tree :: rest) = .ok values ↔ ∃ j js, tree.json depth = .ok j ∧
      jsonOfItems depth (i + 1) rest = .ok js ∧ values = j :: js := by
  rw [jsonOfItems]
  constructor
  · intro h
    obtain ⟨j, hj, h⟩ := Steps.bind_eq_ok_iff.mp h
    obtain ⟨js, hjs, h⟩ := Steps.bind_eq_ok_iff.mp h
    exact ⟨j, js, atStep_eq_ok_iff.mp hj, hjs, (Except.ok.inj h).symm⟩
  · rintro ⟨j, js, hj, hjs, rfl⟩
    exact Steps.bind_eq_ok_iff.mpr ⟨j, atStep_eq_ok_iff.mpr hj,
      Steps.bind_eq_ok_iff.mpr ⟨js, hjs, rfl⟩⟩

theorem jsonOfMembers_cons_eq_ok_iff {depth : Nat} {key : Key} {tree : Tree}
    {rest : List (Key × Tree)} {values : List (String × Json)} :
    jsonOfMembers depth ((key, tree) :: rest) = .ok values ↔ ∃ name j js,
      key.name.value = .ok name ∧ tree.json depth = .ok j ∧
      jsonOfMembers depth rest = .ok js ∧ values = (name, j) :: js := by
  rw [jsonOfMembers]
  constructor
  · intro h
    obtain ⟨name, hname, h⟩ := Steps.bind_eq_ok_iff.mp h
    obtain ⟨j, hj, h⟩ := Steps.bind_eq_ok_iff.mp h
    obtain ⟨js, hjs, h⟩ := Steps.bind_eq_ok_iff.mp h
    exact ⟨name, j, js, lift_eq_ok_iff.mp (atStep_eq_ok_iff.mp hname), atStep_eq_ok_iff.mp hj, hjs,
      (Except.ok.inj h).symm⟩
  · rintro ⟨name, j, js, hname, hj, hjs, rfl⟩
    exact Steps.bind_eq_ok_iff.mpr ⟨name, atStep_eq_ok_iff.mpr (lift_eq_ok_iff.mpr hname),
      Steps.bind_eq_ok_iff.mpr ⟨j, atStep_eq_ok_iff.mpr hj,
        Steps.bind_eq_ok_iff.mpr ⟨js, hjs, rfl⟩⟩⟩

theorem jsonOfItems_eq_ok_iff {depth i : Nat} {items : List Tree} {values : List Json} :
    jsonOfItems depth i items = .ok values ↔
      List.Forall₂ (fun tree j => tree.json depth = .ok j) items values := by
  induction items generalizing i values with
  | nil =>
    rw [List.forall₂_nil_left_iff]
    exact ⟨fun h => (Except.ok.inj h).symm, fun h => congrArg _ h.symm⟩
  | cons tree items ih =>
    rw [jsonOfItems_cons_eq_ok_iff, List.forall₂_cons_left_iff]
    constructor
    · rintro ⟨j, js, hj, hjs, rfl⟩
      exact ⟨j, js, hj, ih.mp hjs, rfl⟩
    · rintro ⟨j, js, hj, hjs, rfl⟩
      exact ⟨j, js, hj, ih.mpr hjs, rfl⟩

theorem jsonOfMembers_eq_ok_iff {depth : Nat} {members : List (Key × Tree)}
    {values : List (String × Json)} :
    jsonOfMembers depth members = .ok values ↔
      List.Forall₂ (fun m v => m.1.name.value = .ok v.1 ∧ m.2.json depth = .ok v.2)
        members values := by
  induction members generalizing values with
  | nil =>
    rw [List.forall₂_nil_left_iff]
    exact ⟨fun h => (Except.ok.inj h).symm, fun h => congrArg _ h.symm⟩
  | cons m members ih =>
    obtain ⟨key, tree⟩ := m
    rw [jsonOfMembers_cons_eq_ok_iff, List.forall₂_cons_left_iff]
    constructor
    · rintro ⟨name, j, js, hname, hj, hjs, rfl⟩
      exact ⟨(name, j), js, ⟨hname, hj⟩, ih.mp hjs, rfl⟩
    · rintro ⟨⟨name, j⟩, js, ⟨hname, hj⟩, hjs, rfl⟩
      exact ⟨name, j, js, hname, hj, ih.mpr hjs, rfl⟩

/-! ### Passing over -/

theorem pass_number_eq_ok_iff {leaf : Leaf Number} :
    (Tree.number leaf).pass = .ok () ↔ ∃ stop, leaf.passed = .ok stop := by
  rw [Tree.pass, map_eq_ok_iff]
  simp only [and_true]

theorem pass_text_eq_ok_iff {leaf : Leaf String} :
    (Tree.text leaf).pass = .ok () ↔ ∃ stop, leaf.passed = .ok stop := by
  rw [Tree.pass, map_eq_ok_iff]
  simp only [and_true]

theorem pass_array_eq_ok_iff {start : Nat} {items : List Tree} {ending : Ending} :
    (Tree.array start items ending).pass = .ok () ↔
      passItems items = .ok () ∧ ∃ stop, ending = .closed stop := by
  rw [Tree.pass, Steps.bind_eq_ok_iff, ← passEnding_eq_ok_iff passedItemCause]
  constructor
  · rintro ⟨_, hitems, h⟩
    exact ⟨hitems, h⟩
  · rintro ⟨hitems, h⟩
    exact ⟨(), hitems, h⟩

theorem pass_object_eq_ok_iff {start : Nat} {members : List (Key × Tree)} {ending : Ending} :
    (Tree.object start members ending).pass = .ok () ↔
      passMembers members = .ok () ∧ ∃ stop, ending = .closed stop := by
  rw [Tree.pass, Steps.bind_eq_ok_iff, ← passEnding_eq_ok_iff passedMemberCause]
  constructor
  · rintro ⟨_, hmembers, h⟩
    exact ⟨hmembers, h⟩
  · rintro ⟨hmembers, h⟩
    exact ⟨(), hmembers, h⟩

theorem passItems_cons_eq_ok_iff {tree : Tree} {rest : List Tree} :
    passItems (tree :: rest) = .ok () ↔ tree.pass = .ok () ∧ passItems rest = .ok () := by
  rw [passItems, Steps.bind_eq_ok_iff]
  constructor
  · rintro ⟨_, htree, h⟩
    exact ⟨htree, h⟩
  · rintro ⟨htree, h⟩
    exact ⟨(), htree, h⟩

theorem passMembers_cons_eq_ok_iff {key : Key} {tree : Tree} {rest : List (Key × Tree)} :
    passMembers ((key, tree) :: rest) = .ok () ↔
      tree.pass = .ok () ∧ passMembers rest = .ok () := by
  rw [passMembers, Steps.bind_eq_ok_iff]
  constructor
  · rintro ⟨_, htree, h⟩
    exact ⟨htree, h⟩
  · rintro ⟨htree, h⟩
    exact ⟨(), htree, h⟩

theorem passItems_eq_ok_iff {items : List Tree} :
    passItems items = .ok () ↔ ∀ tree ∈ items, tree.pass = .ok () := by
  induction items with
  | nil => simp [passItems]
  | cons tree items ih => rw [passItems_cons_eq_ok_iff, List.forall_mem_cons, ih]

theorem passMembers_eq_ok_iff {members : List (Key × Tree)} :
    passMembers members = .ok () ↔ ∀ m ∈ members, m.2.pass = .ok () := by
  induction members with
  | nil => simp [passMembers]
  | cons m members ih => rw [passMembers_cons_eq_ok_iff, List.forall_mem_cons, ih]

end Waybill.Json
