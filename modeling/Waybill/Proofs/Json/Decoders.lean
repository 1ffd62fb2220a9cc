import Mathlib.Data.List.ReduceOption
import Waybill.Proofs.Json.Walks

/-!
# Decoders that succeed

Arrays, tuples, maps and records are decoded by the decoders of their parts. A decoder of this kind
succeeds on a tree if the bracket is closed, there is room for one more bracket, and the decoders of
the parts succeed on the parts. What the parts of a record are is told by two relations: what each
member adds, and where each field takes its value from.

## Main definitions

* `Waybill.Json.Fills`: items fill what is wanted.
* `Waybill.Json.Adds`, `Waybill.Json.Supplies`: the members and the fields of a record.

## Main results

* `Waybill.Json.decodeInteger_eq_ok_iff`, `Waybill.Json.decodeDouble_eq_ok_iff`,
  `Waybill.Json.decodeCharacter_eq_ok_iff`: scalars.
* `Waybill.Json.decodeList_array_eq_ok_iff`, `Waybill.Json.decodeMap_object_eq_ok_iff`,
  `Waybill.Json.decodeTuple_eq_ok_iff`: lists, maps and tuples.
* `Waybill.Json.decodeRecord_object_eq_ok_iff`, `Waybill.Json.decodeRecord_array_eq_ok_iff`: records
  in their two forms.
* `Waybill.Schema.induction`: induction over schemas.
-/

open Waybill.Json

namespace Waybill

namespace Json

/-! ### Scalars -/

theorem mismatch_ne_ok {α : Type} (expected : String) (tree : Tree) (a : α) :
    mismatch expected tree ≠ .ok a := by
  intro h
  obtain ⟨_, -, h⟩ := Steps.bind_eq_ok_iff.mp h
  cases h

theorem decodeInteger_eq_ok_iff {type : IntegerType} {walk : Walk} {tree : Tree} {d : Datum} :
    decodeInteger type walk tree = .ok d ↔ ∃ leaf i, tree = .number leaf ∧
      leaf.value = .ok (.integer i) ∧ type.holds i = true ∧ d = .integer i := by
  constructor
  · intro h
    cases tree with
    | number leaf =>
      obtain ⟨n, hn, h⟩ := Steps.bind_eq_ok_iff.mp h
      cases n with
      | floating x => exact absurd h (mismatch_ne_ok _ _ _)
      | integer i =>
        simp only at h
        split at h
        case isTrue hholds =>
          exact ⟨leaf, i, rfl, lift_eq_ok_iff.mp hn, hholds, (Except.ok.inj h).symm⟩
        case isFalse =>
          obtain ⟨_, -, h⟩ := Steps.bind_eq_ok_iff.mp h
          cases h
    | null | boolean | text | array | object | broken => exact absurd h (mismatch_ne_ok _ _ _)
  · rintro ⟨leaf, i, rfl, hn, hholds, rfl⟩
    refine Steps.bind_eq_ok_iff.mpr ⟨_, lift_eq_ok_iff.mpr hn, ?_⟩
    simp only [hholds, if_true]

/-- A number as a floating-point number. -/
def Number.double : Number → Binary
  | .integer i => Binary.ofInt .double i
  | .floating x => x

theorem decodeDouble_eq_ok_iff {walk : Walk} {tree : Tree} {d : Datum} :
    decodeDouble walk tree = .ok d ↔ ∃ leaf n, tree = .number leaf ∧ leaf.value = .ok n ∧
      d = .double n.double := by
  constructor
  · intro h
    cases tree with
    | number leaf =>
      obtain ⟨n, hn, h⟩ := Steps.bind_eq_ok_iff.mp h
      refine ⟨leaf, n, rfl, lift_eq_ok_iff.mp hn, ?_⟩
      cases n with
      | integer i => exact (Except.ok.inj h).symm
      | floating x => exact (Except.ok.inj h).symm
    | null | boolean | text | array | object | broken => exact absurd h (mismatch_ne_ok _ _ _)
  · rintro ⟨leaf, n, rfl, hn, rfl⟩
    refine Steps.bind_eq_ok_iff.mpr ⟨n, lift_eq_ok_iff.mpr hn, ?_⟩
    cases n <;> rfl

theorem decodeCharacter_eq_ok_iff {walk : Walk} {tree : Tree} {d : Datum} :
    decodeCharacter walk tree = .ok d ↔ ∃ leaf s c, tree = .text leaf ∧ leaf.value = .ok s ∧
      s.toList = [c] ∧ d = .character c := by
  constructor
  · intro h
    cases tree with
    | text leaf =>
      obtain ⟨s, hs, h⟩ := Steps.bind_eq_ok_iff.mp h
      split at h
      · rename_i c hc
        exact ⟨leaf, s, c, rfl, lift_eq_ok_iff.mp hs, hc, (Except.ok.inj h).symm⟩
      · obtain ⟨_, -, h⟩ := Steps.bind_eq_ok_iff.mp h
        cases h
    | null | boolean | number | array | object | broken => exact absurd h (mismatch_ne_ok _ _ _)
  · rintro ⟨leaf, s, c, rfl, hs, hc, rfl⟩
    refine Steps.bind_eq_ok_iff.mpr ⟨s, lift_eq_ok_iff.mpr hs, ?_⟩
    rw [hc]

/-! ### Lists and maps -/

/-- Items that are decoded alike, one by one. -/
theorem decodeItems_eq_ok_iff {decode : Decoder} {walk : Walk} {i : Nat} {items : List Tree}
    {values : List Datum} :
    decodeItems decode walk i items = .ok values ↔
      List.Forall₂ (fun tree d => decode walk tree = .ok d) items values := by
  induction items generalizing i values with
  | nil =>
    rw [List.forall₂_nil_left_iff]
    exact ⟨fun h => (Except.ok.inj h).symm, fun h => congrArg _ h.symm⟩
  | cons tree items ih =>
    rw [decodeItems, List.forall₂_cons_left_iff]
    constructor
    · intro h
      obtain ⟨d, hd, h⟩ := Steps.bind_eq_ok_iff.mp h
      obtain ⟨ds, hds, h⟩ := Steps.bind_eq_ok_iff.mp h
      exact ⟨d, ds, atStep_eq_ok_iff.mp hd, ih.mp hds, (Except.ok.inj h).symm⟩
    · rintro ⟨d, ds, hd, hds, rfl⟩
      exact Steps.bind_eq_ok_iff.mpr ⟨d, atStep_eq_ok_iff.mpr hd,
        Steps.bind_eq_ok_iff.mpr ⟨ds, ih.mpr hds, rfl⟩⟩

theorem decodeMembers_eq_ok_iff {decode : Decoder} {walk : Walk} {members : List (Key × Tree)}
    {values : List (String × Datum)} :
    decodeMembers decode walk members = .ok values ↔
      List.Forall₂ (fun m d => m.1.name.value = .ok d.1 ∧ decode walk m.2 = .ok d.2)
        members values := by
  induction members generalizing values with
  | nil =>
    rw [List.forall₂_nil_left_iff]
    exact ⟨fun h => (Except.ok.inj h).symm, fun h => congrArg _ h.symm⟩
  | cons m members ih =>
    obtain ⟨key, tree⟩ := m
    rw [decodeMembers, List.forall₂_cons_left_iff]
    constructor
    · intro h
      obtain ⟨name, hname, h⟩ := Steps.bind_eq_ok_iff.mp h
      obtain ⟨d, hd, h⟩ := Steps.bind_eq_ok_iff.mp h
      obtain ⟨ds, hds, h⟩ := Steps.bind_eq_ok_iff.mp h
      exact ⟨(name, d), ds, ⟨lift_eq_ok_iff.mp (atStep_eq_ok_iff.mp hname),
        atStep_eq_ok_iff.mp hd⟩, ih.mp hds, (Except.ok.inj h).symm⟩
    · rintro ⟨⟨name, d⟩, ds, ⟨hname, hd⟩, hds, rfl⟩
      exact Steps.bind_eq_ok_iff.mpr ⟨name, atStep_eq_ok_iff.mpr (lift_eq_ok_iff.mpr hname),
        Steps.bind_eq_ok_iff.mpr ⟨d, atStep_eq_ok_iff.mpr hd,
          Steps.bind_eq_ok_iff.mpr ⟨ds, ih.mpr hds, rfl⟩⟩⟩

/-- A walk inside one more bracket. -/
def Walk.inner (walk : Walk) : Walk := { walk with depth := walk.depth - 1 }

theorem decodeList_array_eq_ok_iff {item : Decoder} {walk : Walk} {start : Nat} {items : List Tree}
    {ending : Ending} {d : Datum} :
    decodeList item walk (.array start items ending) = .ok d ↔
      1 < walk.depth ∧ (∃ stop, ending = .closed stop) ∧ ∃ values,
        List.Forall₂ (fun tree d => item walk.inner tree = .ok d) items values ∧
          d = .list values := by
  simp only [decodeList]
  constructor
  · intro h
    obtain ⟨depth, hdeeper, h⟩ := Steps.bind_eq_ok_iff.mp h
    obtain ⟨hdepth, rfl⟩ := deeper_eq_ok_iff.mp hdeeper
    obtain ⟨values, hvalues, hclose⟩ := Steps.bind_eq_ok_iff.mp h
    obtain ⟨stop, hstop, heq⟩ := Steps.bind_eq_ok_iff.mp hclose
    exact ⟨hdepth, ⟨stop, stopOf_eq_ok_iff.mp hstop⟩, values, decodeItems_eq_ok_iff.mp hvalues,
      (Except.ok.inj heq).symm⟩
  · rintro ⟨hdepth, ⟨stop, rfl⟩, values, hvalues, rfl⟩
    rw [deeper_eq_ok_iff.mpr ⟨hdepth, rfl⟩]
    exact Steps.bind_eq_ok_iff.mpr ⟨_, rfl, Steps.bind_eq_ok_iff.mpr
      ⟨values, decodeItems_eq_ok_iff.mpr hvalues, rfl⟩⟩

theorem decodeMap_object_eq_ok_iff {value : Decoder} {walk : Walk} {start : Nat}
    {members : List (Key × Tree)} {ending : Ending} {d : Datum} :
    decodeMap value walk (.object start members ending) = .ok d ↔
      1 < walk.depth ∧ (∃ stop, ending = .closed stop) ∧ ∃ values,
        List.Forall₂ (fun m d => m.1.name.value = .ok d.1 ∧ value walk.inner m.2 = .ok d.2)
          members values ∧ d = .map ((sorted values).map fun (k, d) => (.text k, d)) := by
  simp only [decodeMap]
  constructor
  · intro h
    obtain ⟨depth, hdeeper, h⟩ := Steps.bind_eq_ok_iff.mp h
    obtain ⟨hdepth, rfl⟩ := deeper_eq_ok_iff.mp hdeeper
    obtain ⟨values, hvalues, hclose⟩ := Steps.bind_eq_ok_iff.mp h
    obtain ⟨stop, hstop, heq⟩ := Steps.bind_eq_ok_iff.mp hclose
    exact ⟨hdepth, ⟨stop, stopOfMembers_eq_ok_iff.mp hstop⟩, values,
      decodeMembers_eq_ok_iff.mp hvalues, (Except.ok.inj heq).symm⟩
  · rintro ⟨hdepth, ⟨stop, rfl⟩, values, hvalues, rfl⟩
    rw [deeper_eq_ok_iff.mpr ⟨hdepth, rfl⟩]
    exact Steps.bind_eq_ok_iff.mpr ⟨_, rfl, Steps.bind_eq_ok_iff.mpr
      ⟨values, decodeMembers_eq_ok_iff.mpr hvalues, rfl⟩⟩

/-! ### Tuples -/

/-- Items fill what is wanted in order, and defaults stand for those that are missing at the end. -/
inductive Fills (walk : Walk) :
    List (Option Datum × Decoder) → List Tree → List Datum → Prop
  | nil : Fills walk [] [] []
  | item {default? : Option Datum} {decode : Decoder} {wanted : List (Option Datum × Decoder)}
    {tree : Tree} {trees : List Tree} {d : Datum} {ds : List Datum}
    (h : decode walk tree = .ok d) (hrest : Fills walk wanted trees ds) :
    Fills walk ((default?, decode) :: wanted) (tree :: trees) (d :: ds)
  | default {d : Datum} {decode : Decoder} {wanted : List (Option Datum × Decoder)}
    {ds : List Datum} (hrest : Fills walk wanted [] ds) :
    Fills walk ((some d, decode) :: wanted) [] (d :: ds)

/-- What is left over of a closed array is nothing if the items fill what is wanted. -/
theorem decodeEach_eq_ok_iff {expected : String} {walk : Walk} {stop i : Nat}
    {wanted : List (Option Datum × Decoder)} {items : List Tree} {values : List Datum} :
    decodeEach expected walk (.closed stop) i wanted items = .ok (values, []) ↔
      Fills walk wanted items values := by
  constructor
  · intro h
    induction wanted generalizing i items values with
    | nil =>
      obtain ⟨rfl, rfl⟩ := Prod.mk.inj (Except.ok.inj h)
      exact .nil
    | cons want wanted ih =>
      obtain ⟨default?, decode⟩ := want
      cases items with
      | cons tree items =>
        rw [decodeEach] at h
        obtain ⟨d, hd, h⟩ := Steps.bind_eq_ok_iff.mp h
        obtain ⟨⟨ds, left⟩, hds, h⟩ := Steps.bind_eq_ok_iff.mp h
        obtain ⟨rfl, rfl⟩ := Prod.mk.inj (Except.ok.inj h)
        exact .item (atStep_eq_ok_iff.mp hd) (ih hds)
      | nil =>
        cases default? with
        | none =>
          rw [decodeEach] at h
          cases h
        | some d =>
          rw [decodeEach] at h
          obtain ⟨_, -, h⟩ := Steps.bind_eq_ok_iff.mp h
          obtain ⟨⟨ds, left⟩, hds, h⟩ := Steps.bind_eq_ok_iff.mp h
          obtain ⟨rfl, rfl⟩ := Prod.mk.inj (Except.ok.inj h)
          exact .default (ih hds)
  · intro h
    induction h generalizing i with
    | nil => rfl
    | item hd _ ih =>
      rw [decodeEach]
      exact Steps.bind_eq_ok_iff.mpr ⟨_, atStep_eq_ok_iff.mpr hd,
        Steps.bind_eq_ok_iff.mpr ⟨_, ih, rfl⟩⟩
    | default _ ih =>
      rw [decodeEach]
      exact Steps.bind_eq_ok_iff.mpr ⟨stop, rfl, Steps.bind_eq_ok_iff.mpr ⟨_, ih, rfl⟩⟩

theorem finishItems_eq_ok_iff {walk : Walk} {count : Nat} {rest : List Tree} {ending : Ending} :
    finishItems walk count rest ending = .ok () ↔ rest = [] ∧ ∃ stop, ending = .closed stop := by
  cases rest with
  | cons extra rest => cases hlocated : walk.located <;> simp [finishItems, fail, hlocated]
  | nil =>
    cases ending with
    | closed stop => simp [finishItems]
    | broken | bare => simp [finishItems, fail]

theorem decodeTuple_eq_ok_iff {expected : String} {wanted : List (Option Datum × Decoder)}
    {walk : Walk} {start : Nat} {items : List Tree} {ending : Ending} {values : List Datum} :
    decodeTuple expected wanted walk start items ending = .ok values ↔
      1 < walk.depth ∧ (∃ stop, ending = .closed stop) ∧
        Fills walk.inner wanted items values := by
  rw [decodeTuple]
  constructor
  · intro h
    obtain ⟨depth, hdeeper, h⟩ := Steps.bind_eq_ok_iff.mp h
    obtain ⟨hdepth, rfl⟩ := deeper_eq_ok_iff.mp hdeeper
    obtain ⟨⟨ds, left⟩, hds, h⟩ := Steps.bind_eq_ok_iff.mp h
    obtain ⟨_, hfinish, h⟩ := Steps.bind_eq_ok_iff.mp h
    obtain ⟨rfl, stop, rfl⟩ := finishItems_eq_ok_iff.mp hfinish
    obtain rfl := Except.ok.inj h
    exact ⟨hdepth, ⟨stop, rfl⟩, decodeEach_eq_ok_iff.mp hds⟩
  · rintro ⟨hdepth, ⟨stop, rfl⟩, hvalues⟩
    rw [deeper_eq_ok_iff.mpr ⟨hdepth, rfl⟩]
    exact Steps.bind_eq_ok_iff.mpr ⟨_, rfl, Steps.bind_eq_ok_iff.mpr
      ⟨_, decodeEach_eq_ok_iff.mpr hvalues, Steps.bind_eq_ok_iff.mpr
        ⟨(), finishItems_eq_ok_iff.mpr ⟨rfl, stop, rfl⟩, rfl⟩⟩⟩

/-! ### Records -/

/-- What a member adds to the fields of a record: a field that is known is decoded, and another one
is passed over. -/
def Adds (strict : Bool) (fields : List FieldDecoder) (walk : Walk) (m : Key × Tree)
    (added : Option (String × Datum)) : Prop :=
  ∃ name, m.1.name.value = .ok name ∧
    match fields.find? (·.name == name) with
    | some field => ∃ d, field.decode walk m.2 = .ok d ∧ added = some (name, d)
    | none => strict = false ∧ m.2.pass = .ok () ∧ added = none

theorem fieldOf_eq_ok_iff {strict : Bool} {fields : List FieldDecoder}
    {met : List (String × Datum)} {key : Key} {name : String} {field? : Option FieldDecoder} :
    fieldOf strict fields met key = .ok (name, field?) ↔ key.name.value = .ok name ∧
      match fields.find? (·.name == name) with
      | some field => met.any (·.1 == name) = false ∧ field? = some field
      | none => strict = false ∧ field? = none := by
  rw [fieldOf]
  constructor
  · intro h
    obtain ⟨name', hname, h⟩ := Steps.bind_eq_ok_iff.mp h
    have hvalue := lift_eq_ok_iff.mp (atStep_eq_ok_iff.mp hname)
    cases hfind : fields.find? (·.name == name') with
    | some field =>
      simp only [hfind] at h
      split at h
      case isTrue => cases h
      case isFalse hmet =>
        obtain ⟨rfl, rfl⟩ := Prod.mk.inj (Except.ok.inj h)
        rw [hfind]
        exact ⟨hvalue, Bool.eq_false_iff.mpr hmet, rfl⟩
    | none =>
      simp only [hfind] at h
      split at h
      case isTrue => cases h
      case isFalse hstrict =>
        obtain ⟨rfl, rfl⟩ := Prod.mk.inj (Except.ok.inj h)
        rw [hfind]
        exact ⟨hvalue, Bool.eq_false_iff.mpr hstrict, rfl⟩
  · rintro ⟨hvalue, h⟩
    refine Steps.bind_eq_ok_iff.mpr ⟨name, atStep_eq_ok_iff.mpr (lift_eq_ok_iff.mpr hvalue), ?_⟩
    cases hfind : fields.find? (·.name == name) with
    | some field =>
      simp only [hfind] at h
      obtain ⟨hmet, rfl⟩ := h
      simp only [hmet, Bool.false_eq_true, if_false]
    | none =>
      simp only [hfind] at h
      obtain ⟨rfl, rfl⟩ := h
      rfl

/-- A member adds a field that was not there before, or none. -/
theorem decodeFields_cons_eq_ok_iff {strict : Bool} {fields : List FieldDecoder} {walk : Walk}
    {met met' : List (String × Datum)} {m : Key × Tree} {members : List (Key × Tree)} :
    decodeFields strict fields walk met (m :: members) = .ok met' ↔
      ∃ added, Adds strict fields walk m added ∧
        (∀ p ∈ added, met.any (·.1 == p.1) = false) ∧
        decodeFields strict fields walk (added.toList ++ met) members = .ok met' := by
  obtain ⟨key, tree⟩ := m
  rw [decodeFields]
  constructor
  · intro h
    obtain ⟨⟨name, field?⟩, hfield, h⟩ := Steps.bind_eq_ok_iff.mp h
    obtain ⟨hname, hfound⟩ := fieldOf_eq_ok_iff.mp hfield
    cases hfind : fields.find? (·.name == name) with
    | some field =>
      simp only [hfind] at hfound
      obtain ⟨hmet, rfl⟩ := hfound
      obtain ⟨d, hd, h⟩ := Steps.bind_eq_ok_iff.mp h
      refine ⟨some (name, d), ⟨name, hname, ?_⟩, by simpa using hmet, h⟩
      rw [hfind]
      exact ⟨d, atStep_eq_ok_iff.mp hd, rfl⟩
    | none =>
      simp only [hfind] at hfound
      obtain ⟨hstrict, rfl⟩ := hfound
      obtain ⟨_, hpass, h⟩ := Steps.bind_eq_ok_iff.mp h
      refine ⟨none, ⟨name, hname, ?_⟩, by simp, h⟩
      rw [hfind]
      exact ⟨hstrict, lift_eq_ok_iff.mp (atStep_eq_ok_iff.mp hpass), rfl⟩
  · rintro ⟨added, ⟨name, hname, hadds⟩, hfresh, h⟩
    cases hfind : fields.find? (·.name == name) with
    | some field =>
      simp only [hfind] at hadds
      obtain ⟨d, hd, rfl⟩ := hadds
      have hfield : fieldOf strict fields met key = .ok (name, some field) := by
        refine fieldOf_eq_ok_iff.mpr ⟨hname, ?_⟩
        rw [hfind]
        exact ⟨hfresh _ rfl, rfl⟩
      exact Steps.bind_eq_ok_iff.mpr ⟨_, hfield, Steps.bind_eq_ok_iff.mpr
        ⟨d, atStep_eq_ok_iff.mpr hd, h⟩⟩
    | none =>
      simp only [hfind] at hadds
      obtain ⟨hstrict, hpass, rfl⟩ := hadds
      have hfield : fieldOf strict fields met key = .ok (name, none) := by
        refine fieldOf_eq_ok_iff.mpr ⟨hname, ?_⟩
        rw [hfind]
        exact ⟨hstrict, rfl⟩
      exact Steps.bind_eq_ok_iff.mpr ⟨_, hfield, Steps.bind_eq_ok_iff.mpr
        ⟨(), atStep_eq_ok_iff.mpr (lift_eq_ok_iff.mpr hpass), h⟩⟩

/-- The fields that are met, member by member, each of them once. -/
theorem decodeFields_eq_ok_iff {strict : Bool} {fields : List FieldDecoder} {walk : Walk}
    {met met' : List (String × Datum)} {members : List (Key × Tree)} :
    decodeFields strict fields walk met members = .ok met' ↔
      ∃ added, List.Forall₂ (Adds strict fields walk) members added ∧
        ((added.reduceOption).map Prod.fst).Nodup ∧
        (∀ p ∈ added.reduceOption, met.any (·.1 == p.1) = false) ∧
        met' = added.reduceOption.reverse ++ met := by
  induction members generalizing met with
  | nil =>
    simp only [List.forall₂_nil_left_iff, exists_eq_left, List.reduceOption_nil, List.map_nil,
      List.nodup_nil, List.not_mem_nil, false_implies, implies_true, List.reverse_nil,
      List.nil_append, true_and]
    exact ⟨fun h => (Except.ok.inj h).symm, fun h => congrArg _ h.symm⟩
  | cons m members ih =>
    -- What is met with one more field is met without it, and is no other field of that name.
    have hfresh_iff (p q : String × Datum) : (p :: met).any (·.1 == q.1) = false ↔
        p.1 ≠ q.1 ∧ met.any (·.1 == q.1) = false := by
      rw [List.any_cons, Bool.or_eq_false_iff, beq_eq_false_iff_ne]
    rw [decodeFields_cons_eq_ok_iff]
    constructor
    · rintro ⟨first, hfirst, hmet, h⟩
      obtain ⟨others, hothers, hnodup, hfresh, rfl⟩ := ih.mp h
      refine ⟨first :: others, .cons hfirst hothers, ?_⟩
      cases first with
      | none => exact ⟨by simpa using hnodup, by simpa using hfresh, by simp⟩
      | some p =>
        simp only [Option.toList_some, List.singleton_append, hfresh_iff] at hfresh
        simp only [List.reduceOption_cons_of_some, List.map_cons, List.nodup_cons,
          List.forall_mem_cons]
        refine ⟨⟨fun hmem => ?_, hnodup⟩, ⟨hmet p rfl, fun q hq => (hfresh q hq).2⟩, by simp⟩
        obtain ⟨q, hq, heq⟩ := List.mem_map.mp hmem
        exact (hfresh q hq).1 heq.symm
    · rintro ⟨added, hadded, hnodup, hfresh, rfl⟩
      obtain ⟨first, others, hfirst, hothers, rfl⟩ := List.forall₂_cons_left_iff.mp hadded
      cases first with
      | none => exact ⟨none, hfirst, by simp, ih.mpr ⟨others, hothers, by simpa using hnodup,
          by simpa using hfresh, by simp⟩⟩
      | some p =>
        simp only [List.reduceOption_cons_of_some, List.map_cons, List.nodup_cons,
          List.forall_mem_cons] at hnodup hfresh
        refine ⟨some p, hfirst, by simpa using hfresh.1,
          ih.mpr ⟨others, hothers, hnodup.2, fun q hq => ?_, by simp⟩⟩
        simp only [Option.toList_some, List.singleton_append, hfresh_iff]
        exact ⟨fun heq => hnodup.1 (heq ▸ List.mem_map_of_mem hq), hfresh.2 q hq⟩

/-- The value of a field, from those that were met. -/
def Supplies (met : List (String × Datum)) (field : FieldDecoder) (value : String × Datum) : Prop :=
  value.1 = field.name ∧ (member? field.name met).or field.missing = some value.2

theorem completeFields_cons (met : List (String × Datum)) (stop : Nat) (field : FieldDecoder)
    (fields : List FieldDecoder) :
    completeFields met stop (field :: fields) =
      match (member? field.name met).or field.missing with
      | some d => (completeFields met stop fields).map ((field.name, d) :: ·)
      | none => .error ⟨[], .missingField field.name, some stop⟩ := by
  rw [completeFields]
  cases member? field.name met with
  | some d => cases completeFields met stop fields <;> rfl
  | none =>
    cases field.missing with
    | some d => cases completeFields met stop fields <;> rfl
    | none => rfl

/-- The fields of a record in their own order, one by one. -/
theorem completeFields_eq_ok_iff {met : List (String × Datum)} {stop : Nat}
    {fields : List FieldDecoder} {values : List (String × Datum)} :
    completeFields met stop fields = .ok values ↔ List.Forall₂ (Supplies met) fields values := by
  induction fields generalizing values with
  | nil =>
    rw [List.forall₂_nil_left_iff]
    exact ⟨fun h => (Except.ok.inj h).symm, fun h => congrArg _ h.symm⟩
  | cons field fields ih =>
    rw [completeFields_cons, List.forall₂_cons_left_iff]
    constructor
    · intro h
      split at h
      · rename_i d hd
        obtain ⟨ds, hds, rfl⟩ := map_eq_ok_iff.mp h
        exact ⟨_, ds, ⟨rfl, hd⟩, ih.mp hds, rfl⟩
      · cases h
    · rintro ⟨⟨name, d⟩, ds, ⟨rfl, hd⟩, hds, rfl⟩
      rw [hd]
      exact map_eq_ok_iff.mpr ⟨ds, ih.mpr hds, rfl⟩

theorem stopOfRecord_eq_ok_iff {strict : Bool} {fields : List FieldDecoder}
    {met : List (String × Datum)} {ending : Ending} {stop : Nat} :
    stopOfRecord strict fields met ending = .ok stop ↔ ending = .closed stop := by
  cases ending with
  | closed stop' | broken fault => simp only [stopOfRecord, stopOfMembers_eq_ok_iff]
  | bare key fault =>
    constructor
    · intro h
      obtain ⟨_, -, h⟩ := Steps.bind_eq_ok_iff.mp h
      cases h
    · rintro ⟨⟩

theorem decodeRecord_object_eq_ok_iff {name : String} {strict : Bool} {fields : List FieldDecoder}
    {walk : Walk} {start : Nat} {members : List (Key × Tree)} {ending : Ending} {d : Datum} :
    decodeRecord name strict fields walk (.object start members ending) = .ok d ↔
      1 < walk.depth ∧ (∃ stop, ending = .closed stop) ∧ ∃ added values,
        List.Forall₂ (Adds strict fields walk.inner) members added ∧
        ((added.reduceOption).map Prod.fst).Nodup ∧
        List.Forall₂ (Supplies added.reduceOption.reverse) fields values ∧
        d = .record values := by
  simp only [decodeRecord]
  constructor
  · intro h
    obtain ⟨depth, hdeeper, h⟩ := Steps.bind_eq_ok_iff.mp h
    obtain ⟨hdepth, rfl⟩ := deeper_eq_ok_iff.mp hdeeper
    obtain ⟨met, hmet, h⟩ := Steps.bind_eq_ok_iff.mp h
    obtain ⟨stop, hstop, h⟩ := Steps.bind_eq_ok_iff.mp h
    obtain ⟨values, hvalues, rfl⟩ := map_eq_ok_iff.mp h
    obtain ⟨added, hadded, hnodup, -, rfl⟩ := decodeFields_eq_ok_iff.mp hmet
    rw [List.append_nil] at hvalues
    exact ⟨hdepth, ⟨stop, stopOfRecord_eq_ok_iff.mp hstop⟩, added, values, hadded, hnodup,
      completeFields_eq_ok_iff.mp hvalues, rfl⟩
  · rintro ⟨hdepth, ⟨stop, rfl⟩, added, values, hadded, hnodup, hvalues, rfl⟩
    rw [deeper_eq_ok_iff.mpr ⟨hdepth, rfl⟩]
    refine Steps.bind_eq_ok_iff.mpr ⟨_, rfl, Steps.bind_eq_ok_iff.mpr
      ⟨added.reduceOption.reverse ++ [], decodeFields_eq_ok_iff.mpr
        ⟨added, hadded, hnodup, by simp, rfl⟩, Steps.bind_eq_ok_iff.mpr ⟨stop, rfl, ?_⟩⟩⟩
    rw [List.append_nil]
    exact map_eq_ok_iff.mpr ⟨values, completeFields_eq_ok_iff.mpr hvalues, rfl⟩

theorem decodeRecord_array_eq_ok_iff {name : String} {strict : Bool} {fields : List FieldDecoder}
    {walk : Walk} {start : Nat} {items : List Tree} {ending : Ending} {d : Datum} :
    decodeRecord name strict fields walk (.array start items ending) = .ok d ↔
      1 < walk.depth ∧ (∃ stop, ending = .closed stop) ∧ ∃ values,
        Fills walk.inner (fields.map fun field => (field.default, field.decode)) items values ∧
          d = .record ((fields.map (·.name)).zip values) := by
  simp only [decodeRecord]
  constructor
  · intro h
    obtain ⟨values, hvalues, h⟩ := Steps.bind_eq_ok_iff.mp h
    obtain ⟨hdepth, hclosed, hfills⟩ := decodeTuple_eq_ok_iff.mp hvalues
    exact ⟨hdepth, hclosed, values, hfills, (Except.ok.inj h).symm⟩
  · rintro ⟨hdepth, hclosed, values, hfills, rfl⟩
    exact Steps.bind_eq_ok_iff.mpr
      ⟨values, decodeTuple_eq_ok_iff.mpr ⟨hdepth, hclosed, hfills⟩, rfl⟩

end Json

/-! ### Schemas -/

namespace Schema

/-- Induction over a schema and the schemas of its parts. -/
@[elab_as_elim]
theorem induction {motive : Schema → Prop} (any : motive .any) (boolean : motive .boolean)
    (integer : ∀ type, motive (.integer type)) (double : motive .double)
    (character : motive .character) (text : motive .text) (unit : motive .unit)
    (list : ∀ item, motive item → motive (.list item))
    (tuple : ∀ items, (∀ s ∈ items, motive s) → motive (.tuple items))
    (map : ∀ value, motive value → motive (.map value))
    (optional : ∀ value, motive value → motive (.optional value))
    (record : ∀ name strict fields, (∀ field ∈ fields, motive field.2.2) →
      motive (.record name strict fields)) (schema : Schema) : motive schema :=
  @Schema.rec motive (fun items => ∀ s ∈ items, motive s)
    (fun fields => ∀ field ∈ fields, motive field.2.2) (fun field => motive field.2.2)
    (fun part => motive part.2) any boolean integer double character text unit list tuple map
    optional record (by simp) (fun _ _ hs hrest => List.forall_mem_cons.mpr ⟨hs, hrest⟩) (by simp)
    (fun _ _ hfield hrest => List.forall_mem_cons.mpr ⟨hfield, hrest⟩) (fun _ _ h => h)
    (fun _ _ h => h) schema

theorem decoders_eq_map (items : List Schema) : decoders items = items.map decoder := by
  induction items with
  | nil => rfl
  | cons s items ih => rw [decoders, ih, List.map_cons]

/-- How a field of a record is decoded. -/
def fieldDecoder (field : String × Option Datum × Schema) : FieldDecoder :=
  ⟨field.1, field.2.1, field.2.2.missing? field.2.1, field.2.2.decoder⟩

theorem fieldDecoders_eq_map (fields : List (String × Option Datum × Schema)) :
    fieldDecoders fields = fields.map fieldDecoder := by
  induction fields with
  | nil => rfl
  | cons field fields ih => rw [fieldDecoders, ih, List.map_cons, fieldDecoder]

theorem decoder_boolean_eq_ok_iff {walk : Walk} {tree : Tree} {d : Datum} :
    boolean.decoder walk tree = .ok d ↔
      ∃ start stop b, tree = .boolean start stop b ∧ d = .boolean b := by
  constructor
  · intro h
    cases tree with
    | boolean start stop b => exact ⟨start, stop, b, rfl, (Except.ok.inj h).symm⟩
    | null | number | text | array | object | broken => exact absurd h (mismatch_ne_ok _ _ _)
  · rintro ⟨start, stop, b, rfl, rfl⟩
    rfl

theorem decoder_text_eq_ok_iff {walk : Walk} {tree : Tree} {d : Datum} :
    text.decoder walk tree = .ok d ↔
      ∃ leaf s, tree = .text leaf ∧ leaf.value = .ok s ∧ d = .text s := by
  constructor
  · intro h
    cases tree with
    | text leaf =>
      obtain ⟨s, hs, rfl⟩ := map_eq_ok_iff.mp h
      exact ⟨leaf, s, rfl, lift_eq_ok_iff.mp hs, rfl⟩
    | null | boolean | number | array | object | broken => exact absurd h (mismatch_ne_ok _ _ _)
  · rintro ⟨leaf, s, rfl, hs, rfl⟩
    exact map_eq_ok_iff.mpr ⟨s, lift_eq_ok_iff.mpr hs, rfl⟩

theorem decoder_unit_eq_ok_iff {walk : Walk} {tree : Tree} {d : Datum} :
    unit.decoder walk tree = .ok d ↔ ∃ start stop, tree = .null start stop ∧ d = .unit := by
  constructor
  · intro h
    cases tree with
    | null start stop => exact ⟨start, stop, rfl, (Except.ok.inj h).symm⟩
    | boolean | number | text | array | object | broken => exact absurd h (mismatch_ne_ok _ _ _)
  · rintro ⟨start, stop, rfl, rfl⟩
    rfl

/-- An optional value is absent where there is a null, and present otherwise. -/
theorem decoder_optional_eq_ok_iff {value : Schema} {walk : Walk} {tree : Tree} {d : Datum} :
    (optional value).decoder walk tree = .ok d ↔
      (∃ start stop, tree = .null start stop ∧ d = .absent) ∨
        (∀ start stop, tree ≠ .null start stop) ∧
          ∃ d', value.decoder walk tree = .ok d' ∧ d = .present d' := by
  constructor
  · intro h
    cases tree with
    | null start stop => exact .inl ⟨start, stop, rfl, (Except.ok.inj h).symm⟩
    | boolean | number | text | array | object | broken =>
      obtain ⟨d', hd', rfl⟩ := map_eq_ok_iff.mp h
      exact .inr ⟨by simp, d', hd', rfl⟩
  · rintro (⟨start, stop, rfl, rfl⟩ | ⟨hnull, d', hd', rfl⟩)
    · rfl
    · cases tree with
      | null start stop => exact absurd rfl (hnull start stop)
      | boolean | number | text | array | object | broken =>
        exact map_eq_ok_iff.mpr ⟨d', hd', rfl⟩

theorem decoder_tuple_array_eq_ok_iff {schemas : List Schema} {walk : Walk} {start : Nat}
    {items : List Tree} {ending : Ending} {d : Datum} :
    (tuple schemas).decoder walk (.array start items ending) = .ok d ↔
      1 < walk.depth ∧ (∃ stop, ending = .closed stop) ∧ ∃ values,
        Fills walk.inner (schemas.map fun s => (none, s.decoder)) items values ∧
          d = .tuple values := by
  rw [decoder, map_eq_ok_iff, decoders_eq_map, List.map_map]
  simp only [decodeTuple_eq_ok_iff]
  constructor
  · rintro ⟨values, ⟨hdepth, hclosed, hfills⟩, rfl⟩
    exact ⟨hdepth, hclosed, values, hfills, rfl⟩
  · rintro ⟨hdepth, hclosed, values, hfills, rfl⟩
    exact ⟨values, ⟨hdepth, hclosed, hfills⟩, rfl⟩

end Schema

end Waybill
