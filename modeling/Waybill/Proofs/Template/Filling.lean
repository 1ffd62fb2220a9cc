import Waybill.Proofs.Steps
import Waybill.Template.Resolve

/-!
# How a template is filled in, and when it cannot be

A template is filled in piece by piece, so what holds of the pieces holds of the path.

Filling a template in fails for two reasons only: a placeholder has neither a binding nor a default,
or a value is dots. So bindings that name every placeholder without a default leave dots as the only
reason.

## Main definitions

* `Waybill.Template.given?` — the value that bindings give to a name.
* `Waybill.Template.Covers` — bindings that name all placeholders without a default.

## Main results

* `Waybill.Template.fillAll_map_congr`, `Waybill.Template.exists_fillAll_iff`,
  `Waybill.Template.toList_fillAll`: from pieces to paths.
* `Waybill.Template.resolve_eq_error_cases`: the two reasons.
* `Waybill.Template.resolve_of_covers`: dots as the only reason.
-/

namespace Waybill.Template

/-! ### Piece by piece -/

/-- Pieces that are filled in alike fill the template in alike. -/
theorem fillAll_map_congr {bindings bindings' : List Binding} {f : Segment → Segment}
    {segments : List Segment} (h : ∀ s ∈ segments, fill bindings (f s) = fill bindings' s) :
    fillAll bindings (segments.map f) = fillAll bindings' segments := by
  induction segments with
  | nil => rfl
  | cons s rest ih =>
    rw [List.map_cons, fillAll, fillAll, h s List.mem_cons_self,
      ih fun t ht => h t (List.mem_cons_of_mem _ ht)]

theorem fillAll_congr {bindings bindings' : List Binding} {segments : List Segment}
    (h : ∀ s ∈ segments, fill bindings s = fill bindings' s) :
    fillAll bindings segments = fillAll bindings' segments := by
  have hmap := fillAll_map_congr (f := id) h
  rwa [List.map_id] at hmap

/-- A template is filled in if each of its pieces is. -/
theorem exists_fillAll_iff {bindings : List Binding} {segments : List Segment} :
    (∃ path, fillAll bindings segments = .ok path) ↔
      ∀ s ∈ segments, ∃ text, fill bindings s = .ok text := by
  induction segments with
  | nil => simp [fillAll]
  | cons s rest ih =>
    rw [List.forall_mem_cons, ← ih, fillAll]
    cases fill bindings s with
    | error e => simp
    | ok text => cases fillAll bindings rest <;> simp [Except.map]

/-- The characters of a path are those of its pieces. -/
theorem toList_fillAll {bindings : List Binding} {segments : List Segment} {path : String}
    {write : Segment → List Char}
    (hwrite : ∀ s ∈ segments, ∀ text, fill bindings s = .ok text → text.toList = write s)
    (h : fillAll bindings segments = .ok path) : path.toList = segments.flatMap write := by
  induction segments generalizing path with
  | nil =>
    obtain rfl := Except.ok.inj h
    rfl
  | cons s rest ih =>
    rw [fillAll] at h
    split at h
    · cases h
    · rename_i text htext
      cases hmore : fillAll bindings rest with
      | error e => rw [hmore] at h; cases h
      | ok more =>
        rw [hmore] at h
        obtain rfl := Except.ok.inj h
        have hrest := ih (fun t ht => hwrite t (List.mem_cons_of_mem _ ht)) hmore
        rw [String.toList_append, hwrite s List.mem_cons_self text htext, hrest, List.flatMap_cons]

theorem fill_placeholder_eq_ok {bindings : List Binding} {name text : String}
    {default : Option String} (h : fill bindings (.placeholder name default) = .ok text) :
    ∃ value, valueOf bindings name default = .ok value ∧ text = Percent.segment value := by
  obtain ⟨value, hvalue, hwritten⟩ := Steps.bind_eq_ok_iff.mp h
  rw [written] at hwritten
  split at hwritten
  · cases hwritten
  · exact ⟨value, hvalue, (Except.ok.inj hwritten).symm⟩

/-! ### Bindings -/

/-- The value that bindings give to a name: of several bindings of the name the first counts. -/
def given? (bindings : List Binding) (name : String) : Option String :=
  (bindings.find? (·.1 == name)).bind (·.2)

theorem valueOf_of_given? {bindings : List Binding} {name value : String}
    (h : given? bindings name = some value) (default : Option String) :
    valueOf bindings name default = .ok value := by
  obtain ⟨⟨candidate, _⟩, hfind, rfl⟩ := Option.bind_eq_some_iff.mp h
  unfold valueOf
  rw [hfind]

theorem mem_of_given? {bindings : List Binding} {name value : String}
    (h : given? bindings name = some value) : name ∈ bindings.map (·.1) := by
  obtain ⟨binding, hfind, -⟩ := Option.bind_eq_some_iff.mp h
  have hname : binding.1 = name := by simpa using List.find?_some hfind
  exact hname ▸ List.mem_map_of_mem (List.mem_of_find?_eq_some hfind)

/-- Bindings that name all placeholders without a default. -/
def Covers (bindings : List Binding) (t : Template) : Prop :=
  ∀ name, (name, none) ∈ t.placeholders → name ∈ bindings.map (·.1)

/-! ### Failures -/

/-- A placeholder has no value if it has neither a binding nor a default. -/
theorem valueOf_eq_error {bindings : List Binding} {name : String} {default : Option String}
    {e : TemplateError} (h : valueOf bindings name default = .error e) :
    e = .unbound name ∧ default = none ∧ name ∉ bindings.map (·.1) := by
  unfold valueOf at h
  split at h
  · cases h
  · cases h
  · cases h
  · rename_i hfind
    refine ⟨(Except.error.inj h).symm, rfl, fun hmem => ?_⟩
    obtain ⟨binding, hbinding, rfl⟩ := List.mem_map.mp hmem
    have hnone := List.find?_eq_none.mp hfind binding hbinding
    simp at hnone

theorem fill_eq_error_cases {bindings : List Binding} {segment : Segment} {e : TemplateError}
    (h : fill bindings segment = .error e) :
    (∃ name, e = .unbound name ∧ segment.placeholder? = some (name, none) ∧
        name ∉ bindings.map (·.1)) ∨
      ∃ name value, e = .dotSegment name value ∧ isDotSegment value = true := by
  cases segment with
  | literal text => cases h
  | placeholder name default =>
    rw [fill] at h
    cases hvalue : valueOf bindings name default with
    | error e' =>
      rw [hvalue] at h
      obtain rfl := Except.error.inj h
      obtain ⟨he, rfl, hname⟩ := valueOf_eq_error hvalue
      exact .inl ⟨name, he, rfl, hname⟩
    | ok value =>
      rw [hvalue] at h
      have hwritten : written name value = .error e := h
      rw [written] at hwritten
      split at hwritten
      · rename_i hdots
        exact .inr ⟨name, value, (Except.error.inj hwritten).symm, hdots⟩
      · cases hwritten

theorem fillAll_eq_error {bindings : List Binding} {segments : List Segment} {e : TemplateError}
    (h : fillAll bindings segments = .error e) :
    ∃ segment ∈ segments, fill bindings segment = .error e := by
  induction segments with
  | nil => cases h
  | cons segment rest ih =>
    rw [fillAll] at h
    split at h
    · rename_i e' hfill
      obtain rfl := Except.error.inj h
      exact ⟨segment, List.mem_cons_self, hfill⟩
    · cases hrest : fillAll bindings rest with
      | error e' =>
        rw [hrest] at h
        obtain rfl := Except.error.inj h
        obtain ⟨other, hother, hfill⟩ := ih hrest
        exact ⟨other, List.mem_cons_of_mem _ hother, hfill⟩
      | ok path =>
        rw [hrest] at h
        cases h

/-- **Why a template cannot be filled in**: a placeholder without a default has no binding, or a
value is dots. -/
theorem resolve_eq_error_cases {t : Template} {bindings : List Binding} {e : TemplateError}
    (h : t.resolve bindings = .error e) :
    (∃ name, e = .unbound name ∧ (name, none) ∈ t.placeholders ∧ name ∉ bindings.map (·.1)) ∨
      ∃ name value, e = .dotSegment name value ∧ isDotSegment value = true := by
  obtain ⟨segment, hsegment, hfill⟩ := fillAll_eq_error h
  rcases fill_eq_error_cases hfill with ⟨name, he, hplaceholder, hname⟩ | hdots
  · exact .inl ⟨name, he, List.mem_filterMap.mpr ⟨segment, hsegment, hplaceholder⟩, hname⟩
  · exact .inr hdots

/-- Bindings that name all placeholders without a default fill a template in, unless a value is
dots. -/
theorem resolve_of_covers {t : Template} {bindings : List Binding} (h : Covers bindings t) :
    (∃ path, t.resolve bindings = .ok path) ∨
      ∃ name value, t.resolve bindings = .error (.dotSegment name value) := by
  cases hresolve : t.resolve bindings with
  | ok path => exact .inl ⟨path, rfl⟩
  | error e =>
    rcases resolve_eq_error_cases hresolve with ⟨name, -, hmem, hname⟩ | ⟨name, value, rfl, -⟩
    · exact absurd (h name hmem) hname
    · exact .inr ⟨name, value, rfl⟩

end Waybill.Template
