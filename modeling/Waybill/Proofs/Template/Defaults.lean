import Waybill.Proofs.Percent
import Waybill.Proofs.Template.Filling
import Waybill.Proofs.Template.Grammar
import Waybill.Proofs.Text.Decoding

/-!
# Defaults and the values that they stand for

A placeholder takes its default if it is not bound, and also if it is bound to no value. So there
are three ways of filling a default in: not to name the placeholder, to bind it to no value, and to
give the default as its value. They are meant to be the same.

A template may have a name more than once, and each occurrence has a default of its own, or none. A
value goes into all occurrences, while a default fills only the occurrence that it is written in.
Hence the three ways are the same where all occurrences have the same default, and an occurrence
with another one, or with none, tells them apart.

## Main definitions

* `Waybill.Template.Carries`: all occurrences of a name have the same default.
* `Waybill.Template.CanOmit`, `Waybill.Template.CanOmitPiecewise`: a value that can be left out, as
  far as whole paths go, and at every piece.

## Main results

* `Waybill.Template.canOmitPiecewise_iff`: a value can be left out at every piece exactly if all
  occurrences have it as their default.
* `Waybill.Template.resolve_insert_none_iff`: no value is as good as no binding exactly if no
  occurrence lacks a default.
* `Waybill.Template.canOmit_default`: the default of a name and the value that it stands for.
-/

namespace Waybill.Template

/-! ### One more binding -/

section Insert

variable {before after : List Binding} {name other : String} {value? : Option String}

theorem find?_insert_of_ne (h : name ≠ other) :
    (before ++ (name, value?) :: after).find? (·.1 == other) =
      (before ++ after).find? (·.1 == other) := by
  rw [List.find?_append, List.find?_append, List.find?_cons_of_neg (by simpa using h)]

theorem find?_of_not_mem {bindings : List Binding} (h : name ∉ bindings.map (·.1)) :
    bindings.find? (·.1 == name) = none := by
  rw [List.find?_eq_none]
  rintro ⟨candidate, value?⟩ hmem heq
  obtain rfl := beq_iff_eq.mp heq
  exact h (List.mem_map_of_mem hmem)

theorem find?_insert_self (h : name ∉ (before ++ after).map (·.1)) :
    (before ++ (name, value?) :: after).find? (·.1 == name) = some (name, value?) := by
  rw [List.map_append, List.mem_append, not_or] at h
  rw [List.find?_append, find?_of_not_mem h.1, Option.none_or,
    List.find?_cons_of_pos (by simp)]

theorem valueOf_insert_of_ne (h : name ≠ other) (default : Option String) :
    valueOf (before ++ (name, value?) :: after) other default =
      valueOf (before ++ after) other default := by
  unfold valueOf
  rw [find?_insert_of_ne h]

theorem valueOf_of_not_mem {bindings : List Binding} (h : name ∉ bindings.map (·.1))
    (default : Option String) :
    valueOf bindings name default =
      match default with
      | some default => .ok default
      | none => .error (.unbound name) := by
  unfold valueOf
  rw [find?_of_not_mem h]
  cases default <;> rfl

theorem valueOf_insert_none (h : name ∉ (before ++ after).map (·.1)) (default : Option String) :
    valueOf (before ++ (name, none) :: after) name default = .ok (default.getD "") := by
  unfold valueOf
  rw [find?_insert_self h]
  cases default <;> rfl

theorem valueOf_insert_some (h : name ∉ (before ++ after).map (·.1)) (value : String)
    (default : Option String) :
    valueOf (before ++ (name, some value) :: after) name default = .ok value := by
  unfold valueOf
  rw [find?_insert_self h]

theorem fill_insert_of_ne (h : name ≠ other) (default : Option String) :
    fill (before ++ (name, value?) :: after) (.placeholder other default) =
      fill (before ++ after) (.placeholder other default) := by
  rw [fill, fill, valueOf_insert_of_ne h]

end Insert

/-! ### Values and texts -/

/-- Values that are written alike are the same. -/
theorem segment_injective : Function.Injective Percent.segment := by
  intro v w h
  have hencode : Percent.encode Percent.segmentSet v.toList =
      Percent.encode Percent.segmentSet w.toList := String.ofList_injective h
  have hdecode := congrArg (fun cs => Percent.decode (Utf8.encode cs)) hencode
  simp only [Percent.decode_encode (show Percent.segmentSet '%' = true by decide)] at hdecode
  exact Utf8.bytes_injective hdecode

theorem written_of_not_dots {name value : String} (h : isDotSegment value = false) :
    written name value = .ok (Percent.segment value) := by
  rw [written, h]
  rfl

theorem eq_of_written_eq {name value default : String} (hdefault : isDotSegment default = false)
    (h : written name value = written name default) : value = default := by
  rw [written_of_not_dots hdefault, written] at h
  split at h
  · cases h
  · exact segment_injective (Except.ok.inj h)

/-! ### Placeholders of a template -/

theorem mem_placeholders_iff {t : Template} {name : String} {default : Option String} :
    (name, default) ∈ t.placeholders ↔ Segment.placeholder name default ∈ t.segments := by
  constructor
  · intro h
    obtain ⟨s, hs, hplaceholder⟩ := List.mem_filterMap.mp h
    cases s with
    | literal text => cases hplaceholder
    | placeholder other d =>
      obtain ⟨rfl, rfl⟩ := Prod.mk.inj (Option.some.inj hplaceholder)
      exact hs
  · exact fun h => List.mem_filterMap.mpr ⟨_, h, rfl⟩

theorem mem_placeholders_of_default? {t : Template} {name default : String}
    (h : t.default? name = some default) : (name, some default) ∈ t.placeholders := by
  obtain ⟨⟨candidate, d⟩, hfind, hd⟩ := Option.bind_eq_some_iff.mp h
  obtain rfl : candidate = name := by simpa using List.find?_some hfind
  obtain rfl : d = some default := hd
  exact List.mem_of_find?_eq_some hfind

/-- Defaults of a template that was read are not dots. -/
theorem isDotSegment_of_parse {source : String} {t : Template} (h : parse source = .ok t)
    {name default : String} (hmem : (name, some default) ∈ t.placeholders) :
    isDotSegment default = false := by
  have hreads := ((parse_eq_ok_iff source t).mp h).2
  have hsegment := mem_placeholders_iff.mp hmem
  generalize source.toList = cs at hreads
  generalize t.segments = segments at hreads hsegment
  induction hreads with
  | nil => cases hsegment
  | cons hchunk hrest _ ih =>
    rcases List.mem_cons.mp hsegment with rfl | hsegment
    · cases hchunk with
      | group hbody hdenotes =>
        generalize hs : Segment.placeholder name (some default) = s at hdenotes
        obtain ⟨hhalves, hname, hdefault⟩ := hdenotes
        obtain ⟨right, rfl, hright⟩ := Option.map_eq_some_iff.mp (Segment.placeholder.inj hs).2.symm
        have hgood := (isDefault_iff _).mp (hdefault right rfl)
        rw [isBadDefault, Bool.or_eq_false_iff] at hgood
        rw [← hright]
        exact hgood.2
    · exact ih hsegment

/-! ### Values that can be left out -/

/-- All occurrences of a name have the same default. -/
def Carries (t : Template) (name default : String) : Prop :=
  ∀ d, (name, d) ∈ t.placeholders → d = some default

/-- A value can be left out, and its placeholder can be bound to no value instead: the template is
filled in to the same path, or refused for the same reason. -/
def CanOmit (t : Template) (name value : String) : Prop :=
  ∀ before after : List Binding, name ∉ (before ++ after).map (·.1) →
    t.resolve (before ++ (name, none) :: after) = t.resolve (before ++ after) ∧
      t.resolve (before ++ (name, some value) :: after) = t.resolve (before ++ after)

/-- A value can be left out, and its placeholder can be bound to no value instead, at every piece of
a template. -/
def CanOmitPiecewise (t : Template) (name value : String) : Prop :=
  ∀ before after : List Binding, name ∉ (before ++ after).map (·.1) → ∀ s ∈ t.segments,
    fill (before ++ (name, none) :: after) s = fill (before ++ after) s ∧
      fill (before ++ (name, some value) :: after) s = fill (before ++ after) s

theorem CanOmitPiecewise.canOmit {t : Template} {name value : String}
    (h : t.CanOmitPiecewise name value) : t.CanOmit name value := fun before after hname =>
  ⟨fillAll_congr fun s hs => (h before after hname s hs).1,
    fillAll_congr fun s hs => (h before after hname s hs).2⟩

/-- **Where all occurrences have the same default** it can be left out. -/
theorem Carries.canOmitPiecewise {t : Template} {name default : String}
    (h : t.Carries name default) : t.CanOmitPiecewise name default := by
  intro before after hname s hs
  cases s with
  | literal text => exact ⟨rfl, rfl⟩
  | placeholder other d =>
    by_cases hother : name = other
    · subst hother
      obtain rfl := h d (mem_placeholders_iff.mpr hs)
      rw [fill, fill, fill, valueOf_insert_none hname, valueOf_insert_some hname,
        valueOf_of_not_mem hname]
      exact ⟨rfl, rfl⟩
    · exact ⟨fill_insert_of_ne hother d, fill_insert_of_ne hother d⟩

theorem CanOmitPiecewise.carries {source : String} {t : Template} (hparse : parse source = .ok t)
    {name value : String} (h : t.CanOmitPiecewise name value) : t.Carries name value := by
  intro d hd
  have hname : name ∉ (([] ++ [] : List Binding)).map (·.1) := List.not_mem_nil
  have hfill := (h [] [] hname _ (mem_placeholders_iff.mp hd)).2
  rw [fill, fill, valueOf_insert_some hname, valueOf_of_not_mem hname] at hfill
  cases d with
  | none =>
    have hwritten : written name value = .error (.unbound name) := hfill
    rw [written] at hwritten
    split at hwritten <;> cases hwritten
  | some default =>
    have hwritten : written name value = written name default := hfill
    rw [eq_of_written_eq (isDotSegment_of_parse hparse hd) hwritten]

/-- **A value can be left out at every piece exactly if all occurrences have it as default.** -/
theorem canOmitPiecewise_iff {source : String} {t : Template} (hparse : parse source = .ok t)
    {name value : String} : t.CanOmitPiecewise name value ↔ t.Carries name value :=
  ⟨fun h => h.carries hparse, fun h => h.canOmitPiecewise⟩

/-- For a name with a default this is so for the default only. -/
theorem canOmitPiecewise_iff_of_default? {source : String} {t : Template}
    (hparse : parse source = .ok t) {name default : String}
    (hdefault : t.default? name = some default) {value : String} :
    t.CanOmitPiecewise name value ↔ value = default ∧ t.Carries name default := by
  rw [canOmitPiecewise_iff hparse]
  constructor
  · intro h
    obtain rfl : default = value := Option.some.inj (h _ (mem_placeholders_of_default? hdefault))
    exact ⟨rfl, h⟩
  · rintro ⟨rfl, h⟩
    exact h

/-! ### No value and no binding -/

theorem valueOf_of_forall {bindings : List Binding} {name value : String}
    (hmem : name ∈ bindings.map (·.1)) (hall : ∀ b ∈ bindings, b.1 = name → b.2 = some value)
    (more : List Binding) (default : Option String) :
    valueOf (bindings ++ more) name default = .ok value := by
  obtain ⟨⟨candidate, d⟩, hfind⟩ : ∃ b, bindings.find? (·.1 == name) = some b := by
    obtain ⟨b, hb, rfl⟩ := List.mem_map.mp hmem
    exact Option.isSome_iff_exists.mp (List.find?_isSome.mpr ⟨b, hb, beq_self_eq_true _⟩)
  obtain rfl : candidate = name := by simpa using List.find?_some hfind
  obtain rfl : d = some value := hall _ (List.mem_of_find?_eq_some hfind) rfl
  unfold valueOf
  rw [List.find?_append, hfind]
  rfl

/-- Bindings of all names of a template but one to the empty text. -/
def othersEmpty (t : Template) (name : String) : List Binding :=
  (t.names.filter (· != name)).map fun other => (other, some "")

theorem not_mem_othersEmpty (t : Template) (name : String) :
    name ∉ (t.othersEmpty name ++ ([] : List Binding)).map (·.1) := by
  intro h
  rw [List.append_nil] at h
  obtain ⟨b, hb, hname⟩ := List.mem_map.mp h
  obtain ⟨other, hother, rfl⟩ := List.mem_map.mp hb
  exact absurd hname (by simpa using (List.mem_filter.mp hother).2)

/-- With no value for one name and the empty text for the others all pieces are filled in. -/
theorem exists_fill_othersEmpty {source : String} {t : Template} (hparse : parse source = .ok t)
    (name : String) {s : Segment} (hs : s ∈ t.segments) :
    ∃ text, fill (t.othersEmpty name ++ [(name, none)]) s = .ok text := by
  cases s with
  | literal text => exact ⟨text, rfl⟩
  | placeholder other d =>
    obtain ⟨value, hvalue, hdots⟩ : ∃ value,
        valueOf (t.othersEmpty name ++ [(name, none)]) other d = .ok value ∧
          isDotSegment value = false := by
      by_cases hother : other = name
      · subst hother
        refine ⟨d.getD "", valueOf_insert_none (t.not_mem_othersEmpty other) d, ?_⟩
        cases d with
        | none => rfl
        | some default => exact isDotSegment_of_parse hparse (mem_placeholders_iff.mpr hs)
      · have hname : other ∈ t.names := List.mem_map_of_mem (mem_placeholders_iff.mpr hs)
        refine ⟨"", valueOf_of_forall ?_ ?_ _ d, rfl⟩
        · simp [othersEmpty, hname, hother]
        · intro b hb _
          obtain ⟨_, _, rfl⟩ := List.mem_map.mp hb
          rfl
    exact ⟨Percent.segment value, by rw [fill, hvalue]; exact written_of_not_dots hdots⟩

/-- **No value is as good as no binding** exactly if no occurrence of a name lacks a default. -/
theorem resolve_insert_none_iff {source : String} {t : Template} (hparse : parse source = .ok t)
    {name : String} :
    (∀ before after : List Binding, name ∉ (before ++ after).map (·.1) →
        t.resolve (before ++ (name, none) :: after) = t.resolve (before ++ after)) ↔
      (name, none) ∉ t.placeholders := by
  constructor
  · intro h hmem
    have hname := t.not_mem_othersEmpty name
    obtain ⟨path, hpath⟩ :=
      exists_fillAll_iff.mpr fun s hs => exists_fill_othersEmpty hparse name (s := s) hs
    have hresolve := (h _ [] hname).symm.trans hpath
    -- without a binding the occurrence without a default is not filled in
    obtain ⟨text, htext⟩ := exists_fillAll_iff.mp ⟨path, hresolve⟩ _ (mem_placeholders_iff.mp hmem)
    rw [fill, valueOf_of_not_mem hname] at htext
    cases htext
  · intro h before after hname
    refine fillAll_congr fun s hs => ?_
    cases s with
    | literal text => rfl
    | placeholder other d =>
      by_cases hother : name = other
      · subst hother
        cases d with
        | none => exact absurd (mem_placeholders_iff.mpr hs) h
        | some default =>
          rw [fill, fill, valueOf_insert_none hname, valueOf_of_not_mem hname]
          rfl
      · exact fill_insert_of_ne hother d

/-- **A default and the value that it stands for.** Let a name have a default in a template that was
read. If all its occurrences have this default, then not to bind the name, to bind it to no value
and to give the default as its value fill the template in to the same path, or it is refused for the
same reason. At every piece the three are the same exactly in this case, and for no other value. No
value is as good as no binding exactly if no occurrence lacks a default. -/
theorem canOmit_default {source : String} {t : Template} (hparse : parse source = .ok t)
    {name default : String} (hdefault : t.default? name = some default) :
    (t.Carries name default → t.CanOmit name default) ∧
      (∀ value, t.CanOmitPiecewise name value ↔ value = default ∧ t.Carries name default) ∧
      ((∀ before after : List Binding, name ∉ (before ++ after).map (·.1) →
          t.resolve (before ++ (name, none) :: after) = t.resolve (before ++ after)) ↔
        (name, none) ∉ t.placeholders) :=
  ⟨fun h => h.canOmitPiecewise.canOmit, fun _ => canOmitPiecewise_iff_of_default? hparse hdefault,
    resolve_insert_none_iff hparse⟩

/-- A name that occurs twice with one default, spelled in two ways, beside another one. -/
theorem canOmit_default_of_two_spellings :
    ∃ t, parse "/{n=7}/{m}-{ n = 7 }" = .ok t ∧ t.default? "n" = some "7" ∧
      t.Carries "n" "7" ∧ t.CanOmit "n" "7" := by
  let t : Template := ⟨"/{n=7}/{m}-{ n = 7 }", [.literal "/",
    .placeholder "n" (some "7"), .literal "/", .placeholder "m" none, .literal "-",
    .placeholder "n" (some "7")]⟩
  have hparse : parse "/{n=7}/{m}-{ n = 7 }" = .ok t := by decide +kernel
  have hdefault : t.default? "n" = some "7" := by decide
  have hcarries : t.Carries "n" "7" := by
    intro d hd
    have hplaceholders : t.placeholders = [("n", some "7"), ("m", none), ("n", some "7")] := rfl
    simpa [hplaceholders] using hd
  exact ⟨t, hparse, hdefault, hcarries, (canOmit_default hparse hdefault).1 hcarries⟩

/-- A name that occurs with a default and without one. -/
def ping : Template :=
  ⟨"/ping/{n=7}/{n}", [.literal "/ping/", .placeholder "n" (some "7"), .literal "/",
    .placeholder "n" none]⟩

/-- The second occurrence is refused without a binding, left empty with none, and filled with a
value. -/
theorem not_canOmit_of_bare_occurrence :
    parse "/ping/{n=7}/{n}" = .ok ping ∧ ping.default? "n" = some "7" ∧
      ping.resolve [] = .error (.unbound "n") ∧ ping.resolve [("n", none)] = .ok "/ping/7/" ∧
      ping.resolve [("n", some "7")] = .ok "/ping/7/7" ∧ ¬ping.CanOmit "n" "7" := by
  refine ⟨by decide +kernel, by decide, by decide, by decide, by decide, fun h => ?_⟩
  have hsame := (h [] [] List.not_mem_nil).1
  revert hsame
  decide

end Waybill.Template
