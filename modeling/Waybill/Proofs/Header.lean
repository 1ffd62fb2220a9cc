import Mathlib.Data.List.Induction
import Waybill.Header

/-!
# Header lists record what was written

A header list keeps, for every name in any ASCII case, the value that was written last, at the place
and with the spelling of the first write. These two facts and that no name stands there twice say
all there is to say about the list: it is determined by the entries that were written.

A list that is written to keeps its own entries in front, each with the last value that was written
under its name. Entries may be merged among themselves before they are written, as this changes
neither the last values nor the order of the first writes.

## Main definitions

* `Waybill.Headers.Distinct` — no name stands in a list twice.
* `Waybill.Headers.firstNames`, `Waybill.Headers.lastValue?` — names in the order in which they are
  met first, and the value that was written last under a name.
* `Waybill.Headers.Records` — a list is what entries written one after the other leave.
* `Waybill.Headers.upsert` — a write as a search, and a replacement or an addition.

## Main results

* `Waybill.Headers.value?_set`, `Waybill.Headers.names_set`: what one write changes.
* `Waybill.Headers.records_setAll`: a list that entries were written to records them.
* `Waybill.Headers.Records.eq`: nothing else records them.
* `Waybill.Headers.Distinct.isPrefix_setAll`: what writes leave of a list.
* `Waybill.Headers.setAll_append_setAll`: entries may be merged before they are written.
* `Waybill.Headers.set_eq_upsert`: a write is a search, and a replacement or an addition.
-/

namespace Waybill.Headers

open Ascii

/-- The names of the entries, in order. -/
def names (headers : Headers) : List String := headers.map (·.1)

/-- No name stands there twice, in whatever case. -/
def Distinct (headers : Headers) : Prop :=
  headers.names.Pairwise fun a b => sameFold a b = false

/-! ### Lookup -/

@[simp] theorem value?_nil (name : String) : value? [] name = none := rfl

theorem value?_cons (candidate value name : String) (headers : Headers) :
    value? ((candidate, value) :: headers) name =
      if sameFold candidate name then some value else headers.value? name := by
  cases h : sameFold candidate name <;> simp [value?, h]

theorem value?_append (xs ys : Headers) (name : String) :
    value? (xs ++ ys) name = (xs.value? name).or (ys.value? name) := by
  rw [value?, value?, value?, List.find?_append, Option.map_or]

theorem isSome_value? (headers : Headers) (name : String) :
    (headers.value? name).isSome = headers.has name := by
  simp only [value?, has, Option.isSome_map, List.isSome_find?]

theorem has_eq_any_names (headers : Headers) (name : String) :
    headers.has name = headers.names.any (sameFold · name) := by
  rw [has, names, List.any_map]
  rfl

/-! ### One write -/

/-- **A value that is written is found under its name in any case**, and under no other name. -/
theorem value?_set (headers : Headers) (name value other : String) :
    (headers.set name value).value? other =
      if sameFold name other then some value else headers.value? other := by
  induction headers with
  | nil => rw [set, value?_cons, value?_nil]
  | cons entry headers ih =>
    obtain ⟨candidate, old⟩ := entry
    rw [set]
    split
    next hcandidate =>
      have hsame : sameFold candidate other = sameFold name other := by
        rw [sameFold, sameFold_iff.mp hcandidate, sameFold]
      rw [value?_cons, value?_cons, hsame]
      split <;> rfl
    next hcandidate =>
      rw [value?_cons, value?_cons, ih]
      split
      next hother =>
        rw [if_neg]
        intro hname
        rw [sameFold_iff] at hcandidate hother hname
        exact hcandidate (hother.trans hname.symm)
      next => rfl

/-- **A write keeps the names** and adds its own at the end if it is not there. -/
theorem names_set (headers : Headers) (name value : String) :
    (headers.set name value).names =
      if headers.has name then headers.names else headers.names ++ [name] := by
  induction headers with
  | nil => rfl
  | cons entry headers ih =>
    obtain ⟨candidate, old⟩ := entry
    rw [set]
    cases hcandidate : sameFold candidate name with
    | true => simp [names, has, hcandidate]
    | false =>
      simp only [names, has] at ih
      cases hhas : headers.any fun entry => sameFold entry.1 name <;>
        simp [names, has, hcandidate, hhas, ih]

/-- A name that is not there is written at the end. -/
theorem set_of_has_eq_false {headers : Headers} {name : String} (value : String)
    (h : headers.has name = false) : headers.set name value = headers ++ [(name, value)] := by
  induction headers with
  | nil => rfl
  | cons entry headers ih =>
    obtain ⟨candidate, old⟩ := entry
    obtain ⟨hcandidate, hrest⟩ := by simpa [has] using h
    rw [set, hcandidate, if_neg Bool.false_ne_true, ih (by simpa [has] using hrest)]
    rfl

/-- A value written under the name of an entry: the first entry of this name is changed in place,
and where there is none the entry is added at the end. -/
def upsert (headers : Headers) (entry : String × String) : Headers :=
  match headers.findIdx? fun e => sameFold e.1 entry.1 with
  | some i => headers.modify i fun e => (e.1, entry.2)
  | none => headers ++ [entry]

/-- **A write is a search**, and a replacement or an addition. -/
theorem set_eq_upsert (headers : Headers) (name value : String) :
    headers.set name value = headers.upsert (name, value) := by
  induction headers with
  | nil => rfl
  | cons entry headers ih =>
    obtain ⟨candidate, old⟩ := entry
    rw [set, upsert, List.findIdx?_cons]
    cases hcandidate : sameFold candidate name with
    | true => simp
    | false =>
      rw [if_neg Bool.false_ne_true, ih, upsert]
      cases headers.findIdx? fun e => sameFold e.1 name <;> simp

theorem setAll_eq_foldl_upsert (headers entries : Headers) :
    headers.setAll entries = entries.foldl upsert headers := by
  simp only [setAll, set_eq_upsert]

theorem Distinct.set {headers : Headers} (h : headers.Distinct) (name value : String) :
    (headers.set name value).Distinct := by
  rw [Distinct, names_set]
  cases hhas : headers.has name with
  | true => exact h
  | false =>
    rw [has_eq_any_names, List.any_eq_false] at hhas
    refine List.pairwise_append.mpr ⟨h, List.pairwise_singleton .., fun other hother _ hname => ?_⟩
    rw [List.mem_singleton.mp hname]
    simpa using hhas other hother

theorem filter_set (headers : Headers) (name value : String) :
    (headers.set name value).filter (fun entry => !sameFold entry.1 name) =
      headers.filter fun entry => !sameFold entry.1 name := by
  induction headers with
  | nil => simp [set, sameFold_refl]
  | cons entry headers ih =>
    obtain ⟨candidate, old⟩ := entry
    rw [set]
    cases hcandidate : sameFold candidate name <;> simp [hcandidate, ih]

/-! ### Lists without equal names -/

theorem Distinct.value?_of_mem {headers : Headers} (h : headers.Distinct)
    {name value : String} (hmem : (name, value) ∈ headers) : headers.value? name = some value := by
  induction headers with
  | nil => cases hmem
  | cons entry headers ih =>
    obtain ⟨candidate, old⟩ := entry
    obtain ⟨hcandidate, hrest⟩ := List.pairwise_cons.mp h
    rw [value?_cons]
    rcases List.mem_cons.mp hmem with heq | hmem
    · obtain ⟨rfl, rfl⟩ := Prod.mk.inj heq
      rw [sameFold_refl, if_pos rfl]
    · have hname : sameFold candidate name = false :=
        hcandidate name (List.mem_map_of_mem (f := Prod.fst) hmem)
      rw [hname, if_neg Bool.false_ne_true, ih hrest hmem]

/-- A list is known by its names and the values that are found under them. -/
theorem Distinct.eq_map_names {headers : Headers} (h : headers.Distinct) :
    headers = headers.names.map fun name => (name, (headers.value? name).getD "") := by
  rw [names, List.map_map]
  conv_lhs => rw [← List.map_id headers]
  refine List.map_congr_left fun (name, value) hmem => ?_
  rw [Function.comp_apply, h.value?_of_mem hmem]
  rfl

/-- An entry is the only one of its name. -/
theorem Distinct.filter_eq {headers : Headers} (h : headers.Distinct) {name value : String}
    (hvalue : headers.value? name = some value) :
    ∃ spelling, headers.filter (fun entry => sameFold entry.1 name) = [(spelling, value)] := by
  induction headers with
  | nil => cases hvalue
  | cons entry headers ih =>
    obtain ⟨candidate, old⟩ := entry
    obtain ⟨hcandidate, hrest⟩ := List.pairwise_cons.mp h
    rw [value?_cons] at hvalue
    cases hname : sameFold candidate name with
    | false =>
      rw [hname, if_neg Bool.false_ne_true] at hvalue
      rw [List.filter_cons_of_neg (by simp [hname])]
      exact ih hrest hvalue
    | true =>
      rw [hname, if_pos rfl] at hvalue
      obtain rfl := Option.some.inj hvalue
      have hnone : headers.filter (fun entry => sameFold entry.1 name) = [] := by
        refine List.filter_eq_nil_iff.mpr fun other hother => ?_
        have hne := hcandidate other.1 (List.mem_map_of_mem (f := Prod.fst) hother)
        rw [sameFold, sameFold_iff.mp hname, ← sameFold, sameFold_comm] at hne
        rw [hne]
        exact Bool.false_ne_true
      refine ⟨candidate, ?_⟩
      rw [List.filter_cons_of_pos (by simpa using hname), hnone]

theorem Distinct.setAll_nil {headers : Headers} (h : headers.Distinct) :
    Headers.setAll [] headers = headers := by
  induction headers using List.reverseRecOn with
  | nil => rfl
  | append_singleton headers entry ih =>
    rw [Distinct, names, List.map_append] at h
    obtain ⟨hfront, -, hlast⟩ := List.pairwise_append.mp h
    have hhas : has headers entry.1 = false := by
      rw [has_eq_any_names, List.any_eq_false]
      intro other hother
      rw [hlast other hother entry.1 List.mem_cons_self]
      exact Bool.false_ne_true
    rw [setAll_append, ih hfront, setAll_cons, Headers.setAll_nil, set_of_has_eq_false _ hhas]

/-! ### Names in the order of their first writes -/

/-- The names in the order in which they are met first, each with its first spelling. -/
def firstNames : List String → List String
  | [] => []
  | name :: names => name :: (firstNames names).filter fun other => !sameFold name other

theorem any_firstNames (names : List String) (name : String) :
    (firstNames names).any (sameFold · name) = names.any (sameFold · name) := by
  induction names with
  | nil => rfl
  | cons first names ih =>
    rw [firstNames, List.any_cons, List.any_cons]
    cases hfirst : sameFold first name with
    | true => rfl
    | false =>
      rw [List.any_filter, ← ih]
      refine List.any_congr rfl fun other => ?_
      -- What is left out for the first name is not the name that is looked for.
      cases hother : sameFold first other with
      | true =>
        rw [sameFold, ← sameFold_iff.mp hother, ← sameFold, hfirst]
        rfl
      | false => rfl

theorem firstNames_append_congr {names names' : List String}
    (h : firstNames names = firstNames names') (earlier : List String) :
    firstNames (earlier ++ names) = firstNames (earlier ++ names') := by
  induction earlier with
  | nil => exact h
  | cons name earlier ih => rw [List.cons_append, List.cons_append, firstNames, firstNames, ih]

theorem firstNames_concat (names : List String) (name : String) :
    firstNames (names ++ [name]) =
      if names.any (sameFold · name) then firstNames names else firstNames names ++ [name] := by
  induction names with
  | nil => rfl
  | cons first names ih =>
    rw [List.cons_append, firstNames, firstNames, ih, List.any_cons]
    cases hany : names.any (sameFold · name) <;> cases hfirst : sameFold first name <;>
      simp [hfirst]

/-! ### Many writes -/

/-- The value that was written last under a name. -/
def lastValue? (entries : Headers) (name : String) : Option String :=
  value? (List.reverse entries) name

theorem lastValue?_concat (entries : Headers) (name value other : String) :
    lastValue? (entries ++ [(name, value)]) other =
      if sameFold name other then some value else lastValue? entries other := by
  rw [lastValue?, List.reverse_concat, value?_cons, lastValue?]

theorem lastValue?_append (xs ys : Headers) (name : String) :
    lastValue? (xs ++ ys) name = (ys.lastValue? name).or (xs.lastValue? name) := by
  rw [lastValue?, List.reverse_append, value?_append]
  rfl

/-- The list is what the entries leave when they are written one after the other: no two names are
the same, each has the value that was written last, and they stand in the order of their first
writes, in the spelling of that write. -/
structure Records (headers entries : Headers) : Prop where
  distinct : headers.Distinct
  latest : ∀ name, headers.value? name = entries.lastValue? name
  order : headers.names = firstNames entries.names

theorem Records.has_eq {headers entries : Headers} (h : Records headers entries) (name : String) :
    headers.has name = entries.has name := by
  rw [has_eq_any_names, h.order, any_firstNames, ← has_eq_any_names]

/-- **A list that entries were written to records them.** -/
theorem records_setAll (entries : Headers) : Records (setAll [] entries) entries := by
  induction entries using List.reverseRecOn with
  | nil => exact ⟨.nil, fun _ => rfl, rfl⟩
  | append_singleton entries entry ih =>
    obtain ⟨name, value⟩ := entry
    -- A name is in the list exactly if it was written before, so it is added in both cases or none.
    have horder : ((setAll [] entries).set name value).names =
        firstNames (names (entries ++ [(name, value)])) := by
      rw [names_set, ih.has_eq, ih.order, has_eq_any_names, names, names, List.map_append,
        List.map_singleton, firstNames_concat]
    rw [setAll_append, setAll_cons, setAll_nil]
    refine ⟨ih.distinct.set name value, fun other => ?_, horder⟩
    rw [value?_set, ih.latest, lastValue?_concat]

/-- **Nothing else records the entries**: a list is determined by them. -/
theorem Records.eq {headers headers' entries : Headers} (h : Records headers entries)
    (h' : Records headers' entries) : headers = headers' := by
  rw [h.distinct.eq_map_names, h'.distinct.eq_map_names, h.order, h'.order]
  refine List.map_congr_left fun name _ => ?_
  rw [h.latest, h'.latest]

/-- A list without equal names records itself. -/
theorem Distinct.records {headers : Headers} (h : headers.Distinct) : Records headers headers := by
  have hrecords := records_setAll headers
  rwa [h.setAll_nil] at hrecords

/-- **Entries may be merged before they are written.** -/
theorem setAll_append_setAll (xs ys : Headers) :
    setAll [] (xs ++ setAll [] ys) = setAll [] (xs ++ ys) := by
  have hmerged : Records (setAll [] ys) ys := records_setAll ys
  have hself : Records (setAll [] ys) (setAll [] ys) := hmerged.distinct.records
  have hstaged := records_setAll (xs ++ setAll [] ys)
  refine Records.eq ⟨hstaged.distinct, fun name => ?_, ?_⟩ (records_setAll (xs ++ ys))
  · rw [hstaged.latest, lastValue?_append, lastValue?_append, ← hself.latest, hmerged.latest]
  · have horder : firstNames (names (setAll [] ys)) = firstNames (names ys) :=
      hself.order.symm.trans hmerged.order
    rw [hstaged.order, names, names, List.map_append, List.map_append]
    exact firstNames_append_congr horder xs.names

/-! ### What writes leave of a list -/

theorem Distinct.setAll {headers : Headers} (h : headers.Distinct) (entries : Headers) :
    (headers.setAll entries).Distinct := by
  induction entries generalizing headers with
  | nil => exact h
  | cons entry entries ih => exact ih (h.set entry.1 entry.2)

/-- The names of a list stay in front. -/
theorem names_isPrefix_setAll (headers entries : Headers) :
    headers.names <+: (headers.setAll entries).names := by
  induction entries generalizing headers with
  | nil => exact List.prefix_refl _
  | cons entry entries ih =>
    refine List.IsPrefix.trans ?_ (ih (headers.set entry.1 entry.2))
    rw [names_set]
    split
    · exact List.prefix_refl _
    · exact List.prefix_append ..

theorem value?_setAll (headers entries : Headers) (name : String) :
    (headers.setAll entries).value? name =
      (entries.lastValue? name).or (headers.value? name) := by
  induction entries using List.reverseRecOn with
  | nil => rfl
  | append_singleton entries entry ih =>
    obtain ⟨other, value⟩ := entry
    rw [setAll_append, setAll_cons, setAll_nil, value?_set, lastValue?_concat, ih]
    split <;> rfl

/-- **The entries of a list stay in front**, with the values that are written last under their
names. -/
theorem Distinct.isPrefix_setAll {headers : Headers} (h : headers.Distinct) (entries : Headers) :
    (headers.map fun (name, value) => (name, (entries.lastValue? name).getD value)) <+:
      headers.setAll entries := by
  obtain ⟨more, hmore⟩ := names_isPrefix_setAll headers entries
  have hentries : (headers.map fun (name, value) => (name, (entries.lastValue? name).getD value)) =
      headers.names.map fun name => (name, ((headers.setAll entries).value? name).getD "") := by
    rw [names, List.map_map]
    refine List.map_congr_left fun (name, value) hmem => ?_
    rw [Function.comp_apply, value?_setAll, h.value?_of_mem hmem]
    cases hlast : entries.lastValue? name <;> simp [hlast]
  rw [(h.setAll entries).eq_map_names, ← hmore, List.map_append, hentries]
  exact List.prefix_append ..

end Waybill.Headers
