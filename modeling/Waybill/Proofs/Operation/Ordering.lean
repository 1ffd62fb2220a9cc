import Waybill.Code.Fragment
import Waybill.Proofs.Operation.Headers

/-!
# The order of attributes

The attributes of a method are read from the first to the last. What one of them says does not
depend on the others: whether it is about the method, headers, the body, an upload, or about nothing
that concerns the request, shows in the attribute alone. Only how often something is said matters,
and the order of what adds up. So attributes may change places, as long as those for headers keep
their order among themselves, and those that are kept for the generated code keep theirs.

## Main definitions

* `Waybill.Remark`, `Waybill.Remark.ofAttribute` — what an attribute says by itself.
* `Waybill.OperationAttributes.note`, `Waybill.OperationAttributes.Gathers` — what is said with one
  remark more, and what attributes say together.

## Main results

* `Waybill.OperationAttributes.add_eq_ok_iff`, `Waybill.OperationAttributes.gathers_concat`: one
  attribute more.
* `Waybill.OperationAttributes.read_eq_ok_iff`, `Waybill.OperationAttributes.exists_read_iff`: when
  attributes are accepted, and what they say.
* `Waybill.OperationAttributes.read_of_perm`: the order of attributes does not matter.
-/

namespace Waybill

open Code (Attribute)

/-! ### What an attribute says by itself -/

/-- The names of attributes that name the method and the path. -/
def verbNames : List String := ["get", "post", "put", "delete", "patch", "head", "options", "http"]

/-- Whether an attribute names the method and the path. -/
def namesMethod (a : Attribute) : Bool := verbNames.any a.isNamed

/-- Whether an attribute says nothing about the request. -/
def isForeign (a : Attribute) : Bool :=
  !(verbNames ++ ["headers", "body", "file_upload"]).any a.isNamed

/-- What an attribute says. -/
inductive Remark where
  | verb (v : Verb)
  | headers (given : Headers)
  | body (name : String)
  | upload (u : Upload)
  /-- Nothing about the request. -/
  | foreign

namespace Remark

/-- What an attribute says, whatever was said before. -/
def ofAttribute (a : Attribute) : Except Rejection Remark := do
  match ← Verb.ofAttribute a with
  | some v => return .verb v
  | none =>
    if a.isNamed "headers" then return .headers (← headersOfAttribute a)
    else if a.isNamed "body" then return .body (← textOfAttribute a)
    else if a.isNamed "file_upload" then return .upload (← Upload.ofAttribute a)
    else return .foreign

/-- The method and the path, if they are named. -/
def verb? : Remark → Option Verb
  | verb v => some v
  | _ => none

/-- The entries for headers. -/
def entries : Remark → Headers
  | headers given => given
  | _ => []

/-- The name of the body, if it is given. -/
def body? : Remark → Option String
  | body name => some name
  | _ => none

/-- The names for an upload, if they are given. -/
def upload? : Remark → Option Upload
  | upload u => some u
  | _ => none

/-- The attribute that was read, if it is one to be kept. -/
def kept? (a : Attribute) : Remark → Option Attribute
  | foreign => some a
  | _ => none

variable {a : Attribute} {remark : Remark}

theorem namesMethod_eq (a : Attribute) :
    namesMethod a = ((Verb.methodOfName? a).isSome || a.isNamed "http") := by
  have hmethods : (Verb.methodOfName? a).isSome =
      (Method.all.map Method.attributeName).any a.isNamed := by
    rw [Verb.methodOfName?, Bool.eq_iff_iff, List.find?_isSome, List.any_map, List.any_eq_true]
    rfl
  rw [hmethods]
  simp [namesMethod, verbNames, Method.all, Method.attributeName, Bool.or_assoc]

/-- An attribute is about the method and the path exactly if its name says so. -/
theorem namesMethod_of_ofAttribute {verb? : Option Verb} (h : Verb.ofAttribute a = .ok verb?) :
    namesMethod a = verb?.isSome := by
  rw [namesMethod_eq]
  unfold Verb.ofAttribute at h
  split at h
  · rename_i hmethod
    obtain ⟨_, -, h⟩ := Steps.bind_eq_ok_iff.mp h
    obtain rfl := Except.ok.inj h
    rw [hmethod]
    rfl
  · rename_i hmethod
    rw [hmethod]
    split at h
    · rename_i hhttp
      obtain ⟨_, -, h⟩ := Steps.bind_eq_ok_iff.mp h
      obtain ⟨_, -, h⟩ := Steps.bind_eq_ok_iff.mp h
      obtain rfl := Except.ok.inj h
      rw [hhttp]
      rfl
    · rename_i hhttp
      obtain rfl := Except.ok.inj h
      simpa using hhttp

theorem isNamed_of_namesMethod {name : String} (h : namesMethod a = true)
    (hname : name ∉ verbNames) : a.isNamed name = false := by
  obtain ⟨verbName, hmem, hnamed⟩ := List.any_eq_true.mp h
  exact isNamed_eq_false hnamed fun heq => hname (heq ▸ hmem)

/-- What an attribute says is about what its name says. -/
theorem parts_of_ofAttribute (h : ofAttribute a = .ok remark) :
    remark.verb?.isSome = namesMethod a ∧ (a.isNamed "headers" = false → remark.entries = []) ∧
      remark.body?.isSome = a.isNamed "body" ∧ remark.upload?.isSome = a.isNamed "file_upload" ∧
      remark.kept? a = if isForeign a then some a else none := by
  have hforeign : isForeign a = !(namesMethod a || (a.isNamed "headers" ||
      (a.isNamed "body" || a.isNamed "file_upload"))) := by
    simp [isForeign, namesMethod, List.any_append]
  rw [hforeign]
  obtain ⟨v?, hverb, h⟩ := Steps.bind_eq_ok_iff.mp h
  have hmethod := namesMethod_of_ofAttribute hverb
  cases v? with
  | some v =>
    obtain rfl := Except.ok.inj h
    have hother (name : String) (hname : name ∉ verbNames) : a.isNamed name = false :=
      isNamed_of_namesMethod hmethod hname
    simp [hmethod, hother _ (by decide : "headers" ∉ verbNames),
      hother _ (by decide : "body" ∉ verbNames), hother _ (by decide : "file_upload" ∉ verbNames),
      verb?, entries, body?, upload?, kept?]
  | none =>
    simp only at h
    split at h
    · rename_i hname
      obtain ⟨given, -, h⟩ := Steps.bind_eq_ok_iff.mp h
      obtain rfl := Except.ok.inj h
      simp [hmethod, hname, isNamed_eq_false hname (by decide : "headers" ≠ "body"),
        isNamed_eq_false hname (by decide : "headers" ≠ "file_upload"),
        verb?, entries, body?, upload?, kept?]
    · rename_i hheaders
      split at h
      · rename_i hname
        obtain ⟨body, -, h⟩ := Steps.bind_eq_ok_iff.mp h
        obtain rfl := Except.ok.inj h
        simp [hmethod, hname, isNamed_eq_false hname (by decide : "body" ≠ "file_upload"),
          verb?, entries, body?, upload?, kept?]
      · rename_i hbody
        split at h
        · rename_i hname
          obtain ⟨upload, -, h⟩ := Steps.bind_eq_ok_iff.mp h
          obtain rfl := Except.ok.inj h
          simp [hmethod, hname, hbody, verb?, entries, body?, upload?, kept?]
        · rename_i hupload
          obtain rfl := Except.ok.inj h
          simp [hmethod, hheaders, hbody, hupload, verb?, entries, body?, upload?, kept?]

end Remark

/-- What attributes say, each by itself, of those that say something readable. -/
def remarks (attributes : List Attribute) : List Remark :=
  attributes.filterMap fun a => (Remark.ofAttribute a).toOption

/-- Whether every attribute can be read by itself. -/
def Readable (attributes : List Attribute) : Prop :=
  ∀ a ∈ attributes, ∃ remark, Remark.ofAttribute a = .ok remark

section Concat

variable {attributes : List Attribute} {a : Attribute} {remark : Remark}

theorem remarks_concat (h : Remark.ofAttribute a = .ok remark) :
    remarks (attributes ++ [a]) = remarks attributes ++ [remark] := by
  simp [remarks, h, Except.toOption]

theorem filterMap_remarks_concat {β : Type} (part? : Remark → Option β)
    (h : Remark.ofAttribute a = .ok remark) :
    (remarks (attributes ++ [a])).filterMap part? =
      (remarks attributes).filterMap part? ++ (part? remark).toList := by
  rw [remarks_concat h, List.filterMap_append]
  cases hpart : part? remark <;> simp [hpart]

theorem flatMap_entries_remarks_concat (h : Remark.ofAttribute a = .ok remark) :
    (remarks (attributes ++ [a])).flatMap Remark.entries =
      (remarks attributes).flatMap Remark.entries ++ remark.entries := by
  rw [remarks_concat h, List.flatMap_append, List.flatMap_singleton]

theorem filter_isForeign_concat (h : Remark.ofAttribute a = .ok remark) :
    (attributes ++ [a]).filter isForeign = attributes.filter isForeign ++
      (remark.kept? a).toList := by
  rw [List.filter_append, (Remark.parts_of_ofAttribute h).2.2.2.2, List.filter_singleton]
  cases isForeign a <;> rfl

theorem readable_concat_iff : Readable (attributes ++ [a]) ↔
    Readable attributes ∧ ∃ remark, Remark.ofAttribute a = .ok remark := by
  simp [Readable, or_imp, forall_and]

end Concat

theorem flatMap_entries_remarks (attributes : List Attribute) :
    (remarks attributes).flatMap Remark.entries =
      (remarks (attributes.filter (·.isNamed "headers"))).flatMap Remark.entries := by
  induction attributes with
  | nil => rfl
  | cons a rest ih =>
    cases hremark : Remark.ofAttribute a with
    | error rejection =>
      cases hname : a.isNamed "headers" <;>
        simpa [remarks, hremark, hname, Except.toOption] using ih
    | ok remark =>
      cases hname : a.isNamed "headers" with
      | false =>
        have hnone := (Remark.parts_of_ofAttribute hremark).2.1 hname
        simpa [remarks, hremark, hname, hnone, Except.toOption] using ih
      | true => simpa [remarks, hremark, hname, Except.toOption] using ih

/-- Remarks of a kind are as many as attributes with a name of that kind. -/
theorem length_filterMap_remarks {β : Type} {part? : Remark → Option β} {named : Attribute → Bool}
    (hpart : ∀ a remark, Remark.ofAttribute a = .ok remark → (part? remark).isSome = named a)
    {attributes : List Attribute} (h : Readable attributes) :
    ((remarks attributes).filterMap part?).length = attributes.countP named := by
  rw [remarks, List.filterMap_filterMap, List.length_filterMap_eq_countP]
  refine List.countP_congr fun a ha => ?_
  obtain ⟨remark, hremark⟩ := h a ha
  rw [hremark, ← hpart a remark hremark]
  rfl

namespace OperationAttributes

variable {operation : String} {said said' : OperationAttributes} {a : Attribute}
  {attributes permuted : List Attribute}

/-! ### One attribute more -/

/-- What is said with one remark more, unless it was made before and may be made once only. -/
def note (said : OperationAttributes) (a : Attribute) : Remark → Option OperationAttributes
  | .verb v => if said.verb.isSome then none else some { said with verb := some v }
  | .headers given => some { said with headers := said.headers.setAll given }
  | .body name => if said.body.isSome then none else some { said with body := some name }
  | .upload u => if said.upload.isSome then none else some { said with upload := some u }
  | .foreign => some { said with kept := said.kept ++ [a] }

/-- **An attribute adds what it says by itself.** -/
theorem add_eq_ok_iff : said.add operation a = .ok said' ↔
    ∃ remark, Remark.ofAttribute a = .ok remark ∧ said.note a remark = some said' := by
  unfold add Remark.ofAttribute
  cases Verb.ofAttribute a with
  | error rejection => simp [bind, Except.bind]
  | ok v? =>
    simp only [bind, Except.bind]
    cases v? with
    | some v => cases hverb : said.verb <;> simp [note, hverb, pure, Except.pure]
    | none =>
      simp only [pure, Except.pure]
      split
      · cases headersOfAttribute a <;> simp [note]
      · split
        · cases hbody : said.body <;> cases textOfAttribute a <;> simp [note, hbody]
        · split
          · cases hupload : said.upload <;> cases Upload.ofAttribute a <;> simp [note, hupload]
          · simp [note]

theorem toList_eq_append_some_iff {α : Type} {before after : Option α} {x : α} :
    after.toList = before.toList ++ (some x).toList ↔ before = none ∧ after = some x := by
  cases before <;> cases after <;> simp

theorem toList_eq_append_none_iff {α : Type} {before after : Option α} :
    after.toList = before.toList ++ (none : Option α).toList ↔ after = before := by
  cases before <;> cases after <;> simp

/-- **A remark adds to every part what it says of it**, which is possible if no part that is said
once at most would be said twice. -/
theorem note_eq_some_iff {remark : Remark} : said.note a remark = some said' ↔
    said'.verb.toList = said.verb.toList ++ remark.verb?.toList ∧
      said'.headers = said.headers.setAll remark.entries ∧
      said'.body.toList = said.body.toList ++ remark.body?.toList ∧
      said'.upload.toList = said.upload.toList ++ remark.upload?.toList ∧
      said'.kept = said.kept ++ (remark.kept? a).toList := by
  obtain ⟨verb, headers, body, upload, kept⟩ := said
  obtain ⟨verb', headers', body', upload', kept'⟩ := said'
  cases remark with
  | verb v =>
    simp only [Remark.verb?, Remark.entries, Remark.body?, Remark.upload?, Remark.kept?,
      toList_eq_append_some_iff, toList_eq_append_none_iff]
    cases verb <;> simp [note, Headers.setAll, eq_comm]
  | headers given =>
    simp only [Remark.verb?, Remark.entries, Remark.body?, Remark.upload?, Remark.kept?,
      toList_eq_append_none_iff]
    simp [note, eq_comm]
  | body name =>
    simp only [Remark.verb?, Remark.entries, Remark.body?, Remark.upload?, Remark.kept?,
      toList_eq_append_some_iff, toList_eq_append_none_iff]
    cases body <;> simp [note, Headers.setAll, eq_comm]
  | upload u =>
    simp only [Remark.verb?, Remark.entries, Remark.body?, Remark.upload?, Remark.kept?,
      toList_eq_append_some_iff, toList_eq_append_none_iff]
    cases upload <;> simp [note, Headers.setAll, eq_comm]
  | foreign =>
    simp only [Remark.verb?, Remark.entries, Remark.body?, Remark.upload?, Remark.kept?,
      toList_eq_append_none_iff]
    simp [note, Headers.setAll, eq_comm]

/-- What attributes say together. -/
structure Gathers (attributes : List Attribute) (said : OperationAttributes) : Prop where
  readable : Readable attributes
  verb : said.verb.toList = (remarks attributes).filterMap Remark.verb?
  headers : said.headers = Headers.setAll [] ((remarks attributes).flatMap Remark.entries)
  body : said.body.toList = (remarks attributes).filterMap Remark.body?
  upload : said.upload.toList = (remarks attributes).filterMap Remark.upload?
  kept : said.kept = attributes.filter isForeign

theorem exists_toList_iff {α : Type} {xs : List α} :
    (∃ x : Option α, x.toList = xs) ↔ xs.length ≤ 1 := by
  constructor
  · rintro ⟨x, rfl⟩
    cases x <;> simp
  · intro h
    match xs with
    | [] => exact ⟨none, rfl⟩
    | [x] => exact ⟨some x, rfl⟩
    | x :: y :: rest => simp at h

theorem exists_toList_of_append {α : Type} {after : Option α} {before last : List α}
    (h : after.toList = before ++ last) : ∃ x : Option α, x.toList = before := by
  have hlength : before.length ≤ after.toList.length := by
    rw [h, List.length_append]
    exact Nat.le_add_right _ _
  exact exists_toList_iff.mpr (hlength.trans (exists_toList_iff.mp ⟨after, rfl⟩))

/-- **What attributes say together, with one more at their end.** -/
theorem gathers_concat (operation : String) : Gathers (attributes ++ [a]) said' ↔
    ∃ said, Gathers attributes said ∧ said.add operation a = .ok said' := by
  simp only [add_eq_ok_iff, note_eq_some_iff]
  constructor
  · rintro ⟨hreadable, hverb, hheaders, hbody, hupload, hkept⟩
    obtain ⟨hreadable, remark, hremark⟩ := readable_concat_iff.mp hreadable
    rw [filterMap_remarks_concat _ hremark] at hverb hbody hupload
    rw [flatMap_entries_remarks_concat hremark, Headers.setAll_append] at hheaders
    rw [filter_isForeign_concat hremark] at hkept
    -- every part of what is said at the end has in front what the attributes before said of it
    obtain ⟨verb, hverb'⟩ := exists_toList_of_append hverb
    obtain ⟨body, hbody'⟩ := exists_toList_of_append hbody
    obtain ⟨upload, hupload'⟩ := exists_toList_of_append hupload
    refine ⟨⟨verb, Headers.setAll [] ((remarks attributes).flatMap Remark.entries), body, upload,
      attributes.filter isForeign⟩, ⟨hreadable, hverb', rfl, hbody', hupload', rfl⟩, remark,
      hremark, ?_, hheaders, ?_, ?_, hkept⟩
    · rw [hverb, hverb']
    · rw [hbody, hbody']
    · rw [hupload, hupload']
  · rintro ⟨said, ⟨hreadable, hverb, hheaders, hbody, hupload, hkept⟩, remark, hremark,
      hverb', hheaders', hbody', hupload', hkept'⟩
    refine ⟨readable_concat_iff.mpr ⟨hreadable, remark, hremark⟩, ?_, ?_, ?_, ?_, ?_⟩
    · rw [filterMap_remarks_concat _ hremark, ← hverb, hverb']
    · rw [flatMap_entries_remarks_concat hremark, Headers.setAll_append, ← hheaders, hheaders']
    · rw [filterMap_remarks_concat _ hremark, ← hbody, hbody']
    · rw [filterMap_remarks_concat _ hremark, ← hupload, hupload']
    · rw [filter_isForeign_concat hremark, ← hkept, hkept']

/-! ### All attributes -/

theorem addAll_append (said : OperationAttributes) (before after : List Attribute) :
    said.addAll operation (before ++ after) =
      said.addAll operation before >>= fun said => said.addAll operation after := by
  induction before generalizing said with
  | nil => rfl
  | cons a rest ih =>
    rw [List.cons_append, addAll, addAll, bind_assoc]
    exact congrArg _ (funext fun next => ih next)

theorem addAll_concat (said : OperationAttributes) (before : List Attribute) (a : Attribute) :
    said.addAll operation (before ++ [a]) =
      said.addAll operation before >>= fun said => said.add operation a := by
  rw [addAll_append]
  refine congrArg _ (funext fun next => ?_)
  exact bind_pure _

theorem gathers_nil_iff : Gathers [] said ↔ said = blank := by
  constructor
  · rintro ⟨-, hverb, hheaders, hbody, hupload, hkept⟩
    obtain ⟨verb, headers, body, upload, kept⟩ := said
    simp_all [blank, remarks, Headers.setAll]
  · rintro rfl
    exact ⟨by simp [Readable], rfl, rfl, rfl, rfl, rfl⟩

/-- **Attributes are accepted one after the other if each is readable and none says what is said
once only for a second time.** -/
theorem addAll_blank_eq_ok_iff :
    blank.addAll operation attributes = .ok said ↔ Gathers attributes said := by
  -- from the end of the list, as each attribute meets what those before it said
  induction attributes using List.reverseRecOn generalizing said with
  | nil =>
    rw [gathers_nil_iff]
    exact ⟨fun h => (Except.ok.inj h).symm, fun h => congrArg Except.ok h.symm⟩
  | append_singleton before a ih =>
    rw [addAll_concat, Steps.bind_eq_ok_iff, gathers_concat operation]
    simp only [ih]

theorem read_eq_ok_iff {verb : Verb} : read operation attributes = .ok (verb, said) ↔
    Gathers attributes said ∧ said.verb = some verb := by
  rw [read, Steps.bind_eq_ok_iff]
  simp only [addAll_blank_eq_ok_iff]
  constructor
  · rintro ⟨said', hgathers, h⟩
    split at h
    · rename_i hverb
      obtain ⟨rfl, rfl⟩ := Prod.mk.inj (Except.ok.inj h)
      exact ⟨hgathers, hverb⟩
    · cases h
  · rintro ⟨hgathers, hverb⟩
    exact ⟨said, hgathers, by rw [hverb]⟩

/-! ### Other orders -/

theorem eq_toList_of_perm {α : Type} {x : Option α} {xs : List α} (h : xs.Perm x.toList) :
    x.toList = xs := by
  cases x with
  | none => exact h.eq_nil.symm
  | some y => exact (List.perm_singleton.mp h).symm

/-- Attributes in another order say the same, if those whose order matters kept it. -/
theorem Gathers.of_perm (h : Gathers attributes said) (hperm : permuted.Perm attributes)
    (hheaders : permuted.filter (·.isNamed "headers") = attributes.filter (·.isNamed "headers"))
    (hforeign : permuted.filter isForeign = attributes.filter isForeign) :
    Gathers permuted said := by
  have hremarks : (remarks permuted).Perm (remarks attributes) := hperm.filterMap _
  refine ⟨fun a ha => h.readable a (hperm.mem_iff.mp ha), ?_, ?_, ?_, ?_,
    h.kept.trans hforeign.symm⟩
  · exact eq_toList_of_perm (h.verb ▸ hremarks.filterMap _)
  · rw [h.headers, flatMap_entries_remarks attributes, ← hheaders, ← flatMap_entries_remarks]
  · exact eq_toList_of_perm (h.body ▸ hremarks.filterMap _)
  · exact eq_toList_of_perm (h.upload ▸ hremarks.filterMap _)

/-- An attribute can be read if it is accepted where nothing else is said. -/
theorem readable_iff (operation : String) : Readable attributes ↔
    ∀ a ∈ attributes, ∃ said, blank.add operation a = .ok said := by
  refine forall₂_congr fun a _ => ?_
  simp only [add_eq_ok_iff]
  constructor
  · rintro ⟨remark, hremark⟩
    cases remark <;> exact ⟨_, _, hremark, rfl⟩
  · rintro ⟨said, remark, hremark, -⟩
    exact ⟨remark, hremark⟩

/-- **Attributes are accepted exactly if each of them can be read by itself**, one of them names the
method, and one at most gives the body, and one the upload. -/
theorem exists_read_iff : (∃ result, read operation attributes = .ok result) ↔
    (∀ a ∈ attributes, ∃ said, blank.add operation a = .ok said) ∧
      attributes.countP namesMethod = 1 ∧ attributes.countP (·.isNamed "body") ≤ 1 ∧
      attributes.countP (·.isNamed "file_upload") ≤ 1 := by
  rw [← readable_iff]
  constructor
  · rintro ⟨⟨verb, said⟩, h⟩
    obtain ⟨hgathers, hverb⟩ := read_eq_ok_iff.mp h
    refine ⟨hgathers.readable, ?_, ?_, ?_⟩
    · rw [← length_filterMap_remarks (fun _ _ h => (Remark.parts_of_ofAttribute h).1)
        hgathers.readable, ← hgathers.verb, hverb]
      rfl
    · rw [← length_filterMap_remarks (fun _ _ h => (Remark.parts_of_ofAttribute h).2.2.1)
        hgathers.readable, ← hgathers.body]
      exact exists_toList_iff.mp ⟨_, rfl⟩
    · rw [← length_filterMap_remarks (fun _ _ h => (Remark.parts_of_ofAttribute h).2.2.2.1)
        hgathers.readable, ← hgathers.upload]
      exact exists_toList_iff.mp ⟨_, rfl⟩
  · rintro ⟨hreadable, hverb, hbody, hupload⟩
    rw [← length_filterMap_remarks (fun _ _ h => (Remark.parts_of_ofAttribute h).1) hreadable]
      at hverb
    rw [← length_filterMap_remarks (fun _ _ h => (Remark.parts_of_ofAttribute h).2.2.1) hreadable,
      ← exists_toList_iff] at hbody
    rw [← length_filterMap_remarks (fun _ _ h => (Remark.parts_of_ofAttribute h).2.2.2.1) hreadable,
      ← exists_toList_iff] at hupload
    obtain ⟨verb, hverb⟩ := List.length_eq_one_iff.mp hverb
    obtain ⟨body, hbody⟩ := hbody
    obtain ⟨upload, hupload⟩ := hupload
    exact ⟨(verb, ⟨some verb, _, body, upload, _⟩), read_eq_ok_iff.mpr
      ⟨⟨hreadable, hverb.symm, rfl, hbody, hupload, rfl⟩, rfl⟩⟩

/-- **The order of attributes does not matter**, apart from the order of those for headers among
themselves and of those that are kept among themselves. Attributes that are accepted say the same in
any other order that leaves these two, and keep all that have none of the names that say something
about the request, as they stand. Whether attributes are accepted is a matter of each by itself and
of counts, so it is the same in every order: without a method, with two of them, with two bodies or
with two uploads, every order is rejected. -/
theorem read_of_perm (operation : String) (attributes : List Attribute) :
    (∀ verb said, read operation attributes = .ok (verb, said) →
      said.kept = attributes.filter isForeign ∧
      ∀ permuted : List Attribute, permuted.Perm attributes →
        permuted.filter (·.isNamed "headers") = attributes.filter (·.isNamed "headers") →
        permuted.filter isForeign = attributes.filter isForeign →
          read operation permuted = .ok (verb, said)) ∧
      ∀ permuted : List Attribute, permuted.Perm attributes →
        ((∃ result, read operation permuted = .ok result) ↔
          (∀ a ∈ attributes, ∃ said, blank.add operation a = .ok said) ∧
            attributes.countP namesMethod = 1 ∧ attributes.countP (·.isNamed "body") ≤ 1 ∧
            attributes.countP (·.isNamed "file_upload") ≤ 1) ∧
        (attributes.countP namesMethod = 0 ∨ 2 ≤ attributes.countP namesMethod ∨
            2 ≤ attributes.countP (·.isNamed "body") ∨
            2 ≤ attributes.countP (·.isNamed "file_upload") →
          ∃ rejection, read operation permuted = .error rejection) := by
  constructor
  · intro verb said h
    obtain ⟨hgathers, hverb⟩ := read_eq_ok_iff.mp h
    exact ⟨hgathers.kept, fun permuted hperm hheaders hforeign =>
      read_eq_ok_iff.mpr ⟨hgathers.of_perm hperm hheaders hforeign, hverb⟩⟩
  · intro permuted hperm
    have haccepted : (∃ result, read operation permuted = .ok result) ↔
        (∀ a ∈ attributes, ∃ said, blank.add operation a = .ok said) ∧
          attributes.countP namesMethod = 1 ∧ attributes.countP (·.isNamed "body") ≤ 1 ∧
          attributes.countP (·.isNamed "file_upload") ≤ 1 := by
      rw [exists_read_iff, hperm.countP_eq, hperm.countP_eq, hperm.countP_eq]
      exact and_congr_left fun _ => forall_congr' fun a => by rw [hperm.mem_iff]
    refine ⟨haccepted, fun hcount => ?_⟩
    cases hread : read operation permuted with
    | error rejection => exact ⟨rejection, rfl⟩
    | ok result =>
      obtain ⟨-, hverb, hbody, hupload⟩ := haccepted.mp ⟨result, hread⟩
      omega

/-- Attributes of all kinds, with what names the method and the body first or last; and a second
attribute that names a method, behind all others. -/
theorem read_of_perm_save :
    let text (name value : String) : Attribute :=
      ⟨false, Code.named name, .arguments .parenthesis (Code.quoted value)⟩
    let named (code : String) : Attribute :=
      ⟨false, Code.named "headers", .arguments .parenthesis (Code.code code)⟩
    let first := [text "post" "/posts", text "body" "post"]
    let rest := [text "doc" "Saves.", named "Accept = \"a\"", text "deprecated" "old",
      named "X_Id = \"1\", Accept = \"b\"", ⟨false, Code.named "file_upload", .nothing⟩]
    (∃ verb said, read "save" (first ++ rest) = .ok (verb, said) ∧
      read "save" (rest ++ first) = .ok (verb, said) ∧ (verb, said.headers) =
        (⟨.post, "/posts"⟩, [("Accept", "b"), ("X-Id", "1")]) ∧
      (said.body, said.upload, said.kept.filterMap (·.name?)) =
        (some "post", some .standard, ["doc", "deprecated"])) ∧
      ∃ rejection,
        read "save" (rest ++ first ++ [text "http" "PUT /posts"]) = .error rejection := by
  intro text named first rest
  have hrequest : (read "save" (first ++ rest)).map (fun result =>
      (result.1, result.2.headers)) =
        .ok (⟨.post, "/posts"⟩, [("Accept", "b"), ("X-Id", "1")]) := by decide +kernel
  have hothers : (read "save" (first ++ rest)).map (fun result =>
      (result.2.body, result.2.upload, result.2.kept.filterMap (·.name?))) =
        .ok (some "post", some .standard, ["doc", "deprecated"]) := by decide +kernel
  have hsame : ∀ p : Attribute → Bool, (∀ a ∈ first, p a = false) →
      (rest ++ first).filter p = (first ++ rest).filter p := by
    intro p hp
    have hnone : first.filter p = [] := List.filter_eq_nil_iff.mpr (by simpa using hp)
    rw [List.filter_append, List.filter_append, hnone, List.append_nil, List.nil_append]
  cases hread : read "save" (first ++ rest) with
  | error rejection =>
    rw [hread] at hrequest
    cases hrequest
  | ok result =>
    rw [hread] at hrequest hothers
    obtain ⟨-, hother⟩ := (read_of_perm "save" (first ++ rest)).1 _ _ hread
    refine ⟨⟨_, _, rfl, hother _ List.perm_append_comm (hsame _ (by decide +kernel))
      (hsame _ (by decide +kernel)), Except.ok.inj hrequest,
      Except.ok.inj hothers⟩, ?_⟩
    exact ((read_of_perm "save" (first ++ rest ++ [text "http" "PUT /posts"])).2 _
      (List.perm_append_comm.append_right _)).2 (.inr (.inl (by decide +kernel)))

end OperationAttributes

end Waybill
