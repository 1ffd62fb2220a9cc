
import Waybill.Proofs.Json.Coherence
import Waybill.Proofs.Json.Complete
import Waybill.Proofs.Json.Entries
import Waybill.Proofs.Json.Walks

/-!
# Which bodies decode

A value that was read has no more brackets around any of its parts than the depth limit allows.
Rewriting its keys opens no bracket, and so the tree of the rewritten value has a value again.

With `KeyStrategy.fromSnakeCase` a body is read as a whole before it is decoded, so that nothing but
a complete document decodes, whatever the schema. With `KeyStrategy.asIs` the walk stops at the end
of the value that the body starts with: what stands behind it is not looked at, and neither is the
encoding of the texts that the schema passes over. The second strategy thus accepts every body that
starts with a value that decodes by itself.

## Main definitions

* `Waybill.Json.IsWithin`: the depth of a value.

## Main results

* `Waybill.Json.Tree.induction`: induction over trees.
* `Waybill.Json.isWithin_of_json`: what is read is within the limit.
* `Waybill.Json.IsWithin.camelKeys`, `Waybill.Json.IsWithin.exists_json_tree`: so is a value with
  its keys rewritten, and a value within the limit is the value of its tree.
* `Waybill.Json.isDocument_of_parse`: a body with one JSON value is a document.
* `Waybill.Json.exists_blanks_of_isDocument`: a document is read up to its blanks.
* `Waybill.KeyStrategy.decodes_documents`: which bodies decode, for both strategies.
* `Waybill.KeyStrategy.decodes_text_behind_value`: a body that is no document and decodes.
-/

namespace Waybill.Json

/-! ### Parts, one by one -/

theorem camelItems_eq_map (items : List Json) : camelItems items = items.map camelKeys := by
  induction items with
  | nil => rfl
  | cons j items ih => rw [camelItems, ih, List.map_cons]

theorem camelMembers_eq_map (members : List (String × Json)) :
    camelMembers members = members.map fun m => (camelKey m.1, camelKeys m.2) := by
  induction members with
  | nil => rfl
  | cons m members ih => rw [camelMembers, ih, List.map_cons]

theorem treeItems_eq_map (items : List Json) : treeItems items = items.map tree := by
  induction items with
  | nil => rfl
  | cons j items ih => rw [treeItems, ih, List.map_cons]

theorem treeMembers_eq_map (members : List (String × Json)) :
    treeMembers members = members.map fun m => (⟨.of m.1, 0⟩, m.2.tree) := by
  induction members with
  | nil => rfl
  | cons m members ih => rw [treeMembers, ih, List.map_cons]

/-! ### Depth -/

/-- No part of a value has as many brackets around it, itself included. -/
inductive IsWithin : Nat → Json → Prop
  | null {depth : Nat} : IsWithin depth .null
  | boolean {depth : Nat} (b : Bool) : IsWithin depth (.boolean b)
  | number {depth : Nat} (n : Number) : IsWithin depth (.number n)
  | text {depth : Nat} (s : String) : IsWithin depth (.text s)
  | array {depth : Nat} {items : List Json} (hdepth : 1 < depth)
    (h : ∀ j ∈ items, IsWithin (depth - 1) j) : IsWithin depth (.array items)
  | object {depth : Nat} {members : List (String × Json)} (hdepth : 1 < depth)
    (h : ∀ m ∈ members, IsWithin (depth - 1) m.2) : IsWithin depth (.object members)

/-- Induction over a tree and its parts. -/
@[elab_as_elim]
theorem Tree.induction {motive : Tree → Prop} (null : ∀ start stop, motive (.null start stop))
    (boolean : ∀ start stop b, motive (.boolean start stop b))
    (number : ∀ leaf, motive (.number leaf)) (text : ∀ leaf, motive (.text leaf))
    (array : ∀ start items ending, (∀ tree ∈ items, motive tree) →
      motive (.array start items ending))
    (object : ∀ start members ending, (∀ m ∈ members, motive m.2) →
      motive (.object start members ending))
    (broken : ∀ start fault, motive (.broken start fault)) (tree : Tree) : motive tree :=
  @Tree.rec motive (fun items => ∀ tree ∈ items, motive tree)
    (fun members => ∀ m ∈ members, motive m.2) (fun m => motive m.2) null boolean number text array
    object broken (by simp) (fun _ _ htree hrest => List.forall_mem_cons.mpr ⟨htree, hrest⟩)
    (by simp) (fun _ _ hm hrest => List.forall_mem_cons.mpr ⟨hm, hrest⟩) (fun _ _ h => h) tree

/-- What is read is within the limit. -/
theorem isWithin_of_json {tree : Tree} {depth : Nat} {j : Json} (h : tree.json depth = .ok j) :
    IsWithin depth j := by
  induction tree using Tree.induction generalizing depth j with
  | null =>
    obtain rfl := Except.ok.inj h
    exact .null
  | boolean =>
    obtain rfl := Except.ok.inj h
    exact .boolean _
  | number leaf =>
    obtain ⟨n, -, rfl⟩ := json_number_eq_ok_iff.mp h
    exact .number n
  | text leaf =>
    obtain ⟨s, -, rfl⟩ := json_text_eq_ok_iff.mp h
    exact .text s
  | array start items ending ih =>
    obtain ⟨hdepth, -, values, hvalues, rfl⟩ := json_array_eq_ok_iff.mp h
    refine .array hdepth fun j hj => ?_
    obtain ⟨tree, htree, hjson⟩ :=
      Steps.exists_of_mem_right (jsonOfItems_eq_ok_iff.mp hvalues) hj
    exact ih tree htree hjson
  | object start members ending ih =>
    obtain ⟨hdepth, -, values, hvalues, rfl⟩ := json_object_eq_ok_iff.mp h
    refine .object hdepth fun v hv => ?_
    obtain ⟨m, hm, -, hjson⟩ :=
      Steps.exists_of_mem_right (jsonOfMembers_eq_ok_iff.mp hvalues) (mem_of_mem_sorted hv)
    exact ih m hm hjson
  | broken => cases h

/-- Rewriting keys opens no bracket. -/
theorem IsWithin.camelKeys {depth : Nat} {j : Json} (h : IsWithin depth j) :
    IsWithin depth (camelKeys j) := by
  induction h with
  | null => exact .null
  | boolean b => exact .boolean b
  | number n => exact .number n
  | text s => exact .text s
  | array hdepth _ ih =>
    rw [Json.camelKeys, camelItems_eq_map]
    exact .array hdepth (List.forall_mem_map.mpr ih)
  | object hdepth _ ih =>
    rw [Json.camelKeys, camelMembers_eq_map]
    refine .object hdepth fun m hm => ?_
    obtain ⟨m', hm', rfl⟩ := List.mem_map.mp (mem_of_mem_sorted hm)
    exact ih m' hm'

/-- A value within the limit gives a tree that has a value. -/
theorem IsWithin.exists_json_tree {depth : Nat} {j : Json} (h : IsWithin depth j) :
    ∃ j', j.tree.json depth = .ok j' := by
  induction h with
  | null => exact ⟨_, rfl⟩
  | boolean b => exact ⟨_, rfl⟩
  | number n => exact ⟨_, rfl⟩
  | text s => exact ⟨_, rfl⟩
  | @array depth items hdepth _ ih =>
    obtain ⟨values, hvalues⟩ := Steps.exists_forall₂ ih
    have hitems : jsonOfItems (depth - 1) 0 (items.map Json.tree) = .ok values :=
      jsonOfItems_eq_ok_iff.mpr (List.forall₂_map_left_iff.mpr hvalues)
    rw [Json.tree, treeItems_eq_map]
    exact ⟨_, json_array_eq_ok_iff.mpr ⟨hdepth, ⟨0, rfl⟩, values, hitems, rfl⟩⟩
  | @object depth members hdepth _ ih =>
    have hnamed : ∀ m ∈ members, ∃ v : String × Json, (Leaf.of m.1).value = .ok v.1 ∧
        m.2.tree.json (depth - 1) = .ok v.2 := by
      intro m hm
      obtain ⟨j, hj⟩ := ih m hm
      exact ⟨(m.1, j), rfl, hj⟩
    obtain ⟨values, hvalues⟩ := Steps.exists_forall₂ hnamed
    have hmembers : jsonOfMembers (depth - 1)
        (members.map fun m => (⟨.of m.1, 0⟩, m.2.tree)) = .ok values :=
      jsonOfMembers_eq_ok_iff.mpr (List.forall₂_map_left_iff.mpr hvalues)
    rw [Json.tree, treeMembers_eq_map]
    exact ⟨_, json_object_eq_ok_iff.mpr ⟨hdepth, ⟨0, rfl⟩, values, hmembers, rfl⟩⟩

end Waybill.Json

namespace Waybill

namespace Json

/-! ### Whole bodies -/

theorem parse_eq_ok_iff {body : List UInt8} {j : Json} :
    parse body = .ok j ↔ (Tree.parse body).1.json depthLimit = .ok j ∧
      ∀ after ∈ (Tree.parse body).2, IsBlanks after.rest := by
  have hblanks (c : Cursor) : c.skipBlanks.rest.isEmpty = true ↔ IsBlanks c.rest := by
    obtain ⟨blanks, hblanks, hrest, hstop⟩ := exists_blanks c
    rw [List.isEmpty_iff]
    constructor
    · intro hempty
      rwa [hrest, hempty, List.append_nil]
    · intro hall
      cases hnext : c.skipBlanks.rest with
      | nil => rfl
      | cons b rest =>
        rw [hnext] at hrest hstop
        have hb := hall b (hrest ▸ List.mem_append_right _ List.mem_cons_self)
        rw [stops_cons.mp hstop] at hb
        cases hb
  unfold parse
  rcases Tree.parse body with ⟨located, _ | after⟩
  · constructor
    · intro h
      obtain ⟨value, hvalue, h⟩ := Steps.bind_eq_ok_iff.mp h
      obtain rfl := Except.ok.inj h
      exact ⟨hvalue, by simp⟩
    · rintro ⟨hvalue, -⟩
      exact Steps.bind_eq_ok_iff.mpr ⟨j, hvalue, rfl⟩
  · constructor
    · intro h
      obtain ⟨value, hvalue, h⟩ := Steps.bind_eq_ok_iff.mp h
      simp only [Option.map_some] at h
      split at h
      case isTrue hempty =>
        obtain rfl := Except.ok.inj h
        exact ⟨hvalue, by simpa using (hblanks after).mp hempty⟩
      case isFalse => cases h
    · rintro ⟨hvalue, hrest⟩
      refine Steps.bind_eq_ok_iff.mpr ⟨j, hvalue, ?_⟩
      simp only [Option.map_some, (hblanks after).mpr (hrest after rfl), if_true]

/-- **A body with one JSON value is a document.** -/
theorem isDocument_of_parse {body : List UInt8} {j : Json} (h : parse body = .ok j) :
    IsDocument body := by
  obtain ⟨hvalue, hafter⟩ := parse_eq_ok_iff.mp h
  have hpass := (isCoherent_parse body).pass_of_json hvalue
  obtain ⟨after, before, value, hsome, hbytes, hbefore, hval, -, hencoded⟩ :=
    readsValue_parse body hpass
  have hblanks := hafter after hsome
  refine ⟨?_, ⟨before, value, after.rest⟩, hbytes, ⟨hbefore, hblanks⟩, hval⟩
  rw [hbytes]
  exact hbefore.isEncoded.append ((hencoded _ j hvalue).append hblanks.isEncoded)

/-- A document is read up to its blanks. -/
theorem exists_blanks_of_isDocument {body : List UInt8} (h : IsDocument body) :
    ∃ tree after, Tree.parse body = (tree, some after) ∧ IsBlanks after.rest := by
  obtain ⟨-, ⟨before, value, after⟩, rfl, ⟨hbefore, hafter⟩, hvalue⟩ := h
  obtain ⟨tree, htree⟩ := exists_parse hbefore hvalue
  exact ⟨tree, _, htree after (ends_blanks value hafter), hafter⟩

/-- A body is no document if other bytes than blanks are left over. -/
theorem not_isDocument_of_parse {body : List UInt8} {after : Cursor}
    (h : (Tree.parse body).2 = some after) (hafter : ¬IsBlanks after.rest) : ¬IsDocument body := by
  intro hbody
  obtain ⟨tree, after', hparse, hblanks⟩ := exists_blanks_of_isDocument hbody
  rw [hparse] at h
  obtain rfl := Option.some.inj h
  exact hafter hblanks

end Json

open Json

namespace KeyStrategy

/-! ### The two strategies -/

theorem decode_asIs_eq_ok_iff {schema : Schema} {body : List UInt8} {d : Datum} :
    asIs.decode schema body = .ok d ↔
      schema.decoder ⟨depthLimit, true⟩ (Tree.parse body).1 = .ok d := by
  simp only [decode, decode?]
  cases schema.decoder ⟨depthLimit, true⟩ (Tree.parse body).1 with
  | ok d' => exact ⟨fun h => congrArg _ (Except.ok.inj h), fun h => congrArg _ (Except.ok.inj h)⟩
  | error f =>
    constructor
    all_goals rintro ⟨⟩

theorem decode_fromSnakeCase_eq_ok_iff {schema : Schema} {body : List UInt8} {d : Datum} :
    fromSnakeCase.decode schema body = .ok d ↔ ∃ j, Json.parse body = .ok j ∧
      schema.decoder ⟨depthLimit, false⟩ (camelKeys j).tree = .ok d := by
  constructor
  · intro h
    cases hj : Json.parse body with
    | error f =>
      simp only [decode, decode?, hj] at h
      cases h
    | ok j =>
      cases hd : schema.decoder ⟨depthLimit, false⟩ (camelKeys j).tree with
      | error f =>
        simp only [decode, decode?, hj, hd] at h
        cases h
      | ok d' =>
        simp only [decode, decode?, hj, hd] at h
        exact ⟨j, rfl, hd.trans (congrArg _ (Except.ok.inj h))⟩
  · rintro ⟨j, hj, hd⟩
    simp only [decode, decode?, hj, hd]

theorem exists_value_of_decode {schema : Schema} {body : List UInt8} {d : Datum}
    (h : asIs.decode schema body = .ok d) :
    ∃ before value rest, body = before ++ (value ++ rest) ∧ IsBlanks before ∧ IsValue value ∧
      Ends value rest := by
  have hpass := schema.isSound_decoder _ _ _ (isCoherent_parse body) (decode_asIs_eq_ok_iff.mp h)
  obtain ⟨after, before, value, -, hbytes, hbefore, hvalue, hends, -⟩ :=
    readsValue_parse body hpass
  exact ⟨before, value, after.rest, hbytes, hbefore, hvalue, hends⟩

/-- What stands behind the value that a body starts with plays no part. -/
theorem decode_append_iff {before value rest : List UInt8} (hbefore : IsBlanks before)
    (hvalue : IsValue value) (hends : Ends value rest) (schema : Schema) (d : Datum) :
    asIs.decode schema (before ++ (value ++ rest)) = .ok d ↔
      asIs.decode schema (before ++ value) = .ok d := by
  obtain ⟨tree, htree⟩ := exists_parse hbefore hvalue
  have halone := htree [] fun _ => stops_nil _
  rw [List.append_nil] at halone
  rw [decode_asIs_eq_ok_iff, decode_asIs_eq_ok_iff, htree rest hends, halone]

theorem exists_decode_any_iff {body : List UInt8} :
    (∃ d, fromSnakeCase.decode .any body = .ok d) ↔ ∃ j, Json.parse body = .ok j := by
  constructor
  · rintro ⟨d, hd⟩
    obtain ⟨j, hj, -⟩ := decode_fromSnakeCase_eq_ok_iff.mp hd
    exact ⟨j, hj⟩
  · rintro ⟨j, hj⟩
    obtain ⟨j', hj'⟩ :=
      (isWithin_of_json (parse_eq_ok_iff.mp hj).1).camelKeys.exists_json_tree
    exact ⟨j'.datum, decode_fromSnakeCase_eq_ok_iff.mpr
      ⟨j, hj, map_eq_ok_iff.mpr ⟨j', hj', rfl⟩⟩⟩

/-- **Which bodies decode.** If keys are rewritten, only documents decode, along every schema. If
keys are taken as they are, a body decodes exactly if it starts with a value that decodes by itself.
So the two strategies agree on what is any value at all exactly where the body is a document. -/
theorem decodes_documents (schema : Schema) (body : List UInt8) :
    (¬IsDocument body → ∃ e, fromSnakeCase.decode schema body = .error e) ∧
      (∀ d, asIs.decode schema body = .ok d ↔ ∃ before value rest,
        body = before ++ (value ++ rest) ∧ IsBlanks before ∧ IsValue value ∧ Ends value rest ∧
          asIs.decode schema (before ++ value) = .ok d) ∧
      ((∃ d, fromSnakeCase.decode .any body = .ok d) ↔
        (∃ d, asIs.decode .any body = .ok d) ∧ IsDocument body) := by
  refine ⟨fun hbody => ?_, fun d => ⟨fun h => ?_, ?_⟩, ?_⟩
  · cases hdecode : fromSnakeCase.decode schema body with
    | error e => exact ⟨e, rfl⟩
    | ok d =>
      obtain ⟨j, hj, -⟩ := decode_fromSnakeCase_eq_ok_iff.mp hdecode
      exact absurd (isDocument_of_parse hj) hbody
  · obtain ⟨before, value, rest, rfl, hbefore, hvalue, hends⟩ := exists_value_of_decode h
    exact ⟨before, value, rest, rfl, hbefore, hvalue, hends,
      (decode_append_iff hbefore hvalue hends schema d).mp h⟩
  · rintro ⟨before, value, rest, rfl, hbefore, hvalue, hends, h⟩
    exact (decode_append_iff hbefore hvalue hends schema d).mpr h
  · rw [exists_decode_any_iff]
    constructor
    · rintro ⟨j, hj⟩
      refine ⟨⟨j.datum, decode_asIs_eq_ok_iff.mpr (map_eq_ok_iff.mpr ⟨j, ?_, rfl⟩)⟩,
        isDocument_of_parse hj⟩
      exact (parse_eq_ok_iff.mp hj).1
    · rintro ⟨⟨d, hd⟩, hbody⟩
      obtain ⟨j, hj, -⟩ := map_eq_ok_iff.mp (decode_asIs_eq_ok_iff.mp hd)
      obtain ⟨tree, after, hparse, hblanks⟩ := exists_blanks_of_isDocument hbody
      refine ⟨j, parse_eq_ok_iff.mpr ⟨hj, ?_⟩⟩
      rw [hparse]
      simpa using hblanks

/-- The bytes of an object with the key `a` and the list of the number 1, and a letter behind it. -/
def objectAndText : List UInt8 :=
  [0x7B, 0x22, 0x61, 0x22, 0x3A, 0x5B, 0x31, 0x5D, 0x7D, 0x20, 0x78]

theorem not_isDocument_objectAndText : ¬IsDocument objectAndText :=
  not_isDocument_of_parse
    (rfl : (Tree.parse objectAndText).2 = some ⟨9, [0x20, 0x78]⟩) (by decide)

/-- A record is no document with a letter behind it. -/
theorem decodes_documents_of_text_behind_record :
    ¬IsDocument objectAndText ∧
      ∃ e, fromSnakeCase.decode (.record "Lists" false [("a", none, .list .any)]) objectAndText =
        .error e :=
  ⟨not_isDocument_objectAndText, (decodes_documents _ _).1 not_isDocument_objectAndText⟩

/-- The bytes of `1 x`. -/
def valueAndText : List UInt8 := [0x31, 0x20, 0x78]

/-- A body that is no document decodes if its keys are taken as they are: the value that it starts
with is decoded, and the letter behind it is not looked at. If keys are rewritten it does not
decode, so the two strategies do not accept the same bodies. -/
theorem decodes_text_behind_value :
    ¬IsDocument valueAndText ∧ asIs.decode .any valueAndText = .ok (.integer 1) ∧
      fromSnakeCase.decode .any valueAndText =
        .error ⟨".", "trailing characters at line 1 column 3"⟩ :=
  ⟨not_isDocument_of_parse (rfl : (Tree.parse valueAndText).2 = some ⟨1, [0x20, 0x78]⟩) (by decide),
    rfl, rfl⟩

end KeyStrategy

end Waybill
