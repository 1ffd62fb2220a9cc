import Mathlib.Data.List.Perm.Basic
import Waybill.Proofs.Json.Documents

/-!
# Keys that need no rewriting

Where no key has an underscore to drop and no object has a key twice, rewriting the keys of a body
changes nothing but the order of its entries. What decodes from the rewritten value then decodes
from the body itself, to the same datum: a walk looks at the values of leaves, not at their places,
and what it makes of the entries of an object does not depend on their order.

## Main definitions

* `Waybill.Json.Tree.HasPlainKeys`: trees whose keys need no rewriting.
* `Waybill.Json.Decoder.Agrees`: a decoder that succeeds on a tree with the result it has on its
  value.

## Main results

* `Waybill.Json.IsPlain.camelKeys_eq`: rewriting keys that need none changes nothing.
* `Waybill.Schema.agrees_decoder`: every decoder agrees.
* `Waybill.KeyStrategy.decode_eq_of_hasPlainKeys`: the two strategies agree.
-/

namespace Waybill

namespace Json

/-! ### Keys -/

/-- A key without an underscore behind its first character. -/
def IsPlainKey (name : String) : Prop := '_' ∉ name.toList.tail

theorem camelTail_append {cs : List Char} (h : '_' ∉ cs) (rest : List Char) :
    camelTail false (cs ++ rest) = cs ++ camelTail false rest := by
  induction cs with
  | nil => rfl
  | cons c cs ih =>
    rw [List.mem_cons, not_or] at h
    have hc : (c == '_') = false := beq_eq_false_iff_ne.mpr (Ne.symm h.1)
    rw [List.cons_append, camelTail, hc, ih h.2]
    rfl

theorem camelTail_of_not_mem {cs : List Char} (h : '_' ∉ cs) : camelTail false cs = cs := by
  have happend := camelTail_append h []
  rwa [camelTail, List.append_nil] at happend

theorem IsPlainKey.camelKey_eq {name : String} (h : IsPlainKey name) : camelKey name = name := by
  have hchars : camelChars name.toList = name.toList := by
    unfold IsPlainKey at h
    cases hname : name.toList with
    | nil => rfl
    | cons c cs =>
      rw [hname, List.tail_cons] at h
      rw [camelChars, camelTail_of_not_mem h]
  rw [camelKey, hchars, String.ofList_toList]

/-- The keys of every object need no rewriting, and they are distinct. Keys that cannot be read do
not count. -/
inductive Tree.HasPlainKeys : Tree → Prop
  | null (start stop : Nat) : HasPlainKeys (.null start stop)
  | boolean (start stop : Nat) (b : Bool) : HasPlainKeys (.boolean start stop b)
  | number (leaf : Leaf Number) : HasPlainKeys (.number leaf)
  | text (leaf : Leaf String) : HasPlainKeys (.text leaf)
  | array {start : Nat} {items : List Tree} {ending : Ending}
    (h : ∀ tree ∈ items, HasPlainKeys tree) : HasPlainKeys (.array start items ending)
  | object {start : Nat} {members : List (Key × Tree)} {ending : Ending}
    (hplain : ∀ m ∈ members, ∀ name, m.1.name.value = .ok name → IsPlainKey name)
    (hdistinct : members.Pairwise fun m m' =>
      ∀ name, m.1.name.value = .ok name → m'.1.name.value ≠ .ok name)
    (h : ∀ m ∈ members, HasPlainKeys m.2) : HasPlainKeys (.object start members ending)
  | broken (start : Nat) (fault : Fault) : HasPlainKeys (.broken start fault)

/-! ### Values -/

/-- The keys of every object need no rewriting, and they are in order. -/
inductive IsPlain : Json → Prop
  | null : IsPlain .null
  | boolean (b : Bool) : IsPlain (.boolean b)
  | number (n : Number) : IsPlain (.number n)
  | text (s : String) : IsPlain (.text s)
  | array {items : List Json} (h : ∀ j ∈ items, IsPlain j) : IsPlain (.array items)
  | object {members : List (String × Json)} (hplain : ∀ m ∈ members, IsPlainKey m.1)
    (hordered : IsOrdered members) (h : ∀ m ∈ members, IsPlain m.2) : IsPlain (.object members)

/-- Rewriting keys that need none changes nothing. -/
theorem IsPlain.camelKeys_eq {j : Json} (h : IsPlain j) : camelKeys j = j := by
  induction h with
  | null | boolean | number | text => rfl
  | array _ ih => rw [camelKeys, camelItems_eq_map, List.map_congr_left ih, List.map_id']
  | @object members hplain hordered _ ih =>
    have hmembers : (members.map fun m => (camelKey m.1, camelKeys m.2)) = members := by
      refine (List.map_congr_left fun m hm => ?_).trans (List.map_id' members)
      rw [(hplain m hm).camelKey_eq, ih m hm]
    rw [camelKeys, camelMembers_eq_map, hmembers, sorted_of_isOrdered hordered]

theorem nodup_names {members : List (Key × Tree)} {values : List (String × Json)}
    {depth : Nat} (h : List.Forall₂
      (fun m v => m.1.name.value = .ok v.1 ∧ m.2.json depth = .ok v.2) members values)
    (hdistinct : members.Pairwise fun m m' =>
      ∀ name, m.1.name.value = .ok name → m'.1.name.value ≠ .ok name) :
    (values.map Prod.fst).Nodup := by
  induction h with
  | nil => exact List.nodup_nil
  | @cons m v members values hfirst hrest ih =>
    rw [List.pairwise_cons] at hdistinct
    rw [List.map_cons, List.nodup_cons]
    refine ⟨fun hmem => ?_, ih hdistinct.2⟩
    obtain ⟨v', hv', hname⟩ := List.mem_map.mp hmem
    obtain ⟨m', hm', hm'name, -⟩ := Steps.exists_of_mem_right hrest hv'
    rw [hname] at hm'name
    exact hdistinct.1 m' hm' v.1 hfirst.1 hm'name

/-- The value of a tree whose keys need no rewriting. -/
theorem Tree.HasPlainKeys.isPlain {tree : Tree} (h : tree.HasPlainKeys) {depth : Nat} {j : Json}
    (hj : tree.json depth = .ok j) : IsPlain j := by
  induction h generalizing depth j with
  | null =>
    obtain rfl := Except.ok.inj hj
    exact .null
  | boolean =>
    obtain rfl := Except.ok.inj hj
    exact .boolean _
  | number =>
    obtain ⟨n, -, rfl⟩ := json_number_eq_ok_iff.mp hj
    exact .number n
  | text =>
    obtain ⟨s, -, rfl⟩ := json_text_eq_ok_iff.mp hj
    exact .text s
  | array _ ih =>
    obtain ⟨-, -, values, hvalues, rfl⟩ := json_array_eq_ok_iff.mp hj
    refine .array fun j hj => ?_
    obtain ⟨tree, htree, hjson⟩ :=
      Steps.exists_of_mem_right (jsonOfItems_eq_ok_iff.mp hvalues) hj
    exact ih tree htree hjson
  | object hplain _ _ ih =>
    obtain ⟨-, -, values, hvalues, rfl⟩ := json_object_eq_ok_iff.mp hj
    have hmember : ∀ v ∈ sorted values, IsPlainKey v.1 ∧ IsPlain v.2 := by
      intro v hv
      obtain ⟨m, hm, hname, hjson⟩ :=
        Steps.exists_of_mem_right (jsonOfMembers_eq_ok_iff.mp hvalues) (mem_of_mem_sorted hv)
      exact ⟨hplain m hm v.1 hname, ih m hm hjson⟩
    exact .object (fun v hv => (hmember v hv).1) (isOrdered_sorted values)
      fun v hv => (hmember v hv).2
  | broken => cases hj

theorem IsPlain.eq_of_json_tree {j j' : Json} (h : IsPlain j) {depth : Nat}
    (hj : j.tree.json depth = .ok j') : j' = j := by
  induction h generalizing depth j' with
  | null | boolean | number | text => exact (Except.ok.inj hj).symm
  | @array items _ ih =>
    rw [Json.tree, treeItems_eq_map] at hj
    obtain ⟨-, -, values, hvalues, rfl⟩ := json_array_eq_ok_iff.mp hj
    have hpairs := List.forall₂_map_left_iff.mp (jsonOfItems_eq_ok_iff.mp hvalues)
    have heq : List.Forall₂ Eq items values :=
      Steps.forall₂_imp hpairs fun j hj j' hj' => (ih j hj hj').symm
    rw [List.forall₂_eq_eq_eq] at heq
    rw [heq]
  | @object members _ hordered _ ih =>
    rw [Json.tree, treeMembers_eq_map] at hj
    obtain ⟨-, -, values, hvalues, rfl⟩ := json_object_eq_ok_iff.mp hj
    have hpairs := List.forall₂_map_left_iff.mp (jsonOfMembers_eq_ok_iff.mp hvalues)
    have heq : List.Forall₂ Eq members values := by
      refine Steps.forall₂_imp hpairs fun m hm v hv => ?_
      exact Prod.ext (Except.ok.inj hv.1) (ih m hm hv.2).symm
    rw [List.forall₂_eq_eq_eq] at heq
    rw [← heq, sorted_of_isOrdered hordered]

/-! ### Trees of values -/

theorem tree_array (values : List Json) :
    (array values).tree = .array 0 (values.map tree) (.closed 0) := by
  rw [tree, treeItems_eq_map]

theorem tree_object (members : List (String × Json)) :
    (object members).tree =
      .object 0 (members.map fun m => (⟨.of m.1, 0⟩, m.2.tree)) (.closed 0) := by
  rw [tree, treeMembers_eq_map]

/-- A tree and its value, kind by kind. -/
inductive Tree.Yields (depth : Nat) : Tree → Json → Prop
  | null (start stop : Nat) : Yields depth (.null start stop) .null
  | boolean (start stop : Nat) (b : Bool) : Yields depth (.boolean start stop b) (.boolean b)
  | number {leaf : Leaf Number} {n : Number} (h : leaf.value = .ok n) :
    Yields depth (.number leaf) (.number n)
  | text {leaf : Leaf String} {s : String} (h : leaf.value = .ok s) :
    Yields depth (.text leaf) (.text s)
  | array {start : Nat} {items : List Tree} {ending : Ending} {values : List Json}
    (hdepth : 1 < depth) (hclosed : ∃ stop, ending = .closed stop)
    (h : List.Forall₂ (fun tree j => tree.json (depth - 1) = .ok j) items values) :
    Yields depth (.array start items ending) (.array values)
  | object {start : Nat} {members : List (Key × Tree)} {ending : Ending}
    {values : List (String × Json)} (hdepth : 1 < depth) (hclosed : ∃ stop, ending = .closed stop)
    (h : List.Forall₂ (fun m v => m.1.name.value = .ok v.1 ∧ m.2.json (depth - 1) = .ok v.2)
      members values) :
    Yields depth (.object start members ending) (.object (sorted values))

theorem yields_of_json {tree : Tree} {depth : Nat} {j : Json} (h : tree.json depth = .ok j) :
    tree.Yields depth j := by
  cases tree with
  | null =>
    obtain rfl := Except.ok.inj h
    exact .null _ _
  | boolean =>
    obtain rfl := Except.ok.inj h
    exact .boolean _ _ _
  | number leaf =>
    obtain ⟨n, hn, rfl⟩ := json_number_eq_ok_iff.mp h
    exact .number hn
  | text leaf =>
    obtain ⟨s, hs, rfl⟩ := json_text_eq_ok_iff.mp h
    exact .text hs
  | array start items ending =>
    obtain ⟨hdepth, hclosed, values, hvalues, rfl⟩ := json_array_eq_ok_iff.mp h
    exact .array hdepth hclosed (jsonOfItems_eq_ok_iff.mp hvalues)
  | object start members ending =>
    obtain ⟨hdepth, hclosed, values, hvalues, rfl⟩ := json_object_eq_ok_iff.mp h
    exact .object hdepth hclosed (jsonOfMembers_eq_ok_iff.mp hvalues)
  | broken => cases h

/-! ### Decoders -/

/-- A decoder that succeeds on a located tree with the result it has on the value of the tree. -/
def Decoder.Agrees (decode : Decoder) : Prop :=
  ∀ depth inner tree j d, tree.IsCoherent → tree.HasPlainKeys → tree.json depth = .ok j →
    decode ⟨inner, false⟩ j.tree = .ok d → decode ⟨depth, true⟩ tree = .ok d

namespace Decoder.Agrees

variable {decode : Decoder}

theorem integer (type : IntegerType) : Agrees (decodeInteger type) := by
  intro depth inner tree j d _ _ hj h
  obtain ⟨leaf, i, htree, hvalue, hholds, rfl⟩ := decodeInteger_eq_ok_iff.mp h
  cases yields_of_json hj with
  | number hn =>
    obtain rfl := Tree.number.inj htree
    obtain rfl := Except.ok.inj hvalue
    exact decodeInteger_eq_ok_iff.mpr ⟨_, i, rfl, hn, hholds, rfl⟩
  | null | boolean | text | array | object => cases htree

theorem double : Agrees decodeDouble := by
  intro depth inner tree j d _ _ hj h
  obtain ⟨leaf, n, htree, hvalue, rfl⟩ := decodeDouble_eq_ok_iff.mp h
  cases yields_of_json hj with
  | number hn =>
    obtain rfl := Tree.number.inj htree
    obtain rfl := Except.ok.inj hvalue
    exact decodeDouble_eq_ok_iff.mpr ⟨_, _, rfl, hn, rfl⟩
  | null | boolean | text | array | object => cases htree

theorem character : Agrees decodeCharacter := by
  intro depth inner tree j d _ _ hj h
  obtain ⟨leaf, s, c, htree, hvalue, hc, rfl⟩ := decodeCharacter_eq_ok_iff.mp h
  cases yields_of_json hj with
  | text hs =>
    obtain rfl := Tree.text.inj htree
    obtain rfl := Except.ok.inj hvalue
    exact decodeCharacter_eq_ok_iff.mpr ⟨_, _, c, rfl, hs, hc, rfl⟩
  | null | boolean | number | array | object => cases htree

theorem list (hitem : decode.Agrees) : Agrees (decodeList decode) := by
  intro depth inner tree j d hcoherent hplain hj h
  cases yields_of_json hj with
  | array hdepth hclosed hvalues =>
    cases hcoherent with
    | array hcoherent =>
      cases hplain with
      | array hplain =>
        rw [tree_array] at h
        obtain ⟨-, -, ds, hds, rfl⟩ := decodeList_array_eq_ok_iff.mp h
        refine decodeList_array_eq_ok_iff.mpr ⟨hdepth, hclosed, ds, ?_, rfl⟩
        exact Steps.forall₂_comp hvalues (List.forall₂_map_left_iff.mp hds)
          fun tree htree j d hj hd =>
            hitem _ _ tree j d (hcoherent tree htree) (hplain tree htree) hj hd
  | null | boolean | number | text | object => exact absurd h (mismatch_ne_ok _ _ _)

/-- Items fill what is wanted if their values do. -/
theorem fills {depth inner : Nat} {wanted : List (Option Datum × Decoder)} {items : List Tree}
    {values : List Json} {ds : List Datum} (hwanted : ∀ want ∈ wanted, Agrees want.2)
    (hitems : List.Forall₂ (fun tree j => tree.IsCoherent ∧ tree.HasPlainKeys ∧
      tree.json depth = .ok j) items values)
    (h : Fills ⟨inner, false⟩ wanted (values.map Json.tree) ds) :
    Fills ⟨depth, true⟩ wanted items ds := by
  generalize htrees : values.map Json.tree = trees at h
  induction h generalizing items values with
  | nil =>
    obtain rfl := List.map_eq_nil_iff.mp htrees
    obtain rfl := List.forall₂_nil_right_iff.mp hitems
    exact .nil
  | item hd _ ih =>
    obtain ⟨j, values, rfl, rfl, rfl⟩ := List.map_eq_cons_iff.mp htrees
    obtain ⟨tree, items, ⟨hcoherent, hplain, hj⟩, hrest, rfl⟩ :=
      List.forall₂_cons_right_iff.mp hitems
    rw [List.forall_mem_cons] at hwanted
    exact .item (hwanted.1 depth inner tree j _ hcoherent hplain hj hd)
      (ih hwanted.2 hrest rfl)
  | default _ ih =>
    obtain rfl := List.map_eq_nil_iff.mp htrees
    obtain rfl := List.forall₂_nil_right_iff.mp hitems
    rw [List.forall_mem_cons] at hwanted
    exact .default (ih hwanted.2 .nil rfl)

theorem items_known {depth : Nat} {items : List Tree} {values : List Json}
    (hcoherent : ∀ tree ∈ items, tree.IsCoherent) (hplain : ∀ tree ∈ items, tree.HasPlainKeys)
    (h : List.Forall₂ (fun tree j => tree.json depth = .ok j) items values) :
    List.Forall₂ (fun tree j => tree.IsCoherent ∧ tree.HasPlainKeys ∧ tree.json depth = .ok j)
      items values :=
  Steps.forall₂_imp h fun tree htree _ hj => ⟨hcoherent tree htree, hplain tree htree, hj⟩

/-- What is related to sorted entries one by one is, in another order, related to the entries as
they were written. -/
theorem exists_perm_of_sorted {β : Type} {R : String × Json → β → Prop}
    {values : List (String × Json)} (hnodup : (values.map Prod.fst).Nodup) {ds : List β}
    (h : List.Forall₂ R (sorted values) ds) :
    ∃ ds', List.Forall₂ R values ds' ∧ ds'.Perm ds :=
  List.perm_comp_forall₂ (perm_sorted hnodup).symm h

theorem map (hvalue : decode.Agrees) : Agrees (decodeMap decode) := by
  intro depth inner tree j d hcoherent hplain hj h
  cases yields_of_json hj with
  | @object start members ending values hdepth hclosed hvalues =>
    cases hcoherent with
    | object hcoherent =>
      cases hplain with
      | object _ hdistinct hplain =>
        rw [tree_object] at h
        obtain ⟨-, -, ds, hds, rfl⟩ := decodeMap_object_eq_ok_iff.mp h
        obtain ⟨ds', hds', hperm⟩ := exists_perm_of_sorted (nodup_names hvalues hdistinct)
          (List.forall₂_map_left_iff.mp hds)
        have hmembers : List.Forall₂ (fun m d => m.1.name.value = .ok d.1 ∧
            decode ⟨depth - 1, true⟩ m.2 = .ok d.2) members ds' := by
          refine Steps.forall₂_comp hvalues hds' fun m hm v d hv hd => ?_
          have hname : v.1 = d.1 := Except.ok.inj hd.1
          exact ⟨hname ▸ hv.1,
            hvalue _ _ m.2 v.2 d.2 (hcoherent m hm) (hplain m hm) hv.2 hd.2⟩
        refine decodeMap_object_eq_ok_iff.mpr ⟨hdepth, hclosed, ds', hmembers, ?_⟩
        have hnames : ds'.map Prod.fst = values.map Prod.fst := by
          have heq : List.Forall₂ Eq (values.map Prod.fst) (ds'.map Prod.fst) := by
            rw [List.forall₂_map_left_iff, List.forall₂_map_right_iff]
            exact hds'.imp fun v d hd => Except.ok.inj hd.1
          rw [List.forall₂_eq_eq_eq] at heq
          exact heq.symm
        rw [sorted_eq_of_perm hperm (hnames ▸ nodup_names hvalues hdistinct)]
  | null | boolean | number | text | array => exact absurd h (mismatch_ne_ok _ _ _)

theorem adds {depth inner : Nat} {strict : Bool} {fields : List FieldDecoder}
    (hfields : ∀ field ∈ fields, Agrees field.decode) {m : Key × Tree} {v : String × Json}
    (hcoherent : m.2.IsCoherent) (hplain : m.2.HasPlainKeys)
    (hm : m.1.name.value = .ok v.1 ∧ m.2.json depth = .ok v.2) {added : Option (String × Datum)}
    (h : Adds strict fields ⟨inner, false⟩ (⟨.of v.1, 0⟩, v.2.tree) added) :
    Adds strict fields ⟨depth, true⟩ m added := by
  obtain ⟨name, hname, h⟩ := h
  obtain rfl : v.1 = name := Except.ok.inj hname
  refine ⟨v.1, hm.1, ?_⟩
  split at h
  · rename_i field hfind
    obtain ⟨d, hd, rfl⟩ := h
    have hfield := hfields field (List.mem_of_find?_eq_some hfind)
    exact ⟨d, hfield _ _ m.2 v.2 d hcoherent hplain hm.2 hd, rfl⟩
  · exact ⟨h.1, hcoherent.pass_of_json hm.2, h.2.2⟩

theorem record {fields : List FieldDecoder} (hfields : ∀ field ∈ fields, Agrees field.decode)
    (name : String) (strict : Bool) : Agrees (decodeRecord name strict fields) := by
  intro depth inner tree j d hcoherent hplain hj h
  cases yields_of_json hj with
  | object hdepth hclosed hvalues =>
    cases hcoherent with
    | object hcoherent =>
      cases hplain with
      | object _ hdistinct hplain =>
        rw [tree_object] at h
        obtain ⟨-, -, added, ds, hadded, hnodup, hds, rfl⟩ := decodeRecord_object_eq_ok_iff.mp h
        obtain ⟨added', hadded', hperm⟩ := exists_perm_of_sorted (nodup_names hvalues hdistinct)
          (List.forall₂_map_left_iff.mp hadded)
        -- The fields are met in another order, so they are looked up with the same result.
        have hmet : added'.reduceOption.Perm added.reduceOption := hperm.filterMap id
        have hnodup' := (hmet.map Prod.fst).nodup_iff.mpr hnodup
        refine decodeRecord_object_eq_ok_iff.mpr ⟨hdepth, hclosed, added', ds, ?_, hnodup', ?_, rfl⟩
        · exact Steps.forall₂_comp hvalues hadded' fun m hm v a hv ha =>
            adds hfields (hcoherent m hm) (hplain m hm) hv ha
        · refine hds.imp fun field d hd => ⟨hd.1, ?_⟩
          have hreverse : added'.reduceOption.reverse.Perm added.reduceOption.reverse :=
            (List.reverse_perm _).trans (hmet.trans (List.reverse_perm _).symm)
          have hnodupReverse := (((List.reverse_perm _).map Prod.fst).nodup_iff).mpr hnodup'
          rw [member?_eq_of_perm hreverse hnodupReverse]
          exact hd.2
  | array hdepth hclosed hvalues =>
    cases hcoherent with
    | array hcoherent =>
      cases hplain with
      | array hplain =>
        rw [tree_array] at h
        obtain ⟨-, -, ds, hds, rfl⟩ := decodeRecord_array_eq_ok_iff.mp h
        refine decodeRecord_array_eq_ok_iff.mpr ⟨hdepth, hclosed, ds, ?_, rfl⟩
        refine fills ?_ (items_known hcoherent hplain hvalues) hds
        rw [List.forall_mem_map]
        exact hfields
  | null | boolean | number | text => exact absurd h (mismatch_ne_ok _ _ _)

end Decoder.Agrees

end Json

open Json Json.Decoder

/-- **Every decoder agrees**: what it makes of a value, it makes of the located tree. -/
theorem Schema.agrees_decoder (schema : Schema) : Agrees schema.decoder := by
  induction schema using Schema.induction with
  | any =>
    intro depth inner tree j d _ hplain hj h
    obtain ⟨j', hj', rfl⟩ := map_eq_ok_iff.mp h
    obtain rfl := (hplain.isPlain hj).eq_of_json_tree hj'
    exact map_eq_ok_iff.mpr ⟨_, hj, rfl⟩
  | boolean =>
    intro depth inner tree j d _ _ hj h
    obtain ⟨start, stop, b, htree, rfl⟩ := decoder_boolean_eq_ok_iff.mp h
    cases yields_of_json hj with
    | boolean start' stop' b' =>
      obtain ⟨-, -, rfl⟩ := Tree.boolean.inj htree
      exact decoder_boolean_eq_ok_iff.mpr ⟨_, _, _, rfl, rfl⟩
    | null | number | text | array | object => cases htree
  | integer type => exact .integer type
  | double => exact .double
  | character => exact .character
  | text =>
    intro depth inner tree j d _ _ hj h
    obtain ⟨leaf, s, htree, hvalue, rfl⟩ := decoder_text_eq_ok_iff.mp h
    cases yields_of_json hj with
    | text hs =>
      obtain rfl := Tree.text.inj htree
      obtain rfl := Except.ok.inj hvalue
      exact decoder_text_eq_ok_iff.mpr ⟨_, _, rfl, hs, rfl⟩
    | null | boolean | number | array | object => cases htree
  | unit =>
    intro depth inner tree j d _ _ hj h
    obtain ⟨start, stop, htree, rfl⟩ := decoder_unit_eq_ok_iff.mp h
    cases yields_of_json hj with
    | null => exact decoder_unit_eq_ok_iff.mpr ⟨_, _, rfl, rfl⟩
    | boolean | number | text | array | object => cases htree
  | list item ih => exact .list ih
  | tuple items ih =>
    intro depth inner tree j d hcoherent hplain hj h
    cases yields_of_json hj with
    | array hdepth hclosed hvalues =>
      cases hcoherent with
      | array hcoherent =>
        cases hplain with
        | array hplain =>
          rw [tree_array] at h
          obtain ⟨-, -, ds, hds, rfl⟩ := decoder_tuple_array_eq_ok_iff.mp h
          refine decoder_tuple_array_eq_ok_iff.mpr ⟨hdepth, hclosed, ds, ?_, rfl⟩
          refine Agrees.fills ?_ (Agrees.items_known hcoherent hplain hvalues) hds
          rw [List.forall_mem_map]
          exact ih
    | null | boolean | number | text | object => exact absurd h (mismatch_ne_ok _ _ _)
  | map value ih => exact .map ih
  | optional value ih =>
    intro depth inner tree j d hcoherent hplain hj h
    rcases decoder_optional_eq_ok_iff.mp h with ⟨start, stop, htree, rfl⟩ | ⟨hnull, d', hd', rfl⟩
    · cases yields_of_json hj with
      | null => exact decoder_optional_eq_ok_iff.mpr (.inl ⟨_, _, rfl, rfl⟩)
      | boolean | number | text | array | object => cases htree
    · refine decoder_optional_eq_ok_iff.mpr
        (.inr ⟨?_, d', ih depth inner tree j d' hcoherent hplain hj hd', rfl⟩)
      rintro start stop rfl
      obtain rfl := Except.ok.inj hj
      exact hnull 0 0 rfl
  | record name strict fields ih =>
    have hfields : ∀ field ∈ fieldDecoders fields, Agrees field.decode := by
      rw [fieldDecoders_eq_map, List.forall_mem_map]
      exact ih
    exact .record hfields name strict

namespace KeyStrategy

/-- **The key strategy is irrelevant where no key needs rewriting.** If no key of a body has an
underscore behind its first character and no object has a key twice, then what decodes with
rewritten keys decodes with the keys as they are, to the same datum. -/
theorem decode_eq_of_hasPlainKeys {schema : Schema} {body : List UInt8} {d : Datum}
    (hkeys : (Tree.parse body).1.HasPlainKeys) (h : fromSnakeCase.decode schema body = .ok d) :
    asIs.decode schema body = .ok d := by
  obtain ⟨j, hj, hd⟩ := decode_fromSnakeCase_eq_ok_iff.mp h
  have hvalue := (parse_eq_ok_iff.mp hj).1
  rw [(hkeys.isPlain hvalue).camelKeys_eq] at hd
  exact decode_asIs_eq_ok_iff.mpr
    (schema.agrees_decoder _ _ _ j d (isCoherent_parse body) hkeys hvalue hd)

/-- The bytes of an object with the keys `b` and `_a`, in this order. -/
def pairBody : List UInt8 :=
  [0x7B, 0x22, 0x62, 0x22, 0x3A, 0x32, 0x2C, 0x22, 0x5F, 0x61, 0x22, 0x3A, 0x5B, 0x5D, 0x7D]

/-- A record with an optional field and one that has a default. -/
def pairSchema : Schema :=
  .record "Pair" true [("_a", none, .list .text), ("b", none, .optional (.integer (.unsigned 8))),
    ("c", some (.text "d"), .text)]

/-- Keys that are not in order, one of them with an underscore at its start. -/
theorem decode_eq_of_leading_underscore :
    (Tree.parse pairBody).1.HasPlainKeys ∧
      fromSnakeCase.decode pairSchema pairBody =
        .ok (.record [("_a", .list []), ("b", .present (.integer 2)), ("c", .text "d")]) ∧
      asIs.decode pairSchema pairBody =
        .ok (.record [("_a", .list []), ("b", .present (.integer 2)), ("c", .text "d")]) := by
  have htree : (Tree.parse pairBody).1 =
      .object 0 [(⟨⟨1, .ok "b", .ok 4⟩, 4⟩, .number ⟨5, .ok (.integer 2), .ok 6⟩),
        (⟨⟨7, .ok "_a", .ok 11⟩, 11⟩, .array 12 [] (.closed 14))] (.closed 15) := by
    with_unfolding_all rfl
  have hkeys : (Tree.parse pairBody).1.HasPlainKeys := by
    rw [htree]
    refine .object ?_ ?_ ?_
    · simp [IsPlainKey]
    · simp
    · simp only [List.forall_mem_cons, List.not_mem_nil, false_implies, implies_true, and_true]
      exact ⟨.number _, .array (by simp)⟩
  have hdecode : fromSnakeCase.decode pairSchema pairBody =
      .ok (.record [("_a", .list []), ("b", .present (.integer 2)), ("c", .text "d")]) := by
    with_unfolding_all rfl
  exact ⟨hkeys, hdecode, decode_eq_of_hasPlainKeys hkeys hdecode⟩

end KeyStrategy

end Waybill
