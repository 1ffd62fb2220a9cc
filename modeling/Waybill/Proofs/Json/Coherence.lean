import Waybill.Proofs.Json.Readers
import Waybill.Proofs.Json.Decoders

/-!
# Values and what is passed over

Every leaf of a tree carries two results, one for those who want its value and one for those who
pass over it. In a tree that was read they are coherent: where there is a value, one can pass over
it. So whatever a walk along a schema succeeds on can be passed over as well, whether the walk looks
at all of it or not.

## Main definitions

* `Waybill.Json.Tree.IsCoherent`: coherent trees.
* `Waybill.Json.Decoder.IsSound`: a decoder that succeeds only on what can be passed over.

## Main results

* `Waybill.Json.isCoherent_parse`: what is read is coherent.
* `Waybill.Json.Tree.IsCoherent.pass_of_json`: a tree with a value can be passed over.
* `Waybill.Schema.isSound_decoder`: so can every tree that decodes.
-/

namespace Waybill

namespace Json

/-! ### Coherent trees -/

/-- Every leaf with a value can be passed over. -/
inductive Tree.IsCoherent : Tree → Prop
  | null (start stop : Nat) : IsCoherent (.null start stop)
  | boolean (start stop : Nat) (b : Bool) : IsCoherent (.boolean start stop b)
  | number {leaf : Leaf Number} (h : ∀ n, leaf.value = .ok n → ∃ stop, leaf.passed = .ok stop) :
    IsCoherent (.number leaf)
  | text {leaf : Leaf String} (h : ∀ s, leaf.value = .ok s → ∃ stop, leaf.passed = .ok stop) :
    IsCoherent (.text leaf)
  | array {start : Nat} {items : List Tree} {ending : Ending}
    (h : ∀ tree ∈ items, IsCoherent tree) : IsCoherent (.array start items ending)
  | object {start : Nat} {members : List (Key × Tree)} {ending : Ending}
    (h : ∀ m ∈ members, IsCoherent m.2) : IsCoherent (.object start members ending)
  | broken (start : Nat) (fault : Fault) : IsCoherent (.broken start fault)

/-- A tree with a value can be passed over. -/
theorem Tree.IsCoherent.pass_of_json {tree : Tree} (h : tree.IsCoherent) {depth : Nat} {j : Json}
    (hj : tree.json depth = .ok j) : tree.pass = .ok () := by
  induction h generalizing depth j with
  | null => rfl
  | boolean => rfl
  | number h =>
    obtain ⟨n, hn, -⟩ := json_number_eq_ok_iff.mp hj
    exact pass_number_eq_ok_iff.mpr (h n hn)
  | text h =>
    obtain ⟨s, hs, -⟩ := json_text_eq_ok_iff.mp hj
    exact pass_text_eq_ok_iff.mpr (h s hs)
  | array _ ih =>
    obtain ⟨-, hclosed, values, hvalues, -⟩ := json_array_eq_ok_iff.mp hj
    refine pass_array_eq_ok_iff.mpr ⟨passItems_eq_ok_iff.mpr fun tree htree => ?_, hclosed⟩
    obtain ⟨value, -, hvalue⟩ :=
      Steps.exists_of_mem_left (jsonOfItems_eq_ok_iff.mp hvalues) htree
    exact ih tree htree hvalue
  | object _ ih =>
    obtain ⟨-, hclosed, values, hvalues, -⟩ := json_object_eq_ok_iff.mp hj
    refine pass_object_eq_ok_iff.mpr ⟨passMembers_eq_ok_iff.mpr fun m hm => ?_, hclosed⟩
    obtain ⟨value, -, -, hvalue⟩ :=
      Steps.exists_of_mem_left (jsonOfMembers_eq_ok_iff.mp hvalues) hm
    exact ih m hm hvalue
  | broken => cases hj

/-! ### What is read is coherent -/

section Step

variable {fuel : Nat} (hvalue : ∀ c, (readValue fuel c).1.IsCoherent)

include hvalue

theorem isCoherent_readItems_step
    (hitems : ∀ c, ∀ tree ∈ (readItems fuel false c).1, tree.IsCoherent) (first : Bool)
    (c : Cursor) : ∀ tree ∈ (readItems (fuel + 1) first c).1, tree.IsCoherent := by
  cases hfollow : followItem first c with
  | broken fault =>
    rw [readItems_broken hfollow]
    simp
  | closed last =>
    rw [readItems_closed hfollow]
    simp
  | another item =>
    have hitem := hvalue item
    rcases hread : readValue fuel item with ⟨tree, _ | after⟩
    · rw [readItems_stuck hfollow hread]
      rw [hread] at hitem
      simpa using hitem
    · rw [readItems_another hfollow hread, List.forall_mem_cons]
      rw [hread] at hitem
      exact ⟨hitem, hitems after⟩

theorem isCoherent_readMembers_step
    (hmembers : ∀ c, ∀ m ∈ (readMembers fuel false c).1, m.2.IsCoherent) (first : Bool)
    (c : Cursor) : ∀ m ∈ (readMembers (fuel + 1) first c).1, m.2.IsCoherent := by
  cases hfollow : followMember first c with
  | broken fault =>
    rw [readMembers_broken hfollow]
    simp
  | closed last =>
    rw [readMembers_closed hfollow]
    simp
  | another member =>
    rcases htext : readText member with ⟨leaf, _ | behind⟩
    · rw [readMembers_keyless hfollow htext]
      simp
    cases hcolon : readColon behind with
    | error fault =>
      rw [readMembers_bare hfollow htext hcolon]
      simp
    | ok colon =>
      have hmember := hvalue colon
      rcases hread : readValue fuel colon with ⟨tree, _ | after⟩
      · rw [readMembers_stuck hfollow htext hcolon hread]
        rw [hread] at hmember
        simpa using hmember
      · rw [readMembers_another hfollow htext hcolon hread, List.forall_mem_cons]
        rw [hread] at hmember
        exact ⟨hmember, hmembers after⟩

end Step

theorem isCoherent_wordValue {c : Cursor} {letters : List UInt8} {tree : Nat → Tree}
    (h : ∀ stop, (tree stop).IsCoherent) : (wordValue c letters tree).1.IsCoherent := by
  unfold wordValue
  split
  · exact h _
  · exact .broken _ _

theorem isCoherent_valueAt {fuel : Nat}
    (hitems : ∀ c, ∀ tree ∈ (readItems fuel true c).1, tree.IsCoherent)
    (hmembers : ∀ c, ∀ m ∈ (readMembers fuel true c).1, m.2.IsCoherent) (c : Cursor) :
    (valueAt fuel c).1.IsCoherent := by
  obtain ⟨o, bs⟩ := c
  cases bs with
  | nil => exact .broken _ _
  | cons b rest =>
    simp only [valueAt]
    split
    · exact isCoherent_wordValue fun stop => .null _ stop
    split
    · exact isCoherent_wordValue fun stop => .boolean _ stop true
    split
    · exact isCoherent_wordValue fun stop => .boolean _ stop false
    split
    · exact .text fun s hs => exists_passed_of_readText rfl hs
    split
    · exact .number fun n hn => exists_passed_of_readNumber rfl hn
    split
    · exact .array (hitems _)
    split
    · exact .object (hmembers _)
    · exact .broken _ _

/-- What the three readers read is coherent. -/
theorem isCoherent_read (fuel : Nat) :
    (∀ c, (readValue fuel c).1.IsCoherent) ∧
      (∀ first c, ∀ tree ∈ (readItems fuel first c).1, tree.IsCoherent) ∧
      ∀ first c, ∀ m ∈ (readMembers fuel first c).1, m.2.IsCoherent := by
  induction fuel with
  | zero => exact ⟨fun c => .broken _ _, fun first c => by simp [readItems],
      fun first c => by simp [readMembers]⟩
  | succ fuel ih =>
    obtain ⟨hvalue, hitems, hmembers⟩ := ih
    exact ⟨fun c => isCoherent_valueAt (hitems true) (hmembers true) c.skipBlanks,
      isCoherent_readItems_step hvalue (hitems false),
      isCoherent_readMembers_step hvalue (hmembers false)⟩

/-- **What is read is coherent.** -/
theorem isCoherent_parse (body : List UInt8) : (Tree.parse body).1.IsCoherent :=
  (isCoherent_read (2 * body.length + 2)).1 ⟨0, body⟩

/-! ### Decoders -/

/-- A decoder that succeeds on a coherent tree only if one can pass over it. -/
def Decoder.IsSound (decode : Decoder) : Prop :=
  ∀ walk tree d, tree.IsCoherent → decode walk tree = .ok d → tree.pass = .ok ()

namespace Decoder.IsSound

variable {decode : Decoder}

theorem integer (type : IntegerType) : IsSound (decodeInteger type) := by
  intro walk tree d htree h
  obtain ⟨leaf, i, rfl, hvalue, -, -⟩ := decodeInteger_eq_ok_iff.mp h
  cases htree with
  | number hleaf => exact pass_number_eq_ok_iff.mpr (hleaf _ hvalue)

theorem double : IsSound decodeDouble := by
  intro walk tree d htree h
  obtain ⟨leaf, n, rfl, hvalue, -⟩ := decodeDouble_eq_ok_iff.mp h
  cases htree with
  | number hleaf => exact pass_number_eq_ok_iff.mpr (hleaf n hvalue)

theorem character : IsSound decodeCharacter := by
  intro walk tree d htree h
  obtain ⟨leaf, s, c, rfl, hvalue, -⟩ := decodeCharacter_eq_ok_iff.mp h
  cases htree with
  | text hleaf => exact pass_text_eq_ok_iff.mpr (hleaf s hvalue)

theorem list (hitem : decode.IsSound) : IsSound (decodeList decode) := by
  intro walk tree d htree h
  cases htree with
  | array hitems =>
    obtain ⟨-, hclosed, values, hvalues, -⟩ := decodeList_array_eq_ok_iff.mp h
    refine pass_array_eq_ok_iff.mpr ⟨passItems_eq_ok_iff.mpr fun tree htree => ?_, hclosed⟩
    obtain ⟨value, -, hvalue⟩ := Steps.exists_of_mem_left hvalues htree
    exact hitem _ tree value (hitems tree htree) hvalue
  | null | boolean | number | text | object | broken => exact absurd h (mismatch_ne_ok _ _ _)

theorem map (hvalue : decode.IsSound) : IsSound (decodeMap decode) := by
  intro walk tree d htree h
  cases htree with
  | object hmembers =>
    obtain ⟨-, hclosed, values, hvalues, -⟩ := decodeMap_object_eq_ok_iff.mp h
    refine pass_object_eq_ok_iff.mpr ⟨passMembers_eq_ok_iff.mpr fun m hm => ?_, hclosed⟩
    obtain ⟨d, -, -, hd⟩ := Steps.exists_of_mem_left hvalues hm
    exact hvalue _ m.2 d.2 (hmembers m hm) hd
  | null | boolean | number | text | array | broken => exact absurd h (mismatch_ne_ok _ _ _)

theorem passItems_of_fills {walk : Walk} {wanted : List (Option Datum × Decoder)}
    {items : List Tree} {values : List Datum} (h : Fills walk wanted items values)
    (hwanted : ∀ want ∈ wanted, IsSound want.2) (hitems : ∀ tree ∈ items, tree.IsCoherent) :
    passItems items = .ok () := by
  induction h with
  | nil => rfl
  | item hd _ ih =>
    rw [List.forall_mem_cons] at hwanted hitems
    exact passItems_cons_eq_ok_iff.mpr
      ⟨hwanted.1 _ _ _ hitems.1 hd, ih hwanted.2 hitems.2⟩
  | default _ _ => rfl

theorem record {fields : List FieldDecoder} (hfields : ∀ field ∈ fields, IsSound field.decode)
    (name : String) (strict : Bool) : IsSound (decodeRecord name strict fields) := by
  intro walk tree d htree h
  cases htree with
  | object hmembers =>
    obtain ⟨-, hclosed, added, values, hadded, -⟩ := decodeRecord_object_eq_ok_iff.mp h
    refine pass_object_eq_ok_iff.mpr ⟨passMembers_eq_ok_iff.mpr fun m hm => ?_, hclosed⟩
    obtain ⟨p, -, name, -, hadds⟩ := Steps.exists_of_mem_left hadded hm
    split at hadds
    · rename_i field hfind
      obtain ⟨d, hd, -⟩ := hadds
      exact hfields field (List.mem_of_find?_eq_some hfind) _ _ _ (hmembers m hm) hd
    · exact hadds.2.1
  | array hitems =>
    obtain ⟨-, hclosed, values, hfills, -⟩ := decodeRecord_array_eq_ok_iff.mp h
    refine pass_array_eq_ok_iff.mpr ⟨passItems_of_fills hfills ?_ hitems, hclosed⟩
    rw [List.forall_mem_map]
    exact hfields
  | null | boolean | number | text | broken => exact absurd h (mismatch_ne_ok _ _ _)

end Decoder.IsSound

end Json

open Json Json.Decoder

/-- **A tree that decodes along a schema can be passed over.** -/
theorem Schema.isSound_decoder (schema : Schema) : IsSound schema.decoder := by
  induction schema using Schema.induction with
  | any =>
    intro walk tree d htree h
    obtain ⟨j, hj, -⟩ := map_eq_ok_iff.mp h
    exact htree.pass_of_json hj
  | boolean =>
    intro walk tree d htree h
    obtain ⟨start, stop, b, rfl, -⟩ := decoder_boolean_eq_ok_iff.mp h
    rfl
  | integer type => exact .integer type
  | double => exact .double
  | character => exact .character
  | text =>
    intro walk tree d htree h
    obtain ⟨leaf, s, rfl, hvalue, -⟩ := decoder_text_eq_ok_iff.mp h
    cases htree with
    | text hleaf => exact pass_text_eq_ok_iff.mpr (hleaf s hvalue)
  | unit =>
    intro walk tree d htree h
    obtain ⟨start, stop, rfl, -⟩ := decoder_unit_eq_ok_iff.mp h
    rfl
  | list item ih => exact .list ih
  | tuple items ih =>
    intro walk tree d htree h
    cases htree with
    | array hitems =>
      obtain ⟨-, hclosed, values, hfills, -⟩ := decoder_tuple_array_eq_ok_iff.mp h
      refine pass_array_eq_ok_iff.mpr ⟨IsSound.passItems_of_fills hfills ?_ hitems, hclosed⟩
      rw [List.forall_mem_map]
      exact ih
    | null | boolean | number | text | object | broken => exact absurd h (mismatch_ne_ok _ _ _)
  | map value ih => exact .map ih
  | optional value ih =>
    intro walk tree d htree h
    rcases decoder_optional_eq_ok_iff.mp h with ⟨start, stop, rfl, -⟩ | ⟨-, d', hd', -⟩
    · rfl
    · exact ih walk tree d' htree hd'
  | record name strict fields ih =>
    have hfields : ∀ field ∈ fieldDecoders fields, IsSound field.decode := by
      rw [fieldDecoders_eq_map, List.forall_mem_map]
      exact ih
    exact .record hfields name strict

end Waybill
