import Waybill.Proofs.Json.PlainKeys
import Waybill.Proofs.Text.LetterCase
import Waybill.Proofs.Text.Utf8

/-!
# Rewritten keys are a normal form

A rewritten key has no underscore behind its first character, whatever capitals it was given, so
that rewriting it again changes nothing. The entries of a value are in the order of their keys when
they are rewritten, and of several entries with one rewritten key the last one stays: it is the one
whose key was the greatest. The order of the entries in a body plays no part in this.

## Main definitions

* `Waybill.Json.Tree.HasEntries`: the entries of an object in the order of its text.
* `Waybill.Json.Prevails`: the entry that stays under a rewritten key.

## Main results

* `Waybill.Json.isPlainKey_camelKey`, `Waybill.Json.isPlain_camelKeys`: what is rewritten needs no
  rewriting.
* `Waybill.Json.member?_camelMembers_eq_some_iff`: which entry stays.
* `Waybill.Json.decode_any_of_parse`: what decodes as any value is the rewritten value.
* `Waybill.Json.rewriting_normalizes`: rewriting is a normal form, and the greatest key prevails.
-/

namespace Waybill.Json

/-! ### Keys -/

theorem underscore_not_mem_camelTail (raised : Bool) (cs : List Char) :
    '_' ∉ camelTail raised cs := by
  fun_induction camelTail raised cs with
  | case1 => exact List.not_mem_nil
  | case2 raised c rest hc ih => exact ih
  | case3 c rest hc ih =>
    rw [List.mem_append, not_or]
    exact ⟨underscore_not_mem_capitals (ne_of_beq_false (Bool.eq_false_iff.mpr hc)), ih⟩
  | case4 raised c rest hc _ ih =>
    rw [List.mem_cons, not_or]
    exact ⟨Ne.symm (ne_of_beq_false (Bool.eq_false_iff.mpr hc)), ih⟩

/-- A rewritten key has no underscore behind its first character. -/
theorem isPlainKey_camelKey (key : String) : IsPlainKey (camelKey key) := by
  rw [IsPlainKey, camelKey, String.toList_ofList]
  cases key.toList with
  | nil => exact List.not_mem_nil
  | cons c cs => exact underscore_not_mem_camelTail false cs

/-- Only keys without such an underscore stay as they are. -/
theorem camelKey_eq_self_iff {key : String} : camelKey key = key ↔ IsPlainKey key :=
  ⟨fun h => h ▸ isPlainKey_camelKey key, IsPlainKey.camelKey_eq⟩

/-! ### Values -/

/-- Induction over a value and its parts. -/
@[elab_as_elim]
theorem induction {motive : Json → Prop} (null : motive .null)
    (boolean : ∀ b, motive (.boolean b)) (number : ∀ n, motive (.number n))
    (text : ∀ s, motive (.text s))
    (array : ∀ items, (∀ j ∈ items, motive j) → motive (.array items))
    (object : ∀ members, (∀ m ∈ members, motive m.2) → motive (.object members)) (j : Json) :
    motive j :=
  @Json.rec motive (fun items => ∀ j ∈ items, motive j)
    (fun members => ∀ m ∈ members, motive m.2) (fun m => motive m.2) null boolean number text array
    object (by simp) (fun _ _ hj hrest => List.forall_mem_cons.mpr ⟨hj, hrest⟩)
    (by simp) (fun _ _ hm hrest => List.forall_mem_cons.mpr ⟨hm, hrest⟩) (fun _ _ h => h) j

/-- A rewritten value needs no rewriting. -/
theorem isPlain_camelKeys (j : Json) : IsPlain (camelKeys j) := by
  induction j using Json.induction with
  | null => exact .null
  | boolean b => exact .boolean b
  | number n => exact .number n
  | text s => exact .text s
  | array items ih =>
    rw [camelKeys, camelItems_eq_map]
    exact .array (List.forall_mem_map.mpr ih)
  | object members ih =>
    rw [camelKeys, camelMembers_eq_map]
    have hmember : ∀ m ∈ sorted (members.map fun m => (camelKey m.1, camelKeys m.2)),
        IsPlainKey m.1 ∧ IsPlain m.2 := by
      intro m hm
      obtain ⟨m', hm', rfl⟩ := List.mem_map.mp (mem_of_mem_sorted hm)
      exact ⟨isPlainKey_camelKey m'.1, ih m' hm'⟩
    exact .object (fun m hm => (hmember m hm).1) (isOrdered_sorted _) fun m hm => (hmember m hm).2

/-! ### Which entry stays -/

/-- Of entries in the order of their keys, the last one stays under a rewritten key. -/
theorem member?_camelMembers_eq_some_iff {members : List (String × Json)} (h : IsOrdered members)
    {key : String} {j : Json} :
    member? key (sorted (camelMembers members)) = some j ↔ ∃ m ∈ members, camelKey m.1 = key ∧
      (∀ m' ∈ members, camelKey m'.1 = key → m'.1 ≤ m.1) ∧ camelKeys m.2 = j := by
  rw [member?_sorted, camelMembers_eq_map, ← List.map_reverse, member?, List.find?_map,
    Option.map_map, Option.map_eq_some_iff]
  simp only [h.find?_reverse_eq_some_iff, Function.comp_apply, beq_iff_eq, and_assoc]

/-- The entry of the greatest key, byte by byte, of those that are rewritten to a key. -/
def Prevails (entries : List (String × Json)) (key : String) (e : String × Json) : Prop :=
  e ∈ entries ∧ camelKey e.1 = key ∧ ∀ e' ∈ entries, camelKey e'.1 = key →
    e'.1 = e.1 ∨ Utf8.Precedes (Utf8.bytes e'.1) (Utf8.bytes e.1)

/-- An object with the keys and values of its members, in the order of its text. -/
def Tree.HasEntries (depth : Nat) (tree : Tree) (entries : List (String × Json)) : Prop :=
  ∃ start members stop, tree = .object start members (.closed stop) ∧ 1 < depth ∧
    List.Forall₂ (fun m e => m.1.name.value = .ok e.1 ∧ m.2.json (depth - 1) = .ok e.2)
      members entries

theorem Tree.HasEntries.json_eq {depth : Nat} {tree : Tree} {entries : List (String × Json)}
    (h : tree.HasEntries depth entries) : tree.json depth = .ok (.object (sorted entries)) := by
  obtain ⟨start, members, stop, rfl, hdepth, hentries⟩ := h
  exact json_object_eq_ok_iff.mpr
    ⟨hdepth, ⟨stop, rfl⟩, entries, jsonOfMembers_eq_ok_iff.mpr hentries, rfl⟩

theorem Tree.HasEntries.json_eq_of_perm {depth : Nat} {tree tree' : Tree}
    {entries entries' : List (String × Json)} (h : tree.HasEntries depth entries)
    (h' : tree'.HasEntries depth entries') (hperm : entries'.Perm entries)
    (hnodup : (entries.map Prod.fst).Nodup) : tree'.json depth = tree.json depth := by
  rw [h.json_eq, h'.json_eq, sorted_eq_of_perm hperm.symm hnodup]

theorem member?_rewritten_eq_some_iff {entries : List (String × Json)}
    (h : (entries.map Prod.fst).Nodup) {key : String} {j : Json} :
    member? key (sorted (camelMembers (sorted entries))) = some j ↔
      ∃ e, Prevails entries key e ∧ camelKeys e.2 = j := by
  rw [member?_camelMembers_eq_some_iff (isOrdered_sorted entries)]
  simp only [Prevails, (perm_sorted h).mem_iff, Utf8.precedes_bytes_iff, le_iff_eq_or_lt, and_assoc]

/-! ### Bodies -/

/-- What decodes as any value is the rewritten value. -/
theorem decode_any_of_parse {body : List UInt8} {j : Json} (h : parse body = .ok j) :
    KeyStrategy.fromSnakeCase.decode .any body = .ok (camelKeys j).datum := by
  have hwithin := (isWithin_of_json (parse_eq_ok_iff.mp h).1).camelKeys
  obtain ⟨j', hj'⟩ := hwithin.exists_json_tree
  obtain rfl := (isPlain_camelKeys j).eq_of_json_tree hj'
  exact KeyStrategy.decode_fromSnakeCase_eq_ok_iff.mpr ⟨j, h, map_eq_ok_iff.mpr ⟨_, hj', rfl⟩⟩

/-- **Rewriting is a normal form, and the greatest key prevails.** A rewritten key has no underscore
behind its first character, rewriting it again changes nothing, and only keys without such an
underscore stay as they are. Rewriting a value twice is rewriting it once. An object whose keys are
distinct, at whatever depth, is the same value in whatever order they are written, and rewritten it
has under a key the rewritten value of the greatest key, byte by byte, that is rewritten to this
one. And it is the rewritten value of a body that is decoded. -/
theorem rewriting_normalizes :
    (∀ key, '_' ∉ (camelKey key).toList.tail ∧ camelKey (camelKey key) = camelKey key ∧
      (camelKey key = key ↔ '_' ∉ key.toList.tail)) ∧
    (∀ j, camelKeys (camelKeys j) = camelKeys j) ∧
    (∀ tree depth entries, Tree.HasEntries depth tree entries → (entries.map Prod.fst).Nodup →
      (∀ tree' entries', Tree.HasEntries depth tree' entries' → entries'.Perm entries →
        tree'.json depth = tree.json depth) ∧
      ∃ j rewritten, tree.json depth = .ok j ∧ camelKeys j = .object rewritten ∧
        (rewritten.map Prod.fst).Nodup ∧ ∀ key value, member? key rewritten = some value ↔
          ∃ e, Prevails entries key e ∧ camelKeys e.2 = value) ∧
    ∀ body j, parse body = .ok j → (Tree.parse body).1.json depthLimit = .ok j ∧
      KeyStrategy.fromSnakeCase.decode .any body = .ok (camelKeys j).datum := by
  refine ⟨fun key => ?_, fun j => (isPlain_camelKeys j).camelKeys_eq,
    fun tree depth entries hentries hnodup => ?_,
    fun body j h => ⟨(parse_eq_ok_iff.mp h).1, decode_any_of_parse h⟩⟩
  · exact ⟨isPlainKey_camelKey key, (isPlainKey_camelKey key).camelKey_eq, camelKey_eq_self_iff⟩
  · exact ⟨fun tree' entries' h' hperm => hentries.json_eq_of_perm h' hperm hnodup, _, _,
      hentries.json_eq, rfl, (isOrdered_sorted _).nodup,
      fun _ _ => member?_rewritten_eq_some_iff hnodup⟩

/-- The bytes of an object whose keys `a_b`, `aB` and `a__b` are rewritten to one key. The greatest
of them is written first, and its value has a key to rewrite as well. -/
def collidingBody : List UInt8 :=
  [0x7B, 0x22, 0x61, 0x5F, 0x62, 0x22, 0x3A, 0x7B, 0x22, 0x63, 0x5F, 0x64, 0x22, 0x3A, 0x31, 0x7D,
    0x2C, 0x22, 0x61, 0x42, 0x22, 0x3A, 0x32, 0x2C, 0x22, 0x61, 0x5F, 0x5F, 0x62, 0x22, 0x3A, 0x33,
    0x7D]

/-- Its entries, in the order of the text. -/
def collidingEntries : List (String × Json) :=
  [("a_b", .object [("c_d", .number (.integer 1))]), ("aB", .number (.integer 2)),
    ("a__b", .number (.integer 3))]

theorem hasEntries_collidingBody :
    (Tree.parse collidingBody).1.HasEntries depthLimit collidingEntries := by
  have htree : (Tree.parse collidingBody).1 =
      .object 0 [(⟨⟨1, .ok "a_b", .ok 6⟩, 6⟩,
          .object 7 [(⟨⟨8, .ok "c_d", .ok 13⟩, 13⟩, .number ⟨14, .ok (.integer 1), .ok 15⟩)]
            (.closed 16)),
        (⟨⟨17, .ok "aB", .ok 21⟩, 21⟩, .number ⟨22, .ok (.integer 2), .ok 23⟩),
        (⟨⟨24, .ok "a__b", .ok 30⟩, 30⟩, .number ⟨31, .ok (.integer 3), .ok 32⟩)] (.closed 33) := by
    with_unfolding_all rfl
  exact ⟨_, _, _, htree, by decide, .cons ⟨rfl, rfl⟩ (.cons ⟨rfl, rfl⟩ (.cons ⟨rfl, rfl⟩ .nil))⟩

theorem hasEntries_reverse :
    (Json.object collidingEntries.reverse).tree.HasEntries depthLimit collidingEntries.reverse :=
  ⟨0, _, 0, rfl, by decide, .cons ⟨rfl, rfl⟩ (.cons ⟨rfl, rfl⟩ (.cons ⟨rfl, rfl⟩ .nil))⟩

/-- Of three keys that are rewritten to one, the greatest prevails, be it written first or last. -/
theorem rewriting_normalizes_collisions :
    (Tree.parse collidingBody).1.HasEntries depthLimit collidingEntries ∧
      (collidingEntries.map Prod.fst).Nodup ∧
      parse collidingBody = .ok (.object (sorted collidingEntries)) ∧
      (Json.object collidingEntries.reverse).tree.json depthLimit =
        (Tree.parse collidingBody).1.json depthLimit ∧
      (∃ rewritten, camelKeys (.object (sorted collidingEntries)) = .object rewritten ∧
        ∀ key value, member? key rewritten = some value ↔
          ∃ e, Prevails collidingEntries key e ∧ camelKeys e.2 = value) ∧
      KeyStrategy.fromSnakeCase.decode .any collidingBody =
        .ok (.map [(.text "aB", .map [(.text "cD", .integer 1)])]) := by
  have hnodup : (collidingEntries.map Prod.fst).Nodup := by decide
  have hparse : parse collidingBody = .ok (.object (sorted collidingEntries)) := by
    with_unfolding_all rfl
  obtain ⟨-, -, hentries, hbody⟩ := rewriting_normalizes
  obtain ⟨horder, j, rewritten, hj, hrewritten, -, hmember⟩ :=
    hentries _ _ _ hasEntries_collidingBody hnodup
  refine ⟨hasEntries_collidingBody, hnodup, hparse,
    horder _ _ hasEntries_reverse (List.reverse_perm _), ?_, ?_⟩
  · obtain rfl := Except.ok.inj (hj.symm.trans hasEntries_collidingBody.json_eq)
    exact ⟨rewritten, hrewritten, hmember⟩
  · rw [(hbody _ _ hparse).2]
    with_unfolding_all rfl

end Waybill.Json
