import Waybill.Proofs.Json.CamelKeys
import Waybill.Proofs.Text.Cutting

/-!
# Rewriting loses nothing of words

A key of small words joined by single underscores comes back from its rewritten form: every capital
in it starts a word. So no two such keys are rewritten to one, and no entry of an object overwrites
another, at whatever depth.

## Main definitions

* `Waybill.Json.IsSnakeKey`: keys of small words joined by single underscores.
* `Waybill.Json.snakeKey`: an underscore before each capital, which becomes small.
* `Waybill.Json.HasSnakeKeys`: values all of whose keys are such keys.
* `Waybill.Json.LosesNothing`: a value and one with its keys rewritten, entry by entry.

## Main results

* `Waybill.Json.IsSnakeKey.snakeKey_camelKey`: such a key comes back.
* `Waybill.Json.HasSnakeKeys.losesNothing`: nothing is overwritten.
* `Waybill.Json.rewriting_loses_nothing`: both.
-/

namespace Waybill.Json

/-! ### Words -/

/-- A small letter, with small letters and digits behind it. -/
def IsWord (word : List Char) : Prop :=
  ∃ c rest, word = c :: rest ∧ c.isLower = true ∧ ∀ d ∈ rest, d.isLower = true ∨ d.isDigit = true

/-- A key of words that are joined by single underscores. -/
def IsSnakeKey (key : String) : Prop :=
  ∃ words, (∀ word ∈ words, IsWord word) ∧ key.toList = ['_'].intercalate words

/-- Characters with an underscore before each capital, which becomes small. -/
def snakeChars (cs : List Char) : List Char :=
  cs.flatMap fun c => if c.isUpper then ['_', c.toLower] else [c]

/-- A key with an underscore before each capital, which becomes small. -/
def snakeKey (key : String) : String := String.ofList (snakeChars key.toList)

theorem snakeChars_append (cs ds : List Char) :
    snakeChars (cs ++ ds) = snakeChars cs ++ snakeChars ds := List.flatMap_append

theorem snakeChars_of_forall {cs : List Char} (h : ∀ c ∈ cs, c.isUpper = false) :
    snakeChars cs = cs := by
  rw [snakeChars, List.flatMap_congr fun c hc => if_neg (Bool.eq_false_iff.mp (h c hc)),
    List.flatMap_singleton']

theorem isAscii_of_isLower {c : Char} (h : c.isLower = true) : Ascii.isAscii c = true :=
  Ascii.isAscii_of_isAlphanum
    ((Bool.or_eq_true _ _).mpr (.inl ((Bool.or_eq_true _ _).mpr (.inr h))))

theorem ne_underscore_of_isLower_or_isDigit {c : Char} (h : c.isLower = true ∨ c.isDigit = true) :
    c ≠ '_' ∧ c.isUpper = false := by
  have hascii : Ascii.isAscii c = true := by
    rcases h with h | h
    · exact isAscii_of_isLower h
    · exact Ascii.isAscii_of_isAlphanum ((Bool.or_eq_true _ _).mpr (.inr h))
  exact Ascii.forall_isAscii
    (P := fun c => c.isLower = true ∨ c.isDigit = true → c ≠ '_' ∧ c.isUpper = false) (by decide) c
    hascii h

theorem snakeChars_toUpper {c : Char} (h : c.isLower = true) :
    snakeChars [c.toUpper] = ['_', c] :=
  Ascii.forall_isAscii (P := fun c => c.isLower = true → snakeChars [c.toUpper] = ['_', c])
    (by decide) c (isAscii_of_isLower h) h

namespace IsWord

variable {word : List Char}

theorem forall_mem (h : IsWord word) : ∀ c ∈ word, c ≠ '_' ∧ c.isUpper = false := by
  obtain ⟨c, rest, rfl, hc, hrest⟩ := h
  rw [List.forall_mem_cons]
  exact ⟨ne_underscore_of_isLower_or_isDigit (.inl hc),
    fun d hd => ne_underscore_of_isLower_or_isDigit (hrest d hd)⟩

theorem underscore_not_mem (h : IsWord word) : '_' ∉ word :=
  fun hmem => (h.forall_mem '_' hmem).1 rfl

theorem snakeChars_eq (h : IsWord word) : snakeChars word = word :=
  snakeChars_of_forall fun c hc => (h.forall_mem c hc).2

theorem camelChars_append (h : IsWord word) (rest : List Char) :
    camelChars (word ++ rest) = word ++ camelTail false rest := by
  have hunderscore := h.underscore_not_mem
  obtain ⟨c, ds, rfl, -⟩ := h
  rw [List.mem_cons, not_or] at hunderscore
  rw [List.cons_append, camelChars, camelTail_append hunderscore.2, List.cons_append]

/-- A word behind an underscore is capitalised, and comes back with its underscore. -/
theorem snakeChars_camelTail (h : IsWord word) (rest : List Char) :
    snakeChars (camelTail false ('_' :: word ++ rest)) =
      '_' :: word ++ snakeChars (camelTail false rest) := by
  have hunderscore := h.underscore_not_mem
  obtain ⟨c, ds, rfl, hc, hds⟩ := h
  rw [List.mem_cons, not_or] at hunderscore
  have hcapital : camelTail false ('_' :: c :: ds ++ rest) =
      [c.toUpper] ++ (ds ++ camelTail false rest) := by
    have hne : (c == '_') = false := beq_eq_false_iff_ne.mpr (Ne.symm hunderscore.1)
    rw [← camelTail_append hunderscore.2, ← capitals_of_isAscii (isAscii_of_isLower hc)]
    simp only [List.cons_append, camelTail, hne, beq_self_eq_true, if_true, Bool.false_eq_true,
      if_false]
  have hsmall : snakeChars ds = ds :=
    snakeChars_of_forall fun d hd => (ne_underscore_of_isLower_or_isDigit (hds d hd)).2
  rw [hcapital, snakeChars_append, snakeChars_append, snakeChars_toUpper hc, hsmall]
  rfl

end IsWord

/-! ### Keys -/

theorem snakeChars_camelTail_flatMap {words : List (List Char)}
    (h : ∀ word ∈ words, IsWord word) :
    snakeChars (camelTail false (words.flatMap (['_'] ++ ·))) = words.flatMap (['_'] ++ ·) := by
  induction words with
  | nil => rfl
  | cons word words ih =>
    rw [List.forall_mem_cons] at h
    rw [List.flatMap_cons, List.singleton_append, h.1.snakeChars_camelTail, ih h.2]

/-- **A key of small words comes back** from its rewritten form. -/
theorem IsSnakeKey.snakeKey_camelKey {key : String} (h : IsSnakeKey key) :
    snakeKey (camelKey key) = key := by
  obtain ⟨words, hwords, hkey⟩ := h
  have hchars : snakeChars (camelChars key.toList) = key.toList := by
    rw [hkey]
    cases words with
    | nil => rfl
    | cons word words =>
      rw [List.forall_mem_cons] at hwords
      rw [Cutting.intercalate_cons, hwords.1.camelChars_append, snakeChars_append,
        hwords.1.snakeChars_eq, snakeChars_camelTail_flatMap hwords.2]
  rw [snakeKey, camelKey, String.toList_ofList, hchars, String.ofList_toList]

/-- Keys of small words stay distinct. -/
theorem nodup_map_camelKey {keys : List String} (h : ∀ key ∈ keys, IsSnakeKey key)
    (hnodup : keys.Nodup) : (keys.map camelKey).Nodup := by
  refine hnodup.map_on fun key hkey key' hkey' heq => ?_
  rw [← (h key hkey).snakeKey_camelKey, heq, (h key' hkey').snakeKey_camelKey]

/-! ### Values -/

/-- The keys of every object are small words joined by single underscores, and no object has a key
twice, as no value that is read does. -/
inductive HasSnakeKeys : Json → Prop
  | null : HasSnakeKeys .null
  | boolean (b : Bool) : HasSnakeKeys (.boolean b)
  | number (n : Number) : HasSnakeKeys (.number n)
  | text (s : String) : HasSnakeKeys (.text s)
  | array {items : List Json} (h : ∀ j ∈ items, HasSnakeKeys j) : HasSnakeKeys (.array items)
  | object {members : List (String × Json)} (hsnake : ∀ m ∈ members, IsSnakeKey m.1)
    (hdistinct : (members.map Prod.fst).Nodup) (h : ∀ m ∈ members, HasSnakeKeys m.2) :
    HasSnakeKeys (.object members)

/-- A value and one with its keys rewritten that has all of it: the same scalars, as many items in
the same order, and as many entries, each with its rewritten value under its rewritten key. -/
inductive LosesNothing : Json → Json → Prop
  | null : LosesNothing .null .null
  | boolean (b : Bool) : LosesNothing (.boolean b) (.boolean b)
  | number (n : Number) : LosesNothing (.number n) (.number n)
  | text (s : String) : LosesNothing (.text s) (.text s)
  | array {items rewritten : List Json} (h : List.Forall₂ LosesNothing items rewritten) :
    LosesNothing (.array items) (.array rewritten)
  | object {members rewritten : List (String × Json)} (hlength : rewritten.length = members.length)
    (hdistinct : (members.map fun m => camelKey m.1).Nodup)
    (hmember : ∀ m ∈ members, member? (camelKey m.1) rewritten = some (camelKeys m.2))
    (h : ∀ m ∈ members, LosesNothing m.2 (camelKeys m.2)) :
    LosesNothing (.object members) (.object rewritten)

/-- **Nothing is overwritten** where all keys are small words joined by single underscores. -/
theorem HasSnakeKeys.losesNothing {j : Json} (h : HasSnakeKeys j) :
    LosesNothing j (camelKeys j) := by
  induction h with
  | null => exact .null
  | boolean b => exact .boolean b
  | number n => exact .number n
  | text s => exact .text s
  | array _ ih =>
    rw [camelKeys, camelItems_eq_map]
    exact .array (List.forall₂_map_right_iff.mpr (List.forall₂_same.mpr ih))
  | @object members hsnake hdistinct _ ih =>
    have hkeys : (members.map fun m => camelKey m.1).Nodup := by
      rw [← Function.comp_def, ← List.map_map]
      exact nodup_map_camelKey (List.forall_mem_map.mpr hsnake) hdistinct
    have hentries :
        ((members.map fun m => (camelKey m.1, camelKeys m.2)).map Prod.fst).Nodup := by
      rw [List.map_map]
      exact hkeys
    have hperm := perm_sorted hentries
    rw [camelKeys, camelMembers_eq_map]
    -- Sorting distinct keys only moves the entries.
    refine .object ?_ hkeys (fun m hm => ?_) ih
    · rw [hperm.length_eq, List.length_map]
    · refine (member?_eq_some_iff (isOrdered_sorted _).nodup).mpr (hperm.mem_iff.mpr ?_)
      exact List.mem_map.mpr ⟨m, hm, rfl⟩

/-- **Rewriting loses nothing of words.** A key of small words joined by single underscores comes
back from its rewritten form, with an underscore before each capital. A value with no other keys
keeps all its entries, items and scalars. -/
theorem rewriting_loses_nothing :
    (∀ key, IsSnakeKey key → snakeKey (camelKey key) = key) ∧
      ∀ j, HasSnakeKeys j → LosesNothing j (camelKeys j) :=
  ⟨fun _ h => h.snakeKey_camelKey, fun _ h => h.losesNothing⟩

/-- A list of an object with an object in it, with keys of one word and of several. -/
def listedPost : Json :=
  .array [.object [("post_id2_x", .object [("a", .null), ("a_b", .text "c_d")])], .boolean true]

theorem isWord_of_all {c : Char} {rest : List Char} (hc : c.isLower = true)
    (hrest : rest.all (fun d => decide (d.isLower = true ∨ d.isDigit = true)) = true) :
    IsWord (c :: rest) :=
  ⟨c, rest, rfl, hc, Ascii.forall_mem_of_all hrest⟩

theorem isSnakeKey_post_id2_x : IsSnakeKey "post_id2_x" := by
  refine ⟨[['p', 'o', 's', 't'], ['i', 'd', '2'], ['x']], ?_, rfl⟩
  simp only [List.forall_mem_cons, List.not_mem_nil, false_implies, implies_true, and_true]
  exact ⟨isWord_of_all rfl rfl, isWord_of_all rfl rfl, isWord_of_all rfl rfl⟩

theorem hasSnakeKeys_listedPost : HasSnakeKeys listedPost := by
  have ha : IsSnakeKey "a" := ⟨[['a']], List.forall_mem_singleton.mpr (isWord_of_all rfl rfl), rfl⟩
  have hab : IsSnakeKey "a_b" := by
    refine ⟨[['a'], ['b']], List.forall_mem_cons.mpr ⟨isWord_of_all rfl rfl, ?_⟩, rfl⟩
    exact List.forall_mem_singleton.mpr (isWord_of_all rfl rfl)
  have hinner : HasSnakeKeys (.object [("a", .null), ("a_b", .text "c_d")]) :=
    .object (List.forall_mem_cons.mpr ⟨ha, List.forall_mem_singleton.mpr hab⟩) (by decide)
      (List.forall_mem_cons.mpr ⟨.null, List.forall_mem_singleton.mpr (.text "c_d")⟩)
  have houter : HasSnakeKeys
      (.object [("post_id2_x", .object [("a", .null), ("a_b", .text "c_d")])]) :=
    .object (List.forall_mem_singleton.mpr isSnakeKey_post_id2_x) (by decide)
      (List.forall_mem_singleton.mpr hinner)
  exact .array (List.forall_mem_cons.mpr ⟨houter, List.forall_mem_singleton.mpr (.boolean true)⟩)

/-- Digits stay where they are, and a text is no key. -/
theorem rewriting_loses_nothing_of_listedPost :
    IsSnakeKey "post_id2_x" ∧ camelKey "post_id2_x" = "postId2X" ∧
      snakeKey (camelKey "post_id2_x") = "post_id2_x" ∧
      HasSnakeKeys listedPost ∧ LosesNothing listedPost (camelKeys listedPost) :=
  ⟨isSnakeKey_post_id2_x, rfl, rewriting_loses_nothing.1 _ isSnakeKey_post_id2_x,
    hasSnakeKeys_listedPost, rewriting_loses_nothing.2 _ hasSnakeKeys_listedPost⟩

end Waybill.Json
