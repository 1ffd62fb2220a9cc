import Waybill.Configuration
import Waybill.Proofs.Template.Texts
import Waybill.Proofs.Url.Path

/-!
# The pieces of a path that a template stands for

A path that a template stands for is made of escaped texts. When it is read as the path of a URL of
the web it is cut into pieces, and some of them are taken as steps. This module says which, by the
texts alone: an escaped text is split at the backslashes of the text, since they are not escaped in
it, and is a step if the text is dots. The slashes at the start of a path are dropped, and with them
the pieces of the empty texts between them.

## Main definitions

* `Waybill.Template.escaped`: a text as it stands in a path.
* `Waybill.Template.pieces`: what a path is cut into.

## Main results

* `Waybill.Template.splitOnP_escaped`, `Waybill.Template.isStep_escaped_iff`: when an escaped text
  is split, and when it is a step.
* `Waybill.Template.piecesOf_eq_pieces`, `Waybill.Template.piecesOf_suffix`: the pieces of a path
  without the slashes at its start.
-/

namespace Waybill

namespace Template

/-- A text as it stands in a path. -/
def escaped (text : List Char) : List Char := Percent.encode Percent.segmentSet text

/-- What a value escapes is as much as what a path escapes. -/
theorem segmentSet_of_pathSet {c : Char} (h : Url.pathSet c = true) :
    Percent.segmentSet c = true := by
  simp only [Url.pathSet, Url.fragmentSet, Bool.or_eq_true, List.contains_iff_mem] at h
  rw [Percent.segmentSet, Bool.or_eq_true, List.contains_iff_mem]
  have hlist : ∀ d ∈ " \"<>`".toList ++ "#?\x7b\x7d".toList,
      d ∈ " \"#%/<>?`\x7b\x7d".toList := Ascii.forall_mem_of_all (by decide)
  rcases h with (h | h) | h
  · exact Or.inl h
  · exact Or.inr (hlist c (List.mem_append_left _ h))
  · exact Or.inr (hlist c (List.mem_append_right _ h))

theorem plain_escaped (text : List Char) : Percent.Plain Url.pathSet (escaped text) :=
  Percent.plain_encode (fun _ h => segmentSet_of_pathSet h)
    (fun _ h => (Url.pathSet_of_isEscapePart h).1) text

theorem decode_escaped (text : List Char) :
    Percent.decode (Utf8.encode (escaped text)) = Utf8.encode text :=
  Percent.decode_encode (by decide) text

/-- **A path splits an escaped text at the backslashes of the text.** -/
theorem splitOnP_escaped (text : List Char) :
    (escaped text).splitOnP (Url.isSeparator .web) =
      (text.splitOnP (· == '\\')).map escaped := by
  refine Cutting.splitOnP_flatMap ?_ ?_
  · intro c _ hc
    obtain rfl : c = '\\' := by simpa using hc
    exact ⟨'\\', by decide, by decide⟩
  · intro c _ hc d hd
    rcases Percent.mem_encodeChar hd with ⟨rfl, -, hkept⟩ | hpart
    · have hslash : d ≠ '/' := by
        rintro rfl
        exact absurd hkept (by decide)
      simp [Url.isSeparator, hslash, hc]
    · exact (Url.pathSet_of_isEscapePart hpart).2

/-! ### Steps -/

/-- The small letters of an escaped dot, and what they are the small letters of. -/
theorem eq_of_toLower {c : Char} (hc : Ascii.isAscii c = true) :
    (c.toLower = '.' → c = '.') ∧ (c.toLower = '%' → c = '%') ∧ (c.toLower = '2' → c = '2') ∧
      (c.toLower = 'e' → c = 'e' ∨ c = 'E') :=
  Ascii.forall_isAscii
    (P := fun c => (c.toLower = '.' → c = '.') ∧ (c.toLower = '%' → c = '%') ∧
      (c.toLower = '2' → c = '2') ∧ (c.toLower = 'e' → c = 'e' ∨ c = 'E'))
    (by decide +kernel) c hc

/-- A dot at the start of a text, escaped or not, stands for a dot. -/
theorem exists_decode_of_dot {s t : List Char} (hs : ∀ c ∈ s, Ascii.isAscii c = true)
    (h : s.map Char.toLower = '.' :: t ∨ s.map Char.toLower = '%' :: '2' :: 'e' :: t) :
    ∃ rest, (∀ c ∈ rest, Ascii.isAscii c = true) ∧ rest.map Char.toLower = t ∧
      Percent.decode (Utf8.encode s) = Utf8.byte '.' :: Percent.decode (Utf8.encode rest) := by
  rcases h with h | h
  · obtain ⟨x, rest, rfl, hx, hrest⟩ := List.map_eq_cons_iff.mp h
    obtain rfl := (eq_of_toLower (hs x (by simp))).1 hx
    refine ⟨rest, fun c hc => hs c (by simp [hc]), hrest, ?_⟩
    rw [Utf8.encode_cons_of_isAscii (by decide), Percent.decode_cons_of_ne (by decide)]
  · obtain ⟨x, _, rfl, hx, hmap⟩ := List.map_eq_cons_iff.mp h
    obtain ⟨y, _, rfl, hy, hmap⟩ := List.map_eq_cons_iff.mp hmap
    obtain ⟨z, rest, rfl, hz, hrest⟩ := List.map_eq_cons_iff.mp hmap
    obtain rfl := (eq_of_toLower (hs x (by simp))).2.1 hx
    obtain rfl := (eq_of_toLower (hs y (by simp))).2.2.1 hy
    refine ⟨rest, fun c hc => hs c (by simp [hc]), hrest, ?_⟩
    rw [Utf8.encode_cons_of_isAscii (by decide), Utf8.encode_cons_of_isAscii (by decide),
      Utf8.encode_cons_of_isAscii (hs z (by simp))]
    rcases (eq_of_toLower (hs z (by simp))).2.2.2 hz with rfl | rfl <;> rfl

theorem decode_of_isSingleDot {s : List Char} (hs : ∀ c ∈ s, Ascii.isAscii c = true)
    (h : Url.isSingleDot s = true) :
    Percent.decode (Utf8.encode s) = Utf8.encode ['.'] := by
  have hdot : s.map Char.toLower = ['.'] ∨ s.map Char.toLower = ['%', '2', 'e'] := by
    rw [Url.isSingleDot, Bool.or_eq_true, beq_iff_eq, beq_iff_eq] at h
    rcases h with rfl | h
    · exact Or.inl rfl
    · exact Or.inr h
  obtain ⟨rest, -, hrest, hdecode⟩ := exists_decode_of_dot hs hdot
  obtain rfl := List.map_eq_nil_iff.mp hrest
  exact hdecode

theorem decode_of_isDoubleDot {s : List Char} (hs : ∀ c ∈ s, Ascii.isAscii c = true)
    (h : Url.isDoubleDot s = true) :
    Percent.decode (Utf8.encode s) = Utf8.encode ['.', '.'] := by
  have hdots : ∃ t, (s.map Char.toLower = '.' :: t ∨ s.map Char.toLower = '%' :: '2' :: 'e' :: t) ∧
      (t = ['.'] ∨ t = ['%', '2', 'e']) := by
    simp only [Url.isDoubleDot, Bool.or_eq_true, beq_iff_eq] at h
    rcases h with ((h | h) | h) | h
    · exact ⟨_, Or.inl h, Or.inl rfl⟩
    · exact ⟨_, Or.inl h, Or.inr rfl⟩
    · exact ⟨_, Or.inr h, Or.inl rfl⟩
    · exact ⟨_, Or.inr h, Or.inr rfl⟩
  obtain ⟨t, hfirst, hsecond⟩ := hdots
  obtain ⟨rest, hascii, rfl, hdecode⟩ := exists_decode_of_dot hs hfirst
  obtain ⟨rest', -, hrest', hdecode'⟩ := exists_decode_of_dot hascii hsecond
  obtain rfl := List.map_eq_nil_iff.mp hrest'
  rw [hdecode, hdecode']
  rfl

/-- **An escaped text is a step exactly if the text is dots.** -/
theorem isStep_escaped_iff (text : List Char) :
    Url.isStep (escaped text) = true ↔ text = ['.'] ∨ text = ['.', '.'] := by
  have hascii : ∀ c ∈ escaped text, Ascii.isAscii c = true :=
    fun c hc => (plain_escaped text c hc).1
  constructor
  · intro h
    rw [Url.isStep, Bool.or_eq_true] at h
    rcases h with h | h
    · have hdecode := decode_of_isDoubleDot hascii h
      rw [decode_escaped] at hdecode
      exact Or.inr (Utf8.eq_of_encode_eq (Ascii.forall_mem_of_all (by decide)) hdecode)
    · have hdecode := decode_of_isSingleDot hascii h
      rw [decode_escaped] at hdecode
      exact Or.inl (Utf8.eq_of_encode_eq (Ascii.forall_mem_of_all (by decide)) hdecode)
  · rintro (rfl | rfl) <;> decide

/-! ### The pieces of a path that a template stands for -/

/-- What a path is split into: its texts, each split at its backslashes, and escaped. -/
def pieces (texts : List (List Char)) : List (List Char) :=
  texts.flatMap fun text => (text.splitOnP (· == '\\')).map escaped

theorem pieces_of_no_backslash {texts : List (List Char)} (h : ∀ text ∈ texts, '\\' ∉ text) :
    pieces texts = texts.map escaped := by
  have hwhole : ∀ text ∈ texts, (text.splitOnP (· == '\\')).map escaped = [escaped text] := by
    intro text htext
    have hsame : text.splitOnP (· == '\\') = [text] := by
      refine List.splitOnP_eq_singleton fun c hc => ?_
      rw [beq_eq_false_iff_ne]
      rintro rfl
      exact h text htext hc
    rw [hsame, List.map_singleton]
  rw [pieces, List.flatMap_congr hwhole, ← List.map_eq_flatMap]

theorem exists_text_of_mem_pieces {texts : List (List Char)} {s : List Char}
    (hs : s ∈ pieces texts) : ∃ text, '\\' ∉ text ∧ s = escaped text := by
  obtain ⟨text, -, hs⟩ := List.mem_flatMap.mp hs
  obtain ⟨piece, hpiece, rfl⟩ := List.mem_map.mp hs
  refine ⟨piece, fun hmem => ?_, rfl⟩
  have hmark := Cutting.not_mark_of_mem_splitOnP hpiece hmem
  cases hmark

theorem piecesOf_of_plain {cs : List Char} (h : Percent.Plain Url.pathSet cs) :
    Url.piecesOf cs = cs.splitOnP (Url.isSeparator .web) := by
  have hsame : ∀ s ∈ cs.splitOnP (Url.isSeparator .web), Url.writtenPiece s = s := by
    intro s hs
    exact Url.writtenPiece_of_plain (h.of_subset fun c hc => Cutting.mem_of_mem_splitOnP hs hc)
  rw [Url.piecesOf, List.map_congr_left hsame, List.map_id']

theorem not_slash_mem_escaped (text : List Char) : '/' ∉ escaped text := by
  intro h
  obtain ⟨c, -, hc⟩ := List.mem_flatMap.mp h
  rcases Percent.mem_encodeChar hc with ⟨rfl, -, hkept⟩ | hpart
  · exact absurd hkept (by decide)
  · exact absurd hpart (by decide)

theorem splitOnP_rest {texts : List (List Char)} {rest : List Char}
    (hrest : Url.pathText (texts.map escaped) = '/' :: rest) :
    rest.splitOnP (Url.isSeparator .web) = pieces texts := by
  have hslash : Url.isSeparator .web '/' = true := rfl
  rw [Url.splitOnP_of_pathText hslash hrest, List.flatMap_map, pieces]
  exact List.flatMap_congr fun text _ => splitOnP_escaped text

theorem separator_of_slash (c : Char) (h : (c == '/') = true) :
    Url.isSeparator .web c = true := by
  rw [Url.isSeparator, h, Bool.true_or]

section Path

variable {texts : List (List Char)} {path : String}

theorem plain_path (hpath : path.toList = Url.pathText (texts.map escaped)) :
    Percent.Plain Url.pathSet path.toList := by
  rw [hpath]
  refine Url.plain_pathText fun s hs => ?_
  obtain ⟨text, -, rfl⟩ := List.mem_map.mp hs
  exact plain_escaped text

theorem piecesOf_path (hpath : path.toList = Url.pathText (texts.map escaped)) :
    Url.piecesOf (Configuration.withoutLeadingSlashes path) =
      (Configuration.withoutLeadingSlashes path).splitOnP (Url.isSeparator .web) :=
  piecesOf_of_plain ((plain_path hpath).of_subset (List.dropWhile_sublist _).subset)

/-- Without the slashes at its start a path has no other pieces. -/
theorem piecesOf_suffix (hpath : path.toList = Url.pathText (texts.map escaped))
    (hne : texts ≠ []) :
    Url.piecesOf (Configuration.withoutLeadingSlashes path) <:+ pieces texts := by
  have hmap : texts.map escaped ≠ [] := by simpa using hne
  obtain ⟨rest, hrest⟩ := Url.exists_cons_of_pathText hmap
  rw [piecesOf_path hpath, Configuration.withoutLeadingSlashes, hpath, hrest,
    List.dropWhile_cons_of_pos rfl, ← splitOnP_rest hrest]
  exact Cutting.splitOnP_dropWhile_suffix separator_of_slash rest

/-- If the first text is not empty, or is the only one, a path has all pieces. -/
theorem piecesOf_eq_pieces (hpath : path.toList = Url.pathText (texts.map escaped))
    (hne : texts ≠ []) (hfirst : texts.head? = some [] → texts = [[]]) :
    Url.piecesOf (Configuration.withoutLeadingSlashes path) = pieces texts := by
  have hmap : texts.map escaped ≠ [] := by simpa using hne
  obtain ⟨rest, hrest⟩ := Url.exists_cons_of_pathText hmap
  have hkept : rest.dropWhile (· == '/') = rest := by
    obtain ⟨text, others, rfl⟩ := List.exists_cons_of_ne_nil hne
    obtain rfl : escaped text ++ Url.pathText (others.map escaped) = rest :=
      (List.cons.inj hrest).2
    rcases text with _ | ⟨c, cs⟩
    · obtain rfl : others = [] := (List.cons.inj (hfirst rfl)).2
      rfl
    · have hnil : escaped (c :: cs) ≠ [] := by
        rw [escaped, Ne, Percent.encode_eq_nil_iff]
        simp
      obtain ⟨d, ds, hd⟩ := List.exists_cons_of_ne_nil hnil
      have hslash := not_slash_mem_escaped (c :: cs)
      rw [hd, List.mem_cons, not_or] at hslash
      rw [hd, List.cons_append, List.dropWhile_cons_of_neg]
      simpa using Ne.symm hslash.1
  rw [piecesOf_path hpath, Configuration.withoutLeadingSlashes, hpath, hrest,
    List.dropWhile_cons_of_pos rfl, hkept, splitOnP_rest hrest]

/-- If the first text is empty and another follows, its piece is lost. -/
theorem piecesOf_suffix_of_first_nil {others : List (List Char)} (hothers : others ≠ [])
    (hpath : path.toList = Url.pathText (([] :: others).map escaped)) :
    Url.piecesOf (Configuration.withoutLeadingSlashes path) <:+ pieces others := by
  have hmap : others.map escaped ≠ [] := by simpa using hothers
  obtain ⟨rest, hrest⟩ := Url.exists_cons_of_pathText hmap
  have hboth : Url.pathText (([] :: others).map escaped) = '/' :: '/' :: rest := by
    rw [List.map_cons, Url.pathText_cons, hrest]
    rfl
  rw [piecesOf_path hpath, Configuration.withoutLeadingSlashes, hpath, hboth,
    List.dropWhile_cons_of_pos rfl, List.dropWhile_cons_of_pos rfl, ← splitOnP_rest hrest]
  exact Cutting.splitOnP_dropWhile_suffix separator_of_slash rest

end Path

end Template

end Waybill
