import Waybill.Proofs.Template.Defaults
import Waybill.Proofs.Text.Ascii

/-!
# Paths and the values in them

What escapes leave and write of a value holds no slash, and can be read back. So the slashes of a
path are those of the literal text of its template, and they cut the path where they cut the
template. If a part between two of them has one place for a value at most, the value stands between
fixed texts, and nothing but the same value gives the same part. Hence a path tells the values that
it was made from.

Where a part has two places this is not so: a character may belong to the one value or to the other.

## Main definitions

* `Waybill.Percent.IsSpelling`: how a value may stand in a segment of a path.
* `Waybill.Template.Cell`, `Waybill.Template.cells`: a template as a row of characters and places.
* `Waybill.Template.IsSeparated`: between two slashes there is one place for a value at most.

## Main results

* `Waybill.Percent.isSpelling_segment`: a value is written as one of its spellings.
* `Waybill.Template.splitOnP_cells`: a path is cut at its slashes where its template is.
* `Waybill.Template.path_determines_values`: the values of a path.
-/

namespace Waybill

namespace Percent

/-- How a value may stand in a segment of a path. -/
structure IsSpelling (value text : String) : Prop where
  /-- The text is ASCII. -/
  ascii : ∀ c ∈ text.toList, Ascii.isAscii c = true
  /-- It has no character at which a path would end, be split or be rewritten. -/
  safe : ∀ c ∈ text.toList, Ascii.isControl c = false ∧ c ∉ " \"#/<>?`\x7b\x7d".toList
  /-- Its percent signs are those of escapes. -/
  escapes : IsEscaped text.toList
  /-- Without its escapes it is the value. -/
  decoded : decodeText text = Utf8.bytes value

theorem toList_segment (value : String) :
    (segment value).toList = encode segmentSet value.toList := by
  rw [segment, encodeText, String.toList_ofList]

/-- What escapes leave and write of a value needs no escapes, percent signs apart. -/
theorem plain_segment (value : String) :
    Plain (fun c => Ascii.isControl c || " \"#/<>?`\x7b\x7d".toList.contains c)
      (segment value).toList := by
  rw [toList_segment]
  refine plain_encode (fun c hc => ?_) (fun c hc => ?_) _
  · have hlist : ∀ d ∈ " \"#/<>?`\x7b\x7d".toList, d ∈ " \"#%/<>?`\x7b\x7d".toList :=
      Ascii.forall_mem_of_all (by decide)
    simp only [segmentSet, Bool.or_eq_true, List.contains_iff_mem] at hc ⊢
    exact hc.imp_right (hlist c)
  · exact Ascii.forall_isAscii (P := fun c => isEscapePart c = true →
      (Ascii.isControl c || " \"#/<>?`\x7b\x7d".toList.contains c) = false) (by decide +kernel) c
      (isAscii_of_isEscapePart hc) hc

/-- **A value is written as one of its spellings.** -/
theorem isSpelling_segment (value : String) : IsSpelling value (segment value) where
  ascii c hc := (plain_segment value c hc).1
  safe c hc := by
    obtain ⟨hcontrol, hlist⟩ := Bool.or_eq_false_iff.mp (plain_segment value c hc).2
    exact ⟨hcontrol, fun hmem => by rw [List.contains_iff_mem.mpr hmem] at hlist; cases hlist⟩
  escapes := by
    rw [toList_segment]
    exact isEscaped_encode (by decide) _
  decoded := by
    rw [decodeText, Utf8.bytes, toList_segment]
    exact decode_encode (by decide) _

theorem segment_append (v w : String) : segment (v ++ w) = segment v ++ segment w := by
  rw [segment, encodeText, String.toList_append, encode_append, String.ofList_append]
  rfl

end Percent

/-! ### Templates cell by cell -/

namespace Template

/-- A character of the literal text of a template, or a place that a value goes to. -/
inductive Cell where
  | char (c : Char)
  | hole (name : String) (default : Option String)

namespace Cell

/-- Whether a cell is a slash of the literal text. -/
def isSlash : Cell → Bool
  | char c => c == '/'
  | hole _ _ => false

/-- Whether a cell is a place for a value. -/
def isHole : Cell → Bool
  | char _ => false
  | hole _ _ => true

/-- What stands for a cell in a path. -/
def write (bindings : List Binding) : Cell → List Char
  | char c => [c]
  | hole name default =>
    match valueOf bindings name default with
    | .ok value => (Percent.segment value).toList
    | .error _ => []

/-- The cells of a piece. -/
def ofSegment : Segment → List Cell
  | .literal text => text.toList.map char
  | .placeholder name default => [hole name default]

end Cell

/-- The cells of a template, in order. -/
def cells (t : Template) : List Cell := t.segments.flatMap Cell.ofSegment

/-- Between two slashes of its literal text a template has one place for a value at most. -/
def IsSeparated (t : Template) : Prop :=
  ∀ part ∈ t.cells.splitOnP Cell.isSlash, part.countP Cell.isHole ≤ 1

instance (t : Template) : Decidable t.IsSeparated :=
  inferInstanceAs (Decidable (∀ part ∈ t.cells.splitOnP Cell.isSlash, part.countP Cell.isHole ≤ 1))

variable {bindings bindings' : List Binding}

theorem toList_fill_ofSegment {segment : Segment} {text : String}
    (h : fill bindings segment = .ok text) :
    text.toList = (Cell.ofSegment segment).flatMap (Cell.write bindings) := by
  cases segment with
  | literal s =>
    obtain rfl := Except.ok.inj h
    rw [Cell.ofSegment, List.flatMap_map]
    exact (List.flatMap_singleton' _).symm
  | placeholder name default =>
    obtain ⟨value, hvalue, rfl⟩ := fill_placeholder_eq_ok h
    rw [Cell.ofSegment, List.flatMap_singleton, Cell.write, hvalue]

theorem toList_resolve_cells {t : Template} {path : String} (h : t.resolve bindings = .ok path) :
    path.toList = t.cells.flatMap (Cell.write bindings) := by
  rw [cells, List.flatMap_assoc]
  exact toList_fillAll (fun segment _ text => toList_fill_ofSegment) h

/-- **A path is cut at its slashes where its template is**: no value brings a slash. -/
theorem splitOnP_cells (cells : List Cell) :
    (cells.flatMap (Cell.write bindings)).splitOnP (· == '/') =
      (cells.splitOnP Cell.isSlash).map (·.flatMap (Cell.write bindings)) := by
  refine Cutting.splitOnP_flatMap (fun cell _ hslash => ?_) (fun cell _ hother d hd => ?_)
  · cases cell with
    | char c => exact ⟨c, hslash, rfl⟩
    | hole name default => cases hslash
  · cases cell with
    | char c => rw [List.mem_singleton.mp hd]; exact hother
    | hole name default =>
      rw [Cell.write] at hd
      split at hd
      · rename_i value _
        rw [beq_eq_false_iff_ne]
        rintro rfl
        exact (Percent.plain_segment value).not_mem (by decide) hd
      · cases hd

/-! ### Parts of a template -/

/-- Without a place for a value cells are written alike under all bindings. -/
theorem flatMap_write_congr {part : List Cell} (h : part.countP Cell.isHole = 0) :
    part.flatMap (Cell.write bindings) = part.flatMap (Cell.write bindings') := by
  refine List.flatMap_congr fun cell hcell => ?_
  cases cell with
  | char c => rfl
  | hole name default => exact absurd rfl (List.countP_eq_zero.mp h _ hcell)

/-- In a part with one place for a value the value stands between fixed texts. -/
theorem write_eq_of_part {part : List Cell} (hpart : part.countP Cell.isHole ≤ 1)
    (h : part.flatMap (Cell.write bindings) = part.flatMap (Cell.write bindings'))
    {cell : Cell} (hcell : cell ∈ part) (hhole : cell.isHole = true) :
    cell.write bindings = cell.write bindings' := by
  obtain ⟨before, after, rfl⟩ := List.append_of_mem hcell
  rw [List.countP_append, List.countP_cons_of_pos hhole] at hpart
  have hbefore : before.flatMap (Cell.write bindings) = before.flatMap (Cell.write bindings') :=
    flatMap_write_congr (by omega)
  have hafter : after.flatMap (Cell.write bindings) = after.flatMap (Cell.write bindings') :=
    flatMap_write_congr (by omega)
  rw [List.flatMap_append, List.flatMap_append, List.flatMap_cons, List.flatMap_cons, hbefore,
    hafter] at h
  exact List.append_cancel_right (List.append_cancel_left h)

/-! ### Values of a path -/

theorem mem_cells_of_mem_placeholders {t : Template} {name : String} {default : Option String}
    (h : (name, default) ∈ t.placeholders) : Cell.hole name default ∈ t.cells :=
  List.mem_flatMap.mpr ⟨_, mem_placeholders_iff.mp h, List.mem_singleton_self _⟩

theorem exists_valueOf {t : Template} {path : String} (h : t.resolve bindings = .ok path)
    {name : String} {default : Option String} (hmem : (name, default) ∈ t.placeholders) :
    ∃ value, valueOf bindings name default = .ok value := by
  obtain ⟨text, htext⟩ := exists_fillAll_iff.mp ⟨path, h⟩ _ (mem_placeholders_iff.mp hmem)
  obtain ⟨value, hvalue, -⟩ := fill_placeholder_eq_ok htext
  exact ⟨value, hvalue⟩

/-- **Bindings that give the same path give the same values.** -/
theorem valueOf_eq_of_resolve {t : Template} (ht : t.IsSeparated) {path : String}
    (h : t.resolve bindings = .ok path) (h' : t.resolve bindings' = .ok path)
    {name : String} {default : Option String} (hmem : (name, default) ∈ t.placeholders) :
    valueOf bindings name default = valueOf bindings' name default := by
  have hpath : t.cells.flatMap (Cell.write bindings) = t.cells.flatMap (Cell.write bindings') :=
    (toList_resolve_cells h).symm.trans (toList_resolve_cells h')
  have hparts : ∀ part ∈ t.cells.splitOnP Cell.isSlash,
      part.flatMap (Cell.write bindings) = part.flatMap (Cell.write bindings') := by
    have hcut := congrArg (·.splitOnP (· == '/')) hpath
    simp only [splitOnP_cells] at hcut
    exact List.map_inj_left.mp hcut
  -- the placeholder stands in one of the parts
  obtain ⟨part, hpart, hcell⟩ : ∃ part ∈ t.cells.splitOnP Cell.isSlash,
      Cell.hole name default ∈ part := by
    rw [← List.mem_flatten, Cutting.flatten_splitOnP]
    exact List.mem_filter.mpr ⟨mem_cells_of_mem_placeholders hmem, rfl⟩
  have hwrite := write_eq_of_part (ht part hpart) (hparts part hpart) hcell rfl
  obtain ⟨value, hvalue⟩ := exists_valueOf h hmem
  obtain ⟨value', hvalue'⟩ := exists_valueOf h' hmem
  rw [Cell.write, Cell.write, hvalue, hvalue'] at hwrite
  rw [hvalue, hvalue', segment_injective (String.toList_inj.mp hwrite)]

/-- Bindings that give the same values give the same path. -/
theorem resolve_congr {t : Template} (h : ∀ name default, (name, default) ∈ t.placeholders →
    valueOf bindings name default = valueOf bindings' name default) :
    t.resolve bindings = t.resolve bindings' := by
  refine fillAll_congr fun segment hsegment => ?_
  cases segment with
  | literal text => rfl
  | placeholder name default => rw [fill, fill, h name default (mem_placeholders_iff.mpr hsegment)]

/-- **A path tells the values that it was made from.** A value is written as a text that is safe in
a segment of a path and stands for the value, one character after the other. Let a template have one
place for a value at most between two slashes. If it is filled in under two lists of bindings, then
the paths are the same exactly if all its placeholders have the same values, be they bound or
defaults. A name may stand in several parts of the template. -/
theorem path_determines_values :
    (∀ value, Percent.IsSpelling value (Percent.segment value)) ∧
      (∀ v w, Percent.segment (v ++ w) = Percent.segment v ++ Percent.segment w) ∧
      ∀ t : Template, t.IsSeparated → ∀ (bindings bindings' : List Binding) (path path' : String),
        t.resolve bindings = .ok path → t.resolve bindings' = .ok path' →
          (path = path' ↔ ∀ name default, (name, default) ∈ t.placeholders →
            valueOf bindings name default = valueOf bindings' name default) := by
  refine ⟨Percent.isSpelling_segment, Percent.segment_append, ?_⟩
  intro t ht bindings bindings' path path' h h'
  constructor
  · rintro rfl name default hmem
    exact valueOf_eq_of_resolve ht h h' hmem
  · intro hvalues
    rw [resolve_congr hvalues, h'] at h
    exact (Except.ok.inj h).symm

/-- Two lists of bindings in another order, of which one leaves a default out that the other gives,
and one binds a name twice. -/
theorem path_determines_values_of_reordered :
    ∃ t, parse "/a-{x}.json/{y=7}" = .ok t ∧
      t.resolve [("x", some "é/%2F"), ("y", none)] = .ok "/a-%C3%A9%2F%252F.json/7" ∧
      ∀ name default, (name, default) ∈ t.placeholders →
        valueOf [("x", some "é/%2F"), ("y", none)] name default =
          valueOf [("y", some "7"), ("x", some "é/%2F"), ("x", none)] name default := by
  let t : Template := ⟨"/a-{x}.json/{y=7}", [.literal "/a-", .placeholder "x" none,
    .literal ".json/", .placeholder "y" (some "7")]⟩
  have hparse : parse "/a-{x}.json/{y=7}" = .ok t := by decide +kernel
  have ht : t.IsSeparated := by decide +kernel
  have h : t.resolve [("x", some "é/%2F"), ("y", none)] = .ok "/a-%C3%A9%2F%252F.json/7" := by
    decide +kernel
  have h' : t.resolve [("y", some "7"), ("x", some "é/%2F"), ("x", none)] =
      .ok "/a-%C3%A9%2F%252F.json/7" := by decide +kernel
  exact ⟨t, hparse, h, (path_determines_values.2.2 t ht _ _ _ _ h h').mp rfl⟩

/-- Two values in one part may share a path with two others. -/
example : ∃ t, parse "/{a}{b}" = .ok t ∧ ¬t.IsSeparated ∧
    t.resolve [("a", some "x"), ("b", some "")] = .ok "/x" ∧
    t.resolve [("a", some ""), ("b", some "x")] = .ok "/x" :=
  ⟨⟨"/{a}{b}", [.literal "/", .placeholder "a" none, .placeholder "b" none]⟩, by decide +kernel⟩

end Template

end Waybill
