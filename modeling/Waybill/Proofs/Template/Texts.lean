import Mathlib.Data.List.ReduceOption
import Waybill.Proofs.Percent
import Waybill.Proofs.Template.Filling
import Waybill.Proofs.Text.Ascii
import Waybill.Proofs.Url.Walk
import Waybill.Template.Parse

/-!
# The texts between the slashes of a template

A template is cut into segments at the slashes of its literal pieces. A slash in a value is none of
them: it is a character of the segment that the value is written into. So a filled template is seen
as a list of places, each a slash of the template or a character, and the texts of its segments are
what stands between the former.

Literal pieces that hold only letters, digits and a few signs are written as they are, so that a
path is the escaped texts with a slash before each of them.

## Main definitions

* `Waybill.Template.places`: a filled template, with its own slashes told from other characters.
* `Waybill.Template.texts`: the texts of its segments, nothing escaped.
* `Waybill.Template.IsSimple`: a path whose literal pieces need no escapes.

## Main results

* `Waybill.Template.toList_resolve`: a path that a simple template stands for is its texts, each
  escaped and with a slash before it.
-/

namespace Waybill

/-- What a piece of a template stands for: a slash of the template is `none`, a character of a text
is itself. -/
def Segment.places (bindings : List Binding) : Segment → List (Option Char)
  | .literal text => text.toList.map fun c => if c == '/' then none else some c
  | .placeholder name default =>
    match Template.valueOf bindings name default with
    | .ok value => value.toList.map some
    | .error _ => []

namespace Template

/-- A filled template, with its own slashes told from other characters. -/
def places (t : Template) (bindings : List Binding) : List (Option Char) :=
  t.segments.flatMap (·.places bindings)

/-- The texts of the segments of a filled template, nothing escaped: what stands between its
slashes, after the first of them. -/
def texts (t : Template) (bindings : List Binding) : List (List Char) :=
  (((t.places bindings).splitOnP Option.isNone).drop 1).map List.reduceOption

/-- Characters of literal pieces that no path escapes. -/
def isSimpleChar (c : Char) : Bool := c.isAlphanum || "-_~./".toList.contains c

/-- A template for a path from its root, whose literal pieces need no escapes. -/
structure IsSimple (t : Template) : Prop where
  rooted : ∃ text rest, t.segments = .literal text :: rest ∧ text.toList.head? = some '/'
  literal : ∀ text, .literal text ∈ t.segments → ∀ c ∈ text.toList, isSimpleChar c = true

/-- A place as it is written into a path. -/
def writePlace : Option Char → List Char
  | none => ['/']
  | some c => Percent.encodeChar Percent.segmentSet c

/-! ### Filled templates -/

theorem isAscii_of_isSimpleChar {c : Char} (h : isSimpleChar c = true) :
    Ascii.isAscii c = true := by
  have hsigns : ∀ d ∈ "-_~./".toList, Ascii.isAscii d = true :=
    Ascii.forall_mem_of_all (by decide)
  rw [isSimpleChar, Bool.or_eq_true, List.contains_iff_mem] at h
  rcases h with halphanum | hsign
  · exact Ascii.isAscii_of_isAlphanum halphanum
  · exact hsigns c hsign

theorem writePlace_literal {c : Char} (h : isSimpleChar c = true) :
    writePlace (if c == '/' then none else some c) = [c] := by
  have hascii := isAscii_of_isSimpleChar h
  have hkept := Ascii.forall_isAscii
    (P := fun c => isSimpleChar c = true → c ≠ '/' → Percent.segmentSet c = false)
    (by decide +kernel) c hascii h
  by_cases hslash : c = '/'
  · rw [hslash]
    rfl
  · simp [hslash, writePlace, Percent.encodeChar, hascii, hkept hslash]

theorem toList_fill {bindings : List Binding} {segment : Segment} {text : String}
    (hliteral : ∀ s, segment = .literal s → ∀ c ∈ s.toList, isSimpleChar c = true)
    (h : fill bindings segment = .ok text) :
    text.toList = (segment.places bindings).flatMap writePlace := by
  cases segment with
  | literal s =>
    obtain rfl : s = text := Except.ok.inj h
    have hsame : s.toList.flatMap (fun c => writePlace (if c == '/' then none else some c)) =
        s.toList.flatMap ([·]) :=
      List.flatMap_congr fun c hc => writePlace_literal (hliteral s rfl c hc)
    rw [Segment.places, List.flatMap_map, hsame, List.flatMap_singleton']
  | placeholder name default =>
    obtain ⟨value, hvalue, rfl⟩ := fill_placeholder_eq_ok h
    rw [Segment.places, hvalue, List.flatMap_map, Percent.segment, Percent.encodeText,
      String.toList_ofList]
    rfl

/-- Reading a text that starts with a slash gives a literal piece that starts with it. -/
theorem rooted_of_parse {source : String} {t : Template} (h : parse source = .ok t)
    (hslash : source.toList.head? = some '/') :
    ∃ text rest, t.segments = .literal text :: rest ∧ text.toList.head? = some '/' := by
  obtain ⟨c, cs, hsource⟩ := List.exists_cons_of_ne_nil
    (show source.toList ≠ [] by rintro h; simp [h] at hslash)
  obtain rfl : c = '/' := by simpa [hsource] using hslash
  have hclose : ¬('/' == '}') = true := by decide
  have hopen : ¬('/' == '{') = true := by decide
  rw [parse, hsource, scan, if_neg hclose, if_neg hopen] at h
  simp only at h
  generalize scan _ (cs.dropWhile isPlain) = scanned at h
  cases scanned with
  | error fault => cases h
  | ok rest =>
    obtain rfl := Except.ok.inj h
    exact ⟨_, rest, rfl, by simp⟩

/-! ### Texts and paths -/

theorem cons_flatMap_writePlace (places : List (Option Char)) :
    '/' :: places.flatMap writePlace =
      Url.pathText ((places.splitOnP Option.isNone).map (·.flatMap writePlace)) := by
  induction places with
  | nil => rfl
  | cons place rest ih =>
    obtain ⟨first, others, hcut⟩ :=
      List.exists_cons_of_ne_nil (List.splitOnP_ne_nil Option.isNone rest)
    rw [List.splitOnP_cons_eq_if_modifyHead, hcut, List.flatMap_cons]
    rw [hcut, List.map_cons, Url.pathText_cons, List.cons.injEq] at ih
    cases place with
    | none => simp [ih.2, writePlace]
    | some c => simp [ih.2]

/-- A piece without slashes of the template is its characters, escaped. -/
theorem flatMap_writePlace_of_forall {places : List (Option Char)}
    (h : ∀ place ∈ places, place.isNone = false) :
    places.flatMap writePlace = Percent.encode Percent.segmentSet places.reduceOption := by
  induction places with
  | nil => rfl
  | cons place rest ih =>
    have ih := ih fun p hp => h p (List.mem_cons_of_mem _ hp)
    cases place with
    | none => exact Bool.noConfusion (h none List.mem_cons_self)
    | some c =>
      rw [List.flatMap_cons, ih, List.reduceOption_cons_of_some, Percent.encode_cons]
      rfl

theorem IsSimple.places {t : Template} (ht : t.IsSimple) (bindings : List Binding) :
    ∃ rest, t.places bindings = none :: rest := by
  obtain ⟨text, rest, hsegments, hhead⟩ := ht.rooted
  obtain ⟨c, more, hmore⟩ := List.exists_cons_of_ne_nil
    (show text.toList ≠ [] by rintro h; simp [h] at hhead)
  obtain rfl : c = '/' := by simpa [hmore] using hhead
  rw [Template.places, hsegments, List.flatMap_cons, Segment.places, hmore]
  exact ⟨_, rfl⟩

/-- The first slash of a template stands before its first text. -/
theorem texts_of_places {t : Template} {bindings : List Binding} {rest : List (Option Char)}
    (hplaces : t.places bindings = none :: rest) :
    t.texts bindings = (rest.splitOnP Option.isNone).map List.reduceOption := by
  have hnone : Option.isNone (none : Option Char) = true := rfl
  rw [texts, hplaces, List.splitOnP_cons_eq_if_modifyHead, if_pos hnone, List.drop_one,
    List.tail_cons]

theorem texts_ne_nil {t : Template} (ht : t.IsSimple) (bindings : List Binding) :
    t.texts bindings ≠ [] := by
  obtain ⟨rest, hplaces⟩ := ht.places bindings
  rw [texts_of_places hplaces, Ne, List.map_eq_nil_iff]
  exact List.splitOnP_ne_nil _ rest

/-- **A path that a simple template stands for** is its texts, each escaped and with a slash before
it. -/
theorem toList_resolve {t : Template} (ht : t.IsSimple) {bindings : List Binding} {path : String}
    (h : t.resolve bindings = .ok path) :
    path.toList =
      Url.pathText ((t.texts bindings).map (Percent.encode Percent.segmentSet)) := by
  obtain ⟨rest, hplaces⟩ := ht.places bindings
  have hpath : path.toList = '/' :: rest.flatMap writePlace := by
    have hfill := toList_fillAll (fun s hs text => toList_fill fun other hother =>
      ht.literal other (hother ▸ hs)) h
    rwa [← List.flatMap_assoc, ← Template.places, hplaces, List.flatMap_cons] at hfill
  rw [hpath, texts_of_places hplaces, cons_flatMap_writePlace, List.map_map]
  refine congrArg Url.pathText (List.map_congr_left ?_)
  intro piece hpiece
  exact flatMap_writePlace_of_forall fun place hplace =>
    Cutting.not_mark_of_mem_splitOnP hpiece hplace

end Template

end Waybill
