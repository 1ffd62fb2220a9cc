import Waybill.Proofs.Configuration.Endpoint
import Waybill.Proofs.Template.Pieces

/-!
# Values and the segments of an endpoint

A value that is filled into a template is escaped so that it fills its place in one segment of a
path. Whether the endpoint of the path has the segments of the template, behind those of the base
URL and each with the text that was filled in, depends on four rules that meet in it: what a value
escapes, which values are refused, that the slashes at the start of a path are dropped, and how a
path of the web is read.

They do not agree everywhere. A backslash is not escaped in a value, and a path of the web reads it
as a slash. An empty text at the start of a path is lost with the slashes around it. And texts that
are dots only when a value has been filled in between others are not refused, but taken as steps.
Where none of this happens the segments are those of the template.

## Main definitions

* `Waybill.Url.Extends`: the segments of a URL are those of a base, and segments that stand for
  given texts.
* `Waybill.Template.FillsSegments`: what texts must be for that.

## Main results

* `Waybill.Configuration.endpoint_extends_iff`: the segments of an endpoint are those of the base
  URL and of the template exactly if its texts fill segments.
-/

namespace Waybill

/-- The segments of a URL are the trunk of a base, and behind it segments that stand for texts, one
for each and in their order. -/
def Url.Extends (u base : Url) (texts : List (List Char)) : Prop :=
  ∃ added, u.segments = base.trunk ++ added ∧
    added.map (fun s => Percent.decode (Utf8.encode s)) = texts.map Utf8.encode

/-- Texts that stay segments of their own in a path. -/
structure Template.FillsSegments (texts : List (List Char)) : Prop where
  /-- A backslash would split a segment. -/
  no_backslash : ∀ text ∈ texts, '\\' ∉ text
  /-- Dots would be taken as a step. -/
  no_step : ∀ text ∈ texts, text ≠ ['.'] ∧ text ≠ ['.', '.']
  /-- An empty text at the start would be lost with its slash, if another follows. -/
  first : texts.head? = some [] → texts = [[]]

/-! ### The segments of an endpoint -/

section Extends

open Template

variable {u base : Url} {texts : List (List Char)} {path : String}
  (hpath : path.toList = Url.pathText (texts.map escaped)) (hne : texts ≠ [])
  (hu : u.segments =
    Url.walk base.trunk (Url.piecesOf (Configuration.withoutLeadingSlashes path)))

include hpath hne hu

/-- **Texts that fill segments** are found in a URL whose path is a walk over the path that they are
written as. -/
theorem extends_of_fillsSegments (h : FillsSegments texts) : u.Extends base texts := by
  have hpieces := piecesOf_eq_pieces hpath hne h.first
  rw [pieces_of_no_backslash h.no_backslash] at hpieces
  have hstep : ∀ s ∈ texts.map escaped, Url.isStep s = false := by
    intro s hs
    obtain ⟨text, htext, rfl⟩ := List.mem_map.mp hs
    rw [Bool.eq_false_iff]
    intro hstep
    obtain ⟨hdot, hdots⟩ := h.no_step text htext
    exact ((isStep_escaped_iff text).mp hstep).elim hdot hdots
  refine ⟨texts.map escaped, ?_, ?_⟩
  · rw [hu, hpieces, Url.walk_of_forall _ (by simpa using hne) hstep]
  · rw [List.map_map]
    exact List.map_congr_left fun text _ => decode_escaped text

/-- The segments that stand for texts have come out of the walk, so that none of the texts holds a
backslash. -/
theorem no_backslash_of_extends (h : u.Extends base texts) : ∀ text ∈ texts, '\\' ∉ text := by
  obtain ⟨added, hsegments, hdecode⟩ := h
  intro text htext hmem
  have hbytes : Utf8.encode text ∈ added.map fun s => Percent.decode (Utf8.encode s) := by
    rw [hdecode]
    exact List.mem_map_of_mem htext
  obtain ⟨s, hs, hs'⟩ := List.mem_map.mp hbytes
  have hwalk : s ∈ (Url.walk base.trunk
      (Url.piecesOf (Configuration.withoutLeadingSlashes path))).drop base.trunk.length := by
    rw [← hu, hsegments, List.drop_left]
    exact hs
  have hbyte : Utf8.byte '\\' ∈ Utf8.encode text :=
    (Utf8.byte_mem_encode_iff (by decide) text).mpr hmem
  rcases Url.mem_drop_walk hwalk with hdrop | rfl | ⟨hpiece, -⟩
  · rw [List.drop_length] at hdrop
    cases hdrop
  · rw [← hs'] at hbyte
    cases hbyte
  · obtain ⟨other, hother, rfl⟩ :=
      exists_text_of_mem_pieces ((piecesOf_suffix hpath hne).subset hpiece)
    rw [← hs', decode_escaped] at hbyte
    exact hother ((Utf8.byte_mem_encode_iff (by decide) other).mp hbyte)

omit hne in
/-- The first text is not lost: as many segments stand for the texts as there are texts. -/
theorem first_of_extends (hbackslash : ∀ text ∈ texts, '\\' ∉ text) (h : u.Extends base texts) :
    texts.head? = some [] → texts = [[]] := by
  intro hhead
  obtain ⟨text, others, rfl⟩ := List.exists_cons_of_ne_nil
    (show texts ≠ [] by rintro rfl; cases hhead)
  obtain rfl : text = [] := Option.some.inj hhead
  by_contra hothers
  have hsuffix := piecesOf_suffix_of_first_nil (by simpa using hothers) hpath
  rw [pieces_of_no_backslash fun t ht => hbackslash t (List.mem_cons_of_mem _ ht)] at hsuffix
  obtain ⟨added, hsegments, hdecode⟩ := h
  have hlength : added.length = others.length + 1 := by
    simpa using congrArg List.length hdecode
  have hwalk := Url.length_walk_le base.trunk
    (Url.piecesOf_ne_nil (Configuration.withoutLeadingSlashes path))
  have hpieces := hsuffix.length_le
  rw [← hu, hsegments, List.length_append] at hwalk
  rw [List.length_map] at hpieces
  omega

/-- No text is a step: the walk has kept all pieces. -/
theorem no_step_of_extends (hbackslash : ∀ text ∈ texts, '\\' ∉ text)
    (hfirst : texts.head? = some [] → texts = [[]]) (h : u.Extends base texts) :
    ∀ text ∈ texts, Url.isStep (escaped text) = false := by
  obtain ⟨before, last, rfl⟩ := texts.eq_nil_or_concat'.resolve_left hne
  obtain ⟨added, hsegments, hdecode⟩ := h
  have hpieces : Url.piecesOf (Configuration.withoutLeadingSlashes path) =
      before.map escaped ++ [escaped last] := by
    rw [piecesOf_eq_pieces hpath hne hfirst, pieces_of_no_backslash hbackslash, List.map_append,
      List.map_singleton]
  rw [hpieces, hsegments] at hu
  have hlength : added.length = before.length + 1 := by
    simpa using congrArg List.length hdecode
  have hlong : base.trunk.length + ((before.map escaped).length + 1) ≤
      (Url.walk base.trunk (before.map escaped ++ [escaped last])).length := by
    rw [← hu, List.length_append, List.length_map]
    omega
  obtain ⟨hbefore, hwalk⟩ := Url.walk_eq_of_length_walk base.trunk hlong
  rw [hwalk, List.append_assoc, List.append_cancel_left_eq] at hu
  rw [hu, List.map_append, List.map_append] at hdecode
  have hlast := (List.append_inj' hdecode (by simp)).2
  have hkept : Url.isStep (escaped last) = false := by
    by_contra hstep
    rw [Bool.not_eq_false] at hstep
    rw [if_pos hstep] at hlast
    have hnil : Utf8.encode last = [] := (List.cons.inj hlast).1.symm
    rw [Utf8.encode_eq_nil_iff.mp hnil] at hstep
    cases hstep
  intro text htext
  rcases List.mem_append.mp htext with htext | htext
  · exact hbefore _ (List.mem_map_of_mem htext)
  · rw [List.mem_singleton.mp htext]
    exact hkept

/-- **Texts that are found in a URL** whose path is a walk over the path that they are written as
fill segments. -/
theorem fillsSegments_of_extends (h : u.Extends base texts) : FillsSegments texts := by
  have hbackslash := no_backslash_of_extends hpath hne hu h
  have hfirst := first_of_extends hpath hu hbackslash h
  have hstep := no_step_of_extends hpath hne hu hbackslash hfirst h
  refine ⟨hbackslash, fun text htext => ?_, hfirst⟩
  have hkept := hstep text htext
  constructor
  · rintro rfl
    exact absurd hkept (by decide)
  · rintro rfl
    exact absurd hkept (by decide)

end Extends

namespace Configuration

theorem schemeKind_web {scheme : String} (h : scheme = "http" ∨ scheme = "https") :
    Url.schemeKind scheme = .web := by
  rcases h with rfl | rfl <;> decide

/-- **The segments of an endpoint.** Let the base be a URL of the web that was read, without query
and fragment, and let the template be one that was read, that starts with a slash and whose literal
pieces need no escapes. A path that it stands for has an endpoint if the text of the host of the
base is read as a host, and the segments of the endpoint are those of the base and of the template,
each with the text that was filled in, exactly if these texts fill segments. -/
theorem endpoint_extends_iff {c : Configuration} {base : String}
    (hbase : Url.parse base = .ok c.baseUrl)
    (hscheme : c.baseUrl.scheme = "http" ∨ c.baseUrl.scheme = "https")
    (hquery : c.baseUrl.query = none) (hfragment : c.baseUrl.fragment = none)
    {source : String} {t : Template} (htemplate : Template.parse source = .ok t)
    (hslash : source.toList.head? = some '/')
    (hliteral : ∀ text, .literal text ∈ t.segments →
      ∀ x ∈ text.toList, Template.isSimpleChar x = true)
    {bindings : List Binding} {path : String} (hresolve : t.resolve bindings = .ok path) :
    ((∃ u, c.endpoint path = .ok u) ↔
        ∃ host h, c.baseUrl.host = some host ∧ Host.ofDomain host.write.toList = .ok h) ∧
      ∀ u, c.endpoint path = .ok u →
        (u.Extends c.baseUrl (t.texts bindings) ↔ Template.FillsSegments (t.texts bindings)) := by
  have hweb := Url.isWeb_of_parse hbase (schemeKind_web hscheme)
  have hsimple : t.IsSimple := ⟨Template.rooted_of_parse htemplate hslash, hliteral⟩
  have hpath := Template.toList_resolve hsimple hresolve
  have hne := Template.texts_ne_nil hsimple bindings
  have hplain := Template.plain_path hpath
  refine ⟨exists_endpoint_iff hweb path, fun u hu => ?_⟩
  have hsegments := segments_of_endpoint hweb hquery hfragment hplain hu
  exact ⟨fillsSegments_of_extends hpath hne hsegments,
    extends_of_fillsSegments hpath hne hsegments⟩

/-- A path on this machine. -/
def loopback (path : String) : Url :=
  ⟨"http", "", "", some (.ipv6 [0, 0, 0, 0, 0, 0, 0, 1]), none, false, path, none, none⟩

/-- A template with a placeholder for each of its last two segments. -/
def notes : Template :=
  ⟨"/notes/{id=draft}/{lang=en}", [.literal "/notes/", .placeholder "id" (some "draft"),
    .literal "/", .placeholder "lang" (some "en")]⟩

theorem parse_notes : Template.parse "/notes/{id=draft}/{lang=en}" = .ok notes := by
  decide +kernel

/-- Slashes and escapes in a value fill one segment, and a default stands in for a missing value. -/
theorem endpoint_extends_iff_of_slash_in_value :
    ∃ u, (ofUrl (loopback "/v1//")).endpoint "/notes/..%2F%3F%2525/en" = .ok u ∧
      u.Extends (loopback "/v1//") (notes.texts [("id", some "../?%25"), ("lang", none)]) := by
  have hbase : Url.parse "http://[::1]/v1//" = .ok (ofUrl (loopback "/v1//")).baseUrl := by rfl
  have hliteral : ∀ text, .literal text ∈ notes.segments →
      ∀ x ∈ text.toList, Template.isSimpleChar x = true := by
    intro text htext
    simp only [notes, List.mem_cons, List.not_mem_nil, reduceCtorEq, Segment.literal.injEq,
      or_false, false_or] at htext
    rcases htext with rfl | rfl <;> exact Ascii.forall_mem_of_all (by decide)
  have hresolve : notes.resolve [("id", some "../?%25"), ("lang", none)] =
      .ok "/notes/..%2F%3F%2525/en" := by decide
  obtain ⟨hexists, hextends⟩ := endpoint_extends_iff hbase (Or.inl rfl) rfl rfl parse_notes rfl
    hliteral hresolve
  obtain ⟨u, hu⟩ := hexists.mpr ⟨_, .ipv6 [0, 0, 0, 0, 0, 0, 0, 1], rfl, by rfl⟩
  refine ⟨u, hu, (hextends u hu).mpr ⟨?_, ?_, ?_⟩⟩
  · decide
  · decide
  · decide

/-- A backslash in a value splits its segment. -/
theorem not_extends_of_backslash :
    Url.parse "http://[::1]/" = .ok (loopback "/") ∧
      Template.parse "/notes/{id=draft}/{lang=en}" = .ok notes ∧
      notes.resolve [("id", some "a\\b"), ("lang", some "fr")] = .ok "/notes/a\\b/fr" ∧
      (ofUrl (loopback "/")).endpoint "/notes/a\\b/fr" = .ok (loopback "/notes/a/b/fr") ∧
      ¬(loopback "/notes/a/b/fr").Extends (loopback "/")
        (notes.texts [("id", some "a\\b"), ("lang", some "fr")]) := by
  refine ⟨by rfl, parse_notes, by decide, by decide +kernel, ?_⟩
  rintro ⟨added, hsegments, hdecode⟩
  have hfour : added.length = 4 := by
    have htrunk : (loopback "/").trunk = [] := by rfl
    rw [htrunk, List.nil_append] at hsegments
    rw [← hsegments]
    rfl
  have htexts : (notes.texts [("id", some "a\\b"), ("lang", some "fr")]).length = 3 := by decide
  have hthree : added.length = 3 := by
    rw [← htexts]
    simpa using congrArg List.length hdecode
  omega

end Configuration

end Waybill
