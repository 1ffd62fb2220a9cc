import Waybill.Proofs.Configuration.Segments

/-!
# Where the path of an endpoint goes

An endpoint is meant to be the base URL with a path appended to the path of the base. What is
appended to is the text of the base, and this ends with its path only if the base has neither a
query nor a fragment. Then the path of the endpoint is that of the base without the slashes at its
end, a slash, and the given path without the slashes at its start. Else the given path lands in the
query or in the fragment, and all endpoints have the path of the base.

## Main definitions

* `Waybill.Configuration.IsRoute`: a path of names, with or without slashes around them.

## Main results

* `Waybill.Configuration.path_of_endpoint_of_mark`: behind a query or a fragment no path changes the
  path of the base.
* `Waybill.Configuration.endpoint_appends_iff`: a path of names is appended to the path of the base
  exactly if the base has neither a query nor a fragment.
-/

namespace Waybill

namespace Url

/-! ### Reading paths again -/

theorem IsWeb.readPathStart {u : Url} (hu : u.IsWeb) :
    (web.readPathStart u.path.toList).1 = u.path.toList := by
  obtain ⟨segs, hne, hsegs, hpath⟩ := hu.path
  obtain ⟨before, last, rfl⟩ := segs.eq_nil_or_concat'.resolve_left hne
  have hlast : IsSegment last := hsegs last (by simp)
  have hpieces : piecesOf last = [last] := by
    rw [piecesOf, List.splitOnP_eq_singleton hlast.not_separator, List.map_singleton,
      writtenPiece_of_plain hlast.plain]
  have htext : u.path.toList = pathText before ++ '/' :: last := by rw [hpath]; simp
  rw [htext, readPathStart_append fun s hs => hsegs s (by simp [hs]), hpieces,
    walk_of_forall _ (by simp) (by simpa using hlast.not_step)]
  simp

theorem IsWeb.plain_path {u : Url} (hu : u.IsWeb) : Percent.Plain pathSet u.path.toList := by
  obtain ⟨segs, -, hsegs, hpath⟩ := hu.path
  rw [hpath]
  exact plain_pathText fun s hs => (hsegs s hs).plain

theorem path_withTail_of_mark (u : Url) (host : Host) {body : List Char}
    (hbody : Percent.Plain pathSet body) {mark : Char} (hmark : mark = '?' ∨ mark = '#')
    (rest : List Char) :
    (u.withTail host (body ++ mark :: rest)).path =
      String.ofList (web.readPathStart body).1 := by
  have hfragment : '#' ∉ body := hbody.not_mem rfl
  have hquery : '?' ∉ body := hbody.not_mem rfl
  rcases hmark with rfl | rfl
  · have hne : '#' ≠ '?' := by decide
    simp only [withTail, cutAt_append hfragment, cutAt_cons_of_ne hne, cutAt_append hquery,
      cutAt_cons_self, List.append_nil]
  · simp only [withTail, cutAt_append hfragment, cutAt_cons_self, List.append_nil,
      cutAt_of_not_mem hquery]

/-- The text of a URL with a query or a fragment has the mark of one behind its path. -/
theorem exists_write_of_mark {u : Url} (h : ¬(u.query = none ∧ u.fragment = none)) :
    ∃ mark more, (mark = '?' ∨ mark = '#') ∧
      u.write.toList = u.opening.toList ++ u.path.toList ++ mark :: more := by
  cases hquery : u.query with
  | some query =>
    exact ⟨'?', query.toList ++ u.fragmentText.toList, .inl rfl, by
      simp [write_eq_opening, queryText, hquery]⟩
  | none =>
    obtain ⟨fragment, hfragment⟩ :=
      Option.ne_none_iff_exists'.mp fun hnone => h ⟨hquery, hnone⟩
    exact ⟨'#', fragment.toList, .inr rfl, by
      simp [write_eq_opening, queryText, fragmentText, hquery, hfragment]⟩

end Url

namespace Configuration

open Url

/-! ### Behind a query or a fragment -/

/-- **Behind a query or a fragment no path changes the path of the base.** -/
theorem path_of_endpoint_of_mark {c : Configuration} (hbase : c.baseUrl.IsWeb)
    (hmark : ¬(c.baseUrl.query = none ∧ c.baseUrl.fragment = none)) {path : String} {u : Url}
    (hu : c.endpoint path = .ok u) : u.path = c.baseUrl.path := by
  obtain ⟨host, hhost, -⟩ := hbase.host
  obtain ⟨mark, more, hmark, hwrite⟩ := exists_write_of_mark hmark
  obtain ⟨segs, hne, -, hpath⟩ := hbase.path
  obtain ⟨rest, hrest⟩ := exists_cons_of_pathText hne
  rw [hrest] at hpath
  -- no slash before the mark is at the end of the text, and no blank
  have hkept (p : Char → Bool) (hp : p mark = false) (xs ys : List Char) :
      (xs ++ mark :: ys).rdropWhile p = xs ++ mark :: ys.rdropWhile p := by
    have hlast : ∀ c, (xs ++ [mark]).getLast? = some c → p c = false := by
      simpa using hp
    simpa using Cutting.rdropWhile_append_of_getLast ys hlast
  have hslash : (mark == '/') = false := by rcases hmark with rfl | rfl <;> rfl
  have htrimmed : isTrimmed mark = false := by rcases hmark with rfl | rfl <;> rfl
  have htext : (c.endpointText path).toList = c.baseUrl.opening.toList ++
      '/' :: (rest ++ mark :: (more.rdropWhile (· == '/') ++
        '/' :: withoutLeadingSlashes path)) := by
    have hwithout : withoutFinalSlashes c.baseUrl.write =
        (c.baseUrl.opening.toList ++ '/' :: rest) ++ mark :: more.rdropWhile (· == '/') := by
      rw [withoutFinalSlashes, hwrite, hpath]
      exact hkept (· == '/') hslash _ _
    rw [endpointText, String.toList_ofList, hwithout]
    simp
  rw [endpoint, Url.read, Url.parse, htext, parseChars_opening hbase hhost,
    hkept isTrimmed htrimmed, ← List.cons_append, ← hpath] at hu
  cases hread : Host.ofDomain host.write.toList with
  | error e => rw [hread] at hu; cases hu
  | ok h =>
    rw [hread] at hu
    obtain rfl := Except.ok.inj hu
    rw [path_withTail_of_mark c.baseUrl h hbase.plain_path hmark, hbase.readPathStart,
      String.ofList_toList]

/-! ### Paths of names -/

/-- Letters, digits and the marks that no part of a URL gives a meaning to. -/
def isNameChar (c : Char) : Bool := c.isAlphanum || "-_~".toList.contains c

/-- The name of a resource: it fills a segment of a path as it is. -/
structure IsName (s : List Char) : Prop where
  ne_nil : s ≠ []
  all : ∀ c ∈ s, isNameChar c = true

/-- A path of names with slashes between them, and perhaps a slash before and one behind them. -/
def IsRoute (path : String) : Prop :=
  ∃ (before behind : Bool) (names : List (List Char)), names ≠ [] ∧ (∀ s ∈ names, IsName s) ∧
    path.toList = (if before then ['/'] else []) ++ ['/'].intercalate names ++
      (if behind then ['/'] else [])

theorem isAscii_of_isNameChar {c : Char} (h : isNameChar c = true) : Ascii.isAscii c = true := by
  have hmarks : ∀ d ∈ "-_~".toList, Template.isSimpleChar d = true :=
    Ascii.forall_mem_of_all (by decide)
  refine Template.isAscii_of_isSimpleChar ?_
  rw [isNameChar, Bool.or_eq_true, List.contains_iff_mem] at h
  rcases h with h | h
  · rw [Template.isSimpleChar, h, Bool.true_or]
  · exact hmarks c h

/-- Characters of names are never escaped, and none of them separates segments or makes a step. -/
theorem of_isNameChar {c : Char} (h : isNameChar c = true) :
    Percent.segmentSet c = false ∧ isSeparator .web c = false ∧ c ≠ '/' ∧ c ≠ '.' :=
  Ascii.forall_isAscii
    (P := fun c => isNameChar c = true →
      Percent.segmentSet c = false ∧ isSeparator .web c = false ∧ c ≠ '/' ∧ c ≠ '.')
    (by decide +kernel) c (isAscii_of_isNameChar h) h

/-- A name stays as it is where a path is read. -/
theorem IsName.isSegment {s : List Char} (h : IsName s) : IsSegment s := by
  have hescaped : Template.escaped s = s :=
    Percent.encode_eq_self fun c hc =>
      ⟨isAscii_of_isNameChar (h.all c hc), (of_isNameChar (h.all c hc)).1⟩
  have hdot : '.' ∉ s := fun hc => (of_isNameChar (h.all _ hc)).2.2.2 rfl
  refine ⟨?_, fun c hc => (of_isNameChar (h.all c hc)).2.1, ?_⟩
  · rw [← hescaped]
    exact Template.plain_escaped s
  · rw [← hescaped, Bool.eq_false_iff]
    intro hstep
    rcases (Template.isStep_escaped_iff s).mp hstep with rfl | rfl
    · exact hdot List.mem_cons_self
    · exact hdot List.mem_cons_self

theorem cons_intercalate {segs : List (List Char)} (hne : segs ≠ []) :
    '/' :: ['/'].intercalate segs = pathText segs := by
  obtain ⟨s, rest, rfl⟩ := List.exists_cons_of_ne_nil hne
  rw [Cutting.intercalate_cons]
  rfl

/-- The segments of a path of names: the names, and an empty one for a slash behind them. -/
theorem IsRoute.exists_segments {path : String} (h : IsRoute path) :
    ∃ name others, IsName name ∧ (∀ s ∈ others, IsSegment s) ∧
      '/' :: withoutLeadingSlashes path = pathText (name :: others) := by
  obtain ⟨before, behind, names, hne, hnames, hpath⟩ := h
  obtain ⟨name, others, rfl⟩ := List.exists_cons_of_ne_nil hne
  have hname := hnames name List.mem_cons_self
  have htext : ['/'].intercalate (name :: others) = name ++ pathText others :=
    (List.cons.inj (cons_intercalate hne)).2
  have hwithout : withoutLeadingSlashes path =
      name ++ (pathText others ++ if behind then ['/'] else []) := by
    have hslashes : ∀ c ∈ (if before then ['/'] else []), (c == '/') = true := by
      cases before <;> simp
    obtain ⟨c, more, rfl⟩ := List.exists_cons_of_ne_nil hname.ne_nil
    have hc : (c == '/') = false :=
      beq_eq_false_iff_ne.mpr (of_isNameChar (hname.all c List.mem_cons_self)).2.2.1
    rw [withoutLeadingSlashes, hpath, htext, List.append_assoc,
      List.dropWhile_append_of_pos hslashes, List.append_assoc, List.cons_append,
      List.dropWhile_cons_of_neg (by simp [hc])]
  refine ⟨name, others ++ (if behind then [[]] else []), hname, fun s hs => ?_, ?_⟩
  · rcases List.mem_append.mp hs with hs | hs
    · exact (hnames s (List.mem_cons_of_mem _ hs)).isSegment
    · cases behind with
      | false => cases hs
      | true =>
        rw [List.mem_singleton.mp hs]
        exact isSegment_nil
  · rw [hwithout]
    cases behind <;> simp

theorem IsRoute.plain {path : String} (h : IsRoute path) :
    Percent.Plain pathSet path.toList := by
  obtain ⟨name, others, hname, hothers, htext⟩ := h.exists_segments
  have hplain : Percent.Plain pathSet ('/' :: withoutLeadingSlashes path) := by
    rw [htext]
    exact plain_pathText (List.forall_mem_cons.mpr
      ⟨hname.isSegment.plain, fun s hs => (hothers s hs).plain⟩)
  refine hplain.of_subset fun c hc => ?_
  rw [← List.takeWhile_append_dropWhile (p := (· == '/')) (l := path.toList)] at hc
  rcases List.mem_append.mp hc with hc | hc
  · have hslash : (c == '/') = true := List.mem_takeWhile_imp (p := (· == '/')) hc
    rw [beq_iff_eq.mp hslash]
    exact List.mem_cons_self
  · exact List.mem_cons_of_mem _ hc

/-- The pieces of a path without escapes are its segments. -/
theorem piecesOf_of_pathText {cs : List Char} {segs : List (List Char)}
    (hsegs : ∀ s ∈ segs, IsSegment s) (hcs : '/' :: cs = pathText segs) :
    piecesOf cs = segs := by
  have hplain : Percent.Plain pathSet cs := by
    have hall := plain_pathText fun s hs => (hsegs s hs).plain
    rw [← hcs] at hall
    exact fun c hc => hall c (List.mem_cons_of_mem _ hc)
  rw [Template.piecesOf_of_plain hplain, splitOnP_of_pathText rfl hcs.symm,
    flatMap_splitOnP_of_forall fun s hs => (hsegs s hs).not_separator]

/-! ### Appending a path -/

/-- The path of a base without the slashes at its end, a slash, and a path without the slashes at
its start. -/
def appended (base : Url) (path : String) : String :=
  String.ofList (withoutFinalSlashes base.path ++ '/' :: withoutLeadingSlashes path)

/-- A path of names adds more than slashes. -/
theorem appended_ne_path {base : Url} {path : String} (h : IsRoute path) :
    appended base path ≠ base.path := by
  intro heq
  obtain ⟨name, others, hname, -, htext⟩ := h.exists_segments
  obtain ⟨c, more, rfl⟩ := List.exists_cons_of_ne_nil hname.ne_nil
  have hrest : withoutLeadingSlashes path = c :: (more ++ pathText others) :=
    (List.cons.inj htext).2
  have hbase : withoutFinalSlashes base.path ++ base.path.toList.rtakeWhile (· == '/') =
      base.path.toList := List.rdropWhile_append_rtakeWhile
  have hlist := congrArg String.toList heq
  rw [appended, String.toList_ofList, ← hbase, hrest] at hlist
  have hslashes := List.append_cancel_left hlist
  have hmem : c ∈ base.path.toList.rtakeWhile (· == '/') := by
    rw [← hslashes]
    simp
  have hslash : (c == '/') = true := List.mem_rtakeWhile_imp (p := (· == '/')) hmem
  exact (of_isNameChar (hname.all c List.mem_cons_self)).2.2.1 (beq_iff_eq.mp hslash)

/-- The path of an endpoint of a base without query and fragment. -/
theorem path_of_endpoint {c : Configuration} (hbase : c.baseUrl.IsWeb)
    (hquery : c.baseUrl.query = none) (hfragment : c.baseUrl.fragment = none) {path : String}
    (hroute : IsRoute path) {u : Url} (hu : c.endpoint path = .ok u) :
    u.path = appended c.baseUrl path := by
  obtain ⟨name, others, hname, hothers, htext⟩ := hroute.exists_segments
  have hsegs : ∀ s ∈ name :: others, IsSegment s :=
    List.forall_mem_cons.mpr ⟨hname.isSegment, hothers⟩
  have hwalk : walk c.baseUrl.trunk (piecesOf (withoutLeadingSlashes path)) =
      c.baseUrl.trunk ++ (name :: others) := by
    rw [piecesOf_of_pathText hsegs htext]
    exact walk_of_forall _ (by simp) fun s hs => (hsegs s hs).not_step
  obtain ⟨host, hhost, -⟩ := hbase.host
  rw [endpoint_eq hbase hquery hfragment hhost hroute.plain, hwalk] at hu
  split at hu
  · cases hu
  · obtain rfl := Except.ok.inj hu
    rw [appended, hbase.trunk.2, htext, pathText_append]

/-- **Appending a path of names.** Let the base be a URL of the web that was read. A path of names
has an endpoint if the text of the host of the base is read as a host. The path of the endpoint is
the path of the base without the slashes at its end, a slash, and the given path without the slashes
at its start, exactly if the base has neither a query nor a fragment. If it has one the path of the
endpoint is that of the base, whatever the given path is. -/
theorem endpoint_appends_iff {c : Configuration} {base : String}
    (hbase : Url.parse base = .ok c.baseUrl)
    (hscheme : c.baseUrl.scheme = "http" ∨ c.baseUrl.scheme = "https")
    {path : String} (hroute : IsRoute path) :
    ((∃ u, c.endpoint path = .ok u) ↔
        ∃ host h, c.baseUrl.host = some host ∧ Host.ofDomain host.write.toList = .ok h) ∧
      (∀ u, c.endpoint path = .ok u →
        (u.path = appended c.baseUrl path ↔
          c.baseUrl.query = none ∧ c.baseUrl.fragment = none)) ∧
      (¬(c.baseUrl.query = none ∧ c.baseUrl.fragment = none) →
        ∀ other u, c.endpoint other = .ok u → u.path = c.baseUrl.path) := by
  have hweb := isWeb_of_parse hbase (schemeKind_web hscheme)
  refine ⟨exists_endpoint_iff hweb path, fun u hu => ⟨fun happended => ?_, ?_⟩,
    fun hmark other u hu => path_of_endpoint_of_mark hweb hmark hu⟩
  · by_contra hmark
    exact appended_ne_path hroute (happended.symm.trans (path_of_endpoint_of_mark hweb hmark hu))
  · rintro ⟨hquery, hfragment⟩
    exact path_of_endpoint hweb hquery hfragment hroute hu

/-- A path of two names behind a base path with slashes at its end. -/
theorem endpoint_appends_iff_of_two_names :
    ∃ u, (ofUrl (loopback "/v1//")).endpoint "posts/a-1/" = .ok u ∧ u.path = "/v1/posts/a-1/" := by
  have hbase : Url.parse "http://[::1]/v1//" = .ok (ofUrl (loopback "/v1//")).baseUrl := by rfl
  have hroute : IsRoute "posts/a-1/" := by
    refine ⟨false, true, ["posts".toList, "a-1".toList], by simp, ?_, by rfl⟩
    simp only [List.forall_mem_cons]
    exact ⟨⟨by decide, Ascii.forall_mem_of_all (by decide)⟩,
      ⟨by decide, Ascii.forall_mem_of_all (by decide)⟩, by simp⟩
  obtain ⟨hexists, happended, -⟩ := endpoint_appends_iff hbase (Or.inl rfl) hroute
  obtain ⟨u, hu⟩ := hexists.mpr ⟨_, .ipv6 [0, 0, 0, 0, 0, 0, 0, 1], rfl, by rfl⟩
  exact ⟨u, hu, (happended u hu).mpr ⟨rfl, rfl⟩⟩

/-- A base URL with a query. -/
def keyed : Url := { loopback "/api" with query := some "k=v" }

/-- A path that is appended to a query goes into the query. -/
theorem not_appended_to_query :
    Url.parse "http://[::1]/api?k=v" = .ok keyed ∧ IsRoute "/posts" ∧
      (ofUrl keyed).endpoint "/posts" = .ok { keyed with query := some "k=v/posts" } ∧
      appended keyed "/posts" = "/api/posts" ∧ keyed.path ≠ appended keyed "/posts" := by
  refine ⟨by rfl, ⟨true, false, ["posts".toList], by simp, ?_, by rfl⟩, by decide +kernel, by rfl,
    by decide⟩
  simp only [List.forall_mem_cons]
  exact ⟨⟨by decide, Ascii.forall_mem_of_all (by decide)⟩, by simp⟩

end Configuration

end Waybill
