import Waybill.Configuration
import Waybill.Proofs.Url.Web

/-!
# The URL of an endpoint

The text of an endpoint is that of the base URL, without the slashes at its end, a slash and a path.
The slashes that are lost stand behind the authority, since an authority ends with a host or a port,
and the slash that is written comes before anything of the path. So the authority ends in the text
of an endpoint where it ends in the text of the base, whatever the path is and whatever the base has
behind its authority: of the path only components behind the authority are read.

If the base URL is without a query and a fragment, and the path holds nothing that a path escapes,
the text is read as the base URL with another path: the walk that starts from the segments of the
base and goes on with the pieces of the path.

## Main definitions

* `Waybill.Url.segments`: the segments of the path of a URL.
* `Waybill.Url.trunk`: those of its path without the slashes at the end.

## Main results

* `Waybill.Configuration.endpoint_eq_withTail`: an endpoint is the base URL with other components
  behind its authority.
* `Waybill.Configuration.endpoint_eq`: the URL of an endpoint, or why there is none.
* `Waybill.Configuration.segments_of_endpoint`: the segments of that URL.
-/

namespace Waybill

namespace Url

/-- The segments of the path of a URL. -/
def segments (u : Url) : List (List Char) := segmentsOf u.path.toList

/-- The segments of the path of a URL without the slashes at its end. -/
def trunk (u : Url) : List (List Char) := segmentsOf (Configuration.withoutFinalSlashes u.path)

/-- Of the path of a URL that was read the trunk is left when the slashes at its end are. -/
theorem IsWeb.trunk {u : Url} (hu : u.IsWeb) :
    (∀ s ∈ u.trunk, IsSegment s) ∧
      Configuration.withoutFinalSlashes u.path = pathText u.trunk := by
  obtain ⟨segs, -, hsegs, hpath⟩ := hu.path
  have hslash : ∀ s ∈ segs, '/' ∉ s := fun s hs => (hsegs s hs).not_slash
  have hsub : ∀ s ∈ segs.rdropWhile List.isEmpty, s ∈ segs :=
    fun s hs => (List.rdropWhile_prefix _ _).subset hs
  have hwithout : Configuration.withoutFinalSlashes u.path =
      pathText (segs.rdropWhile List.isEmpty) := by
    rw [Configuration.withoutFinalSlashes, hpath]
    exact rdropWhile_pathText hslash
  have htrunk : u.trunk = segs.rdropWhile List.isEmpty := by
    rw [Url.trunk, hwithout, segmentsOf_pathText fun s hs => hslash s (hsub s hs)]
  rw [htrunk]
  exact ⟨fun s hs => hsegs s (hsub s hs), hwithout⟩

theorem IsWeb.exists_toList_write {u : Url} (hu : u.IsWeb) :
    ∃ tail, u.write.toList = u.opening.toList ++ '/' :: tail := by
  obtain ⟨segs, hne, -, hpath⟩ := hu.path
  obtain ⟨rest, hrest⟩ := exists_cons_of_pathText hne
  exact ⟨rest ++ u.queryText.toList ++ u.fragmentText.toList, by
    simp [write_eq_opening, hpath, hrest]⟩

/-- The slashes at the end of the text of a URL stand behind its opening. -/
theorem IsWeb.exists_withoutFinalSlashes_write {u : Url} (hu : u.IsWeb) :
    ∃ rest, Configuration.withoutFinalSlashes u.write = u.opening.toList ++ rest ∧
      (rest = [] ∨ ∃ more, rest = '/' :: more) := by
  obtain ⟨tail, hwrite⟩ := hu.exists_toList_write
  refine ⟨('/' :: tail).rdropWhile (· == '/'), ?_, ?_⟩
  · rw [Configuration.withoutFinalSlashes, hwrite]
    exact Cutting.rdropWhile_append_of_getLast _ (not_slash_of_getLast?_opening hu)
  · have hprefix := List.rdropWhile_prefix (· == '/') ('/' :: tail)
    cases hkept : ('/' :: tail).rdropWhile (· == '/') with
    | nil => exact .inl rfl
    | cons c more =>
      rw [hkept] at hprefix
      rw [(List.cons_prefix_cons.mp hprefix).1]
      exact .inr ⟨more, rfl⟩

/-- The text of a URL without a query and a fragment loses the slashes at the end of its path. -/
theorem withoutFinalSlashes_write {u : Url} (hu : u.IsWeb) (hquery : u.query = none)
    (hfragment : u.fragment = none) :
    Configuration.withoutFinalSlashes u.write = u.opening.toList ++ pathText u.trunk := by
  have hwrite : u.write.toList = u.opening.toList ++ u.path.toList := by
    simp [write_eq_opening, queryText, fragmentText, hquery, hfragment]
  have hpath := hu.trunk.2
  rw [Configuration.withoutFinalSlashes] at hpath ⊢
  rw [hwrite, ← hpath]
  exact Cutting.rdropWhile_append_of_getLast u.path.toList (not_slash_of_getLast?_opening hu)

/-- What follows the opening of a URL is its path, if nothing in it is escaped. -/
theorem withTail_of_plain (u : Url) (host : Host) {cs : List Char}
    (h : Percent.Plain pathSet cs) :
    u.withTail host cs = { u with
      host := some host
      path := String.ofList (web.readPathStart cs).1
      query := none
      fragment := none } := by
  rw [withTail, cutAt_of_not_mem (h.not_mem rfl)]
  simp only [cutAt_of_not_mem (h.not_mem (c := '?') rfl)]
  rfl

theorem rdropWhile_isTrimmed_of_plain {cs : List Char} (h : Percent.Plain pathSet cs) :
    cs.rdropWhile isTrimmed = cs := by
  rw [List.rdropWhile_eq_self_iff]
  intro hne htrimmed
  obtain ⟨hascii, hkept⟩ := h _ (List.getLast_mem hne)
  have hset := Ascii.forall_isAscii (P := fun c => isTrimmed c = true → pathSet c = true)
    (by decide +kernel) _ hascii htrimmed
  rw [hkept] at hset
  cases hset

end Url

namespace Configuration

/-- **An endpoint is the base URL with other components behind its authority**, if the text of the
host of the base is read as a host; else there is none. -/
theorem endpoint_eq_withTail {c : Configuration} (hbase : c.baseUrl.IsWeb) {host : Host}
    (hhost : c.baseUrl.host = some host) (path : String) :
    ∃ cs, c.endpoint path =
      match Host.ofDomain host.write.toList with
      | .error e => .error (.invalidUrl e)
      | .ok h => .ok (c.baseUrl.withTail h cs) := by
  obtain ⟨rest, hwrite, hrest⟩ := hbase.exists_withoutFinalSlashes_write
  obtain ⟨tail, htail⟩ : ∃ tail, rest ++ '/' :: withoutLeadingSlashes path = '/' :: tail := by
    rcases hrest with rfl | ⟨more, rfl⟩
    · exact ⟨_, rfl⟩
    · exact ⟨_, List.cons_append⟩
  have htext : (c.endpointText path).toList = c.baseUrl.opening.toList ++ '/' :: tail := by
    rw [endpointText, String.toList_ofList, hwrite, List.append_assoc, htail]
  refine ⟨'/' :: tail.rdropWhile Url.isTrimmed, ?_⟩
  rw [endpoint, Url.read, Url.parse, htext, Url.parseChars_opening hbase hhost]
  cases Host.ofDomain host.write.toList <;> rfl

/-- **The URL of an endpoint.** For a path in which nothing is escaped it is the base URL with the
path that a walk from its trunk leads to, if the text of the host of the base is read as a host. -/
theorem endpoint_eq {c : Configuration} (hbase : c.baseUrl.IsWeb) (hquery : c.baseUrl.query = none)
    (hfragment : c.baseUrl.fragment = none) {host : Host} (hhost : c.baseUrl.host = some host)
    {path : String} (hpath : Percent.Plain Url.pathSet path.toList) :
    c.endpoint path =
      match Host.ofDomain host.write.toList with
      | .error e => .error (.invalidUrl e)
      | .ok h => .ok { c.baseUrl with
          host := some h
          path := String.ofList (Url.pathText
            (Url.walk c.baseUrl.trunk (Url.piecesOf (withoutLeadingSlashes path)))) } := by
  obtain ⟨htrunk, -⟩ := hbase.trunk
  obtain ⟨rest, hrest⟩ : ∃ rest, Url.pathText c.baseUrl.trunk ++ '/' :: withoutLeadingSlashes path =
      '/' :: rest := by
    obtain ⟨rest, hrest⟩ := Url.exists_cons_of_pathText
      (List.append_ne_nil_of_right_ne_nil c.baseUrl.trunk
        (List.cons_ne_nil (withoutLeadingSlashes path) []))
    exact ⟨rest, by rw [← hrest]; simp⟩
  have hplain : Percent.Plain Url.pathSet ('/' :: rest) := by
    have hslash : Percent.Plain Url.pathSet ['/'] := by
      intro c hc
      rw [List.mem_singleton.mp hc]
      decide
    rw [← hrest]
    exact (Url.plain_pathText fun s hs => (htrunk s hs).plain).append
      (hslash.append (hpath.of_subset (List.dropWhile_sublist _).subset))
  have htext : (c.endpointText path).toList = c.baseUrl.opening.toList ++ '/' :: rest := by
    rw [endpointText, String.toList_ofList, Url.withoutFinalSlashes_write hbase hquery hfragment,
      List.append_assoc, hrest]
  have hrestPlain : Percent.Plain Url.pathSet rest :=
    fun c hc => hplain c (List.mem_cons_of_mem _ hc)
  rw [endpoint, Url.read, Url.parse, htext, Url.parseChars_opening hbase hhost]
  cases Host.ofDomain host.write.toList with
  | error e => rfl
  | ok h =>
    simp only [Except.map, Url.rdropWhile_isTrimmed_of_plain hrestPlain,
      Url.withTail_of_plain _ _ hplain]
    rw [← hrest, Url.readPathStart_append htrunk, hquery, hfragment]

/-- The segments of an endpoint are those that a walk from the trunk of the base leads to. -/
theorem segments_of_endpoint {c : Configuration} (hbase : c.baseUrl.IsWeb)
    (hquery : c.baseUrl.query = none) (hfragment : c.baseUrl.fragment = none) {path : String}
    (hpath : Percent.Plain Url.pathSet path.toList) {u : Url} (hu : c.endpoint path = .ok u) :
    u.segments = Url.walk c.baseUrl.trunk (Url.piecesOf (withoutLeadingSlashes path)) := by
  obtain ⟨host, hhost, -⟩ := hbase.host
  rw [endpoint_eq hbase hquery hfragment hhost hpath] at hu
  split at hu
  · cases hu
  · obtain rfl := Except.ok.inj hu
    rw [Url.segments, String.toList_ofList]
    refine Url.segmentsOf_pathText fun s hs => ?_
    rcases Url.mem_drop_walk (n := 0) hs with hs | rfl | ⟨hs, hstep⟩
    · exact (hbase.trunk.1 s hs).not_slash
    · exact List.not_mem_nil
    · exact (Url.isSegment_of_mem_piecesOf hs hstep).not_slash

/-- A path has an endpoint if the text of the host of the base is read as a host, and else it has
none. -/
theorem exists_endpoint_iff {c : Configuration} (hbase : c.baseUrl.IsWeb) (path : String) :
    (∃ u, c.endpoint path = .ok u) ↔
      ∃ host h, c.baseUrl.host = some host ∧ Host.ofDomain host.write.toList = .ok h := by
  obtain ⟨host, hhost, -⟩ := hbase.host
  obtain ⟨cs, hendpoint⟩ := endpoint_eq_withTail hbase hhost path
  rw [hendpoint]
  constructor
  · rintro ⟨u, hu⟩
    split at hu
    · cases hu
    · rename_i h hread
      exact ⟨host, h, hhost, hread⟩
  · rintro ⟨host', h, hhost', hread⟩
    obtain rfl : host = host' := Option.some.inj (hhost.symm.trans hhost')
    rw [hread]
    exact ⟨_, rfl⟩

end Configuration

end Waybill
