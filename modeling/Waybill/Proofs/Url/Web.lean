import Waybill.Proofs.Url.Authority

/-!
# URLs of the web, read and read again

Reading a text of the web leaves components behind that are read again as they are. Whatever follows
an authority that was written, from a slash on, is read as path, query and fragment, and has no
effect on the authority.

The text of a host stands for a host that is read anew. That this is the host itself is a law of
domain names, not of the syntax of URLs, and is not used here.

## Main definitions

* `Waybill.Url.opening`: the text of a URL before its path.
* `Waybill.Url.withTail`: a URL with other components behind its authority.

## Main results

* `Waybill.Url.isWeb_of_parse`: what reading leaves behind in the schemes of the web.
* `Waybill.Url.parseChars_opening`: a text with the opening of a URL is read as that URL with other
  components behind its authority.
-/

namespace Waybill.Url

/-! ### What reading leaves behind -/

/-- Reading credentials escapes what a name and a password may not hold. -/
theorem plain_of_readCredentials {cs rest : List Char} {followed : Bool} {name password : String}
    (h : readCredentials cs followed = .ok (name, password, rest)) :
    Percent.Plain credentialSet name.toList ∧ Percent.Plain credentialSet password.toList := by
  have hplain (cs : List Char) :
      Percent.Plain credentialSet (String.ofList (Percent.encode credentialSet cs)).toList := by
    rw [String.toList_ofList]
    refine Percent.plain_encode (fun _ h => h) (fun c hc => ?_) cs
    exact Ascii.forall_isAscii
      (P := fun c => Percent.isEscapePart c = true → credentialSet c = false)
      (by decide +kernel) c (Percent.isAscii_of_isEscapePart hc) hc
  have hempty : Percent.Plain credentialSet "".toList := by simp [Percent.Plain]
  rw [readCredentials] at h
  split at h
  · cases h
    exact ⟨hempty, hempty⟩
  · simp only at h
    split at h
    · cases h
    · cases h
      exact ⟨hplain _, hplain _⟩

/-- What an authority of the web holds. -/
theorem of_readAuthority {scheme : String} (hscheme : schemeKind scheme = .web) {cs : List Char}
    {followed : Bool} {a : Authority} (h : readAuthority scheme cs followed = .ok a) :
    Percent.Plain credentialSet a.username.toList ∧
      Percent.Plain credentialSet a.password.toList ∧
      Host.IsText a.host.write.toList ∧
      ∀ port, a.port = some port → port ≤ 65535 ∧ defaultPort? scheme ≠ some port := by
  rw [readAuthority] at h
  cases hcredentials : readCredentials cs followed with
  | error e => rw [hcredentials] at h; cases h
  | ok found =>
    obtain ⟨name, password, rest⟩ := found
    obtain ⟨hname, hpassword⟩ := plain_of_readCredentials hcredentials
    rw [hcredentials] at h
    simp only [bind, Except.bind, hscheme, SchemeKind.isSpecial, Bool.true_or, if_true] at h
    split at h
    · cases h
    · cases hhost : Host.ofDomain (cutPort rest false).1 with
      | error e => rw [hhost] at h; cases h
      | ok host =>
        have htext := Host.isText_of_ofDomain hhost
        rw [hhost] at h
        simp only at h
        split at h
        · cases h
          exact ⟨hname, hpassword, htext, by simp⟩
        · rename_i text _
          cases hport : readPort scheme (text.takeWhile (· != '\\')) with
          | error e => rw [hport] at h; cases h
          | ok port =>
            rw [hport] at h
            cases h
            refine ⟨hname, hpassword, htext, ?_⟩
            rintro port rfl
            exact of_readPort hport

/-- **What reading leaves behind** in the schemes of the web. -/
theorem isWeb_of_parse {text : String} {u : Url} (h : parse text = .ok u)
    (hscheme : schemeKind u.scheme = .web) : u.IsWeb := by
  rw [parse, parseChars] at h
  split at h
  · cases h
  · rename_i scheme rest hsplit
    simp only at h
    split at h
    · cases h
    · rename_i authority? detached path hbody
      cases h
      simp only at hscheme
      rw [readBody, hscheme] at hbody
      simp only [readHierarchy, hscheme, bind, Except.bind] at hbody
      split at hbody
      · cases hbody
      · rename_i pair hpair
        split at hpair
        · cases hpair
        · rename_i a ha
          cases hpair
          cases hbody
          obtain ⟨hname, hpassword, hhost, hport⟩ := of_readAuthority hscheme ha
          refine ⟨hscheme, hname, hpassword, ⟨a.host, rfl, hhost⟩, hport, rfl, ?_⟩
          rw [String.toList_ofList]
          exact exists_segments_of_readPathStart _

/-! ### Reading again -/

/-- The text of a URL before its path. -/
def opening (u : Url) : String := u.scheme ++ ":" ++ u.authority

theorem write_eq_opening (u : Url) :
    u.write = u.opening ++ u.path ++ u.queryText ++ u.fragmentText := rfl

/-- A URL with another host and with the path, query and fragment that a text stands for. -/
def withTail (u : Url) (host : Host) (cs : List Char) : Url :=
  let (rest, fragment?) := cutAt '#' cs
  let (body, query?) := cutAt '?' rest
  { u with
    host := some host
    path := String.ofList (web.readPathStart body).1
    query := query?.map fun q =>
      String.ofList (Percent.encode (querySetOf u.scheme) (significant q))
    fragment := fragment?.map fun f =>
      String.ofList (Percent.encode fragmentSet (significant f)) }

theorem mem_of_schemeKind_web {scheme : String} (h : schemeKind scheme = .web) :
    scheme ∈ ["http", "https", "ws", "wss", "ftp"] := by
  rw [schemeKind] at h
  split at h
  · rename_i hmem
    exact List.contains_iff_mem.mp hmem
  · split at h <;> cases h

theorem splitScheme?_web {scheme : String} (h : schemeKind scheme = .web) (rest : List Char) :
    splitScheme? (scheme.toList ++ ':' :: rest) = some (scheme, rest) := by
  have hmem := mem_of_schemeKind_web h
  simp only [List.mem_cons, List.not_mem_nil, or_false] at hmem
  rcases hmem with rfl | rfl | rfl | rfl | rfl <;> rfl

theorem dropWhile_isTrimmed_web {scheme : String} (h : schemeKind scheme = .web)
    (rest : List Char) :
    (scheme.toList ++ rest).dropWhile isTrimmed = scheme.toList ++ rest := by
  have hmem := mem_of_schemeKind_web h
  simp only [List.mem_cons, List.not_mem_nil, or_false] at hmem
  rcases hmem with rfl | rfl | rfl | rfl | rfl <;> rfl

theorem opening_toList {u : Url} {host : Host} (hhost : u.host = some host) :
    u.opening.toList =
      u.scheme.toList ++ ':' :: '/' :: '/' :: (u.credentials.toList ++ hostChars host u.port) := by
  simp [opening, authority, hhost, hostChars, portText_toList]

/-- Only the end of a text with the opening of a URL can be trimmed. -/
theorem trimmed_opening {u : Url} (hu : u.IsWeb) {host : Host} (hhost : u.host = some host)
    (cs : List Char) :
    trimmed (u.opening.toList ++ '/' :: cs) =
      u.opening.toList ++ '/' :: cs.rdropWhile isTrimmed := by
  have hstart : (u.opening.toList ++ '/' :: cs).dropWhile isTrimmed =
      u.opening.toList ++ ['/'] ++ cs := by
    rw [opening_toList hhost, List.append_assoc, dropWhile_isTrimmed_web hu.scheme]
    simp
  have hlast : ∀ c, (u.opening.toList ++ ['/']).getLast? = some c → isTrimmed c = false := by
    simp [isTrimmed]
  rw [trimmed, hstart]
  exact (Cutting.rdropWhile_append_of_getLast cs hlast).trans (by simp)

theorem not_mark_of_mem_authority {u : Url} (hu : u.IsWeb) {host : Host}
    (hhost : u.host = some host) :
    ∀ c ∈ u.credentials.toList ++ hostChars host u.port, c ∉ authorityMarks := by
  intro c hc
  rcases List.mem_append.mp hc with hc | hc
  · exact not_mark_of_mem_credentials hu.username hu.password c hc
  · intro hmark
    exact not_mark_of_mem_hostChars (hu.isText hhost) c hc (List.mem_cons_of_mem _ hmark)

/-- The text before a path ends with the host or the port. -/
theorem not_slash_of_getLast?_opening {u : Url} (hu : u.IsWeb) :
    ∀ c, u.opening.toList.getLast? = some c → (c == '/') = false := by
  obtain ⟨host, hhost, htext⟩ := hu.host
  have hne : hostChars host u.port ≠ [] := by simp [hostChars, htext.ne_nil]
  have hopening : u.opening.toList =
      (u.scheme.toList ++ ':' :: '/' :: '/' :: u.credentials.toList) ++ hostChars host u.port := by
    simp [opening_toList hhost]
  intro c hc
  rw [hopening, List.getLast?_append_of_ne_nil _ hne] at hc
  have hmark := not_mark_of_mem_hostChars htext c (List.mem_of_getLast? hc)
  rw [beq_eq_false_iff_ne]
  rintro rfl
  exact hmark (by decide)

theorem readHierarchy_written {u : Url} (hu : u.IsWeb) {host : Host} (hhost : u.host = some host)
    (cs : List Char) (followed : Bool) :
    readHierarchy u.scheme (u.credentials.toList ++ hostChars host u.port ++ '/' :: cs) followed =
      (Host.ofDomain host.write.toList).map fun h =>
        (⟨u.username, u.password, h, u.port, []⟩, (web.readPathStart ('/' :: cs)).1) := by
  have hmarks := not_mark_of_mem_authority hu hhost
  have hkept : ∀ c ∈ u.credentials.toList ++ hostChars host u.port,
      (!isSeparator .web c) = true := by
    intro c hc
    rw [not_separator_of_not_mem (hmarks c hc)]
    rfl
  have hslash : isSeparator .web '/' = true := rfl
  have hsignificant : significant (u.credentials.toList ++ hostChars host u.port) =
      u.credentials.toList ++ hostChars host u.port := by
    rw [significant, List.filter_eq_self]
    intro c hc
    rw [not_skipped_of_not_mem (hmarks c hc)]
    rfl
  rw [readHierarchy, hu.scheme]
  simp only [List.dropWhile_append_of_pos hkept, List.takeWhile_append_of_pos hkept,
    List.dropWhile_cons_of_neg (p := fun c => !isSeparator .web c) (a := '/') (by simp [hslash]),
    List.takeWhile_cons_of_neg (p := fun c => !isSeparator .web c) (a := '/') (by simp [hslash]),
    List.append_nil, hsignificant, readAuthority_written hu hhost]
  cases Host.ofDomain host.write.toList <;> rfl

/-- The slashes behind the scheme are not part of an authority that was written. -/
theorem dropWhile_slashes {u : Url} (hu : u.IsWeb) {host : Host} (hhost : u.host = some host)
    (cs : List Char) :
    ('/' :: '/' :: (u.credentials.toList ++ hostChars host u.port ++ cs)).dropWhile
        (fun c => isSeparator .web c || isSkipped c) =
      u.credentials.toList ++ hostChars host u.port ++ cs := by
  obtain ⟨c, more, hc⟩ : ∃ c more, u.credentials.toList ++ hostChars host u.port = c :: more := by
    refine List.exists_cons_of_ne_nil ?_
    simp [hostChars, (hu.isText hhost).ne_nil]
  have hmark : c ∉ authorityMarks := by
    refine not_mark_of_mem_authority hu hhost c ?_
    rw [hc]
    exact List.mem_cons_self
  rw [hc, List.dropWhile_cons_of_pos rfl, List.dropWhile_cons_of_pos rfl, List.cons_append,
    List.dropWhile_cons_of_neg]
  simp [not_separator_of_not_mem hmark, not_skipped_of_not_mem hmark]

/-- **A text with the opening of a URL** is read as that URL with other components behind its
authority, if the text of its host is read as a host, and is refused otherwise. -/
theorem parseChars_opening {u : Url} (hu : u.IsWeb) {host : Host} (hhost : u.host = some host)
    (cs : List Char) :
    parseChars (u.opening.toList ++ '/' :: cs) =
      (Host.ofDomain host.write.toList).map fun h =>
        u.withTail h ('/' :: cs.rdropWhile isTrimmed) := by
  have hmarks := not_mark_of_mem_authority hu hhost
  have hcut (mark : Char) (hmark : mark ∈ authorityMarks) (hslash : mark ≠ '/')
      (cs : List Char) :
      cutAt mark ('/' :: '/' :: (u.credentials.toList ++ hostChars host u.port ++ '/' :: cs)) =
        ('/' :: '/' :: (u.credentials.toList ++ hostChars host u.port ++ '/' :: (cutAt mark cs).1),
          (cutAt mark cs).2) := by
    rw [cutAt_cons_of_ne hslash, cutAt_cons_of_ne hslash,
      cutAt_append fun h => hmarks mark h hmark, cutAt_cons_of_ne hslash]
  have hsplit : splitScheme? (trimmed (u.opening.toList ++ '/' :: cs)) = some (u.scheme,
      '/' :: '/' :: (u.credentials.toList ++ hostChars host u.port ++
        '/' :: cs.rdropWhile isTrimmed)) := by
    rw [trimmed_opening hu hhost, opening_toList hhost, List.append_assoc,
      List.cons_append, splitScheme?_web hu.scheme]
    rfl
  rw [parseChars, hsplit]
  simp only [hcut '#' (by decide) (by decide),
    hcut '?' (by decide) (by decide), readBody, hu.scheme, dropWhile_slashes hu hhost,
    readHierarchy_written hu hhost]
  have hfragment : '#' ≠ '/' := by decide
  have hquery : '?' ≠ '/' := by decide
  cases Host.ofDomain host.write.toList with
  | error e => rfl
  | ok h =>
    simp only [Except.map, withTail, cutAt_cons_of_ne hfragment, cutAt_cons_of_ne hquery]
    have hdetached := hu.detached
    obtain ⟨scheme, username, password, _, port, detached, _, _, _⟩ := u
    obtain rfl : detached = false := hdetached
    rfl

end Waybill.Url
