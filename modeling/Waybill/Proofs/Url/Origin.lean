import Waybill.Proofs.Configuration.Endpoint
import Waybill.Proofs.Text.Ascii
import Waybill.Proofs.Url.Address
import Waybill.Query
import Waybill.Url.Edit

/-!
# The origin of a URL in its text

In the schemes of the web a slash stands right behind the authority of a URL, and none in it. So a
text that starts with the text of such a URL holds all of its authority, and no more: no longer host
can follow, and no user name can turn what looks like a host into one. The colon behind the scheme
ends the scheme in the same way.

An authority is taken apart again in one way only. The credentials end at the `@`, the port is the
number behind the host, and hosts are told by their texts. So two URLs of which the text of one
starts with the text of the other share all of their origin.

A URL may have been edited after it was read. An edit of its path, its query or its fragment is no
edit of its authority, and an authority that takes the place of another one was read as well.

## Main definitions

* `Waybill.Url.Arises`: a URL that was read from a text and then edited.

## Main results

* `Waybill.Url.Arises.isWeb`, `Waybill.Url.Arises.isKept`: what edits keep in the schemes of the
  web.
* `Waybill.Url.origin_eq_of_authority_eq`: an authority is told by its text.
* `Waybill.Url.origin_eq_of_prefix`: a URL whose text starts with the text of another one shares its
  origin.
-/

namespace Waybill.Url

/-! ### Where URLs come from -/

/-- The URL with the scheme and the authority of another one. -/
def moveTo (u target : Url) : Url :=
  { target with path := u.path, query := u.query, fragment := u.fragment }

/-- A URL that was read from a text and then edited. The scheme and the authority may become those
of another URL in the same syntax. -/
inductive Arises : Url → Prop
  | read {text : String} {u : Url} (h : parse text = .ok u) : Arises u
  | path {u : Url} (h : Arises u) (text : String) : Arises (u.setPath text)
  | query {u : Url} (h : Arises u) (text : Option String) : Arises (u.setQuery text)
  | pairs {u : Url} (h : Arises u) (added : List Query.Pair) : Arises (u.appendPairs added)
  | fragment {u : Url} (h : Arises u) (text : Option String) : Arises { u with fragment := text }
  | authority {u target : Url} (h : Arises u) (htarget : Arises target)
    (hkind : schemeKind u.scheme = schemeKind target.scheme) : Arises (u.moveTo target)

theorem origin_setQuery (u : Url) (text : Option String) :
    (u.setQuery text).origin = u.origin := by
  cases text <;> rfl

theorem origin_withTail {u : Url} {host : Host} (hhost : u.host = some host) (cs : List Char) :
    (u.withTail host cs).origin = u.origin := by
  rw [origin, origin, hhost]
  rfl

theorem origin_appendPairs (u : Url) (items : List Query.Pair) :
    (u.appendPairs items).origin = u.origin := by
  rw [appendPairs]
  split <;> rfl

theorem scheme_eq_of_origin_eq {u v : Url} (h : u.origin = v.origin) : u.scheme = v.scheme :=
  congrArg Prod.fst h

theorem host_eq_of_origin_eq {u v : Url} (h : u.origin = v.origin) : u.host = v.host :=
  congrArg (·.2.2.2.1) h

/-! ### Schemes -/

theorem isAscii_of_isSchemePart {c : Char} (h : isSchemePart c = true) :
    Ascii.isAscii c = true := by
  simp only [isSchemePart, Bool.or_eq_true, beq_iff_eq] at h
  rcases h with ((halphanum | rfl) | rfl) | rfl
  · exact Ascii.isAscii_of_isAlphanum halphanum
  all_goals rfl

/-- A scheme that is found in a text has no colon, which would end it. -/
theorem colon_not_mem_of_splitScheme? {cs rest : List Char} {scheme : String}
    (h : splitScheme? cs = some (scheme, rest)) : ':' ∉ scheme.toList := by
  have hlower (c : Char) (hc : isSchemePart c = true) : c.toLower ≠ ':' :=
    Ascii.forall_isAscii (P := fun c => isSchemePart c = true → c.toLower ≠ ':') (by decide +kernel)
      c (isAscii_of_isSchemePart hc) hc
  rw [splitScheme?] at h
  split at h
  · rename_i c name _ hname _
    split at h
    · cases h
      rw [String.toList_ofList]
      intro hcolon
      obtain ⟨d, hd, hlowered⟩ := List.mem_map.mp hcolon
      rw [← hname] at hd
      obtain ⟨hmem, hkept⟩ := List.mem_filter.mp hd
      have hpart := List.mem_takeWhile_imp hmem
      rw [Bool.not_eq_true'] at hkept
      rw [hkept, Bool.or_false] at hpart
      exact hlower d hpart hlowered
    · cases h
  · cases h

theorem colon_not_mem_of_parse {text : String} {u : Url} (h : parse text = .ok u) :
    ':' ∉ u.scheme.toList := by
  rw [parse, parseChars] at h
  split at h
  · cases h
  · rename_i hsplit
    simp only at h
    split at h
    · cases h
    · cases h
      exact colon_not_mem_of_splitScheme? hsplit

/-! ### Hosts -/

theorem isKept_of_readAuthority {scheme : String} (hscheme : schemeKind scheme = .web)
    {cs : List Char} {followed : Bool} {a : Authority}
    (h : readAuthority scheme cs followed = .ok a) : a.host.IsKept := by
  rw [readAuthority] at h
  cases hcredentials : readCredentials cs followed with
  | error e => rw [hcredentials] at h; cases h
  | ok found =>
    obtain ⟨name, password, rest⟩ := found
    rw [hcredentials] at h
    simp only [bind, Except.bind, hscheme, SchemeKind.isSpecial, Bool.true_or, if_true] at h
    split at h
    · cases h
    · cases hhost : Host.ofDomain (cutPort rest false).1 with
      | error e => rw [hhost] at h; cases h
      | ok host =>
        have hkept := Host.isKept_of_ofDomain hhost
        rw [hhost] at h
        simp only at h
        split at h
        · cases h
          exact hkept
        · rename_i text _
          cases hport : readPort scheme (text.takeWhile (· != '\\')) with
          | error e => rw [hport] at h; cases h
          | ok port =>
            rw [hport] at h
            cases h
            exact hkept

/-- The host of a URL of the web is one that reading leaves behind. -/
theorem isKept_of_parse {text : String} {u : Url} (h : parse text = .ok u)
    (hscheme : schemeKind u.scheme = .web) : ∀ host ∈ u.host, host.IsKept := by
  rw [parse, parseChars] at h
  split at h
  · cases h
  · simp only at h
    split at h
    · cases h
    · rename_i hbody
      cases h
      simp only at hscheme
      rw [readBody, hscheme] at hbody
      simp only [readHierarchy, hscheme, bind, Except.bind] at hbody
      split at hbody
      · cases hbody
      · rename_i hpair
        split at hpair
        · cases hpair
        · rename_i ha
          cases hpair
          cases hbody
          rintro host ⟨⟩
          exact isKept_of_readAuthority hscheme ha

/-! ### What edits keep -/

/-- A path of the web is read as a list of segments, whatever text it is set to. -/
theorem IsWeb.setPath {u : Url} (hu : u.IsWeb) (text : String) : (u.setPath text).IsWeb := by
  obtain ⟨host, hhost, htext⟩ := hu.host
  have hsite : (u.host == some .empty) = false := by
    rw [beq_eq_false_iff_ne, hhost]
    intro hempty
    rw [Option.some.inj hempty] at htext
    exact htext.ne_nil rfl
  have hflat : u.isFlat = false := by
    rw [isFlat, hhost]
    rfl
  refine ⟨hu.scheme, hu.username, hu.password, hu.host, hu.port, hu.detached, ?_⟩
  have hpath : (u.setPath text).path.toList = (web.readPathStart text.toList).1 := by
    simp only [Url.setPath, hflat, hsite, hu.scheme, Bool.false_eq_true, if_false,
      String.toList_ofList, segmentedPath, SchemeKind.isSpecial, Bool.not_true, Bool.false_and]
    split <;> rfl
  rw [hpath]
  exact exists_segments_of_readPathStart text.toList

theorem IsWeb.setQuery {u : Url} (hu : u.IsWeb) (text : Option String) :
    (u.setQuery text).IsWeb := by
  cases text with
  | some q => exact ⟨hu.scheme, hu.username, hu.password, hu.host, hu.port, hu.detached, hu.path⟩
  | none =>
    obtain ⟨host, hhost, -⟩ := hu.host
    have hpath : (u.setQuery none).path = u.path := by
      simp [Url.setQuery, isFlat, hhost]
    refine ⟨hu.scheme, hu.username, hu.password, hu.host, hu.port, hu.detached, ?_⟩
    rw [hpath]
    exact hu.path

theorem IsWeb.appendPairs {u : Url} (hu : u.IsWeb) (added : List Query.Pair) :
    (u.appendPairs added).IsWeb := by
  cases added with
  | nil => exact hu
  | cons p more =>
    exact ⟨hu.scheme, hu.username, hu.password, hu.host, hu.port, hu.detached, hu.path⟩

/-- **Edits keep what reading left behind** in the schemes of the web. -/
theorem Arises.isWeb {u : Url} (hu : u.Arises) (hscheme : schemeKind u.scheme = .web) :
    u.IsWeb := by
  induction hu with
  | read h => exact isWeb_of_parse h hscheme
  | path _ text ih => exact (ih hscheme).setPath text
  | query _ text ih =>
    rw [scheme_eq_of_origin_eq (origin_setQuery _ text)] at hscheme
    exact (ih hscheme).setQuery text
  | pairs _ added ih =>
    rw [scheme_eq_of_origin_eq (origin_appendPairs _ added)] at hscheme
    exact (ih hscheme).appendPairs added
  | fragment _ _ ih =>
    have hweb := ih hscheme
    exact ⟨hscheme, hweb.username, hweb.password, hweb.host, hweb.port, hweb.detached, hweb.path⟩
  | authority _ _ hkind ih ihtarget =>
    have hweb := ihtarget hscheme
    exact ⟨hscheme, hweb.username, hweb.password, hweb.host, hweb.port, hweb.detached,
      (ih (hkind.trans hscheme)).path⟩

/-- **Edits keep what reading leaves behind of a host.** -/
theorem Arises.isKept {u : Url} (hu : u.Arises) (hscheme : schemeKind u.scheme = .web) :
    ∀ host ∈ u.host, host.IsKept := by
  induction hu with
  | read h => exact isKept_of_parse h hscheme
  | path _ _ ih => exact ih hscheme
  | query _ text ih =>
    rw [scheme_eq_of_origin_eq (origin_setQuery _ text)] at hscheme
    rw [host_eq_of_origin_eq (origin_setQuery _ text)]
    exact ih hscheme
  | pairs _ added ih =>
    rw [scheme_eq_of_origin_eq (origin_appendPairs _ added)] at hscheme
    rw [host_eq_of_origin_eq (origin_appendPairs _ added)]
    exact ih hscheme
  | fragment _ _ ih => exact ih hscheme
  | authority _ _ _ _ ihtarget => exact ihtarget hscheme

theorem Arises.colon_not_mem {u : Url} (hu : u.Arises) : ':' ∉ u.scheme.toList := by
  induction hu with
  | read h => exact colon_not_mem_of_parse h
  | path _ _ ih => exact ih
  | query _ text ih =>
    rw [scheme_eq_of_origin_eq (origin_setQuery _ text)]
    exact ih
  | pairs _ added ih =>
    rw [scheme_eq_of_origin_eq (origin_appendPairs _ added)]
    exact ih
  | fragment _ _ ih => exact ih
  | authority _ _ _ _ ihtarget => exact ihtarget

/-! ### Origins in texts -/

theorem eq_of_append_cons_eq {mark : Char} {xs xs' ys ys' : List Char} (h : mark ∉ xs)
    (h' : mark ∉ xs') (heq : xs ++ mark :: ys = xs' ++ mark :: ys') : xs = xs' ∧ ys = ys' := by
  have hcut := congrArg (cutAt mark) heq
  rw [cutAt_append h, cutAt_append h', cutAt_cons_self, cutAt_cons_self] at hcut
  simpa using hcut

theorem exists_toList_write (u : Url) :
    ∃ tail, u.write.toList = u.scheme.toList ++ ':' :: tail :=
  ⟨u.authority.toList ++ u.path.toList ++ u.queryText.toList ++ u.fragmentText.toList, by
    simp [write]⟩

/-- The text of a URL of the web has its authority between two slashes and another one. -/
theorem IsWeb.exists_toList_write_eq {u : Url} (hu : u.IsWeb) {host : Host}
    (hhost : u.host = some host) :
    ∃ tail, u.write.toList = u.scheme.toList ++
      ':' :: '/' :: '/' :: (u.credentials.toList ++ hostChars host u.port ++ '/' :: tail) := by
  obtain ⟨tail, htail⟩ := hu.exists_toList_write
  exact ⟨tail, by simp [htail, opening_toList hhost]⟩

/-- **An authority is told by its text**: the scheme and the text of the authority leave no choice
of the user name, the password, the host and the port. -/
theorem origin_eq_of_authority_eq {u v : Url} (hu : u.IsWeb) (hv : v.IsWeb) {a b : Host}
    (ha : u.host = some a) (hb : v.host = some b) (hkept : a.IsKept) (hkept' : b.IsKept)
    (hscheme : u.scheme = v.scheme)
    (h : u.credentials.toList ++ hostChars a u.port = v.credentials.toList ++ hostChars b v.port) :
    u.origin = v.origin := by
  have hread (w : Url) (hw : w.IsWeb) {host : Host} (hhost : w.host = some host) :
      readCredentials (w.credentials.toList ++ hostChars host w.port) false =
        .ok (w.username, w.password, hostChars host w.port) := by
    refine readCredentials_written hw.username hw.password (fun hat => ?_) ?_ false
    · exact not_mark_of_mem_hostChars (hw.isText hhost) _ hat List.mem_cons_self
    · simp [hostChars, (hw.isText hhost).ne_nil]
  have hcredentials := hread u hu ha
  rw [h, hread v hv hb, Except.ok.injEq, Prod.mk.injEq, Prod.mk.injEq] at hcredentials
  obtain ⟨hname, hpassword, hchars⟩ := hcredentials
  have hcut := cutPort_written (hu.isText ha) u.port
  rw [← hostChars, ← hchars, hostChars, cutPort_written (hv.isText hb), Prod.mk.injEq] at hcut
  obtain ⟨hhost, hport⟩ := hcut
  have hhost : b = a := Host.eq_of_write_eq hkept' hkept (String.toList_inj.mp hhost)
  have hport : v.port = u.port :=
    Option.map_injective (Ascii.toDigits_injective (by decide) (by decide)) hport
  rw [origin, origin, hscheme, hname, hpassword, ha, hb, hhost, hport]

/-- **A URL whose text starts with the text of a URL of the web shares its origin.** -/
theorem origin_eq_of_prefix {u v : Url} (hu : u.Arises) (hv : v.Arises)
    (hscheme : schemeKind u.scheme = .web) (h : u.write.toList <+: v.write.toList) :
    v.origin = u.origin := by
  obtain ⟨more, hmore⟩ := h
  have hweb := hu.isWeb hscheme
  obtain ⟨a, ha, -⟩ := hweb.host
  obtain ⟨tail, htail⟩ := hweb.exists_toList_write_eq ha
  obtain ⟨rest, hrest⟩ := v.exists_toList_write
  have hstart : u.scheme.toList ++ ':' :: '/' :: '/' ::
      (u.credentials.toList ++ hostChars a u.port ++ '/' :: (tail ++ more)) =
        v.scheme.toList ++ ':' :: rest := by
    rw [← hrest, ← hmore, htail]
    simp
  -- The scheme ends at the first colon of either text.
  obtain ⟨hsame, rfl⟩ := eq_of_append_cons_eq hu.colon_not_mem hv.colon_not_mem hstart
  have hsame : u.scheme = v.scheme := String.toList_inj.mp hsame
  have hscheme' : schemeKind v.scheme = .web := hsame ▸ hscheme
  have hweb' := hv.isWeb hscheme'
  obtain ⟨b, hb, -⟩ := hweb'.host
  obtain ⟨tail', htail'⟩ := hweb'.exists_toList_write_eq hb
  have hslash (w : Url) (hw : w.IsWeb) {host : Host} (hhost : w.host = some host) :
      '/' ∉ w.credentials.toList ++ hostChars host w.port := fun hmem =>
    not_mark_of_mem_authority hw hhost '/' hmem (by decide)
  -- What follows the two slashes goes up to the first slash of either text.
  have hauthority : u.credentials.toList ++ hostChars a u.port ++ '/' :: (tail ++ more) =
      v.credentials.toList ++ hostChars b v.port ++ '/' :: tail' := by
    have htexts := hrest.symm.trans htail'
    simp only [List.append_cancel_left_eq, List.cons.injEq, true_and] at htexts
    exact htexts
  have hauthority := (eq_of_append_cons_eq (hslash u hweb ha) (hslash v hweb' hb) hauthority).1
  exact (origin_eq_of_authority_eq hweb hweb' ha hb (hu.isKept hscheme a ha)
    (hv.isKept hscheme' b hb) hsame hauthority).symm

end Waybill.Url
