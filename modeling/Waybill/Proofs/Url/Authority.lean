import Waybill.Proofs.Url.Address
import Waybill.Proofs.Url.Path
import Waybill.Url.Read

/-!
# Authorities that were read

The authority of a URL of the web is written as credentials, a host and a port. When it is read
again, the credentials end at the last `@`, since neither they nor a host hold one, and the port
starts at the colon behind the host, since one in a host stands in brackets.

## Main definitions

* `Waybill.Url.IsWeb`: a URL of the web whose components are such as reading leaves behind.

## Main results

* `Waybill.Url.readAuthority_written`: an authority that was written is read as it was, up to its
  host.
-/

namespace Waybill.Url

/-! ### Cutting at a mark -/

theorem cutAt_append {mark : Char} {xs : List Char} (h : mark ∉ xs) (ys : List Char) :
    cutAt mark (xs ++ ys) = (xs ++ (cutAt mark ys).1, (cutAt mark ys).2) := by
  have hkept : ∀ c ∈ xs, (c != mark) = true := by
    intro c hc
    rw [bne_iff_ne]
    rintro rfl
    exact h hc
  rw [cutAt, cutAt, List.dropWhile_append_of_pos hkept, List.takeWhile_append_of_pos hkept]
  split <;> simp_all

theorem cutAt_cons_of_ne {mark c : Char} (h : mark ≠ c) (cs : List Char) :
    cutAt mark (c :: cs) = (c :: (cutAt mark cs).1, (cutAt mark cs).2) :=
  cutAt_append (by simpa using h : mark ∉ [c]) cs

theorem cutAt_nil (mark : Char) : cutAt mark [] = ([], none) := rfl

theorem cutAt_cons_self (mark : Char) (cs : List Char) :
    cutAt mark (mark :: cs) = ([], some cs) := by
  simp [cutAt]

theorem cutAt_of_not_mem {mark : Char} {cs : List Char} (h : mark ∉ cs) :
    cutAt mark cs = (cs, none) := by
  have hcut := cutAt_append h []
  rwa [List.append_nil, cutAt_nil, List.append_nil] at hcut

/-! ### Ports -/

/-- The text of a port with the colon before it. -/
def portChars : Option Nat → List Char
  | some port => ':' :: Nat.toDigits 10 port
  | none => []

theorem portText_toList (u : Url) : u.portText.toList = portChars u.port := by
  rw [portText]
  cases u.port with
  | none => rfl
  | some port =>
    rw [String.toList_append, show toString port = port.repr from rfl, Nat.toList_repr]
    rfl

/-- What a digit adds to a port. -/
def portStep (n : Nat) (c : Char) : Option Nat :=
  if 65535 < 10 * n + (c.toNat - '0'.toNat) then none else some (10 * n + (c.toNat - '0'.toNat))

theorem readPort_eq (scheme : String) (cs : List Char) :
    readPort scheme cs =
      if !cs.all Char.isDigit then .error .invalidPort
      else match cs.foldlM portStep 0 with
        | none => .error .invalidPort
        | some port =>
          .ok (if cs.isEmpty || defaultPort? scheme == some port then none else some port) := rfl

theorem toNat_digitChar : ∀ d < 10, (Nat.digitChar d).toNat - '0'.toNat = d := by decide

/-- The digits of a port are read as the port. -/
theorem foldlM_portStep_toDigits {n : Nat} (hn : n ≤ 65535) :
    (Nat.toDigits 10 n).foldlM portStep 0 = some n := by
  induction n using Nat.strongRecOn with
  | ind n ih =>
    rw [Nat.toDigits_eq_if (by decide)]
    split
    · rename_i hlt
      have hvalue := toNat_digitChar n hlt
      simp only [List.foldlM_cons, List.foldlM_nil, portStep, Option.bind_eq_bind]
      rw [if_neg (by omega), hvalue, Nat.mul_zero, Nat.zero_add]
      rfl
    · rename_i hge
      have hvalue := toNat_digitChar (n % 10) (Nat.mod_lt n (by decide))
      rw [List.foldlM_append, ih (n / 10) (by omega) (by omega)]
      simp only [Option.bind_eq_bind, Option.bind_some, List.foldlM_cons, List.foldlM_nil, portStep]
      rw [if_neg (by omega), hvalue, Nat.div_add_mod]
      rfl

/-- A port that is kept is read as it was. -/
theorem readPort_toDigits {scheme : String} {port : Nat} (hport : port ≤ 65535)
    (hdefault : defaultPort? scheme ≠ some port) :
    readPort scheme (Nat.toDigits 10 port) = .ok (some port) := by
  have hdigits : (Nat.toDigits 10 port).all Char.isDigit = true := by
    rw [List.all_eq_true]
    exact isDigit_of_mem_toDigits port
  have hne : (Nat.toDigits 10 port).isEmpty = false := by
    rw [List.isEmpty_eq_false_iff]
    exact List.ne_nil_of_length_pos Nat.length_toDigits_pos
  rw [readPort_eq, foldlM_portStep_toDigits hport]
  simp [hdigits, hne, hdefault]

theorem le_of_foldlM_portStep {cs : List Char} {n port : Nat} (hn : n ≤ 65535)
    (h : cs.foldlM portStep n = some port) : port ≤ 65535 := by
  induction cs generalizing n with
  | nil =>
    cases h
    exact hn
  | cons c cs ih =>
    simp only [List.foldlM_cons, portStep, Option.bind_eq_bind] at h
    split at h
    · cases h
    · exact ih (by omega) h

/-- A port that was read is no greater than 65535, and not the one of the scheme. -/
theorem of_readPort {scheme : String} {cs : List Char} {port : Nat}
    (h : readPort scheme cs = .ok (some port)) :
    port ≤ 65535 ∧ defaultPort? scheme ≠ some port := by
  rw [readPort_eq] at h
  split at h
  · cases h
  · split at h
    · cases h
    · rename_i n hn
      rw [Except.ok.injEq] at h
      split at h
      · cases h
      · rename_i hkept
        obtain rfl := Option.some.inj h
        simp only [Bool.or_eq_true, not_or, beq_iff_eq] at hkept
        exact ⟨le_of_foldlM_portStep (Nat.zero_le _) hn, hkept.2⟩

/-! ### Hosts and ports -/

theorem cutPort_of_name {cs : List Char} (h : ∀ c ∈ cs, c ≠ ':' ∧ c ≠ '[' ∧ c ≠ ']')
    (tail : List Char) :
    cutPort (cs ++ tail) false = (cs ++ (cutPort tail false).1, (cutPort tail false).2) := by
  induction cs with
  | nil => rfl
  | cons c cs ih =>
    obtain ⟨hcolon, hopen, hclose⟩ := h c List.mem_cons_self
    have ih := ih fun d hd => h d (List.mem_cons_of_mem _ hd)
    simp [cutPort, hcolon, hopen, hclose, ih]

/-- In brackets a colon is a part of the host. -/
theorem cutPort_of_inside {inside : List Char} (h : ∀ c ∈ inside, c ≠ '[' ∧ c ≠ ']')
    (tail : List Char) :
    cutPort (inside ++ ']' :: tail) true =
      (inside ++ ']' :: (cutPort tail false).1, (cutPort tail false).2) := by
  induction inside with
  | nil => simp [cutPort]
  | cons c inside ih =>
    obtain ⟨hopen, hclose⟩ := h c List.mem_cons_self
    have ih := ih fun d hd => h d (List.mem_cons_of_mem _ hd)
    simp [cutPort, hopen, hclose, ih]

theorem cutPort_portChars (port : Option Nat) :
    cutPort (portChars port) false = ([], port.map (Nat.toDigits 10)) := by
  cases port <;> rfl

/-- The port is cut off a host behind which it is written. -/
theorem cutPort_written {host : List Char} (h : Host.IsText host) (port : Option Nat) :
    cutPort (host ++ portChars port) false = (host, port.map (Nat.toDigits 10)) := by
  cases h with
  | name _ hname =>
    have hmarks : ∀ c ∈ host, c ≠ ':' ∧ c ≠ '[' ∧ c ≠ ']' := by
      intro c hc
      have hc := hname c hc
      refine ⟨?_, ?_, ?_⟩ <;>
        · rintro rfl
          exact absurd hc (by decide)
    rw [cutPort_of_name hmarks, cutPort_portChars, List.append_nil]
  | @bracketed inside hinside =>
    have hmarks : ∀ c ∈ inside, c ≠ '[' ∧ c ≠ ']' := by
      intro c hc
      have hc := hinside c hc
      refine ⟨?_, ?_⟩ <;>
        · rintro rfl
          exact absurd hc (by decide)
    have hcut := cutPort_of_inside hmarks (portChars port)
    rw [cutPort_portChars] at hcut
    simp [cutPort, hcut]

/-! ### Credentials -/

/-- The credentials of an authority end at its last `@`. -/
theorem readCredentials_append {tail : List Char} (htail : '@' ∉ tail) (hne : tail ≠ [])
    (written : List Char) (followed : Bool) :
    readCredentials (written ++ '@' :: tail) followed =
      .ok (String.ofList (Percent.encode credentialSet (cutAt ':' written).1),
        String.ofList (Percent.encode credentialSet ((cutAt ':' written).2.getD [])), tail) := by
  have hkept : ∀ c ∈ tail.reverse, (c != '@') = true := by
    intro c hc
    rw [bne_iff_ne]
    rintro rfl
    exact htail (List.mem_reverse.mp hc)
  have hreverse : (written ++ '@' :: tail).reverse = tail.reverse ++ '@' :: written.reverse := by
    simp
  rw [readCredentials, hreverse, List.dropWhile_append_of_pos hkept,
    List.takeWhile_append_of_pos hkept]
  simp [hne]

theorem readCredentials_of_not_mem {cs : List Char} (h : '@' ∉ cs) (followed : Bool) :
    readCredentials cs followed = .ok ("", "", cs) := by
  have hnone : cs.reverse.dropWhile (· != '@') = [] := by
    rw [List.dropWhile_eq_nil_iff]
    intro c hc
    rw [bne_iff_ne]
    rintro rfl
    exact h (List.mem_reverse.mp hc)
  rw [readCredentials, hnone]

theorem ofList_encode_of_plain {s : String} (h : Percent.Plain credentialSet s.toList) :
    String.ofList (Percent.encode credentialSet s.toList) = s := by
  rw [Percent.encode_eq_self h, String.ofList_toList]

theorem readCredentials_written {u : Url} (hname : Percent.Plain credentialSet u.username.toList)
    (hpassword : Percent.Plain credentialSet u.password.toList) {tail : List Char}
    (htail : '@' ∉ tail) (hne : tail ≠ []) (followed : Bool) :
    readCredentials (u.credentials.toList ++ tail) followed =
      .ok (u.username, u.password, tail) := by
  have hcolon : ':' ∉ u.username.toList := hname.not_mem rfl
  rw [credentials]
  split
  · rename_i hempty
    rw [Bool.and_eq_true, String.isEmpty_iff, String.isEmpty_iff] at hempty
    rw [hempty.1, hempty.2, String.toList_empty, List.nil_append,
      readCredentials_of_not_mem htail]
  · by_cases hnone : u.password.isEmpty = true
    · have hread := readCredentials_append htail hne u.username.toList followed
      rw [cutAt_of_not_mem hcolon, ofList_encode_of_plain hname] at hread
      rw [String.isEmpty_iff] at hnone
      simpa [hnone] using hread
    · have hread := readCredentials_append htail hne
        (u.username.toList ++ ':' :: u.password.toList) followed
      rw [cutAt_append hcolon, cutAt_cons_self, List.append_nil, Option.getD_some,
        ofList_encode_of_plain hname, ofList_encode_of_plain hpassword] at hread
      simpa [hnone] using hread

/-! ### Whole authorities -/

/-- A URL of the web whose components are such as reading leaves behind. -/
structure IsWeb (u : Url) : Prop where
  scheme : schemeKind u.scheme = .web
  username : Percent.Plain credentialSet u.username.toList
  password : Percent.Plain credentialSet u.password.toList
  host : ∃ host, u.host = some host ∧ Host.IsText host.write.toList
  port : ∀ port, u.port = some port → port ≤ 65535 ∧ defaultPort? u.scheme ≠ some port
  detached : u.detached = false
  path : ∃ segs, segs ≠ [] ∧ (∀ s ∈ segs, IsSegment s) ∧ u.path.toList = pathText segs

theorem IsWeb.isText {u : Url} (hu : u.IsWeb) {host : Host} (hhost : u.host = some host) :
    Host.IsText host.write.toList := by
  obtain ⟨host', hhost', htext⟩ := hu.host
  rwa [Option.some.inj (hhost.symm.trans hhost')]

/-- The characters that end an authority, or that are skipped in it. -/
def authorityMarks : List Char := ['/', '\\', '?', '#', '\t', '\n', '\r']

theorem not_separator_of_not_mem {c : Char} (h : c ∉ authorityMarks) :
    isSeparator .web c = false := by
  simp only [authorityMarks, List.mem_cons, not_or] at h
  simp [isSeparator, h]

theorem not_skipped_of_not_mem {c : Char} (h : c ∉ authorityMarks) : isSkipped c = false := by
  simp only [authorityMarks, List.mem_cons, not_or] at h
  simp [isSkipped, h]

theorem not_mark_of_plain {cs : List Char} (h : Percent.Plain credentialSet cs) :
    ∀ c ∈ cs, c ∉ authorityMarks := by
  have hmarks : ∀ m ∈ authorityMarks, credentialSet m = true :=
    Ascii.forall_mem_of_all (by decide)
  exact fun c hc hmark => h.not_mem (hmarks c hmark) hc

theorem not_mark_of_isText {cs : List Char} (h : Host.IsText cs) :
    ∀ c ∈ cs, c ∉ '@' :: authorityMarks := by
  have hname : ∀ m ∈ '@' :: authorityMarks, Domain.isForbidden m = true :=
    Ascii.forall_mem_of_all (by decide)
  have hpiece : ∀ m ∈ '@' :: authorityMarks,
      Host.isPiecePart m = false ∧ m ≠ '[' ∧ m ≠ ']' :=
    Ascii.forall_mem_of_all (by decide)
  intro c hc hmark
  cases h with
  | name _ h => exact Bool.noConfusion ((h c hc).symm.trans (hname c hmark))
  | bracketed h =>
    obtain ⟨hpart, hopen, hclose⟩ := hpiece c hmark
    simp only [List.mem_cons, List.mem_append, List.not_mem_nil, or_false] at hc
    rcases hc with rfl | hc | rfl
    · exact hopen rfl
    · exact Bool.noConfusion (hpart.symm.trans (h c hc))
    · exact hclose rfl

theorem not_mark_of_mem_portChars {port : Option Nat} :
    ∀ c ∈ portChars port, c ∉ '@' :: authorityMarks := by
  have hdigit : ∀ m ∈ '@' :: authorityMarks, Char.isDigit m = false :=
    Ascii.forall_mem_of_all (by decide)
  intro c hc hmark
  cases port with
  | none => cases hc
  | some port =>
    rcases List.mem_cons.mp hc with rfl | hc
    · exact absurd hmark (by decide)
    · exact Bool.noConfusion ((hdigit c hmark).symm.trans (isDigit_of_mem_toDigits port c hc))

/-- The text of a host and a port. -/
def hostChars (host : Host) (port : Option Nat) : List Char := host.write.toList ++ portChars port

theorem not_mark_of_mem_hostChars {host : Host} (h : Host.IsText host.write.toList)
    {port : Option Nat} : ∀ c ∈ hostChars host port, c ∉ '@' :: authorityMarks := by
  intro c hc
  rcases List.mem_append.mp hc with hc | hc
  · exact not_mark_of_isText h c hc
  · exact not_mark_of_mem_portChars c hc

theorem not_mark_of_mem_credentials {u : Url}
    (hname : Percent.Plain credentialSet u.username.toList)
    (hpassword : Percent.Plain credentialSet u.password.toList) :
    ∀ c ∈ u.credentials.toList, c ∉ authorityMarks := by
  have hsigns : ':' ∉ authorityMarks ∧ '@' ∉ authorityMarks := by decide
  intro c hc
  rw [credentials] at hc
  split at hc
  · simp at hc
  · split at hc
    · simp only [String.toList_append, String.append_empty, List.mem_append] at hc
      rcases hc with hc | hc
      · exact not_mark_of_plain hname c hc
      · obtain rfl : c = '@' := by simpa using hc
        exact hsigns.2
    · simp only [String.toList_append, List.mem_append] at hc
      rcases hc with (hc | hc | hc) | hc
      · exact not_mark_of_plain hname c hc
      · obtain rfl : c = ':' := by simpa using hc
        exact hsigns.1
      · exact not_mark_of_plain hpassword c hc
      · obtain rfl : c = '@' := by simpa using hc
        exact hsigns.2

/-- **An authority that was written** is read as it was, up to its host, which is read as its text
says. -/
theorem readAuthority_written {u : Url} (hu : u.IsWeb) {host : Host} (hhost : u.host = some host)
    (followed : Bool) :
    readAuthority u.scheme (u.credentials.toList ++ hostChars host u.port) followed =
      (Host.ofDomain host.write.toList).map fun h => ⟨u.username, u.password, h, u.port, []⟩ := by
  have htext := hu.isText hhost
  have hat : '@' ∉ hostChars host u.port := fun h =>
    not_mark_of_mem_hostChars htext _ h List.mem_cons_self
  have hne : hostChars host u.port ≠ [] := by simp [hostChars, htext.ne_nil]
  have hcredentials := readCredentials_written hu.username hu.password hat hne followed
  have hhostText : host.write.toList.isEmpty = false := by simp [htext.ne_nil]
  rw [readAuthority, hcredentials]
  simp only [bind, Except.bind, hu.scheme, hostChars, cutPort_written htext, hhostText,
    SchemeKind.isSpecial, Bool.false_eq_true, if_false, if_true]
  cases hread : Host.ofDomain host.write.toList with
  | error e => rfl
  | ok h =>
    cases hport : u.port with
    | none => rfl
    | some port =>
      obtain ⟨hle, hdefault⟩ := hu.port port hport
      have hdigits : ∀ c ∈ Nat.toDigits 10 port, (c != '\\') = true := by
        intro c hc
        rw [bne_iff_ne]
        rintro rfl
        exact absurd (isDigit_of_mem_toDigits port _ hc) (by decide)
      have htake : (Nat.toDigits 10 port).takeWhile (· != '\\') = Nat.toDigits 10 port :=
        List.takeWhile_eq_self_iff.mpr hdigits
      have hdrop : (Nat.toDigits 10 port).dropWhile (· != '\\') = [] :=
        List.dropWhile_eq_nil_iff.mpr hdigits
      simp [Except.map, htake, hdrop, readPort_toDigits hle hdefault]

end Waybill.Url
