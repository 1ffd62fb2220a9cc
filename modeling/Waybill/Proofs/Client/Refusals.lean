import Waybill.Proofs.Client.Layers
import Waybill.Proofs.Client.Pools
import Waybill.Proofs.Request.Runs
import Waybill.Proofs.Text.Ascii

/-!
# What a client refuses, and what it lets through

Every defect of a request is there or not, whatever other defects there are. Listed in the order of
the checks, the first one is the reason for which a client refuses the request, before anything is
sent, and a request without defects is left to the connections of its pool.

What is let through is clean. The headers of a request that was built have names that differ in more
than case, so that each becomes one entry of the map that is sent, with one value; and neither a
name nor a value that passes the checks has a character that could end a header.

## Main definitions

* `Waybill.verdict`: the first defect of a list refuses.
* `Waybill.Admission.defects`: all defects of a request, in the order of the checks.
* `Waybill.HeaderMap`, `Waybill.HeaderMap.ofHeaders`: the headers that are sent, with their values
  by their names.
* `Waybill.WireRequest.IsCleanFor`: a request on the wire is the one that was made, without a
  character that ends a header.

## Main results

* `Waybill.Admission.admission_verdict`: the first defect decides.
* `Waybill.HeaderMap.ofHeaders_of_distinct`: headers with different names stay as many.
* `Waybill.ClientPlan.refused_for_first_defect`: the answer of a client that is built.
-/

namespace Waybill

/-! ### Defects in order -/

section Verdict

variable {ε ε' : Type}

/-- The first defect of a list refuses. -/
def verdict : List ε → Except ε Unit
  | [] => .ok ()
  | e :: _ => .error e

theorem verdict_append (xs ys : List ε) :
    verdict (xs ++ ys) = (verdict xs).bind fun _ => verdict ys := by
  cases xs <;> rfl

theorem verdict_map (f : ε → ε') (xs : List ε) :
    verdict (xs.map f) = (verdict xs).mapError f := by
  cases xs <;> rfl

end Verdict

namespace Admission

/-- The defects of a request that must be pinned. -/
def pinningDefects (policy : Option PinningPolicy) (r : Request) : List Failure :=
  (if r.pinned ∧ r.url.scheme ≠ "https" then
      [.pinning s!"pinned request to {r.url.write} is not sent over https"] else []) ++
    if r.pinned ∧ policy = none then
      [.pinning "the transport was built without a pinning policy"] else []

/-- The defects of a target. -/
def targetDefects (text : String) : List WireFault :=
  match Target.read text with
  | .error fault => [.target fault]
  | .ok _ => []

/-- The defects of headers: of each the name, and then the value. -/
def headerDefects (headers : Headers) : List WireFault :=
  headers.flatMap fun header =>
    (if isHeaderName header.1 then [] else [.headerName]) ++
      if isHeaderValue header.2 then [] else [.headerValue]

/-- The defects of a request on the wire. -/
def wireDefects (r : Request) : List WireFault :=
  targetDefects r.url.write ++ headerDefects r.headers

/-- All defects of a request, in the order of the checks. -/
def defects (policy : Option PinningPolicy) (r : Request) : List Failure :=
  pinningDefects policy r ++ (wireDefects r).map fun fault => .invalidRequest fault.message

/-! ### The first defect decides -/

theorem selectPool_verdict (policy : Option PinningPolicy) (r : Request) :
    (selectPool policy r).map (fun _ => ()) = verdict (pinningDefects policy r) := by
  cases hmark : r.pinned with
  | false => simp [selectPool, pinningDefects, verdict, hmark, Except.map]
  | true =>
    by_cases hscheme : r.url.scheme = "https"
    · cases policy <;> simp [selectPool, pinningDefects, verdict, hmark, hscheme, Except.map]
    · simp [selectPool, pinningDefects, verdict, hmark, hscheme, Except.map]

theorem checkHeaders_verdict (headers : Headers) :
    checkHeaders headers = verdict (headerDefects headers) := by
  induction headers with
  | nil => rfl
  | cons header headers ih =>
    obtain ⟨name, value⟩ := header
    rw [checkHeaders, ih, headerDefects, headerDefects, List.flatMap_cons]
    by_cases hname : isHeaderName name = true
    · by_cases hvalue : isHeaderValue value = true
      · simp [hname, hvalue]
      · simp [verdict, hname, hvalue]
    · simp [verdict, hname]

theorem wireRequest_verdict (r : Request) :
    (wireRequest r).map (fun _ => ()) = verdict (wireDefects r) := by
  rw [wireRequest, wireDefects, targetDefects]
  cases Target.read r.url.write with
  | error fault => rfl
  | ok target =>
    rw [List.nil_append, ← checkHeaders_verdict]
    cases checkHeaders r.headers <;> rfl

/-- **The first defect decides**, and a request without defects is admitted. -/
theorem admission_verdict (policy : Option PinningPolicy) (r : Request) :
    (admission policy r).map (fun _ => ()) = verdict (defects policy r) := by
  rw [defects, verdict_append, verdict_map, ← selectPool_verdict, ← wireRequest_verdict, admission]
  cases selectPool policy r with
  | error f => rfl
  | ok pool => cases wireRequest r <;> rfl

end Admission

/-! ### The headers that are sent -/

/-- Names in small letters with the values that stand under them, in order. -/
abbrev HeaderMap := List (String × List String)

namespace HeaderMap

/-- A name in small letters. -/
def lowered (name : String) : String := String.ofList (Ascii.fold name)

/-- The map with one more value under a name. -/
def addValue : HeaderMap → String → String → HeaderMap
  | [], name, value => [(name, [value])]
  | (candidate, values) :: rest, name, value =>
    if candidate = name then (candidate, values ++ [value]) :: rest
    else (candidate, values) :: addValue rest name value

/-- The headers that are sent, added one by one. -/
def ofHeaders (headers : Headers) : HeaderMap :=
  headers.foldl (fun entries header => entries.addValue (lowered header.1) header.2) []

theorem addValue_of_not_mem {entries : HeaderMap} {name : String} (value : String)
    (h : name ∉ entries.map (·.1)) :
    entries.addValue name value = entries ++ [(name, [value])] := by
  induction entries with
  | nil => rfl
  | cons entry entries ih =>
    obtain ⟨candidate, values⟩ := entry
    rw [List.map_cons, List.mem_cons, not_or] at h
    rw [addValue, if_neg (Ne.symm h.1), ih h.2]
    rfl

theorem nodup_lowered {headers : Headers} (h : headers.Distinct) :
    (headers.map fun header => lowered header.1).Nodup := by
  rw [Headers.Distinct, Headers.names, List.pairwise_map] at h
  rw [List.nodup_iff_pairwise_ne, List.pairwise_map]
  refine h.imp fun hdiffer hsame => ?_
  rw [Ascii.sameFold_iff.mpr (String.ofList_injective hsame)] at hdiffer
  cases hdiffer

/-- **Headers with different names stay as many**, each with its one value. -/
theorem ofHeaders_of_distinct {headers : Headers} (h : headers.Distinct) :
    ofHeaders headers = headers.map fun header => (lowered header.1, [header.2]) := by
  induction headers using List.reverseRecOn with
  | nil => rfl
  | append_singleton headers header ih =>
    have hfront : Headers.Distinct headers := by
      rw [Headers.Distinct, Headers.names, List.map_append] at h
      exact (List.pairwise_append.mp h).1
    have hnodup := nodup_lowered h
    rw [List.map_append, List.map_singleton, List.nodup_append] at hnodup
    have hnew : lowered header.1 ∉
        (headers.map fun header => (lowered header.1, [header.2])).map (·.1) := by
      rw [List.map_map]
      exact fun hmem => hnodup.2.2 _ hmem _ List.mem_cons_self rfl
    rw [ofHeaders, List.foldl_append, ← ofHeaders, ih hfront, List.foldl_cons, List.foldl_nil,
      addValue_of_not_mem header.2 hnew, List.map_append, List.map_singleton]

end HeaderMap

/-! ### What is let through -/

/-- Characters that could end a header. -/
def breakCharacters : List Char := ['\r', '\n', '\x00']

theorem isAscii_of_isHeaderNameCharacter {c : Char} (h : isHeaderNameCharacter c = true) :
    Ascii.isAscii c = true := by
  have hsign : ∀ sign ∈ "!#$%&'*+-.^_\x60|~".toList, Ascii.isAscii sign = true :=
    Ascii.forall_mem_of_all (by decide)
  rcases (Bool.or_eq_true _ _).mp h with halphanum | hmem
  · exact Ascii.isAscii_of_isAlphanum halphanum
  · exact hsign c (List.contains_iff_mem.mp hmem)

theorem not_break_of_isHeaderName {name : String} (h : isHeaderName name = true) :
    ∀ c ∈ (HeaderMap.lowered name).toList, c ∉ breakCharacters := by
  have hlower : ∀ c, Ascii.isAscii c = true → isHeaderNameCharacter c = true →
      c.toLower ∉ breakCharacters :=
    Ascii.forall_isAscii (by decide +kernel)
  rw [isHeaderName, Bool.and_eq_true, List.all_eq_true] at h
  intro c hc
  rw [HeaderMap.lowered, String.toList_ofList] at hc
  obtain ⟨d, hd, rfl⟩ := List.mem_map.mp hc
  exact hlower d (isAscii_of_isHeaderNameCharacter (h.2 d hd)) (h.2 d hd)

theorem not_break_of_isHeaderValue {value : String} (h : isHeaderValue value = true) :
    ∀ c ∈ value.toList, c ∉ breakCharacters := by
  have hbreak : ∀ b ∈ breakCharacters, (b == '\t' || !Ascii.isControl b) = false :=
    Ascii.forall_mem_of_all (by decide)
  rw [isHeaderValue, List.all_eq_true] at h
  intro c hc hmem
  exact Bool.noConfusion ((hbreak c hmem).symm.trans (h c hc))

theorem of_checkHeaders {headers : Headers} (h : checkHeaders headers = .ok ()) :
    ∀ header ∈ headers, isHeaderName header.1 = true ∧ isHeaderValue header.2 = true := by
  induction headers with
  | nil => simp
  | cons header headers ih =>
    rw [checkHeaders] at h
    split at h
    · cases h
    · split at h
      · cases h
      · rename_i hname hvalue
        intro other hother
        rcases List.mem_cons.mp hother with rfl | hother
        · exact ⟨by simpa using hname, by simpa using hvalue⟩
        · exact ih h other hother

/-- A request on the wire is the one that was made: it has the method and the bytes of its body, and
each of its headers under a name of its own. No text of a header could end it. -/
structure WireRequest.IsCleanFor (wire : WireRequest) (r : Request) : Prop where
  method : wire.method = r.method
  body : wire.body = r.body.getD []
  headers : HeaderMap.ofHeaders wire.headers =
    r.headers.map fun header => (HeaderMap.lowered header.1, [header.2])
  nodup : ((HeaderMap.ofHeaders wire.headers).map (·.1)).Nodup
  unbroken : ∀ entry ∈ HeaderMap.ofHeaders wire.headers, ∀ text ∈ entry.1 :: entry.2,
    ∀ c ∈ text.toList, c ∉ breakCharacters

/-- **What is let through is clean**, if the names of its headers differ in more than case. -/
theorem isCleanFor_of_wireRequest {r : Request} (hdistinct : r.headers.Distinct)
    {wire : WireRequest} (h : wireRequest r = .ok wire) : wire.IsCleanFor r := by
  rw [wireRequest] at h
  split at h
  · cases h
  · cases hcheck : checkHeaders r.headers with
    | error fault =>
      rw [hcheck] at h
      cases h
    | ok =>
      rw [hcheck] at h
      cases h
      have hmap := HeaderMap.ofHeaders_of_distinct hdistinct
      refine ⟨rfl, rfl, hmap, ?_, ?_⟩
      · rw [hmap, List.map_map]
        exact HeaderMap.nodup_lowered hdistinct
      · rw [hmap]
        intro entry hentry text htext
        obtain ⟨header, hheader, rfl⟩ := List.mem_map.mp hentry
        obtain ⟨hname, hvalue⟩ := of_checkHeaders hcheck header hheader
        rcases List.mem_cons.mp htext with rfl | htext
        · exact not_break_of_isHeaderName hname
        · rw [List.mem_singleton.mp htext]
          exact not_break_of_isHeaderValue hvalue

/-! ### The answer of a client -/

namespace Client

/-- A request with a defect is refused for its first one. -/
theorem pooled_of_defect {policy : Option PinningPolicy} {r : Request} {f : Failure}
    {later : List Failure} (h : Admission.defects policy r = f :: later) :
    pooled policy r = .done (.error f) := by
  have hverdict := Admission.admission_verdict policy r
  rw [h, verdict] at hverdict
  rw [pooled]
  cases hadmission : admission policy r with
  | error g =>
    rw [hadmission] at hverdict
    cases hverdict
    rfl
  | ok admitted =>
    rw [hadmission] at hverdict
    cases hverdict

/-- A request without defects has a pool and a form on the wire. -/
theorem exists_of_defects_eq_nil {policy : Option PinningPolicy} {r : Request}
    (h : Admission.defects policy r = []) :
    ∃ pool wire, selectPool policy r = .ok pool ∧ wireRequest r = .ok wire := by
  have hverdict := Admission.admission_verdict policy r
  rw [h, verdict, admission] at hverdict
  cases hpool : selectPool policy r with
  | error f =>
    rw [hpool] at hverdict
    cases hverdict
  | ok pool =>
    cases hwire : wireRequest r with
    | error fault =>
      rw [hpool, hwire] at hverdict
      cases hverdict
    | ok wire => exact ⟨pool, wire, rfl, rfl⟩

end Client

namespace ClientPlan

/-- **A refused request is refused for its first defect, and an admitted one is clean.** Whatever
other defects come behind it, the first one is the answer, and nothing is sent. A request without
defects is sent over its pool as it is, and its answer comes back; only a target that does not say
how to reach it is left without an answer. What has a form on the wire, of the requests that are
built and edited, is clean. -/
theorem refused_for_first_defect (settings : SettingsDraft) (policy : Option PinningPolicy)
    (levels : List Logging) :
    (∀ r transport,
      let t := ((logging settings policy levels).build.client r).run transport
      match Admission.defects policy r with
      | f :: _ => t.sends = [] ∧ t.value = .error f
      | [] => ∃ pool wire, selectPool policy r = .ok pool ∧ wireRequest r = .ok wire ∧
          match wire.target with
          | .absolute => t.sends = [(some pool, r)] ∧ t.value = transport r
          | .bare => t.sends = [] ∧ t.value = .error Client.unreachable) ∧
      ∀ method url steps edits wire,
        wireRequest (Request.ran method url steps edits) = .ok wire →
          wire.IsCleanFor (Request.ran method url steps edits) := by
  refine ⟨fun r transport => ?_, fun method url steps edits wire hwire => ?_⟩
  · have hnests : Logging.Nests levels (logging settings policy levels).build.client
        (.pooled policy) r := nests_build settings policy levels r
    simp only [hnests.sends, hnests.value]
    cases hdefects : Admission.defects policy r with
    | cons f later =>
      rw [Client.pooled_of_defect hdefects]
      exact ⟨rfl, rfl⟩
    | nil =>
      obtain ⟨pool, wire, hpool, hwire⟩ := Client.exists_of_defects_eq_nil hdefects
      refine ⟨pool, wire, hpool, hwire, ?_⟩
      cases htarget : wire.target with
      | absolute =>
        rw [Client.pooled_of_absolute hpool hwire htarget]
        exact ⟨rfl, rfl⟩
      | bare =>
        rw [Client.pooled_of_bare hpool hwire htarget]
        exact ⟨rfl, rfl⟩
  · exact isCleanFor_of_wireRequest (Request.distinct_ran method url steps edits) hwire

/-- A request with a defect in its scheme and others behind it, and one that is built with a header
that is written twice. -/
theorem refused_for_first_defect_of_two_spellings :
    let url : Url := ⟨"http", "", "", some (.name "a"), none, false, "/", none, none⟩
    let broken : Request := ⟨.get, url, [("bad name", "\r\n")], none, true⟩
    let steps : List Request.Step := [.header "X-Key" "1", .header "x-key" "2", .body [7]]
    let r := Request.ran .post url steps []
    (∀ transport, (((logging .blank none [.info]).build.client broken).run transport).sends = [] ∧
      (((logging .blank none [.info]).build.client broken).run transport).value =
        .error (.pinning "pinned request to http://a/ is not sent over https")) ∧
      ∃ wire, wireRequest r = .ok wire ∧ wire.IsCleanFor r ∧
        HeaderMap.ofHeaders wire.headers = [("x-key", ["2"])] := by
  intro url broken steps r
  refine ⟨fun transport => ?_, ?_⟩
  · exact (refused_for_first_defect .blank none [.info]).1 broken transport
  · have hwire : wireRequest r = .ok ⟨.post, .absolute, "http://a/", [("X-Key", "2")], [7]⟩ := by
      decide +kernel
    exact ⟨_, hwire, (refused_for_first_defect .blank none [.info]).2 .post url steps [] _ hwire,
      by decide +kernel⟩

end ClientPlan

end Waybill
