
import Waybill.Proofs.Configuration.Segments
import Waybill.Proofs.Generated.Hooks
import Waybill.Proofs.Url.Origin

/-!
# The origin of the requests of a service

An endpoint is the base URL with other components behind its authority, whatever the path is and
whatever the base has behind its authority. So it has the origin of the base.

An exclusion is a text with which exempt URLs start. Where it is the text of a URL of the web, every
URL that starts with it has the same origin, whatever comes after it: the slash behind an authority
is part of the text. So no choice of such exclusions exempts a URL of another origin.

The URL of a request is the endpoint of the path that a template is filled in to, with query items
at its end. Both keep the origin of the base URL, so that neither a template nor an argument, nor
the path of a hook, leads to another host, whatever characters they hold.

## Main results

* `Waybill.Configuration.exists_endpoint_of_origin`: every path has an endpoint, and it has the
  origin of the base.
* `Waybill.Configuration.exclusions_confine_to_origin`: exclusions that are texts of URLs exempt
  nothing beyond the origins of these URLs.
* `Waybill.Operation.exists_endpoint_of_runAll`: the statements about the target give the URL of an
  endpoint.
* `Waybill.Operation.requests_keep_origin`: endpoints, keys of hooks and requests have the origin of
  the base.
-/

namespace Waybill

/-- A URL that is exempt by texts of URLs of the web has the origin of one of them. -/
theorem exists_origin_eq_of_isExcluded {us : List Url} (hus : ∀ u ∈ us, u.Arises)
    (hschemes : ∀ u ∈ us, Url.schemeKind u.scheme = .web) {v : Url} (hv : v.Arises)
    (h : isExcluded v (us.map Url.write) = true) : ∃ u ∈ us, v.origin = u.origin := by
  rw [isExcluded, List.any_map, List.any_eq_true] at h
  obtain ⟨u, hu, hstart⟩ := h
  exact ⟨u, hu, Url.origin_eq_of_prefix (hus u hu) hv (hschemes u hu)
    (List.isPrefixOf_iff_prefix.mp hstart)⟩

namespace Configuration

/-! ### Endpoints -/

/-- **Every path has an endpoint, and it has the origin of the base**, if the text of the host of
the base is read as this host. -/
theorem exists_endpoint_of_origin {c : Configuration} (hbase : c.baseUrl.IsWeb)
    (hhost : ∀ host, c.baseUrl.host = some host → Host.ofDomain host.write.toList = .ok host)
    (path : String) : ∃ u, c.endpoint path = .ok u ∧ u.origin = c.baseUrl.origin := by
  obtain ⟨host, hsome, -⟩ := hbase.host
  obtain ⟨cs, hendpoint⟩ := endpoint_eq_withTail hbase hsome path
  rw [hhost host hsome] at hendpoint
  exact ⟨_, hendpoint, Url.origin_withTail hsome cs⟩

/-! ### Exclusions -/

/-- **Exclusions that are texts of URLs exempt nothing beyond their origins**: a URL that is exempt
has the scheme, the credentials, the host and the port of one of them, and with a policy every URL
of another origin is pinned. -/
theorem exclusions_confine_to_origin (us : List Url)
    (hus : ∀ u ∈ us, (∃ text, Url.parse text = .ok u) ∧ (u.scheme = "http" ∨ u.scheme = "https"))
    (v : Url) (hv : v.Arises) :
    (isExcluded v (us.map Url.write) = true → ∃ u ∈ us, v.origin = u.origin) ∧
      ∀ c : Configuration, c.exclusions = us.map Url.write → (∃ policy, c.pinning = some policy) →
        (∀ u ∈ us, v.origin ≠ u.origin) → c.pins v = true := by
  have hread : ∀ u ∈ us, u.Arises := by
    intro u hu
    obtain ⟨⟨text, htext⟩, -⟩ := hus u hu
    exact .read htext
  have hschemes : ∀ u ∈ us, Url.schemeKind u.scheme = .web := by
    intro u hu
    rcases (hus u hu).2 with h | h <;> rw [h] <;> rfl
  refine ⟨exists_origin_eq_of_isExcluded hread hschemes hv, ?_⟩
  intro c hexclusions hpolicy hother
  have hkept : isExcluded v c.exclusions = false := by
    rw [hexclusions, Bool.eq_false_iff]
    intro hexcluded
    obtain ⟨u, hu, hsame⟩ := exists_origin_eq_of_isExcluded hread hschemes hv hexcluded
    exact hother u hu hsame
  rw [pins, hkept, Option.isSome_iff_exists.mpr hpolicy]
  rfl

/-- A host behind an address that was excluded, with its brackets and its port. -/
theorem exclusions_confine_to_origin_of_longer_port :
    let excluded : Url :=
      ⟨"https", "ann", "key", some (.ipv6 [0, 0, 0, 0, 0, 0, 0, 1]), some 844, false, "/", none,
        none⟩
    let c : Configuration :=
      ⟨excluded, .asIs, some ⟨.certificate, [List.replicate 32 0]⟩, [excluded.write], false⟩
    let longer : Url := { excluded with port := some 8443, path := "/posts" }
    excluded.write = "https://ann:key@[::1]:844/" ∧
      isExcluded (excluded.setPath "/posts") c.exclusions = true ∧
      (∃ u ∈ [excluded], (excluded.setPath "/posts").origin = u.origin) ∧ c.pins longer = true := by
  intro excluded c longer
  have hexcluded : Url.parse "https://ann:key@[::1]:844/" = .ok excluded := by rfl
  have hlonger : Url.parse "https://ann:key@[::1]:8443/posts" = .ok longer := by rfl
  have hus : ∀ u ∈ [excluded], (∃ text, Url.parse text = .ok u) ∧
      (u.scheme = "http" ∨ u.scheme = "https") := by
    intro u hu
    rw [List.mem_singleton.mp hu]
    exact ⟨⟨_, hexcluded⟩, .inr rfl⟩
  have hstart : isExcluded (excluded.setPath "/posts") c.exclusions = true := by decide +kernel
  refine ⟨by decide +kernel, hstart, ?_, ?_⟩
  · exact (exclusions_confine_to_origin [excluded] hus (excluded.setPath "/posts")
      (.path (.read hexcluded) _)).1 hstart
  · refine (exclusions_confine_to_origin [excluded] hus longer (.read hlonger)).2 c rfl ⟨_, rfl⟩ ?_
    intro u hu
    rw [List.mem_singleton.mp hu]
    decide

end Configuration

end Waybill

namespace Waybill.Operation

open Generated hiding Method

variable {setting : Setting} {env env' : Environment} {o : Operation}

/-- **The target is an endpoint**: where the statements about the target have run, the URL is the
endpoint of some path. -/
theorem exists_endpoint_of_runAll (hrun : runAll setting env o.targetStatements = .ok env') :
    ∃ path u, setting.configuration.endpoint path = .ok u ∧
      env'.read Value.url? Local.url = .ok u := by
  obtain ⟨env₁, -, hrun⟩ := Steps.bind_eq_ok_iff.mp hrun
  obtain ⟨env₂, -, hrun⟩ := Steps.bind_eq_ok_iff.mp hrun
  obtain ⟨env₃, hconfiguration, hrun⟩ := Steps.bind_eq_ok_iff.mp hrun
  obtain ⟨env₄, hurl, hrun⟩ := Steps.bind_eq_ok_iff.mp hrun
  obtain rfl : env₂.define Local.configuration (.configuration setting.configuration) = env₃ :=
    Except.ok.inj hconfiguration
  -- the endpoint is that of the configuration, which was defined right before
  obtain ⟨v, hv, hdefine⟩ := Steps.bind_eq_ok_iff.mp hurl
  obtain rfl := Except.ok.inj hdefine
  obtain ⟨c, hc, hv⟩ := Steps.bind_eq_ok_iff.mp hv
  have hread : (env₂.define Local.configuration (.configuration setting.configuration)).read
      Value.configuration? Local.configuration = .ok setting.configuration :=
    Environment.read_define_self rfl
  obtain rfl := Except.ok.inj (hread.symm.trans hc)
  obtain ⟨path, -, hv⟩ := Steps.bind_eq_ok_iff.mp hv
  obtain ⟨u, hu, hv⟩ := Steps.bind_eq_ok_iff.mp hv
  obtain rfl := Except.ok.inj hv
  -- and the text of the URL of the template is defined under other names
  refine ⟨path, u, attempt_eq_ok hu, ?_⟩
  have hassigned : ∀ s ∈ o.targetStatements.drop 4,
      s.assigned ∈ [Local.rawTemplate, Local.rawUrl] := by
    simp [targetStatements, Statement.assigned]
  exact (read_of_runAll hassigned (by decide) hrun).trans (Environment.read_define_self rfl)

/-- **Nothing leads away from the origin of the base URL.** Let the base be a URL of the web that
was read, and let the text of its host be read as this host. Every path has an endpoint, it has the
scheme, credentials, host and port of the base, and its text is the key of hooks for the path; and
so has the URL of every request that the statements of an operation build, whatever the arguments
are. -/
theorem requests_keep_origin {c : Configuration} {base : String}
    (hbase : Url.parse base = .ok c.baseUrl)
    (hscheme : c.baseUrl.scheme = "http" ∨ c.baseUrl.scheme = "https")
    (hhost : ∀ host, c.baseUrl.host = some host → Host.ofDomain host.write.toList = .ok host) :
    (∀ path, ∃ u, c.endpoint path = .ok u ∧ u.origin = c.baseUrl.origin ∧
        c.hookKey (some path) = .url u.write) ∧
      ∀ (o : Operation) (setting : Setting) (env env' : Environment), setting.configuration = c →
        runAll setting env o.requestStatements = .ok env' →
        ∃ request, env'.read Value.request? Local.request = .ok request ∧
          request.url.origin = c.baseUrl.origin := by
  have hweb := Url.isWeb_of_parse hbase (Configuration.schemeKind_web hscheme)
  have hendpoint := Configuration.exists_endpoint_of_origin hweb hhost
  refine ⟨fun path => ?_, ?_⟩
  · obtain ⟨u, hu, horigin⟩ := hendpoint path
    refine ⟨u, hu, horigin, ?_⟩
    rw [c.hookKey_eq_url, Configuration.endpointKey_of_ok hu]
  · rintro o setting env env' rfl hrun
    rw [requestStatements_eq] at hrun
    obtain ⟨targeted, htarget, hlater⟩ := runAll_append_eq_ok_iff.mp hrun
    obtain ⟨path, u, hu, hurl⟩ := exists_endpoint_of_runAll htarget
    obtain ⟨items, request, -, hrequest, hrequestUrl⟩ := of_runAll_laterStatements hurl hlater
    obtain ⟨u', hu', horigin⟩ := hendpoint path
    obtain rfl : u = u' := Except.ok.inj (hu.symm.trans hu')
    refine ⟨request, hrequest, ?_⟩
    rw [hrequestUrl, Url.origin_appendPairs, horigin]

/-- A base URL with credentials, a port, a query and a fragment that ends with slashes. -/
def guardedBase : Url where
  scheme := "https"
  username := "u%40"
  password := "p"
  host := some (.ipv6 [0, 0, 0, 0, 0, 0, 0, 1])
  port := some 8443
  detached := false
  path := "/v1/"
  query := some "k=/"
  fragment := some "f//"

/-- A path that would start an authority of its own, one that steps back behind the root, and an
argument that does both. -/
theorem requests_keep_origin_of_authority_in_path :
    let c := Configuration.ofUrl guardedBase
    let env := ((Environment.empty.define "id" (.argument (.text "\\..\\@[::2]:80"))).define "lang"
      (.argument .absent)).define queryItemsName (.items [("k", "v")])
    (∃ u, c.endpoint "//\\@[::2]:80/\t" = .ok u ∧ u.origin = guardedBase.origin ∧
      c.hookKey (some "//\\@[::2]:80/\t") = .url u.write) ∧
    (∃ u, c.endpoint "../../..//[::2]/?#@" = .ok u ∧ u.origin = guardedBase.origin ∧
      c.hookKey (some "../../..//[::2]/?#@") = .url u.write) ∧
    ∃ env' request, runAll ⟨c, ""⟩ env note.requestStatements = .ok env' ∧
      env'.read Value.request? Local.request = .ok request ∧
      request.url.origin = guardedBase.origin := by
  intro c env
  have hbase : Url.parse "https://u%40:p@[::1]:8443/v1/?k=/#f//" = .ok guardedBase := by rfl
  have hhost : ∀ host, guardedBase.host = some host →
      Host.ofDomain host.write.toList = .ok host := by
    intro host hsome
    obtain rfl := Option.some.inj hsome
    rfl
  have hquery : (runAll ⟨c, ""⟩ env note.requestStatements >>=
      fun env' => env'.read Value.items? Local.query) = .ok [("k", "v")] := by decide +kernel
  obtain ⟨env', hrun, -⟩ := Steps.bind_eq_ok_iff.mp hquery
  obtain ⟨hendpoint, hrequest⟩ := requests_keep_origin (c := c) hbase (Or.inr rfl) hhost
  obtain ⟨request, hread, horigin⟩ := hrequest note ⟨c, ""⟩ env env' rfl hrun
  exact ⟨hendpoint _, hendpoint _, env', request, hrun, hread, horigin⟩

end Waybill.Operation
