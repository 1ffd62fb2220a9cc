import Waybill.Proofs.Client.Pools
import Waybill.Proofs.Dispatch.Handing

/-!
# Pinned calls

Whether a request must be pinned is decided once, on the request as it is sent: after all hooks, and
by its own URL. The mark that a caller or a hook may have set is written over, and the URL that
hooks are looked up with plays no part. From there the mark decides about the pool, so that a call
of a group with a policy goes over the plain pool only if its URL is exempt.

## Main definitions

* `Waybill.Dispatch.changed` — a request after all hooks.
* `Waybill.Configuration.IsExempt` — whether the text of a URL starts with an exclusion.

## Main results

* `Waybill.Dispatch.pinned_hands_iff`: what the mark of the request that is sent depends on.
* `Waybill.Dispatch.pinned_calls_avoid_plain_pool`: calls that must be pinned never use the plain
  pool, and no client uses it for a marked request.
-/

namespace Waybill

/-- Whether the text of a URL starts with one of the exclusions of a configuration. -/
def Configuration.IsExempt (c : Configuration) (u : Url) : Prop :=
  ∃ start ∈ c.exclusions, start.toList <+: u.write.toList

theorem Configuration.pins_iff (c : Configuration) (u : Url) :
    c.pins u = true ↔ (∃ policy, c.pinning = some policy) ∧ ¬c.IsExempt u := by
  simp [pins, isExcluded, IsExempt, Option.isSome_iff_exists]

namespace Dispatch

/-- A request after all hooks that it meets. -/
def changed (d : Dispatch) (request : Request) : Request :=
  d.interceptors.applyBeforeSend (d.keys request) request

theorem prepared_url (d : Dispatch) (request : Request) :
    (d.prepared request).url = (d.changed request).url := rfl

theorem prepared_pinned (d : Dispatch) (request : Request) :
    (d.prepared request).pinned = d.configuration.pins (d.changed request).url := rfl

/-- **The mark of the request that is sent.** Two calls of one group whose hooks end in the same URL
hand over requests with the same mark, and the mark is set exactly if the group has a policy and the
URL of the request that is handed over is not exempt. The callers, the hooks, the marks they set and
the URLs that hooks are looked up with make no other difference. -/
theorem pinned_hands_iff (c : Configuration) (rawUrl rawUrl' : String) (i i' : Interceptors)
    (request request' : Request)
    (hurl : (changed ⟨rawUrl, c, i⟩ request).url = (changed ⟨rawUrl', c, i'⟩ request').url) :
    (∃ sent, Hands ⟨rawUrl, c, i⟩ request sent) ∧
      (∃ sent', Hands ⟨rawUrl', c, i'⟩ request' sent') ∧
      ∀ sent sent', Hands ⟨rawUrl, c, i⟩ request sent → Hands ⟨rawUrl', c, i'⟩ request' sent' →
        sent.url = (changed ⟨rawUrl, c, i⟩ request).url ∧ sent'.url = sent.url ∧
        sent.pinned = sent'.pinned ∧
        (sent.pinned = true ↔ (∃ policy, c.pinning = some policy) ∧ ¬c.IsExempt sent.url) := by
  refine ⟨⟨_, (hands_iff _ request _).mpr rfl⟩, ⟨_, (hands_iff _ request' _).mpr rfl⟩, ?_⟩
  intro sent sent' h h'
  obtain rfl := (hands_iff _ request sent).mp h
  obtain rfl := (hands_iff _ request' sent').mp h'
  refine ⟨rfl, hurl.symm, ?_, ?_⟩
  · rw [prepared_pinned, prepared_pinned, hurl]
  · rw [prepared_pinned, Configuration.pins_iff, prepared_url]

/-- A hook that rewrites the URL and removes the mark hands over the same mark as a call that starts
at the new URL. -/
theorem pinned_hands_iff_of_rewriting_hook :
    let target : Url := ⟨"https", "", "", some (.name "a"), none, false, "/x", none, none⟩
    let c : Configuration := ⟨target, .asIs, some ⟨.certificate, [List.replicate 32 0]⟩,
      ["https://a/y"], false⟩
    let hook (r : Request) : Request := (r.setUrl target).setPinned false
    ∃ sent sent',
      Hands ⟨"", c, Interceptors.empty.registerBeforeSend .all hook⟩
        (.start .get { target with scheme := "http" }) sent ∧
      Hands ⟨"raw", c, .empty⟩ (.start .get target) sent' ∧
      sent.pinned = true ∧ sent'.pinned = true := by
  intro target c hook
  obtain ⟨⟨sent, h⟩, ⟨sent', h'⟩, hall⟩ := pinned_hands_iff c "" "raw"
    (Interceptors.empty.registerBeforeSend .all hook) .empty
    (.start .get { target with scheme := "http" }) (.start .get target) rfl
  obtain ⟨hurl, -, hsame, hiff⟩ := hall sent sent' h h'
  have hpinned : sent.pinned = true := by
    refine hiff.mpr ⟨⟨_, rfl⟩, ?_⟩
    rw [hurl, Configuration.IsExempt]
    decide
  exact ⟨sent, sent', h, h', hpinned, hsame ▸ hpinned⟩

/-- The client of a group with a policy is the one with pools for this policy. -/
theorem ofConfiguration_of_pinning {c : Configuration} {policy : PinningPolicy}
    (hpolicy : c.pinning = some policy) :
    (PooledClient.ofConfiguration c).pinning = some policy ∧
      (PooledClient.ofConfiguration c).client = .pooled (some policy) := by
  rw [PooledClient.ofConfiguration, hpolicy]
  exact ⟨rfl, rfl⟩

/-- A call over the client of its group. -/
def overPools (d : Dispatch) (request : Request) : Exchange (Outcome Response) :=
  d.perform (PooledClient.ofConfiguration d.configuration).client request

/-- A call of a group with a policy goes over the pool of the policy or is refused. -/
structure UsesPinnedPool (d : Dispatch) (policy : PinningPolicy) (request : Request) : Prop where
  /-- The pool of the policy is chosen, unless the scheme is another than `https`. That the client
  has no policy is never the reason of a refusal. -/
  select : selectPool (PooledClient.ofConfiguration d.configuration).pinning (d.prepared request) =
    if (d.prepared request).url.scheme = "https" then .ok (.pinned policy)
    else .error (.pinning
      s!"pinned request to {(d.prepared request).url.write} is not sent over https")
  /-- Whatever is sent is the prepared request, over the pool of the policy. -/
  sends : (d.overPools request).EverySend
    fun pool sent => pool = some (.pinned policy) ∧ sent = d.prepared request
  /-- With another scheme the call fails, and nothing is sent. -/
  refused : (d.prepared request).url.scheme ≠ "https" → ∀ transport,
    ((d.overPools request).run transport).sends = [] ∧
      ((d.overPools request).run transport).value = .error (.pinning
        s!"pinned request to {(d.prepared request).url.write} is not sent over https")
  /-- With `https` a request that can be written on the wire is sent, once. -/
  sent : (d.prepared request).url.scheme = "https" → ∀ wire,
    wireRequest (d.prepared request) = .ok wire → wire.target = .absolute → ∀ transport,
    ((d.overPools request).run transport).sends = [(some (.pinned policy), d.prepared request)]

theorem usesPinnedPool {d : Dispatch} {policy : PinningPolicy} {request : Request}
    (hpolicy : d.configuration.pinning = some policy)
    (hurl : ¬d.configuration.IsExempt (d.changed request).url) :
    d.UsesPinnedPool policy request := by
  have hmark : (d.prepared request).pinned = true := by
    rw [prepared_pinned, Configuration.pins_iff]
    exact ⟨⟨policy, hpolicy⟩, hurl⟩
  have hselect := selectPool_of_pinned policy hmark
  obtain ⟨hpinning, hclient⟩ := ofConfiguration_of_pinning hpolicy
  refine ⟨?_, ?_, ?_, ?_⟩
  · rw [hpinning, hselect]
  · refine d.everySend_perform _ request ?_
    rw [hclient]
    refine (Client.pooled_everySend (some policy) _).mono ?_
    rintro pool sent ⟨rfl, p, rfl, hp⟩
    rw [hselect] at hp
    split at hp
    · exact ⟨by rw [Except.ok.inj hp], rfl⟩
    · cases hp
  · intro hscheme transport
    rw [if_neg hscheme] at hselect
    rw [overPools, sends_perform, value_perform, hclient, Client.pooled_of_selectPool_error hselect]
    exact ⟨rfl, rfl⟩
  · intro hscheme wire hwire htarget transport
    rw [if_pos hscheme] at hselect
    rw [overPools, sends_perform, hclient, Client.pooled_of_absolute hselect hwire htarget]
    rfl

/-- **Calls that must be pinned avoid the plain pool.** In a group with a policy, a call whose URL
is not exempt after all hooks uses the pool of that policy or is refused, and in no client is the
plain pool used for a request with the mark. -/
theorem pinned_calls_avoid_plain_pool (d : Dispatch) (policy : PinningPolicy) (request : Request)
    (hpolicy : d.configuration.pinning = some policy)
    (hurl : ¬d.configuration.IsExempt (d.changed request).url) :
    d.UsesPinnedPool policy request ∧ ∀ p : ClientPlan, p.ChoosesByMark :=
  ⟨usesPinnedPool hpolicy hurl, ClientPlan.choosesByMark⟩

/-- A hook cannot bring a call to the plain pool by removing the mark. -/
theorem pinned_calls_avoid_plain_pool_of_unmarking_hook :
    let url : Url := ⟨"https", "", "", some (.name "a"), none, false, "/x", none, none⟩
    let policy : PinningPolicy := ⟨.certificate, [List.replicate 32 0]⟩
    let c : Configuration := ⟨url, .asIs, some policy, ["https://a/y", "http:"], false⟩
    let i := Interceptors.empty.registerBeforeSend .all fun r => r.setPinned false
    let d : Dispatch := ⟨"", c, i⟩
    selectPool (PooledClient.ofConfiguration c).pinning (d.prepared (.start .get url)) =
        .ok (.pinned policy) ∧
      (ClientPlan.blank.withLogging .debug).ChoosesByMark := by
  intro url policy c i d
  have hurl : ¬d.configuration.IsExempt (d.changed (.start .get url)).url := by
    rw [Configuration.IsExempt]
    decide
  obtain ⟨hcall, hplans⟩ := pinned_calls_avoid_plain_pool d policy (.start .get url) rfl hurl
  exact ⟨hcall.select.trans (if_pos rfl), hplans _⟩

end Dispatch

end Waybill
