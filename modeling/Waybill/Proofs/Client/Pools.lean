import Waybill.Client
import Waybill.Proofs.Dispatch.Handing

/-!
# The pools of a client

A client with pools sends a request over the pool that `selectPool` chooses for it, or not at all.
The choice depends on the mark of the request, on its scheme and on the policy of the client alone,
and the pool without a policy is chosen exactly for requests without the mark.

Layers are put around that client. They may change what they pass on and may pass on nothing, but a
layer that reaches the network only through the client it wraps cannot undo the choice.

## Main definitions

* `Waybill.Client.SendsBySelection` — requests are sent over the pools that are chosen for them.
* `Waybill.Client.Wraps` — a layer reaches the network only through the client that it wraps.
* `Waybill.ClientPlan.ChoosesByMark` — the mark of a request decides about the plain pool.

## Main results

* `Waybill.selectPool_eq_plain_iff`: the plain pool is for requests without the mark.
* `Waybill.Client.pooled_everySend`: a client with pools sends what it was given as it was chosen.
* `Waybill.ClientPlan.choosesByMark`: in every plan of a client the mark of a request decides.
-/

namespace Waybill

/-- The pool without a policy is chosen exactly for requests that are not marked. -/
theorem selectPool_eq_plain_iff (policy : Option PinningPolicy) (r : Request) :
    selectPool policy r = .ok .plain ↔ r.pinned = false := by
  cases hmark : r.pinned with
  | false => simp [selectPool, hmark]
  | true =>
    cases hscheme : r.url.scheme != "https" with
    | true => simp [selectPool, hmark, hscheme]
    | false => cases policy <;> simp [selectPool, hmark, hscheme]

/-- A marked request goes over the pool of the policy, unless its scheme is another than `https`. -/
theorem selectPool_of_pinned (policy : PinningPolicy) {r : Request} (hmark : r.pinned = true) :
    selectPool (some policy) r =
      if r.url.scheme = "https" then .ok (.pinned policy)
      else .error (.pinning s!"pinned request to {r.url.write} is not sent over https") := by
  by_cases hscheme : r.url.scheme = "https" <;> simp [selectPool, hmark, hscheme]

namespace Client

/-- Every request is sent over the pool that is chosen for it. -/
def SendsBySelection (policy : Option PinningPolicy) (client : Client) : Prop :=
  ∀ r, (client r).EverySend fun pool sent => ∃ p, pool = some p ∧ selectPool policy sent = .ok p

/-- A layer reaches the network only through the client that it wraps: whatever holds of all
requests of that client and their pools holds of all requests of the layer. -/
def Wraps (layer : Client → Client) : Prop :=
  ∀ (P : Option Pool → Request → Prop) (inner : Client),
    (∀ r, (inner r).EverySend P) → ∀ r, (layer inner r).EverySend P

section Pooled

variable {policy : Option PinningPolicy} {r : Request}

theorem pooled_of_selectPool_error {f : Failure} (hpool : selectPool policy r = .error f) :
    pooled policy r = .done (.error f) := by
  simp [pooled, admission, hpool, bind, Except.bind, pure]

theorem pooled_of_wireRequest_error {p : Pool} {fault : WireFault}
    (hpool : selectPool policy r = .ok p) (hwire : wireRequest r = .error fault) :
    pooled policy r = .done (.error (.invalidRequest fault.message)) := by
  simp [pooled, admission, hpool, hwire, bind, Except.bind, pure]

theorem pooled_of_bare {p : Pool} {wire : WireRequest} (hpool : selectPool policy r = .ok p)
    (hwire : wireRequest r = .ok wire) (htarget : wire.target = .bare) :
    pooled policy r = .done (.error unreachable) := by
  simp [pooled, admission, hpool, hwire, htarget, bind, Except.bind, pure]

theorem pooled_of_absolute {p : Pool} {wire : WireRequest} (hpool : selectPool policy r = .ok p)
    (hwire : wireRequest r = .ok wire) (htarget : wire.target = .absolute) :
    pooled policy r = Exchange.requestOver p r := by
  simp [pooled, admission, hpool, hwire, htarget, bind, Except.bind]

end Pooled

/-- What a client with pools sends is the request that it was given, over the pool that is chosen
for it. -/
theorem pooled_everySend (policy : Option PinningPolicy) (r : Request) :
    (pooled policy r).EverySend fun pool sent =>
      sent = r ∧ ∃ p, pool = some p ∧ selectPool policy r = .ok p := by
  cases hpool : selectPool policy r with
  | error f =>
    rw [pooled_of_selectPool_error hpool]
    trivial
  | ok p =>
    cases hwire : wireRequest r with
    | error fault =>
      rw [pooled_of_wireRequest_error hpool hwire]
      trivial
    | ok wire =>
      cases htarget : wire.target with
      | absolute =>
        rw [pooled_of_absolute hpool hwire htarget]
        exact ⟨⟨rfl, p, rfl, rfl⟩, fun _ => trivial⟩
      | bare =>
        rw [pooled_of_bare hpool hwire htarget]
        trivial

theorem sendsBySelection_pooled (policy : Option PinningPolicy) :
    SendsBySelection policy (pooled policy) := by
  intro r
  refine (pooled_everySend policy r).mono ?_
  rintro pool sent ⟨rfl, hpool⟩
  exact hpool

/-- A layer that logs reaches the network only through the client that it wraps. -/
theorem wraps_logging (level : Logging) : Wraps level.layer := by
  intro P inner hinner r
  refine Exchange.everySend_bind (Exchange.isSilent_logAll _).everySend fun _ => ?_
  refine Exchange.everySend_bind (hinner r) fun answer => ?_
  trivial

theorem sendsBySelection_foldr {policy : Option PinningPolicy} {layers : List (Client → Client)}
    (hlayers : ∀ layer ∈ layers, Wraps layer) {inner : Client}
    (hinner : SendsBySelection policy inner) :
    SendsBySelection policy (layers.foldr (fun layer inner => layer inner) inner) := by
  induction layers with
  | nil => exact hinner
  | cons layer layers ih =>
    exact hlayers layer (by simp) _ _ (ih fun l hl => hlayers l (by simp [hl]))

end Client

namespace ClientPlan

/-- Layers that reach the network only through what they wrap leave every request to the pool that
is chosen for it. -/
theorem sendsBySelection_build (p : ClientPlan) (hlayers : ∀ layer ∈ p.layers, Client.Wraps layer) :
    Client.SendsBySelection p.build.pinning p.build.client :=
  Client.sendsBySelection_foldr hlayers (Client.sendsBySelection_pooled p.pinning)

/-- The mark of a request decides whether the client of a plan uses the pool without a policy. -/
structure ChoosesByMark (p : ClientPlan) : Prop where
  /-- The plain pool is chosen exactly for requests without the mark. -/
  plain_iff : ∀ r, selectPool p.build.pinning r = .ok .plain ↔ r.pinned = false
  /-- Whatever the layers are, the client inside them sends what it was given, over the pool that is
  chosen for it. -/
  inner : ∃ inner, p.build.client = p.layers.foldr (fun layer client => layer client) inner ∧
    ∀ r, (inner r).EverySend fun pool sent =>
      sent = r ∧ ∃ q, pool = some q ∧ selectPool p.build.pinning r = .ok q
  /-- Layers that reach the network only through what they wrap leave it at that. -/
  whole : (∀ layer ∈ p.layers, Client.Wraps layer) → ∀ r,
    (p.build.client r).EverySend fun pool sent => pool = some .plain ↔ sent.pinned = false

theorem choosesByMark (p : ClientPlan) : p.ChoosesByMark where
  plain_iff := selectPool_eq_plain_iff p.build.pinning
  inner := ⟨.pooled p.pinning, rfl, Client.pooled_everySend p.pinning⟩
  whole hlayers r := by
    refine (p.sendsBySelection_build hlayers r).mono ?_
    rintro pool sent ⟨q, rfl, hq⟩
    rw [← selectPool_eq_plain_iff p.build.pinning, hq]
    simp

end ClientPlan

end Waybill
