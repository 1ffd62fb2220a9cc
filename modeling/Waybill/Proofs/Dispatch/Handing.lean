
import Waybill.Dispatch
import Waybill.Exchange

/-!
# The request that a call hands over

An exchange goes on in a way of its own for every answer, so a statement about all requests that it
may send is a statement about the tree of its continuations. `Exchange.EverySend` says that a
condition holds at every request in it, together with the pool that the request is sent over. It is
kept by sequencing, and it holds of every trace.

A call has three parts: records before the request, the client on the prepared request, and what is
made of its answer. Only the part in the middle can send anything, so the client alone decides how
the prepared request leaves, and there is no other request.

## Main definitions

* `Waybill.Exchange.EverySend` — a condition on all requests of an exchange and their pools.
* `Waybill.Exchange.IsSilent` — no request is sent.
* `Waybill.Dispatch.finish` — what a call makes of the answer to its request.
* `Waybill.Dispatch.Hands` — the one request that a call hands to its client.

## Main results

* `Waybill.Exchange.everySend_bind`: the condition is kept by sequencing.
* `Waybill.Exchange.everySend_sends`: it holds of everything that is sent to a transport.
* `Waybill.Dispatch.perform_eq`: the three parts of a call.
* `Waybill.Dispatch.hands_iff`: a call hands over the prepared request, and no other.
* `Waybill.Dispatch.sends_perform`, `Waybill.Dispatch.value_perform`: the trace of a call.
-/

namespace Waybill.Exchange

variable {α β : Type} {P Q : Option Pool → Request → Prop}

/-- A condition holds of every request that an exchange may send, and of the pool that it is sent
over, whatever the answers are. -/
def EverySend (P : Option Pool → Request → Prop) : Exchange α → Prop
  | done _ => True
  | log _ next => EverySend P next
  | send pool request next => P pool request ∧ ∀ answer, EverySend P (next answer)

/-- No request is sent, whatever the answers are. -/
def IsSilent (x : Exchange α) : Prop := x.EverySend fun _ _ => False

theorem EverySend.mono {x : Exchange α} (h : x.EverySend P) (hPQ : ∀ pool r, P pool r → Q pool r) :
    x.EverySend Q := by
  induction x with
  | done a => trivial
  | log record next ih => exact ih h
  | send pool r next ih => exact ⟨hPQ pool r h.1, fun answer => ih answer (h.2 answer)⟩

theorem IsSilent.everySend {x : Exchange α} (h : x.IsSilent) : x.EverySend P :=
  EverySend.mono h fun _ _ => False.elim

/-- A condition on the requests of both parts of a sequence holds of the sequence. -/
theorem everySend_bind {x : Exchange α} {f : α → Exchange β} (hx : x.EverySend P)
    (hf : ∀ a, (f a).EverySend P) : (x.bind f).EverySend P := by
  induction x with
  | done a => exact hf a
  | log record next ih => exact ih hx
  | send pool r next ih => exact ⟨hx.1, fun answer => ih answer (hx.2 answer)⟩

theorem isSilent_logAll (records : List Log.Record) : (logAll records).IsSilent := by
  induction records with
  | nil => trivial
  | cons record records ih => exact ih

/-- What holds of every request of an exchange holds of everything that is sent in a run of it. -/
theorem everySend_sends {x : Exchange α} (h : x.EverySend P) (transport : Transport) :
    ∀ s ∈ (x.run transport).sends, P s.1 s.2 := by
  induction x with
  | done a => simp [run]
  | log record next ih => exact ih h
  | send pool r next ih =>
    intro s hs
    rcases List.mem_cons.mp hs with rfl | hs
    · exact h.1
    · exact ih _ (h.2 _) s hs

theorem IsSilent.sends_eq_nil {x : Exchange α} (h : x.IsSilent) (transport : Transport) :
    (x.run transport).sends = [] :=
  List.eq_nil_iff_forall_not_mem.mpr fun s hs => everySend_sends h transport s hs

theorem run_logAll (transport : Transport) (records : List Log.Record) :
    (logAll records).run transport = ⟨[], records, ()⟩ := by
  induction records with
  | nil => rfl
  | cons record records ih =>
    exact congrArg (fun t : Trace Unit => { t with logs := record :: t.logs }) ih

end Waybill.Exchange

namespace Waybill.Dispatch

/-- What a call makes of the answer to its request. -/
def finish (d : Dispatch) (request : Request) : Outcome Response → Exchange (Outcome Response)
  | .error f => .done (.error f)
  | .ok response =>
    let response := d.interceptors.applyOnResponse (d.keys request) response
    (Exchange.logAll (d.recordsAfter request response)).bind fun _ => .done (checked response)

/-- The three parts of a call. -/
theorem perform_eq (d : Dispatch) (client : Client) (request : Request) :
    d.perform client request =
      (Exchange.logAll (d.recordsBefore request)).bind fun _ =>
        (client (d.prepared request)).bind (d.finish request) := by
  refine congrArg (Exchange.bind _) (funext fun _ => ?_)
  refine congrArg (Exchange.bind _) (funext fun answer => ?_)
  cases answer <;> rfl

theorem isSilent_finish (d : Dispatch) (request : Request) (answer : Outcome Response) :
    (d.finish request answer).IsSilent := by
  cases answer with
  | error f => trivial
  | ok response => exact Exchange.everySend_bind (Exchange.isSilent_logAll _) fun _ => trivial

/-- A call hands a request to its client: whatever the client is, it is run once, on this request,
and nothing is sent before it or after it. -/
def Hands (d : Dispatch) (request sent : Request) : Prop :=
  ∃ (before : List Log.Record) (after : Outcome Response → Exchange (Outcome Response)),
    (∀ client : Client, d.perform client request =
      (Exchange.logAll before).bind fun _ => (client sent).bind after) ∧
    ∀ answer, (after answer).IsSilent

/-- What holds of every request that the client sends for the prepared request holds of every
request that the call sends. -/
theorem everySend_perform {P : Option Pool → Request → Prop} (d : Dispatch) (client : Client)
    (request : Request) (hclient : (client (d.prepared request)).EverySend P) :
    (d.perform client request).EverySend P := by
  rw [perform_eq]
  refine Exchange.everySend_bind (Exchange.isSilent_logAll _).everySend fun _ => ?_
  exact Exchange.everySend_bind hclient fun answer => (d.isSilent_finish request answer).everySend

/-- A call sends what the client sends for the prepared request. -/
theorem sends_perform (d : Dispatch) (client : Client) (request : Request) (transport : Transport) :
    ((d.perform client request).run transport).sends =
      ((client (d.prepared request)).run transport).sends := by
  rw [perform_eq, Exchange.run_bind, Exchange.run_logAll, Exchange.run_bind]
  simp only [List.nil_append, (d.isSilent_finish request _).sends_eq_nil, List.append_nil]

/-- A call ends with what it makes of the value of the client. -/
theorem value_perform (d : Dispatch) (client : Client) (request : Request) (transport : Transport) :
    ((d.perform client request).run transport).value =
      ((d.finish request ((client (d.prepared request)).run transport).value).run
        transport).value := by
  rw [perform_eq, Exchange.run_bind, Exchange.run_logAll, Exchange.run_bind]

/-- **A call hands over the prepared request**, and no other. A client that sends what it is given
tells one from the other. -/
theorem hands_iff (d : Dispatch) (request sent : Request) :
    d.Hands request sent ↔ sent = d.prepared request := by
  constructor
  · rintro ⟨before, after, hperform, hafter⟩
    have hsends := d.sends_perform Exchange.request request fun _ => .error .unknown
    rw [hperform, Exchange.run_bind, Exchange.run_logAll, Exchange.run_bind] at hsends
    simp only [(hafter _).sends_eq_nil, List.nil_append, List.append_nil] at hsends
    simpa [Exchange.request, Exchange.run] using hsends
  · rintro rfl
    exact ⟨d.recordsBefore request, d.finish request, fun client => d.perform_eq client request,
      d.isSilent_finish request⟩

end Waybill.Dispatch
