import Waybill.Proofs.Dispatch.Handing
import Waybill.Proofs.Dispatch.Pinning
import Waybill.Proofs.Interception.Meeting

/-!
# The steps of a call

A call has fixed steps, whatever hooks, client and answer do. It puts its request through the hooks
on requests one after the other, marks what comes out for pinning, and hands that to its client. A
failure of the client is the failure of the call. An answer goes through the hooks on responses.
Only then is the status looked at, and only the body of a success is decoded.

Which hooks these are is said apart from the steps: those that the registry has for the URLs that
the call started with, for requests and for responses alike, even if a hook has given the request
another URL.

The steps are stated as a relation between the answer of the client, the records that the call
leaves after it, and the outcome of the call. A call that has them says for each answer what
follows; so nothing is assumed of the client, and it may answer in whatever way.

## Main definitions

* `Waybill.throughAll` — a request or a response after hooks.
* `Waybill.Configuration.Marks` — a request with the mark that a configuration asks for.
* `Waybill.Dispatch.Settles` — what a call makes of the answer to its request.
* `Waybill.Dispatch.Follows` — a call with these steps.
* `Waybill.Dispatch.requestHooks`, `Waybill.Dispatch.responseHooks` — the hooks of a call.

## Main results

* `Waybill.Dispatch.prepared_marks`: the request that is handed over.
* `Waybill.Dispatch.settles_checked`: the outcome of an answer follows from its status after all
  hooks.
* `Waybill.Dispatch.calls_follow_steps`: the three kinds of calls have these steps.
-/

namespace Waybill

/-- What hooks make of a request or a response, one after the other. -/
def throughAll {α : Type} (hooks : List (α → α)) (a : α) : α := hooks.foldl (fun a hook => hook a) a

/-- A request is another one with the mark that a configuration asks for: it is set exactly if there
is a policy and the URL of the request is not exempt. -/
def Configuration.Marks (c : Configuration) (request sent : Request) : Prop :=
  ∃ mark, sent = { request with pinned := mark } ∧
    (mark = true ↔ (∃ policy, c.pinning = some policy) ∧ ¬c.IsExempt request.url)

namespace Dispatch

/-- The records of hooks on responses, one for each that is run, in a call whose request had a
URL. -/
def answerRecords (url : String) (hooks : List (Response → Response)) : List Log.Record :=
  hooks.map fun _ => .event .trace "applying on-response hook" [("url", .text url)]

/-- What a call whose request had a URL makes of the answer to it, with hooks on responses: the
records that it leaves, and its outcome. -/
inductive Settles (url : String) (hooks : List (Response → Response)) :
    Outcome Response → List Log.Record → Outcome Response → Prop
  /-- A failure stays as it is, and no hook is run. -/
  | failed (f : Failure) : Settles url hooks (.error f) [] (.error f)
  /-- After all hooks the status is one of success. -/
  | accepted (response : Response) (received : Log.Record)
    (low : 200 ≤ (throughAll hooks response).status)
    (high : (throughAll hooks response).status ≤ 299) :
    Settles url hooks (.ok response) (answerRecords url hooks ++ [received])
      (.ok (throughAll hooks response))
  /-- After all hooks the status is another one. The failure has the body, if that is not empty. -/
  | refused (response : Response) (received : Log.Record) (body : Option (List UInt8))
    (hstatus : (throughAll hooks response).status < 200 ∨
      299 < (throughAll hooks response).status)
    (hbody : ∀ bytes, body = some bytes ↔
      bytes = (throughAll hooks response).body ∧ bytes ≠ []) :
    Settles url hooks (.ok response) (answerRecords url hooks ++ [received])
      (.error (.unexpectedResponse (throughAll hooks response).status
        (Status.description (throughAll hooks response).status) body))

/-- A call follows the steps with hooks on requests and hooks on responses: records, the client on
the request after all hooks with the mark that the configuration asks for, and then only what the
answer settles. -/
def Follows {α : Type} (c : Configuration) (onRequests : List (Request → Request))
    (onResponses : List (Response → Response)) (request : Request)
    (call : Client → Exchange (Outcome α)) (value : Response → Outcome α) : Prop :=
  ∃ (before : List Log.Record) (sent : Request) (after : Outcome Response → Exchange (Outcome α)),
    c.Marks (throughAll onRequests request) sent ∧
    (∀ client : Client, call client = (Exchange.logAll before).bind fun _ =>
      (client sent).bind after) ∧
    ∀ answer, ∃ records outcome, Settles request.url.write onResponses answer records outcome ∧
      after answer = (Exchange.logAll records).bind fun _ => .done (outcome.bind value)

/-- The hooks on requests for a call. They are looked up with the URL that the request has at first
and that of the template. -/
def requestHooks (d : Dispatch) (request : Request) : List (Request → Request) :=
  d.interceptors.beforeSend.hooksFor ⟨request.url.write, d.rawUrl⟩

/-- The hooks on responses for a call, which are looked up with the same URLs. -/
def responseHooks (d : Dispatch) (request : Request) : List (Response → Response) :=
  d.interceptors.onResponse.hooksFor ⟨request.url.write, d.rawUrl⟩

theorem changed_eq (d : Dispatch) (request : Request) :
    d.changed request = throughAll (d.requestHooks request) request := by
  rw [changed, Interceptors.applyBeforeSend, Registry.matching_eq_hooksFor]
  rfl

/-- **The request that is handed over** is the one after all hooks, with its mark. -/
theorem prepared_marks (d : Dispatch) (request : Request) :
    d.configuration.Marks (throughAll (d.requestHooks request) request) (d.prepared request) := by
  rw [← changed_eq]
  exact ⟨_, rfl, d.configuration.pins_iff _⟩

theorem recordsAfter_eq (d : Dispatch) (request : Request) (response : Response) :
    ∃ received, d.recordsAfter request response =
      answerRecords request.url.write (d.responseHooks request) ++ [received] := by
  rw [recordsAfter, Registry.matching_eq_hooksFor]
  exact ⟨_, rfl⟩

/-- The outcome of an answer follows from its status after all hooks. -/
theorem settles_checked (url : String) (hooks : List (Response → Response)) (response : Response)
    (received : Log.Record) :
    Settles url hooks (.ok response) (answerRecords url hooks ++ [received])
      (checked (throughAll hooks response)) := by
  rw [checked, Response.isSuccess, Status.isSuccess]
  split
  · rename_i h
    rw [Bool.and_eq_true, decide_eq_true_eq, decide_eq_true_eq] at h
    exact .accepted response _ h.1 (Nat.le_of_lt_succ h.2)
  · rename_i h
    rw [Bool.and_eq_true, decide_eq_true_eq, decide_eq_true_eq] at h
    refine .refused response _ _ (by omega) fun bytes => ?_
    cases hbody : (throughAll hooks response).body with
    | nil => simp
    | cons b bs =>
      constructor
      · rintro ⟨⟩
        exact ⟨rfl, List.cons_ne_nil b bs⟩
      · rintro ⟨rfl, -⟩
        rfl

theorem finish_settles (d : Dispatch) (request : Request) (answer : Outcome Response) :
    ∃ records outcome, Settles request.url.write (d.responseHooks request) answer records outcome ∧
      d.finish request answer = (Exchange.logAll records).bind fun _ => .done outcome := by
  cases answer with
  | error f => exact ⟨[], .error f, .failed f, rfl⟩
  | ok response =>
    have hanswered : d.interceptors.applyOnResponse (d.keys request) response =
        throughAll (d.responseHooks request) response := by
      rw [Interceptors.applyOnResponse, Registry.matching_eq_hooksFor]
      rfl
    obtain ⟨received, hrecords⟩ :=
      d.recordsAfter_eq request (throughAll (d.responseHooks request) response)
    refine ⟨_, _, settles_checked _ _ response received, ?_⟩
    rw [finish, hanswered, hrecords]

theorem Settles.isSuccess {url : String} {hooks : List (Response → Response)}
    {answer : Outcome Response} {records : List Log.Record} {response : Response}
    (h : Settles url hooks answer records (.ok response)) :
    200 ≤ response.status ∧ response.status ≤ 299 := by
  cases h with
  | accepted response received low high => exact ⟨low, high⟩

theorem follows_perform (d : Dispatch) (request : Request) :
    Follows d.configuration (d.requestHooks request) (d.responseHooks request) request
      (fun client => d.perform client request) .ok := by
  refine ⟨d.recordsBefore request, d.prepared request, d.finish request, d.prepared_marks request,
    fun client => d.perform_eq client request, ?_⟩
  intro answer
  obtain ⟨records, outcome, hsettles, hfinish⟩ := d.finish_settles request answer
  refine ⟨records, outcome, hsettles, ?_⟩
  rw [hfinish]
  cases outcome <;> rfl

/-- A call that makes a value of the response of another one follows the same steps. -/
theorem Follows.andThen {α : Type} {c : Configuration} {onRequests : List (Request → Request)}
    {onResponses : List (Response → Response)} {request : Request}
    {call : Client → Exchange (Outcome Response)}
    (h : Follows c onRequests onResponses request call .ok) {value : Response → Outcome α}
    {further : Client → Exchange (Outcome α)}
    (hfurther : ∀ client, further client =
      (call client).bind fun outcome => .done (outcome.bind value)) :
    Follows c onRequests onResponses request further value := by
  obtain ⟨before, sent, after, hsent, hcall, hafter⟩ := h
  refine ⟨before, sent, fun answer => (after answer).bind fun outcome =>
    .done (outcome.bind value), hsent, fun client => ?_, fun answer => ?_⟩
  · rw [hfurther, hcall, Exchange.bind_assoc]
    exact congrArg (Exchange.bind _) (funext fun _ => Exchange.bind_assoc _ _ _)
  · obtain ⟨records, outcome, hsettles, heq⟩ := hafter answer
    refine ⟨records, outcome, hsettles, ?_⟩
    simp only [heq, Exchange.bind_assoc]
    cases outcome <;> rfl

theorem decode_eq (d : Dispatch) (client : Client) (schema : Schema) (request : Request) :
    d.decode client schema request = (d.perform client request).bind fun outcome =>
      .done (outcome.bind fun response =>
        (d.configuration.keys.decode schema response.body).mapError .ofDecodeError) := by
  refine congrArg (Exchange.bind _) (funext fun outcome => ?_)
  cases outcome with
  | error f => rfl
  | ok response =>
    simp only [valueOf, Except.bind]
    cases d.configuration.keys.decode schema response.body <;> rfl

theorem decodeOptional_eq (d : Dispatch) (client : Client) (schema : Schema) (request : Request) :
    d.decodeOptional client schema request = (d.perform client request).bind fun outcome =>
      .done (outcome.bind fun response =>
        (d.configuration.keys.decodeOptional schema response.body).mapError .ofDecodeError) := by
  refine congrArg (Exchange.bind _) (funext fun outcome => ?_)
  cases outcome with
  | error f => rfl
  | ok response =>
    simp only [valueOf?, Except.bind]
    cases d.configuration.keys.decodeOptional schema response.body <;> rfl

/-- **Calls follow their steps.** They run the hooks that the registry has for the URLs that they
start with, on the request that is sent and on the answer. A call without a value gives the response,
the other ones decode its body, and all give the failure that the answer settles. A body that is
decoded is that of a success. -/
theorem calls_follow_steps (d : Dispatch) (request : Request) :
    let onRequests := d.requestHooks request
    let onResponses := d.responseHooks request
    Follows d.configuration onRequests onResponses request
        (fun client => d.perform client request) .ok ∧
      (∀ schema, Follows d.configuration onRequests onResponses request
        (fun client => d.decode client schema request) fun response =>
          (d.configuration.keys.decode schema response.body).mapError .ofDecodeError) ∧
      (∀ schema, Follows d.configuration onRequests onResponses request
        (fun client => d.decodeOptional client schema request) fun response =>
          (d.configuration.keys.decodeOptional schema response.body).mapError .ofDecodeError) ∧
      ∀ answer records response,
        Settles request.url.write onResponses answer records (.ok response) →
          200 ≤ response.status ∧ response.status ≤ 299 := by
  have hperform := d.follows_perform request
  refine ⟨hperform, fun schema => ?_, fun schema => ?_, fun _ _ _ h => h.isSuccess⟩
  · exact hperform.andThen fun client => d.decode_eq client schema request
  · exact hperform.andThen fun client => d.decodeOptional_eq client schema request

end Dispatch

end Waybill
