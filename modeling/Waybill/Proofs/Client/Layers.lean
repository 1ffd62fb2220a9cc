import Waybill.Proofs.Client.Listing
import Waybill.Proofs.Dispatch.Handing

/-!
# Stacked logging layers

A logging layer puts records around what the client inside it does: those before a request do not
depend on the answer, and the one after it depends on nothing else. Records around records are
records around what is inside, so a stack of layers is one layer with all their records, those
before in the order of the layers and those after in the reverse order. What is inside goes on as it
would without them.

A plan applies its layers from the last one to the first, so the first one that was added is the
outermost.

## Main definitions

* `Waybill.Exchange.between`: an exchange with records before and after it.
* `Waybill.ClientPlan.wrap`: the layers of a plan around a client.
* `Waybill.Logging.opening`: what a layer records before a request.
* `Waybill.Logging.Nests`: a client records in nested order what another one does.

## Main results

* `Waybill.Exchange.between_between`: records around records.
* `Waybill.ClientPlan.nests_wrap`: the layers of a plan nest in the order in which they were added.
* `Waybill.ClientPlan.logging_nests`: the same of the client that is built, with what is recorded.
-/

namespace Waybill

/-! ### Records around an exchange -/

namespace Exchange

variable {α : Type}

/-- An exchange with records before it, and with records after it that depend on its value. -/
def between (front : List Log.Record) (x : Exchange α) (back : α → List Log.Record) : Exchange α :=
  (logAll front).bind fun _ => x.bind fun a => (logAll (back a)).bind fun _ => done a

theorem logAll_append (front back : List Log.Record) (f : Unit → Exchange α) :
    (logAll (front ++ back)).bind f = (logAll front).bind fun _ => (logAll back).bind f := by
  induction front with
  | nil => rfl
  | cons record front ih => exact congrArg (log record) ih

theorem between_nil (x : Exchange α) : between [] x (fun _ => []) = x :=
  bind_pure x

/-- **Records around records** are records around the exchange inside, the inner ones next to it. -/
theorem between_between (front front' : List Log.Record) (x : Exchange α)
    (back back' : α → List Log.Record) :
    between front (between front' x back') back =
      between (front ++ front') x fun a => back' a ++ back a := by
  simp only [between, bind_assoc, bind_done, logAll_append]

theorem run_between (transport : Transport) (front : List Log.Record) (x : Exchange α)
    (back : α → List Log.Record) :
    (between front x back).run transport =
      let t := x.run transport
      ⟨t.sends, front ++ t.logs ++ back t.value, t.value⟩ := by
  simp [between, run_bind, run_logAll, run]

end Exchange

/-- How important a record is. -/
def Log.Record.level : Log.Record → Log.Level
  | .event level _ _ => level
  | .span level _ _ => level

/-- An answer that reports success. -/
def Outcome.IsSuccess (answer : Outcome Response) : Prop :=
  ∃ response, answer = .ok response ∧ 200 ≤ response.status ∧ response.status < 300

namespace Logging

/-! ### What a layer records -/

/-- The record of a layer that shows everything, with a listing of the headers. -/
def detailedSending (listing : String) (r : Request) : Log.Record :=
  .event .debug "sending request" [("headers", .text listing), ("pinned", .flag r.pinned)]

/-- The record of a layer that shows little. -/
def plainSending : Log.Record := .event .info "sending request" []

/-- The span in which a layer records. -/
def requestSpan (r : Request) : Log.Record :=
  .span .info "http_request" [("method", .text r.method.token), ("url", .text r.url.write)]

/-- The records of a layer before a request whose headers have a listing. -/
def opening (listing : String) (r : Request) (level : Logging) : List Log.Record :=
  [requestSpan r, if level = .debug then detailedSending listing r else plainSending]

theorem before_eq (level : Logging) (r : Request) :
    level.before r = opening (headersText r.headers) r level := by
  cases level <;> rfl

theorem level_after_ok (response : Response) :
    (after (.ok response)).level = if response.isSuccess then .info else .warning := by
  rw [after]
  split <;> rfl

theorem isSuccess_ok_iff (response : Response) :
    Outcome.IsSuccess (.ok response) ↔ response.isSuccess = true := by
  simp [Outcome.IsSuccess, Response.isSuccess, Status.isSuccess]

/-- The record after a request is a warning, unless the answer reports success. -/
theorem level_after (answer : Outcome Response) :
    ((after answer).level = .info ↔ answer.IsSuccess) ∧
      ((after answer).level = .warning ↔ ¬answer.IsSuccess) := by
  cases answer with
  | error f => simp [after, Log.Record.level, Outcome.IsSuccess]
  | ok response =>
    rw [level_after_ok, isSuccess_ok_iff]
    cases response.isSuccess <;> simp

/-! ### Stacks of layers -/

/-- The records of layers before a request, the outermost layer first. -/
def openings (levels : List Logging) (r : Request) : List Log.Record :=
  levels.flatMap fun level => level.before r

/-- The records of layers after a request, the outermost layer last. -/
def closings (levels : List Logging) (answer : Outcome Response) : List Log.Record :=
  levels.reverse.map fun _ => after answer

theorem layer_eq_between (level : Logging) (inner : Client) (r : Request) :
    level.layer inner r = (inner r).between (level.before r) fun answer => [after answer] := rfl

/-- **A stack of layers** puts the records of all of them around what goes through it. -/
theorem foldr_layer_eq_between (levels : List Logging) (inner : Client) (r : Request) :
    levels.foldr (fun level client => level.layer client) inner r =
      (inner r).between (openings levels r) (closings levels) := by
  induction levels with
  | nil => exact (Exchange.between_nil (inner r)).symm
  | cons level levels ih =>
    rw [List.foldr_cons, layer_eq_between, ih, Exchange.between_between, openings, openings,
      List.flatMap_cons]
    congr 1
    funext answer
    simp [closings]

/-- A client records in nested order what another one does with a request, which it hands over as it
came, once, and whose outcome it brings back as it is. -/
structure Nests (levels : List Logging) (outer inner : Client) (r : Request) : Prop where
  /-- What happens is what happens inside, between records. -/
  exchange : outer r = (inner r).between (openings levels r) (closings levels)
  sends : ∀ transport, ((outer r).run transport).sends = ((inner r).run transport).sends
  value : ∀ transport, ((outer r).run transport).value = ((inner r).run transport).value
  logs : ∀ transport, ((outer r).run transport).logs =
    openings levels r ++ ((inner r).run transport).logs ++
      closings levels ((inner r).run transport).value

theorem nests_of_exchange {levels : List Logging} {outer inner : Client} {r : Request}
    (h : outer r = (inner r).between (openings levels r) (closings levels)) :
    Nests levels outer inner r where
  exchange := h
  sends transport := by rw [h, Exchange.run_between]
  value transport := by rw [h, Exchange.run_between]
  logs transport := by rw [h, Exchange.run_between]

end Logging

/-! ### Plans with logging layers -/

namespace ClientPlan

/-- The layers of a plan around a client. -/
def wrap (p : ClientPlan) (inner : Client) : Client :=
  p.layers.foldr (fun layer client => layer client) inner

theorem client_build (p : ClientPlan) : p.build.client = p.wrap (.pooled p.pinning) := rfl

/-- Logging layers come behind the layers that the plan has. -/
theorem foldl_withLogging (p : ClientPlan) (levels : List Logging) :
    levels.foldl withLogging p = { p with layers := p.layers ++ levels.map Logging.layer } := by
  induction levels generalizing p with
  | nil => simp
  | cons level levels ih => simp [ih, withLogging, withLayer]

/-- The plan with settings and perhaps a policy, to which logging layers are added one by one. -/
def logging (settings : SettingsDraft) (policy : Option PinningPolicy) (levels : List Logging) :
    ClientPlan :=
  levels.foldl withLogging ⟨settings, policy, []⟩

/-- The first layer that was added is the outermost. -/
theorem wrap_logging (settings : SettingsDraft) (policy : Option PinningPolicy)
    (levels : List Logging) (inner : Client) :
    (logging settings policy levels).wrap inner =
      levels.foldr (fun level client => level.layer client) inner := by
  rw [wrap, logging, foldl_withLogging, List.nil_append, List.foldr_map]

/-- **Logging layers nest in the order in which they were added** around whatever is inside. -/
theorem nests_wrap (settings : SettingsDraft) (policy : Option PinningPolicy)
    (levels : List Logging) (inner : Client) (r : Request) :
    Logging.Nests levels ((logging settings policy levels).wrap inner) inner r :=
  Logging.nests_of_exchange <| by rw [wrap_logging, Logging.foldr_layer_eq_between]

theorem nests_build (settings : SettingsDraft) (policy : Option PinningPolicy)
    (levels : List Logging) (r : Request) :
    Logging.Nests levels (logging settings policy levels).build.client (.pooled policy) r := by
  have hpolicy : (logging settings policy levels).pinning = policy := by
    rw [logging, foldl_withLogging]
  rw [client_build, hpolicy]
  exact nests_wrap settings policy levels _ r

/-- A layer that shows everything inside one that shows little. -/
example (r : Request) (inner : Client) (hinner : inner r = .done (.error .timeout)) :
    (((logging .blank none [.info, .debug]).wrap inner) r).run (fun _ => .error .timeout) =
      ⟨[], [Logging.requestSpan r, Logging.plainSending, Logging.requestSpan r,
        Logging.detailedSending (Logging.headersText r.headers) r, Logging.after (.error .timeout),
        Logging.after (.error .timeout)], .error .timeout⟩ := by
  rw [(nests_wrap .blank none [.info, .debug] inner r).exchange, Exchange.run_between, hinner]
  rfl

end ClientPlan

end Waybill
