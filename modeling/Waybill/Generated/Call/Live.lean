import Waybill.Code.TypeExpr.Schema
import Waybill.Dispatch
import Waybill.Generated.Call
import Waybill.Generated.Live

/-!
# Calls of a live service

A live service runs the statements of an operation on the arguments of a call and sends the request
that they build. If a statement fails, nothing is sent and the failure is the outcome.

## Main definitions

* `Waybill.Generated.Surroundings` — what the calls of a live service share.
* `Waybill.Generated.Block.run`, `Waybill.Generated.Body.runLive` — what a body does.
* `Waybill.Service.call` — a call of a live service.
-/

namespace Waybill

open Code (TypeExpr)

namespace Generated

/-- What the calls of a live service share. -/
structure Surroundings where
  setting : Setting
  interceptors : Interceptors
  client : Client
  /-- The schemas of the values that operations return. -/
  schema : TypeExpr → Schema

/-- What is sent for a request, and the value that is made of the response. -/
def yielded (s : Surroundings) (dispatch : Dispatch) (request : Request) :
    Arity → Exchange (Outcome Datum)
  | .nothing => do return (← dispatch.perform s.client request).map fun _ => .unit
  | .optional type => do
    return (← dispatch.decodeOptional s.client (s.schema type) request).map Datum.ofOption
  | .required type => dispatch.decode s.client (s.schema type) request

/-- What a block does in an environment. -/
def Block.run (s : Surroundings) (env : Environment) (b : Block) :
    Except Halt (Exchange (Outcome Datum)) :=
  match runAll s.setting env b.statements with
  | .error (.failure f) => .ok (.done (.error f))
  | .error halt => .error halt
  | .ok env => do
    let request ← env.read Value.request? Local.request
    let rawUrl ← env.read Value.text? Local.rawUrl
    return yielded s ⟨rawUrl, s.setting.configuration, s.interceptors⟩ request b.yields

/-- The record of a failure that does not reach the caller. -/
def quietRecord (operation : String) (f : Failure) : Log.Record :=
  .event .debug quietMessage [("operation", .text operation), ("error", .text f.message)]

/-- An outcome without its failure, which is recorded. -/
def quieted (operation : String) : Outcome Datum → Exchange Answer
  | .ok d => .done (.silent (some d))
  | .error f => do
    Exchange.logOne (quietRecord operation f)
    return .silent none

/-- What a body does in an environment, if it is one that sends. -/
def Body.runLive (s : Surroundings) (env : Environment) : Body → Except Halt (Exchange Answer)
  | .send block => do return Answer.throwing <$> (← block.run s env)
  | .sendQuietly operation block => do return (← block.run s env) >>= quieted operation
  | _ => .error (.unreadable Local.request)

end Generated

/-- A call of a live service. -/
def Service.call (service : Service) (s : Generated.Surroundings) (call : Generated.Call) :
    Except Generated.Halt (Exchange Generated.Answer) := do
  let call ← service.interface.implemented call
  match Generated.methodNamed? service.live.methods call.method with
  | some m => m.body.runLive s (m.signature.environment call.arguments)
  | none => .error (.unreadable call.method)

/-- The registry of a live service as diagnostics show it, which leave out what follows. -/
def Interceptors.describeInService (i : Interceptors) : String := i.describe ++ ", .. \x7d"

end Waybill
