import Waybill.Log
import Waybill.Pinning
import Waybill.Request
import Waybill.Response

/-!
# Exchanges

What goes on during a call is a sequence of log records and of requests that are handed to a
transport. An exchange describes it without fixing the transport: at each request it says how to go
on with whatever the transport answers. So the requests that are sent, how many, and over which pool
of connections, can be read off an exchange, and running it against a transport is a function.

## Main definitions

* `Waybill.Exchange` — records, requests and a final value.
* `Waybill.Transport`, `Waybill.Exchange.run` — answering the requests of an exchange.
* `Waybill.Trace`, `Waybill.Trace.sent` — what was sent and logged, and the final value.

## Main results

* `Waybill.Exchange.bind_assoc`, `Waybill.Exchange.bind_pure` — sequencing.
* `Waybill.Exchange.run_bind` — the trace of a sequence.
-/

namespace Waybill

/-- Log records and requests, in order, up to a final value. A request goes over a pool of
connections if its client has pools. -/
inductive Exchange (α : Type) where
  | done (value : α)
  | log (record : Log.Record) (next : Exchange α)
  | send (pool : Option Pool) (request : Request) (next : Outcome Response → Exchange α)

/-- What answers requests. -/
abbrev Transport := Request → Outcome Response

/-- What was sent and logged, and the final value. -/
structure Trace (α : Type) where
  sends : List (Option Pool × Request)
  logs : List Log.Record
  value : α

/-- The requests that were sent. -/
def Trace.sent {α : Type} (t : Trace α) : List Request := t.sends.map (·.2)

namespace Exchange

variable {α β γ : Type}

/-- One exchange after another. -/
def bind : Exchange α → (α → Exchange β) → Exchange β
  | done a, f => f a
  | log r next, f => log r (bind next f)
  | send pool request next, f => send pool request fun answer => bind (next answer) f

instance : Monad Exchange where
  pure := done
  bind := bind

/-- Log records in order. -/
def logAll (records : List Log.Record) : Exchange Unit := records.foldr log (done ())

/-- One log record. -/
def logOne (record : Log.Record) : Exchange Unit := log record (done ())

/-- One request. -/
def request (r : Request) : Exchange (Outcome Response) := send none r done

/-- One request over a pool of connections. -/
def requestOver (pool : Pool) (r : Request) : Exchange (Outcome Response) := send (some pool) r done

/-- The trace of an exchange with a transport. -/
def run (transport : Transport) : Exchange α → Trace α
  | done a => ⟨[], [], a⟩
  | log r next =>
    let t := run transport next
    { t with logs := r :: t.logs }
  | send pool r next =>
    let t := run transport (next (transport r))
    { t with sends := (pool, r) :: t.sends }

@[simp] theorem bind_done (a : α) (f : α → Exchange β) : bind (done a) f = f a := rfl

theorem bind_pure (x : Exchange α) : bind x done = x := by
  induction x with
  | done a => rfl
  | log r next ih => simp [bind, ih]
  | send pool r next ih => simp [bind, ih]

theorem bind_assoc (x : Exchange α) (f : α → Exchange β) (g : β → Exchange γ) :
    bind (bind x f) g = bind x fun a => bind (f a) g := by
  induction x with
  | done a => rfl
  | log r next ih => simp [bind, ih]
  | send pool r next ih => simp [bind, ih]

/-- The trace of a sequence is that of its first part followed by that of the second. -/
theorem run_bind (transport : Transport) (x : Exchange α) (f : α → Exchange β) :
    run transport (bind x f) =
      let t := run transport x
      let u := run transport (f t.value)
      ⟨t.sends ++ u.sends, t.logs ++ u.logs, u.value⟩ := by
  induction x with
  | done a => simp [bind, run]
  | log r next ih => simp [bind, run, ih]
  | send pool r next ih => simp [bind, run, ih]

end Exchange

end Waybill
