import Waybill.Client

/-!
# Dispatch

A request goes through the hooks on requests, is marked for pinning as the configuration says, and
is handed to the client. The answer goes through the hooks on responses, and its status is looked
at; only the body of a success is decoded. Hooks are looked up with the URL that the request had at
first, whatever the hooks make of it.

## Main definitions

* `Waybill.Dispatch` — what a call needs besides its request.
* `Waybill.Dispatch.perform` — the response of a call.
* `Waybill.Dispatch.decode`, `Waybill.Dispatch.decodeOptional` — the value of a call.
-/

namespace Waybill

/-- What a call needs besides its request: the URL of its template, and what it shares with the
other calls of its group. -/
structure Dispatch where
  rawUrl : String
  configuration : Configuration
  interceptors : Interceptors

namespace Dispatch

/-- The keys that a request is looked up with. -/
def keys (d : Dispatch) (request : Request) : LookupKeys := ⟨request.url.write, d.rawUrl⟩

/-- The request that is sent: after all hooks, marked for pinning as the configuration says. -/
def prepared (d : Dispatch) (request : Request) : Request :=
  let changed := d.interceptors.applyBeforeSend (d.keys request) request
  changed.setPinned (d.configuration.pins changed.url)

/-- A success stays; any other status is a failure that has the body, unless that is empty. -/
def checked (response : Response) : Outcome Response :=
  if response.isSuccess then .ok response
  else
    .error (.ofStatus response.status
      (if response.body.isEmpty then none else some response.body))

/-- The level of the records that a verbose configuration shows to everyone. -/
def level (d : Dispatch) : Log.Level := if d.configuration.verbose then .info else .debug

/-- The records of hooks that are run. -/
def hookRecords {α : Type} (message : String) (keys : LookupKeys) (hooks : List α) :
    List Log.Record :=
  hooks.map fun _ => .event .trace message [("url", .text keys.resolved)]

/-- The records before a request is sent. -/
def recordsBefore (d : Dispatch) (request : Request) : List Log.Record :=
  let keys := d.keys request
  let sent := d.prepared request
  hookRecords "applying before-send hook" keys (d.interceptors.beforeSend.matching keys) ++
    [.event .trace "pinning decision"
        [("url", .text sent.url.write), ("pinned", .flag sent.pinned)],
      .event d.level "sending request"
        [("method", .text sent.method.token), ("url", .text sent.url.write)]]

/-- The records after a response has come and gone through the hooks. -/
def recordsAfter (d : Dispatch) (request : Request) (response : Response) : List Log.Record :=
  let keys := d.keys request
  let fields : List (String × Log.Value) :=
    [("method", .text (d.prepared request).method.token), ("url", .text keys.resolved),
      ("status", .number response.status)]
  hookRecords "applying on-response hook" keys (d.interceptors.onResponse.matching keys) ++
    [.event d.level "received response"
      (if d.configuration.verbose then fields ++ [("bytes", .number response.body.length)]
        else fields)]

/-- The response of a call. -/
def perform (d : Dispatch) (client : Client) (request : Request) : Exchange (Outcome Response) := do
  Exchange.logAll (d.recordsBefore request)
  match ← client (d.prepared request) with
  | .error f => pure (.error f)
  | .ok response =>
    let response := d.interceptors.applyOnResponse (d.keys request) response
    Exchange.logAll (d.recordsAfter request response)
    pure (checked response)

/-- The value that a response decodes to. -/
def valueOf (d : Dispatch) (schema : Schema) (response : Response) : Outcome Datum :=
  match d.configuration.keys.decode schema response.body with
  | .ok datum => .ok datum
  | .error e => .error (.ofDecodeError e)

/-- The value that a response decodes to, where there may be none. -/
def valueOf? (d : Dispatch) (schema : Schema) (response : Response) : Outcome (Option Datum) :=
  match d.configuration.keys.decodeOptional schema response.body with
  | .ok datum => .ok datum
  | .error e => .error (.ofDecodeError e)

/-- The value of a call. -/
def decode (d : Dispatch) (client : Client) (schema : Schema) (request : Request) :
    Exchange (Outcome Datum) := do
  match ← d.perform client request with
  | .error f => pure (.error f)
  | .ok response => pure (d.valueOf schema response)

/-- The value of a call, where there may be none. -/
def decodeOptional (d : Dispatch) (client : Client) (schema : Schema) (request : Request) :
    Exchange (Outcome (Option Datum)) := do
  match ← d.perform client request with
  | .error f => pure (.error f)
  | .ok response => pure (d.valueOf? schema response)

end Dispatch

end Waybill
