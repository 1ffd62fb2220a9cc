import Waybill.Client.Admission
import Waybill.Client.Settings
import Waybill.Configuration
import Waybill.Exchange
import Waybill.Text.Quoted

/-!
# Clients

A client takes a request and brings its response. The plainest one hands requests to the transport
as they are; a pooled client admits them first. Layers wrap a client in another one, and the layer
that was added first is the outermost. A logging layer records what goes through it and changes
nothing.

## Main definitions

* `Waybill.Client`, `Waybill.Client.direct`, `Waybill.Client.pooled`.
* `Waybill.Logging`, `Waybill.Logging.layer` — logging.
* `Waybill.ClientPlan`, `Waybill.PooledClient` — clients that are planned part by part.
-/

namespace Waybill

/-- What takes a request and brings its response. -/
abbrev Client := Request → Exchange (Outcome Response)

namespace Client

/-- The client that hands requests to the transport as they are. -/
def direct : Client := Exchange.request

/-- What becomes of a request whose target does not say how to reach it. -/
def unreachable : Failure := .connection "client error (UserAbsoluteUriRequired)"

/-- The client that admits requests before it sends them. -/
def pooled (policy : Option PinningPolicy) : Client := fun r =>
  match admission policy r with
  | .error f => pure (.error f)
  | .ok (pool, wire) =>
    match wire.target with
    | .absolute => Exchange.requestOver pool r
    | .bare => pure (.error unreachable)

end Client

/-! ### Logging -/

/-- How much a logging layer shows. -/
inductive Logging where
  /-- The method and the URL. -/
  | info
  /-- The headers and the mark for pinning as well. -/
  | debug
deriving DecidableEq, Repr

namespace Logging

/-- The name of a level. -/
def name : Logging → String
  | info => "Info"
  | debug => "Debug"

/-- Header entries as diagnostics show them. -/
def headersText (headers : List (String × String)) : String :=
  "[" ++ ", ".intercalate (headers.map fun (name, value) =>
    "(" ++ Quoted.text name ++ ", " ++ Quoted.text value ++ ")") ++ "]"

/-- The records before a request. -/
def before (level : Logging) (r : Request) : List Log.Record := [
  .span .info "http_request" [("method", .text r.method.token), ("url", .text r.url.write)],
  match level with
  | info => .event .info "sending request" []
  | debug => .event .debug "sending request"
      [("headers", .text (headersText r.headers)), ("pinned", .flag r.pinned)]]

/-- The record after a request. The time that the request took, which every such record has as one
more field, is left out. -/
def after : Outcome Response → Log.Record
  | .ok response =>
    if response.isSuccess then
      .event .info "request completed" [("status", .number response.status)]
    else
      .event .warning "request completed with HTTP error" [("status", .number response.status)]
  | .error f => .event .warning "request failed" [("error", .text f.message)]

/-- A client that records what goes through another one. -/
def layer (level : Logging) (inner : Client) : Client := fun r => do
  Exchange.logAll (level.before r)
  let answer ← inner r
  Exchange.logOne (after answer)
  pure answer

end Logging

/-! ### Planned clients -/

/-- A client as it is planned: settings, a policy for pinned requests, and layers in the order in
which they were added. -/
structure ClientPlan where
  settings : SettingsDraft
  pinning : Option PinningPolicy
  layers : List (Client → Client)

/-- A client with connections of its own. -/
structure PooledClient where
  settings : Settings
  pinning : Option PinningPolicy
  client : Client

/-- A policy as diagnostics show it. -/
def PinningPolicy.describe (p : PinningPolicy) : String :=
  let list (texts : List String) := "[" ++ ", ".intercalate texts ++ "]"
  recordText "PinningPolicy" [("mode", p.mode.name),
    ("fingerprints", list (p.digests.map fun d => list (d.map fun b => toString b.toNat)))]

namespace ClientPlan

/-- The plan in which nothing is said. -/
def blank : ClientPlan := ⟨.blank, none, []⟩

/-- The plan with a policy for pinned requests. -/
def withPinning (p : ClientPlan) (policy : PinningPolicy) : ClientPlan :=
  { p with pinning := some policy }

/-- The plan with one more layer, inside those added before. -/
def withLayer (p : ClientPlan) (layer : Client → Client) : ClientPlan :=
  { p with layers := p.layers ++ [layer] }

/-- The plan with one more logging layer. -/
def withLogging (p : ClientPlan) (level : Logging) : ClientPlan := p.withLayer level.layer

/-- The client of a plan. -/
def build (p : ClientPlan) : PooledClient :=
  ⟨p.settings.complete, p.pinning,
    p.layers.foldr (fun layer inner => layer inner) (.pooled p.pinning)⟩

/-- A plan as diagnostics show it. -/
def describe (p : ClientPlan) : String :=
  recordText "HyperClientBuilder" [("config", p.settings.describe),
    ("pinning", optionText PinningPolicy.describe p.pinning),
    ("layers_count", toString p.layers.length)]

end ClientPlan

namespace PooledClient

/-- The client of settings, without a policy and without layers. -/
def ofSettings (s : Settings) : PooledClient := ⟨s, none, .pooled none⟩

/-- The client for which nothing is said. -/
def standard : PooledClient := ofSettings Settings.standard

/-- The client that a group of operations needs: with its policy, if it has one. -/
def ofConfiguration (c : Configuration) : PooledClient :=
  match c.pinning with
  | some policy => (ClientPlan.blank.withPinning policy).build
  | none => ClientPlan.blank.build

/-- A client as diagnostics show it. -/
def describe (c : PooledClient) : String :=
  "HyperClient \x7b config: " ++ c.settings.describe ++ ", pinning: " ++
    optionText (fun p => p.mode.name) c.pinning ++ ", .. \x7d"

end PooledClient

end Waybill
