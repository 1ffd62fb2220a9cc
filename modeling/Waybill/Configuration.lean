import Waybill.Interception
import Waybill.Pinning
import Waybill.Url.Read

/-!
# Service configuration

A group of operations shares a base URL, a key strategy for responses, and perhaps a pinning policy
with exemptions. The path of an operation is appended to the base URL as text, with exactly one
slash between the two, and the result is read as a URL.

## Main definitions

* `Waybill.Configuration`, `Waybill.Configuration.parse`.
* `Waybill.Configuration.endpointText`, `Waybill.Configuration.endpoint` — where a path leads.
* `Waybill.Configuration.hookKey` — the key of hooks for a path.
* `Waybill.Configuration.pins` — whether requests to a URL must be pinned.
-/

namespace Waybill

/-- What a group of operations shares. -/
structure Configuration where
  baseUrl : Url
  keys : KeyStrategy
  pinning : Option PinningPolicy
  exclusions : List String
  /-- Whether calls are logged for everyone to see. -/
  verbose : Bool
deriving DecidableEq, Repr

/-- The name of a key strategy. -/
def KeyStrategy.name : KeyStrategy → String
  | .asIs => "AsIs"
  | .fromSnakeCase => "FromSnakeCase"

/-- A text read as a URL. -/
def Url.read (text : String) : Outcome Url :=
  match Url.parse text with
  | .ok u => .ok u
  | .error e => .error (.invalidUrl e)

namespace Configuration

/-- The configuration of a base URL without anything special. -/
def ofUrl (baseUrl : Url) : Configuration := ⟨baseUrl, .asIs, none, [], false⟩

/-- The configuration of the text of a base URL without anything special. -/
def parse (baseUrl : String) : Outcome Configuration := (Url.read baseUrl).map ofUrl

/-- A text without the slashes at its end. -/
def withoutFinalSlashes (s : String) : List Char :=
  (s.toList.reverse.dropWhile (· == '/')).reverse

/-- A text without the slashes at its start. -/
def withoutLeadingSlashes (s : String) : List Char := s.toList.dropWhile (· == '/')

/-- The text of the base URL with a path appended. -/
def endpointText (c : Configuration) (path : String) : String :=
  String.ofList (withoutFinalSlashes c.baseUrl.write ++ '/' :: withoutLeadingSlashes path)

/-- The base URL with a path appended. -/
def endpoint (c : Configuration) (path : String) : Outcome Url := Url.read (c.endpointText path)

/-- The text of the endpoint of a path, as a URL if it is one. -/
def endpointKey (c : Configuration) (path : String) : String :=
  match c.endpoint path with
  | .ok u => u.write
  | .error _ => c.endpointText path

/-- The key of hooks for a path, or for all calls. -/
def hookKey (c : Configuration) : Option String → HookKey
  | none => .all
  | some path => HookKey.ofText (c.endpointKey path)

/-- Whether requests to a URL must be pinned. -/
def pins (c : Configuration) (u : Url) : Bool := c.pinning.isSome && !isExcluded u c.exclusions

/-- The registry with a hook on requests to a path. -/
def registerBeforeSend (c : Configuration) (i : Interceptors) (path : Option String)
    (hook : Request → Request) : Interceptors :=
  i.registerBeforeSend (c.hookKey path) hook

/-- The registry with a hook on responses from a path. -/
def registerOnResponse (c : Configuration) (i : Interceptors) (path : Option String)
    (hook : Response → Response) : Interceptors :=
  i.registerOnResponse (c.hookKey path) hook

end Configuration

end Waybill
