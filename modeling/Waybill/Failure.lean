import Waybill.Datum.EncodeError
import Waybill.Json.Decode
import Waybill.Method
import Waybill.Status
import Waybill.Template
import Waybill.Url.Error

/-!
# Failures

A call fails before it is sent, on the way, by the status of its response, or because the response
does not decode. This module has the type of all these failures and their wording; what causes them
is said where they are found.

## Main definitions

* `Waybill.Failure`, `Waybill.Failure.message` — failures and their wording.
* `Waybill.FailureKind`, `Waybill.Failure.kind` — failures without their details.
* `Waybill.Outcome` — a result or a failure.
-/

namespace Waybill

/-- Why a call failed. -/
inductive Failure where
  /-- The status of the response is no success. -/
  | unexpectedResponse (status : Nat) (description : String) (body : Option (List UInt8))
  /-- The response does not decode; the path leads to the value at fault. -/
  | undecodable (path message : String)
  /-- Nothing is known about the failure. -/
  | unknown
  | connection (message : String)
  | security (message : String)
  /-- The certificates of the server are not the pinned ones, or cannot be checked. -/
  | pinning (message : String)
  | timeout
  | invalidRequest (message : String)
  /-- The body could not be written. -/
  | encoding (message : String)
  | invalidUrl (error : UrlError)
  | template (error : TemplateError)
deriving DecidableEq, Repr

/-- A failure without its details. -/
inductive FailureKind where
  | unexpectedResponse
  | undecodable
  | unknown
  | connection
  | security
  | pinning
  | timeout
  | invalidRequest
  | encoding
deriving DecidableEq, Repr

/-- A result or a failure. -/
abbrev Outcome := Except Failure

namespace Failure

/-- The failure that a status stands for. -/
def ofStatus (status : Nat) (body : Option (List UInt8)) : Failure :=
  .unexpectedResponse status (Status.description status) body

/-- A body that could not be written. -/
def ofEncodeError (e : EncodeError) : Failure := .encoding e.message

/-- A response that does not decode. -/
def ofDecodeError (e : DecodeError) : Failure := .undecodable e.path e.message

/-- The wording of a failure. -/
def message : Failure → String
  | .unexpectedResponse status description _ => s!"unexpected response {status}: {description}"
  | .undecodable path message => s!"failed to map response at '{path}': {message}"
  | .unknown => "unknown error"
  | .connection message => "connection error: " ++ message
  | .security message => "TLS error: " ++ message
  | .pinning message => "certificate pinning failed: " ++ message
  | .timeout => "request timeout"
  | .invalidRequest message => "invalid request: " ++ message
  | .encoding message => "failed to encode body: " ++ message
  | .invalidUrl error => "invalid URL: " ++ error.message
  | .template error => "invalid URL template: " ++ error.message

/-- The kind of a failure. A request whose URL or template is refused is an invalid request. -/
def kind : Failure → FailureKind
  | .unexpectedResponse _ _ _ => .unexpectedResponse
  | .undecodable _ _ => .undecodable
  | .unknown => .unknown
  | .connection _ => .connection
  | .security _ => .security
  | .pinning _ => .pinning
  | .timeout => .timeout
  | .invalidRequest _ => .invalidRequest
  | .encoding _ => .encoding
  | .invalidUrl _ => .invalidRequest
  | .template _ => .invalidRequest

/-- Whether the status of the response caused the failure. -/
def isUnexpectedResponse (f : Failure) : Bool := f.kind == .unexpectedResponse

/-- Whether the call took too long. -/
def isTimeout (f : Failure) : Bool := f.kind == .timeout

/-- The status that caused the failure. -/
def status? : Failure → Option Nat
  | .unexpectedResponse status _ _ => some status
  | _ => none

/-- The description of the status that caused the failure. -/
def description? : Failure → Option String
  | .unexpectedResponse _ description _ => some description
  | _ => none

/-- The body of the response whose status caused the failure. -/
def body? : Failure → Option (List UInt8)
  | .unexpectedResponse _ _ body => body
  | _ => none

end Failure

/-- The method with a name, for a request. -/
def Method.ofToken (token : String) : Outcome Method :=
  match Method.read? token with
  | some m => .ok m
  | none => .error (.invalidRequest ("unsupported HTTP method: " ++ token))

/-- The name of a kind. -/
def FailureKind.name : FailureKind → String
  | .unexpectedResponse => "UnexpectedResponse"
  | .undecodable => "FailedToMapResponse"
  | .unknown => "Unknown"
  | .connection => "Connection"
  | .security => "Tls"
  | .pinning => "Pinning"
  | .timeout => "Timeout"
  | .invalidRequest => "InvalidRequest"
  | .encoding => "Encoding"

end Waybill
