import Waybill.Datum.Form
import Waybill.Datum.Json
import Waybill.Failure
import Waybill.Header
import Waybill.Method
import Waybill.Multipart
import Waybill.Query
import Waybill.Url.Edit

/-!
# Requests

A request is built from a method and a URL by adding headers, query pairs and a body. Bodies made of
data announce their media type unless one was declared before; a body in parts always announces its
own, because the boundary is part of it.

## Main definitions

* `Waybill.Request`, `Waybill.Request.start` — requests, and the one without headers and body.
* `Waybill.Request.setHeader`, `Waybill.Request.setHeaders`, `Waybill.Request.appendPairs`,
  `Waybill.Request.setBody` — single parts of a request.
* `Waybill.Request.setJson`, `Waybill.Request.setForm`, `Waybill.Request.setPayload` — bodies that
  announce their media type.
* `Waybill.Request.setPinned`, `Waybill.Request.setPath`, `Waybill.Request.setQuery` — edits made
  before sending.
-/

namespace Waybill

/-- A request. `pinned` says whether the certificates of the server must be checked against the
policy of the transport. -/
structure Request where
  method : Method
  url : Url
  headers : Headers
  body : Option (List UInt8)
  pinned : Bool
deriving DecidableEq, Repr

namespace Request

/-- The request without headers and body. -/
def start (method : Method) (url : Url) : Request := ⟨method, url, [], none, false⟩

/-- The value of a header. -/
def header? (r : Request) (name : String) : Option String := r.headers.value? name

/-- The request with a header written. -/
def setHeader (r : Request) (name value : String) : Request :=
  { r with headers := r.headers.set name value }

/-- The request with headers written in order. -/
def setHeaders (r : Request) (entries : List (String × String)) : Request :=
  { r with headers := r.headers.setAll entries }

/-- The request with pairs added at the end of its query. -/
def appendPairs (r : Request) (pairs : List Query.Pair) : Request :=
  { r with url := r.url.appendPairs pairs }

/-- The request with another body. -/
def setBody (r : Request) (body : List UInt8) : Request := { r with body := some body }

/-- The request with a body of the given media type, unless another type was declared. -/
def setTypedBody (r : Request) (type : String) (body : List UInt8) : Request :=
  { r with headers := r.headers.setDefault contentTypeName type, body := some body }

/-- The request with a datum as its JSON body. -/
def setJson (r : Request) (d : Datum) : Outcome Request :=
  match d.json with
  | .ok text => .ok (r.setTypedBody jsonType (Utf8.bytes text))
  | .error e => .error (.ofEncodeError e)

/-- The request with a datum as its body of query pairs. -/
def setForm (r : Request) (d : Datum) : Outcome Request :=
  match d.form with
  | .ok text => .ok (r.setTypedBody formType (Utf8.bytes text))
  | .error e => .error (.ofEncodeError e)

/-- The request with a form as its body. The media type of the form replaces any other. -/
def setMultipart (r : Request) (form : Multipart.Form) : Request :=
  (r.setHeader contentTypeName form.contentType).setBody form.body

/-- The request with uploaded data as the only part of its body. -/
def setPayload (r : Request) (boundary : String) (payload : Multipart.Payload)
    (data : List UInt8) : Request :=
  r.setMultipart (payload.form boundary data)

/-- The request marked for pinning, or not. -/
def setPinned (r : Request) (pinned : Bool) : Request := { r with pinned := pinned }

/-- The request with another URL. -/
def setUrl (r : Request) (url : Url) : Request := { r with url := url }

/-- The request with another path. -/
def setPath (r : Request) (path : String) : Request := r.setUrl (r.url.setPath path)

/-- The request with another query, or without one. -/
def setQuery (r : Request) (query : Option String) : Request := r.setUrl (r.url.setQuery query)

end Request

end Waybill
