import Waybill.Header
import Waybill.Status
import Waybill.Text.Utf8
import Waybill.Url

/-!
# Responses

## Main definitions

* `Waybill.Response`, `Waybill.Response.ofEntries`.
* `Waybill.Response.header?`, `Waybill.Response.isSuccess`, `Waybill.Response.text`.
-/

namespace Waybill

/-- A response, with the URL that it answers. -/
structure Response where
  url : Url
  status : Nat
  headers : List (String × String)
  body : List UInt8
deriving DecidableEq, Repr

namespace Response

/-- Entries with a value under a name in exactly this spelling. -/
def insertHeader (headers : List (String × String)) (name value : String) :
    List (String × String) :=
  match headers with
  | [] => [(name, value)]
  | (candidate, old) :: rest =>
    if candidate == name then (name, value) :: rest
    else (candidate, old) :: insertHeader rest name value

/-- The response with the given header entries; of several entries with the same spelling the last
stays. -/
def ofEntries (url : Url) (status : Nat) (entries : List (String × String))
    (body : List UInt8) : Response :=
  ⟨url, status, entries.foldl (fun acc (name, value) => insertHeader acc name value) [], body⟩

/-- The value of a header, by its name in any case. -/
def header? (r : Response) (name : String) : Option String := Headers.value? r.headers name

/-- The response with another body. -/
def setBody (r : Response) (body : List UInt8) : Response := { r with body := body }

/-- Whether the status reports success. -/
def isSuccess (r : Response) : Bool := Status.isSuccess r.status

/-- The body as a text. -/
def text (r : Response) : Except Utf8.Fault String := Utf8.text r.body

end Response

end Waybill
