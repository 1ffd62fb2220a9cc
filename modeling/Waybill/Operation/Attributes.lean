import Waybill.Code.Declaration
import Waybill.Header
import Waybill.Multipart
import Waybill.Operation.Rejection

/-!
# Attributes of operations

A method says with attributes what its operation requests: a method and a path, headers, which
parameter is the body, and that the body is an uploaded file. Each may stand once, except headers,
which add up. All other attributes are kept for the generated code. A parameter says with an
attribute where its argument goes, unless its name says it.

The attribute `http` names the method in its text, before the first space.

## Main definitions

* `Waybill.Verb`, `Waybill.Verb.ofAttribute`.
* `Waybill.OperationAttributes`, `Waybill.OperationAttributes.read` — the attributes of a method.
* `Waybill.serviceHeaders` — the headers that a trait declares for all its methods.
* `Waybill.Placement`, `Waybill.Placement.read` — the attributes of a parameter.
-/

namespace Waybill

open Code (Attribute ArgumentReader)

/-- A method and the source of a path template. -/
structure Verb where
  method : Method
  source : String
deriving DecidableEq, Repr

/-- The names under which uploaded data is sent. -/
structure Upload where
  name : String
  fileName : String
deriving DecidableEq, Repr

/-- The names under which data is sent where none are given. -/
def Upload.standard : Upload := ⟨Multipart.Payload.defaultName, Multipart.Payload.defaultName⟩

/-- The one text of an attribute that has to have one. -/
def textOfAttribute (a : Attribute) : Except Rejection String :=
  match a.text with
  | .ok s => .ok s
  | .error fault => .error (.textArgument (a.name?.getD "?") fault)

namespace Verb

/-- The method whose name an attribute has. -/
def methodOfName? (a : Attribute) : Option Method :=
  Method.all.find? fun m => a.isNamed m.attributeName

/-- A text that names a method before its first space and a path behind it. -/
def ofText (text : String) : Except Rejection Verb :=
  let words := trim text.toList
  match words.dropWhile (· != ' ') with
  | [] => .error .declarationFormat
  | _ :: path =>
    let token := String.ofList (words.takeWhile (· != ' '))
    match Method.read? token with
    | some method => .ok ⟨method, String.ofList (trim path)⟩
    | none => .error (.unknownMethod token)

/-- What an attribute says about the method and the path, if it is about them. -/
def ofAttribute (a : Attribute) : Except Rejection (Option Verb) :=
  match methodOfName? a with
  | some method => do return some ⟨method, ← textOfAttribute a⟩
  | none => if a.isNamed "http" then do return some (← ofText (← textOfAttribute a)) else .ok none

end Verb

/-- The headers that an attribute declares. -/
def headersOfAttribute (a : Attribute) : Except Rejection (List (String × String)) :=
  match a.entries with
  | .error fault => .error (.argument fault)
  | .ok entries =>
    if entries.any fun (name, _) => name.isEmpty then .error .emptyHeaderName else .ok entries

/-- One option of an upload. -/
def Upload.option (upload : Upload) (name : Option String) : ArgumentReader Upload :=
  if name == some "name" then do
    ArgumentReader.mark '='
    return { upload with name := ← ArgumentReader.text }
  else if name == some "file_name" then do
    ArgumentReader.mark '='
    return { upload with fileName := ← ArgumentReader.text }
  else throw (.unknownOption "expected `name` or `file_name`")

/-- The names that an attribute gives to uploaded data. -/
def Upload.ofAttribute (a : Attribute) : Except Rejection Upload :=
  match a.input with
  | .nothing => .ok standard
  | .value _ => .error .assignedUpload
  | .arguments _ _ =>
    match a.options standard Upload.option with
    | .ok upload => .ok upload
    | .error fault => .error (.argument fault)

/-! ### Attributes of methods -/

/-- What the attributes of a method say. -/
structure OperationAttributes where
  verb : Option Verb
  headers : Headers
  body : Option String
  upload : Option Upload
  kept : List Attribute

namespace OperationAttributes

/-- Nothing said yet. -/
def blank : OperationAttributes := ⟨none, [], none, none, []⟩

/-- What is said with one more attribute; `operation` is the name of the method. -/
def add (operation : String) (said : OperationAttributes) (a : Attribute) :
    Except Rejection OperationAttributes := do
  match ← Verb.ofAttribute a with
  | some verb =>
    if said.verb.isSome then .error (.twoMethods operation)
    else return { said with verb := some verb }
  | none =>
    if a.isNamed "headers" then
      return { said with headers := said.headers.setAll (← headersOfAttribute a) }
    else if a.isNamed "body" then
      if said.body.isSome then .error (.repeated "body")
      else return { said with body := some (← textOfAttribute a) }
    else if a.isNamed "file_upload" then
      if said.upload.isSome then .error (.repeated "file_upload")
      else return { said with upload := some (← Upload.ofAttribute a) }
    else return { said with kept := said.kept ++ [a] }

/-- What is said with attributes in order. -/
def addAll (operation : String) (said : OperationAttributes) :
    List Attribute → Except Rejection OperationAttributes
  | [] => .ok said
  | a :: rest => do (← said.add operation a).addAll operation rest

/-- What attributes say, of which one must name the method and the path. -/
def read (operation : String) (attributes : List Attribute) :
    Except Rejection (Verb × OperationAttributes) := do
  let said ← blank.addAll operation attributes
  match said.verb with
  | some verb => .ok (verb, said)
  | none => .error (.noMethod operation)

end OperationAttributes

/-- The headers that the attributes of a trait declare for all its methods. -/
def serviceHeaders (attributes : List Attribute) : Except Rejection Headers :=
  (attributes.filter (·.isNamed "headers")).foldlM (fun headers a => do
    return headers.setAll (← headersOfAttribute a)) []

/-! ### Attributes of parameters -/

/-- What a parameter says about where its argument goes. -/
inductive Placement where
  | path (placeholder : Option String)
  | query (key : Option String)
  | header (name : String)
deriving DecidableEq, Repr

namespace Placement

/-- The text that an attribute may have. -/
def text? (a : Attribute) : Except Rejection (Option String) :=
  match a.input with
  | .nothing => .ok none
  | .value _ => .error (.assignedPlace (a.name?.getD "?"))
  | .arguments _ _ => do return some (← textOfAttribute a)

/-- What an attribute says about the place of an argument, if it is about that. -/
def ofAttribute (a : Attribute) : Except Rejection (Option Placement) := do
  if a.isNamed "path" then return some (.path (← text? a))
  else if a.isNamed "query" then return some (.query (← text? a))
  else if a.isNamed "header" then return some (.header (← textOfAttribute a))
  else return none

/-- What attributes say about the place of an argument, which at most one of them may. -/
def add (found : Option Placement) (a : Attribute) : Except Rejection (Option Placement) := do
  match ← ofAttribute a with
  | none => return found
  | some placement => if found.isSome then .error .twoPlaces else return some placement

/-- What the attributes of a parameter say about the place of its argument. -/
def read (attributes : List Attribute) : Except Rejection (Option Placement) :=
  attributes.foldlM add none

end Placement

end Waybill
