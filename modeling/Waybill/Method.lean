import Waybill.Text.Ascii

/-!
# Request methods

## Main definitions

* `Waybill.Method`, `Waybill.Method.all` — the methods an operation may use.
* `Waybill.Method.token`, `Waybill.Method.read?` — the name of a method, and reading it in any case.
* `Waybill.Method.attributeName`, `Waybill.Method.variant` — the names used in declarations and in
  generated code.
-/

namespace Waybill

/-- The methods an operation may use. -/
inductive Method where
  | get
  | post
  | put
  | delete
  | patch
  | head
  | options
deriving DecidableEq, Repr

namespace Method

/-- All methods. -/
def all : List Method := [get, post, put, delete, patch, head, options]

theorem mem_all (m : Method) : m ∈ all := by cases m <;> decide

/-- The name of a method in a request. -/
def token : Method → String
  | get => "GET"
  | post => "POST"
  | put => "PUT"
  | delete => "DELETE"
  | patch => "PATCH"
  | head => "HEAD"
  | options => "OPTIONS"

/-- The name of the attribute that declares an operation with the method. -/
def attributeName : Method → String
  | get => "get"
  | post => "post"
  | put => "put"
  | delete => "delete"
  | patch => "patch"
  | head => "head"
  | options => "options"

/-- The name of the method in generated code. -/
def variant : Method → String
  | get => "Get"
  | post => "Post"
  | put => "Put"
  | delete => "Delete"
  | patch => "Patch"
  | head => "Head"
  | options => "Options"

instance : ToString Method := ⟨token⟩

/-- The method with the given name, in any ASCII case. -/
def read? (name : String) : Option Method := all.find? fun m => Ascii.sameFold m.token name

end Method

end Waybill
