import Waybill.Code.Declaration.Read
import Waybill.Configuration
import Waybill.Operation

/-!
# Services

A service is declared by a trait whose methods are operations, and by options: the base URL that its
calls go to unless another one is given, and whether a mock is wanted. Headers that the trait
declares hold for all its operations.

A declaration that is no trait is malformed; a trait that cannot become a service is rejected for
the first rule that it breaks, in the order of the text.

## Main definitions

* `Waybill.Service`, `Waybill.ServiceOptions`.
* `Waybill.ServiceOptions.read` — options from their tokens.
* `Waybill.Service.ofDeclaration`, `Waybill.Service.read` — the service of a declaration.
-/

namespace Waybill

open Code (Token Attribute ArgumentReader TraitDeclaration TraitItem)

/-- What is said about a service besides its declaration. -/
structure ServiceOptions where
  /-- The base URL, as it is written. -/
  url : Option String
  hasMock : Bool
deriving DecidableEq, Repr

namespace ServiceOptions

/-- What holds unless something is said. -/
def standard : ServiceOptions := ⟨none, true⟩

/-- The text of a URL. -/
def urlText : ArgumentReader String := do
  let text ← ArgumentReader.text
  match Url.parse text with
  | .ok _ => return text
  | .error e => throw (.refused ("invalid base URL: " ++ e.message))

/-- One option. -/
def option (options : ServiceOptions) (name : Option String) : ArgumentReader ServiceOptions :=
  if name == some "url" then do
    ArgumentReader.mark '='
    return { options with url := some (← urlText) }
  else if name == some "mock" then do
    ArgumentReader.mark '='
    return { options with hasMock := ← ArgumentReader.boolean }
  else throw (.unknownOption "unsupported service attribute, expected `url` or `mock`")

/-- Options from their tokens. -/
def read (tokens : List Token) : Except Rejection ServiceOptions :=
  match ArgumentReader.run (Attribute.optionsOf standard option) tokens with
  | .ok options => .ok options
  | .error fault => .error (.argument fault)

end ServiceOptions

/-- A service. -/
structure Service where
  options : ServiceOptions
  /-- Attributes that the generated code keeps. -/
  attributes : List Attribute
  visibility : List Token
  name : String
  bounds : List (List Token)
  operations : List Operation

/-- Why a declaration does not make a service. -/
inductive ServiceFault where
  /-- The declaration is no trait. -/
  | malformed
  | rejected (rejection : Rejection)
deriving DecidableEq, Repr

namespace Service

/-- The name of a type that belongs to a service. -/
def typeName (s : Service) (suffix : String) : String := Code.plainWord s.name ++ suffix

/-- The operation that an item of a trait declares. -/
def operationOf (headers : Headers) : TraitItem → Except Rejection Operation
  | .method declaration => Operation.ofDeclaration declaration headers
  | .other => .error .otherItem

/-- The service of a declaration. -/
def ofDeclaration (options : ServiceOptions) (t : TraitDeclaration) : Except Rejection Service := do
  Operation.ensure (!t.isGeneric) .genericTrait
  Operation.ensure (!(t.isUnsafe || t.isAuto)) .qualifiedTrait
  let headers ← serviceHeaders t.attributes
  let operations ← t.items.mapM (operationOf headers)
  return {
    options
    attributes := t.attributes.filter fun a => !(a.isNamed "headers" || a.isNamed "service")
    visibility := t.visibility
    name := t.name
    bounds := t.bounds
    operations }

/-- The service that options and a declaration make, from the tokens of both. -/
def read (options declaration : List Token) : Except ServiceFault Service :=
  match ServiceOptions.read options with
  | .error r => .error (.rejected r)
  | .ok options =>
    match TraitDeclaration.read declaration with
    | none => .error .malformed
    | some t =>
      match ofDeclaration options t with
      | .ok service => .ok service
      | .error r => .error (.rejected r)

end Service

end Waybill
