import Waybill.Generated.Method
import Waybill.Service

/-!
# The generated interface

The interface of a service has three methods for each operation, the third only where a default can
be filled in. The first calls the second with its own arguments and no further query items; the
third calls the first with a default in the place of every argument that has one.

## Main definitions

* `Waybill.Operation.plainMethod`, `Waybill.Operation.queryMethod`,
  `Waybill.Operation.defaultsMethod?` — the methods of an operation.
* `Waybill.Generated.Interface`, `Waybill.Generated.Interface.tokens`,
  `Waybill.Service.interface` — the interface of a service.
-/

namespace Waybill

open Code (Token Attribute TypeExpr)

namespace Operation

/-- An attribute of documentation. -/
def documentation (text : String) : Attribute :=
  ⟨false, Code.named "doc", .value (Code.quoted text)⟩

/-- The attributes of an operation besides its documentation. -/
def plainAttributes (o : Operation) : List Attribute :=
  o.attributes.filter fun a => !a.isNamed "doc"

/-- The parameters whose arguments cannot be left out, with their types. -/
def keptParameters (o : Operation) : List (String × TypeExpr) :=
  (o.parameters.filter fun p => p.default?.isNone).map fun p => (p.name, p.type)

/-- What is passed for a parameter where defaults are filled in. -/
def Parameter.passed (p : Parameter) : Generated.Passed :=
  match p.default? with
  | some default => .default default
  | none => .parameter p.name

/-- The method that is called with the arguments of an operation. -/
def plainMethod (o : Operation) : Generated.Method where
  attributes := o.attributes
  signature := ⟨o.name, o.typedParameters, false, o.returns.declared⟩
  body := .forward o.queryName (o.parameterNames.map .parameter ++ [.noItems])

/-- The method that takes further query items. -/
def queryMethod (o : Operation) : Generated.Method where
  attributes := o.plainAttributes ++ [documentation ("Same as [`Self::" ++ o.name ++
    "`], with `" ++ queryItemsName ++
    "` appended to the URL after the declared query parameters.")]
  signature := o.querySignature
  body := .required

/-- The method that fills defaults in, if there are any. -/
def defaultsMethod? (o : Operation) : Option Generated.Method :=
  if o.hasDefaults then some {
    attributes := o.plainAttributes ++ [documentation ("Same as [`Self::" ++ o.name ++
      "`], with the template defaults filled in.")]
    signature := ⟨o.defaultsName, o.keptParameters, false, o.returns.declared⟩
    body := .forward o.name (o.parameters.map Parameter.passed) }
  else none

/-- The methods of an operation. -/
def methods (o : Operation) : List Generated.Method :=
  [o.plainMethod, o.queryMethod] ++ o.defaultsMethod?.toList

end Operation

/-- The interface of a service. -/
structure Generated.Interface where
  attributes : List Attribute
  visibility : List Token
  name : String
  bounds : List (List Token)
  methods : List Generated.Method
deriving Repr

/-- An interface as it is written. -/
def Generated.Interface.tokens (i : Generated.Interface) : List Token :=
  i.attributes.flatMap Attribute.tokens ++ Code.code "#[allow(async_fn_in_trait)]" ++
    i.visibility ++ Code.named "trait" ++ Code.named i.name ++ Code.code ": ::sprig::Service" ++
    i.bounds.flatMap (Code.symbol "+" ++ ·) ++
    Code.braces (i.methods.flatMap Generated.Method.tokens)

/-- The interface of a service. -/
def Service.interface (s : Service) : Generated.Interface where
  attributes := s.attributes
  visibility := s.visibility
  name := s.name
  bounds := s.bounds
  methods := s.operations.flatMap Operation.methods

end Waybill
