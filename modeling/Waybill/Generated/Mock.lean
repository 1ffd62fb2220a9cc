import Waybill.Generated.Live

/-!
# The generated mock

The mock of a service has a slot for each operation and answers from it, whatever the arguments are.
A slot of an operation that only succeeds or fails has a failure or none; the slot of any other
operation has a value or a failure, also if failures do not reach the caller. Every slot starts with
the failure about which nothing is known.

## Main definitions

* `Waybill.Generated.SlotType`, `Waybill.Generated.SlotField`, `Waybill.Generated.SlotStart`.
* `Waybill.Operation.slotType`, `Waybill.Operation.mockMethod`.
* `Waybill.Generated.Mock`, `Waybill.Generated.Mock.tokens`, `Waybill.Service.mock?`.
-/

namespace Waybill

open Code (Token TypeExpr Attribute)

namespace Generated

/-! ### Slots -/

/-- The type of a slot. -/
inductive SlotType where
  /-- A failure or none. -/
  | failure
  /-- What the operation returns. -/
  | answer (declared : TypeExpr)
  /-- A value of the type, or a failure. -/
  | value (type : TypeExpr)
deriving Repr

/-- The type of a slot as it is written. -/
def SlotType.tokens : SlotType → List Token
  | failure => Code.code "::std::option::Option<::sprig::Error>"
  | answer declared => declared.tokens
  | value type => Code.code "::sprig::Result<" ++ type.tokens ++ Code.symbol ">"

/-- A slot among the fields of a mock. -/
structure SlotField where
  attributes : List Attribute
  name : String
  type : SlotType
deriving Repr

/-- A field as it is written. -/
def SlotField.tokens (f : SlotField) : List Token :=
  f.attributes.flatMap Attribute.tokens ++ Code.named "pub" ++ Code.named f.name ++
    Code.symbol ":" ++ f.type.tokens ++ Code.symbol ","

/-- What a slot starts with: the failure about which nothing is known, alone or as an answer. -/
structure SlotStart where
  name : String
  isFailure : Bool
deriving DecidableEq, Repr

/-- The start of a slot as it is written. -/
def SlotStart.tokens (s : SlotStart) : List Token :=
  Code.named s.name ++ Code.symbol ":" ++
    (if s.isFailure then Code.code "::std::option::Option::Some(::sprig::Error::Unknown)"
      else Code.code "::std::result::Result::Err(::sprig::Error::Unknown)") ++
    Code.symbol ","

end Generated

namespace Operation

/-- The type of the slot of an operation. -/
def slotType (o : Operation) : Generated.SlotType :=
  match o.returns.surface, o.returns.arity with
  | .throwing, .nothing => .failure
  | .throwing, _ => .answer o.returns.declared
  | .silent, .required type => .value type
  | .silent, _ => .value .unit

/-- The field of the slot of an operation. -/
def slotField (interface : String) (o : Operation) : Generated.SlotField :=
  ⟨[documentation ("Outcome of [`" ++ interface ++ "::" ++ o.name ++ "`].")], o.slotName,
    o.slotType⟩

/-- What the slot of an operation starts with. -/
def slotStart (o : Operation) : Generated.SlotStart where
  name := o.slotName
  isFailure :=
    match o.returns.surface, o.returns.arity with
    | .throwing, .nothing => true
    | _, _ => false

/-- How the mock answers an operation. -/
def slotReading (o : Operation) : Generated.SlotReading :=
  match o.returns.surface, o.returns.arity with
  | .throwing, .nothing => .failure
  | .throwing, _ => .answer
  | .silent, _ => .value

/-- The method of the mock for an operation. -/
def mockMethod (o : Operation) : Generated.Method :=
  ⟨[], o.querySignature, .answer (o.parameterNames ++ [queryItemsName]) o.slotName o.slotReading⟩

end Operation

/-! ### The type -/

namespace Generated

/-- The mock of a service. -/
structure Mock where
  visibility : List Token
  /-- The name of the interface. -/
  interface : String
  name : String
  url : Option String
  fields : List SlotField
  starts : List SlotStart
  methods : List Method
deriving Repr

namespace Mock

/-- The type. -/
def typeTokens (m : Mock) : List Token :=
  (Operation.documentation ("Mock implementation of [`" ++ m.interface ++ "`].\n\n" ++
      "Each operation returns a clone of its `*_result` slot; every slot starts as " ++
      "[`::sprig::Error::Unknown`].")).tokens ++
    m.visibility ++ Code.named "struct" ++ Code.named m.name ++
    Code.braces (Code.code "config: ::sprig::ServiceConfig, interceptors: ::sprig::Interceptors," ++
      m.fields.flatMap SlotField.tokens)

/-- The constructors. -/
def constructorTokens (m : Mock) : List Token :=
  Code.named "impl" ++ Code.named m.name ++ Code.braces (
    Code.paragraphs ["Mock against `base_url`.", "", "# Errors", "",
      "Returns an error if the URL does not parse."] ++
    Code.code "pub fn new(base_url: impl ::std::convert::AsRef<str>) -> ::sprig::Result<Self>" ++
    Code.braces
      (Code.code "Ok(Self::with_config(::sprig::ServiceConfig::parse(base_url.as_ref())?))") ++
    Code.paragraphs ["Mock with an explicit configuration."] ++ Code.code "#[must_use]" ++
    Code.code "pub fn with_config(config: ::sprig::ServiceConfig) -> Self" ++
    Code.braces (Code.named "Self" ++ Code.braces
      (Code.code "config, interceptors: ::sprig::Interceptors::new()," ++
        m.starts.flatMap SlotStart.tokens)))

/-- The mock for the declared base URL, if there is one. -/
def urlTokens (m : Mock) : List Token :=
  match m.url with
  | none => []
  | some url =>
    Code.named "impl" ++ Code.named m.name ++ Code.braces (urlConstant url) ++
      Code.code "impl ::std::default::Default for" ++ Code.named m.name ++
      Code.braces (Code.code "#[allow(clippy::expect_used)] fn default() -> Self" ++
        Code.braces (Code.code "Self::new(Self::DEFAULT_URL)" ++
          Code.code ".expect(\"base URL validated at compile time\")"))

/-- What a mock shares with the other services. -/
def serviceTokens (m : Mock) : List Token :=
  Code.code "impl ::sprig::Service for" ++ Code.named m.name ++ Code.braces serviceMethods

/-- The operations. -/
def operationTokens (m : Mock) : List Token :=
  Code.named "impl" ++ Code.named m.interface ++ Code.named "for" ++ Code.named m.name ++
    Code.braces (m.methods.flatMap Method.tokens)

/-- A mock as it is written. -/
def tokens (m : Mock) : List Token :=
  m.typeTokens ++ m.constructorTokens ++ m.urlTokens ++ m.serviceTokens ++ m.operationTokens

end Mock

end Generated

namespace Service

/-- The mock of a service, if one is wanted. -/
def mock? (s : Service) : Option Generated.Mock :=
  if s.options.hasMock then some {
    visibility := s.visibility
    interface := s.name
    name := s.typeName "Mock"
    url := s.options.url
    fields := s.operations.map (Operation.slotField s.name)
    starts := s.operations.map Operation.slotStart
    methods := s.operations.map Operation.mockMethod }
  else none

/-- The code that is generated for a service. -/
def tokens (s : Service) : List Token :=
  s.interface.tokens ++ s.live.tokens ++
    match s.mock? with
    | some mock => mock.tokens
    | none => []

end Service

end Waybill
