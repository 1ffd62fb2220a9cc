import Waybill.Generated.Statement
import Waybill.Operation

/-!
# Generated methods

An operation becomes several methods: one that is called with its arguments, one that takes further
query items besides, and one that fills defaults in where there are any. The second is the one that
each type implements, and the others pass their arguments on to it.

A live type implements it by building a request and sending it; if failures do not reach the caller,
the outcome is looked at once more and a failure is recorded. A mock implements it by answering from
a slot.

## Main definitions

* `Waybill.Generated.Signature`, `Waybill.Generated.Body`, `Waybill.Generated.Method`, and the
  tokens of each.
* `Waybill.Generated.Block` — a request that is built and sent.
* `Waybill.Generated.SlotReading` — how a mock answers from a slot.
-/

namespace Waybill.Generated

open Code (Token TypeExpr Attribute)

/-! ### Signatures -/

/-- What a method is called with, and what it returns. -/
structure Signature where
  name : String
  parameters : List (String × TypeExpr)
  /-- Whether further query items follow the parameters. -/
  takesItems : Bool
  returns : TypeExpr
deriving Repr

/-- A parameter as it is written. -/
def parameterTokens (parameter : String × TypeExpr) : List Token :=
  Code.named parameter.1 ++ Code.symbol ":" ++ parameter.2.tokens

/-- The parameter for further query items, as it is written. -/
def itemsTokens : List Token :=
  Code.named queryItemsName ++ Code.code ": ::std::vec::Vec<::sprig::QueryItem>"

/-- A signature as it is written. Where query items follow, a comma stands after each parameter. -/
def Signature.tokens (s : Signature) : List Token :=
  let parameters := s.parameters.map parameterTokens
  Code.code "async fn" ++ Code.named s.name ++
    Code.parentheses (Code.code "&self," ++
      if s.takesItems then Code.terminated "," (parameters ++ [itemsTokens])
      else Code.separated "," parameters) ++
    Code.symbol "->" ++ s.returns.tokens

/-! ### Sending -/

/-- A request that is built by statements and sent; what is made of the response depends on what the
operation returns. -/
structure Block where
  statements : List Statement
  yields : Arity
deriving Repr

/-- The function that sends a request, and what is made of what it returns. -/
def sendingTokens : Arity → List Token × List Token
  | .nothing => (Code.code "::sprig::perform_request", Code.code ".map(|_| ())")
  | .optional type =>
    (Code.code "::sprig::perform_request_and_decode_optional::<_," ++ type.tokens ++
      Code.symbol ">", [])
  | .required type =>
    (Code.code "::sprig::perform_request_and_decode::<_," ++ type.tokens ++ Code.symbol ">", [])

/-- A block as it is written. -/
def Block.tokens (b : Block) : List Token :=
  let (function, ending) := sendingTokens b.yields
  b.statements.flatMap Statement.tokens ++
    Code.call function [Code.code "&self.client", Code.named Local.request,
      Code.call (Code.code "::sprig::Dispatch::new")
        [Code.reference Local.rawUrl, Code.code "&self.config", Code.code "&self.interceptors"]] ++
    Code.code ".await" ++ ending

/-- The type of the value that a caller gets who is told of no failures. -/
def quietType : Arity → TypeExpr
  | .required type => type
  | .nothing | .optional _ => .unit

/-- The message of the record of a failure that does not reach the caller. -/
def quietMessage : String := "non-throwing operation failed"

/-- A block whose failures are recorded, as it is written. -/
def Block.quietTokens (b : Block) (operation : String) : List Token :=
  Code.named "let" ++ Code.named Local.outcome ++ Code.code ": ::sprig::Result<" ++
    (quietType b.yields).tokens ++ Code.code "> = async" ++ Code.braces b.tokens ++
    Code.code ".await;" ++ Code.named "match" ++ Code.named Local.outcome ++
    Code.braces (Code.code "Ok(value) => Some(value), Err(error) =>" ++ Code.braces
      (Code.code "::sprig::tracing::debug!" ++ Code.parentheses
        (Code.code "operation =" ++ Code.quoted operation ++ Code.code ", %error," ++
          Code.quoted quietMessage) ++ Code.code "; None"))

/-! ### Bodies -/

/-- What a method passes on. -/
inductive Passed where
  | parameter (name : String)
  | default (value : DefaultValue)
  | noItems
deriving DecidableEq, Repr

/-- A passed argument as it is written. -/
def Passed.tokens : Passed → List Token
  | parameter name => Code.named name
  | default value => value.tokens
  | noItems => Code.code "::std::vec::Vec::new()"

/-- How a mock answers from a slot. -/
inductive SlotReading where
  /-- The slot has a failure or none. -/
  | failure
  /-- The slot has the answer. -/
  | answer
  /-- The slot has the answer of a caller who would be told of failures. -/
  | value
deriving DecidableEq, Repr

/-- An answer from a slot as it is written. -/
def SlotReading.tokens (slot : String) : SlotReading → List Token
  | failure =>
    Code.code "match &self." ++ Code.named slot ++ Code.braces
      (Code.code "::std::option::Option::Some(error) => Err(::std::clone::Clone::clone(error))," ++
        Code.code "::std::option::Option::None => Ok(()),")
  | answer =>
    Code.call (Code.code "::std::clone::Clone::clone") [Code.code "&self." ++ Code.named slot]
  | value =>
    Code.call (Code.code "::std::clone::Clone::clone") [Code.code "&self." ++ Code.named slot] ++
      Code.code ".ok()"

/-- What a method does. -/
inductive Body where
  /-- It is left to each type. -/
  | required
  | forward (method : String) (arguments : List Passed)
  | send (block : Block)
  /-- A failure is recorded for an operation and leaves no value. -/
  | sendQuietly (operation : String) (block : Block)
  /-- The arguments are taken and not looked at. -/
  | answer (arguments : List String) (slot : String) (reading : SlotReading)
deriving Repr

/-- A body as it is written. -/
def Body.tokens : Body → List Token
  | required => Code.symbol ";"
  | forward method arguments =>
    Code.braces (Code.methodCall "self" method (arguments.map Passed.tokens) ++
      Code.code ".await")
  | send block => Code.braces block.tokens
  | sendQuietly operation block => Code.braces (block.quietTokens operation)
  | answer arguments slot reading =>
    Code.braces (Code.code "let _ =" ++
      Code.parentheses (Code.terminated "," (arguments.map Code.named)) ++ Code.symbol ";" ++
      reading.tokens slot)

/-- A method. -/
structure Method where
  attributes : List Attribute
  signature : Signature
  body : Body
deriving Repr

/-- A method as it is written. -/
def Method.tokens (m : Method) : List Token :=
  m.attributes.flatMap Attribute.tokens ++ m.signature.tokens ++ m.body.tokens

end Waybill.Generated

namespace Waybill.Operation

open Code (TypeExpr)

/-- The parameters of an operation with their types. -/
def typedParameters (o : Operation) : List (String × TypeExpr) :=
  o.parameters.map fun p => (p.name, p.type)

/-- The names of the parameters of an operation. -/
def parameterNames (o : Operation) : List String := o.parameters.map (·.name)

/-- The signature of the method that takes further query items. -/
def querySignature (o : Operation) : Generated.Signature :=
  ⟨o.queryName, o.typedParameters, true, o.returns.declared⟩

end Waybill.Operation
