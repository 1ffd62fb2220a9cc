import Waybill.Operation.Attributes
import Waybill.Operation.Default
import Waybill.Template.Parse

/-!
# Operations

An operation is what a method declaration means: the request that a call sends, where each argument
goes in it, and what the call returns. It is built from a declaration rule by rule, and the first
rule that is broken rejects the declaration.

An argument goes into the path if its parameter has the name of a placeholder, into the body if the
declaration says so, and into the query or a header where an attribute says so.

## Main definitions

* `Waybill.Operation`, `Waybill.Operation.Parameter`, `Waybill.Operation.Place`.
* `Waybill.Encoding`, `Waybill.Encoding.select` — how the body is written.
* `Waybill.Returns`, `Waybill.Returns.ofType` — what a call returns.
* `Waybill.Operation.ofDeclaration` — the operation of a declaration.
-/

namespace Waybill

open Code (Attribute TypeExpr MethodDeclaration)

/-! ### What a call returns -/

/-- What a successful call yields. -/
inductive Arity where
  | nothing
  /-- A value, or none for a body without one. -/
  | optional (type : TypeExpr)
  | required (type : TypeExpr)
deriving Repr

/-- Whether failures reach the caller. -/
inductive Surface where
  | throwing
  /-- Failures are recorded and leave no value. -/
  | silent
deriving DecidableEq, Repr

/-- The name of an arity. -/
def Arity.name : Arity → String
  | .nothing => "None"
  | .optional _ => "Optional"
  | .required _ => "Required"

/-- The type of the value that a call yields, if it yields one. -/
def Arity.type? : Arity → Option TypeExpr
  | .nothing => none
  | .optional type => some type
  | .required type => some type

/-- The name of a surface. -/
def Surface.name : Surface → String
  | .throwing => "Throwing"
  | .silent => "NonThrowing"

/-- The type that a method returns, and what it means. -/
structure Returns where
  declared : TypeExpr
  arity : Arity
  surface : Surface
deriving Repr

namespace Returns

/-- What a type that failures may replace says about the value. -/
def arityOfResult (inner : TypeExpr) : Arity :=
  if inner.isUnit then .nothing
  else match inner.option? with
    | some value => .optional value
    | none => .required inner

/-- What a type of values that may be missing says about the value. -/
def arityOfOption (inner : TypeExpr) : Arity :=
  if inner.isUnit then .nothing else .required inner

/-- What a returned type means, if it is one that an operation may return. -/
def ofType? (declared : TypeExpr) : Option Returns :=
  match declared.result?, declared.option? with
  | some inner, _ => some ⟨declared, arityOfResult inner, .throwing⟩
  | none, some inner => some ⟨declared, arityOfOption inner, .silent⟩
  | none, none => none

end Returns

/-! ### How the body is written -/

/-- How an argument becomes the body of a request. -/
inductive Encoding where
  | structured
  | form
  | multipart (upload : Upload)
  | raw
deriving DecidableEq, Repr

/-- The encoding for the declared headers and the mark of an upload. A declared media type decides,
and without one an upload is sent in parts and anything else as JSON. -/
def Encoding.select (headers : Headers) (upload : Option Upload) : Encoding :=
  match (headers.value? contentTypeName).map ContentKind.classify, upload with
  | some .json, _ => .structured
  | none, none => .structured
  | some .formUrlEncoded, _ => .form
  | some .multipart, some u => .multipart u
  | some .other, some u => .multipart u
  | none, some u => .multipart u
  | some .multipart, none => .raw
  | some .other, none => .raw

namespace Operation

/-- Where an argument goes. -/
inductive Place where
  /-- Into a placeholder; a default is what is passed when the argument is left out. -/
  | path (placeholder : String) (default : Option DefaultValue)
  | query (key : String)
  | header (name : String)
  | body
deriving DecidableEq, Repr

/-- A parameter and where its argument goes. -/
structure Parameter where
  name : String
  type : TypeExpr
  place : Place
deriving Repr

namespace Parameter

/-- Whether the parameter is the body. -/
def isBody (p : Parameter) : Bool := p.place == .body

/-- What is passed when the argument is left out. -/
def default? (p : Parameter) : Option DefaultValue :=
  match p.place with
  | .path _ default => default
  | _ => none

/-- The placeholder that the argument fills. -/
def placeholder? (p : Parameter) : Option String :=
  match p.place with
  | .path placeholder _ => some placeholder
  | _ => none

end Parameter

end Operation

/-- What a method declaration means. -/
structure Operation where
  name : String
  /-- Attributes that the generated code keeps. -/
  attributes : List Attribute
  method : Method
  template : Template
  /-- Declared headers, those of the trait first. -/
  headers : Headers
  parameters : List Operation.Parameter
  /-- How the body is written, if there is one. -/
  encoding : Option Encoding
  returns : Returns

/-- The name of the parameter for further query items. -/
def queryItemsName : String := "query_items"

namespace Operation

/-- The parameter that is the body. -/
def body? (o : Operation) : Option Parameter := o.parameters.find? (·.isBody)

/-- Whether some argument can be left out. -/
def hasDefaults (o : Operation) : Bool := o.parameters.any fun p => p.default?.isSome

/-- A name with something behind it; a name that `r#` makes of a keyword loses that mark. -/
def suffixed (o : Operation) (suffix : String) : String := Code.plainWord o.name ++ suffix

/-- The name of the method that takes further query items. -/
def queryName (o : Operation) : String := o.suffixed "_with_query"

/-- The name of the method that fills defaults in. -/
def defaultsName (o : Operation) : String := o.suffixed "_with_defaults"

/-- The name of the field that has the answer of a mock. -/
def slotName (o : Operation) : String := o.suffixed "_result"

/-! ### Building an operation -/

/-- Refuses a declaration unless a rule holds. -/
def ensure (holds : Bool) (rejection : Rejection) : Except Rejection Unit :=
  if holds then .ok () else .error rejection

/-- Whether a method starts with a shared receiver. -/
def hasReceiver (d : MethodDeclaration) : Bool :=
  match d.inputs with
  | .receiver r :: _ => r == .shared
  | _ => false

/-- The rules about the form of a method. -/
def checkForm (d : MethodDeclaration) : Except Rejection Unit := do
  ensure (!d.hasBody) (.hasBody d.name)
  ensure d.isAsync (.notAsync d.name)
  ensure (!d.isGeneric) (.isGeneric d.name)
  ensure (!(d.isConst || d.isUnsafe || d.hasConvention || d.isVariadic)) (.isQualified d.name)
  ensure (hasReceiver d) (.receiver d.name)

/-- What a method returns. -/
def readReturns (d : MethodDeclaration) : Except Rejection Returns :=
  match d.returns.bind Returns.ofType? with
  | some returns => .ok returns
  | none => .error (.returns d.name)

/-- The place of an argument that fills a placeholder. -/
def pathPlace (template : Template) (placeholder : String) (type : TypeExpr) :
    Except Rejection Place :=
  match template.default? placeholder with
  | none => .ok (.path placeholder none)
  | some default =>
    match DefaultValue.ofText? type default with
    | some value => .ok (.path placeholder (some value))
    | none => .error (.defaultOfType default placeholder (Code.textOf type.tokens))

/-- The place of the argument of a parameter. -/
def place (template : Template) (body : Option String) (p : Code.Parameter) (name : String) :
    Except Rejection Place := do
  let isBody := body == some name
  match ← Placement.read p.attributes with
  | some placement =>
    if isBody then .error (.placedBody name)
    else match placement with
      | .path alias? =>
        let placeholder := alias?.getD name
        ensure (template.names.contains placeholder) (.noPlaceholder placeholder template.source)
        pathPlace template placeholder p.type
      | .query alias? => .ok (.query (alias?.getD name))
      | .header header => .ok (.header header)
  | none =>
    if isBody then .ok .body
    else if template.names.contains name then pathPlace template name p.type
    else .error (.strayParameter name template.source)

/-- A parameter of an operation. -/
def readParameter (template : Template) (body : Option String) :
    Code.Input → Except Rejection Parameter
  | .receiver _ => .error .secondReceiver
  | .parameter p =>
    match p.name with
    | none => .error .unnamedParameter
    | some name => do
      ensure (name != queryItemsName) (.reservedParameter name)
      return ⟨name, p.type, ← place template body p name⟩

/-- The first of some names that was there before. -/
def repeated? (seen : List String) : List String → Option String
  | [] => none
  | name :: rest => if seen.contains name then some name else repeated? (name :: seen) rest

/-- The placeholders that arguments fill, in the order of the parameters. -/
def boundNames (parameters : List Parameter) : List String :=
  parameters.filterMap Parameter.placeholder?

/-- The first placeholder with neither an argument nor a default. -/
def unbound? (template : Template) (parameters : List Parameter) : Option String :=
  (template.placeholders.find? fun (name, default) =>
    default.isNone && !(boundNames parameters).contains name).map (·.1)

/-- Every placeholder is filled by one argument at most, and has a default if it is filled by
none. -/
def checkPlaceholders (template : Template) (parameters : List Parameter) :
    Except Rejection Unit :=
  match repeated? [] (boundNames parameters), unbound? template parameters with
  | some placeholder, _ => .error (.boundTwice placeholder)
  | none, some placeholder => .error (.unbound placeholder)
  | none, none => .ok ()

/-- The template of a source. -/
def readTemplate (source : String) : Except Rejection Template :=
  match Template.parse source with
  | .ok template => .ok template
  | .error e => .error (.template e)

/-- The rules about the body and its upload. -/
def checkBody (operation : String) (said : OperationAttributes) (parameters : List Parameter) :
    Except Rejection Unit :=
  if parameters.any (·.isBody) then .ok ()
  else match said.body, said.upload with
    | some body, _ => .error (.unknownBody body operation)
    | none, some _ => .error (.uploadWithoutBody operation)
    | none, none => .ok ()

/-- The operation of a declaration in a trait that declares headers for all its methods. -/
def ofDeclaration (d : MethodDeclaration) (headers : Headers) : Except Rejection Operation := do
  checkForm d
  let (verb, said) ← OperationAttributes.read d.name d.attributes
  let template ← readTemplate verb.source
  let returns ← readReturns d
  let parameters ← (d.inputs.drop 1).mapM (readParameter template said.body)
  checkBody d.name said parameters
  checkPlaceholders template parameters
  let headers := headers.setAll said.headers
  return {
    name := d.name
    attributes := said.kept
    method := verb.method
    template
    headers
    parameters
    encoding := if parameters.any (·.isBody) then some (.select headers said.upload) else none
    returns }

end Operation

end Waybill
