import Waybill.Generated.Interface

/-!
# The generated live type

The live type of a service sends each operation through a client. An operation becomes statements
that fill its template in, collect its query, build a request with the declared headers, then with
the headers and the body that arguments give, and a step that sends it.

## Main definitions

* `Waybill.Operation.fillings`, `Waybill.Operation.queryStatements`,
  `Waybill.Operation.headerStatements`, `Waybill.Encoding.statements` — the parts of a request.
* `Waybill.Operation.requestStatements`, `Waybill.Operation.block` — a request, and a request that
  is sent.
* `Waybill.Generated.Live`, `Waybill.Generated.Live.tokens`, `Waybill.Service.live` — the live type
  of a service.
-/

namespace Waybill

open Code (Token TypeExpr)
open Generated hiding Method

/-! ### The request of an operation -/

namespace Operation

/-- What an argument fills in. -/
def Parameter.filling? (p : Parameter) : Option Generated.Filling :=
  p.placeholder?.map fun placeholder => ⟨placeholder, p.name, p.type.isOption⟩

/-- What the arguments of an operation fill in. -/
def fillings (o : Operation) : List Generated.Filling := o.parameters.filterMap Parameter.filling?

/-- The statement that adds an argument to the query, if it belongs there. -/
def Parameter.queryStatement? (p : Parameter) : Option Statement :=
  match p.place with
  | .query key =>
    some (if p.type.isOption then .pushIfPresent Local.query key p.name
      else if p.type.isVec then .pushEach Local.query key p.name
      else .push Local.query key p.name)
  | _ => none

/-- The statements that collect the query: the items of arguments in the order of the parameters,
then the items that the caller gives. -/
def queryStatements (o : Operation) : List Statement :=
  match o.parameters.filterMap Parameter.queryStatement? with
  | [] => [.define Local.query false (.named queryItemsName)]
  | items =>
    [.define Local.query true .noItems] ++ items ++ [.append Local.query queryItemsName]

/-- The statement that adds an argument to the headers, if it belongs there. -/
def Parameter.headerStatement? (p : Parameter) : Option Statement :=
  match p.place with
  | .header name =>
    some (.define Local.builder false
      (if p.type.isOption then .headerIfPresent Local.builder name p.name
        else .header Local.builder name p.name))
  | _ => none

/-- The statements that add arguments to the headers. -/
def headerStatements (o : Operation) : List Statement :=
  o.parameters.filterMap Parameter.headerStatement?

end Operation

/-- The statements that make an argument the body. -/
def Encoding.statements (argument : String) : Encoding → List Statement
  | .structured => [.define Local.builder false (.json Local.builder argument)]
  | .form => [.define Local.builder false (.form Local.builder argument)]
  | .raw => [.define Local.builder false (.body Local.builder argument)]
  | .multipart upload => [
    .define Local.data false (.bytes argument),
    .define Local.payload false (.payload upload.name upload.fileName Local.data),
    .define Local.builder false (.multipart Local.builder Local.payload Local.data)]

namespace Operation

/-- The statements that make an argument the body, if there is one. -/
def bodyStatements (o : Operation) : List Statement :=
  match o.body?, o.encoding with
  | some p, some encoding => encoding.statements p.name
  | _, _ => []

/-- The statements that say where a request goes. -/
def targetStatements (o : Operation) : List Statement := [
  .define Local.template false (.template o.template.source),
  .define Local.path false (.path Local.template o.fillings),
  .define Local.configuration false .configuration,
  .define Local.url false (.endpoint Local.configuration Local.path),
  .define Local.rawTemplate false (.rawTemplate Local.template),
  .define Local.rawUrl false (.endpointKey Local.configuration Local.rawTemplate)]

/-- The statements that build a request. -/
def requestStatements (o : Operation) : List Statement :=
  o.targetStatements ++ o.queryStatements ++
    [.define Local.builder false (.request o.method Local.url o.headers Local.query)] ++
    o.headerStatements ++ o.bodyStatements ++
    [.define Local.request false (.build Local.builder)]

/-- The request of an operation, and what is made of its response. -/
def block (o : Operation) : Block := ⟨o.requestStatements, o.returns.arity⟩

/-- What the live type does for an operation. -/
def liveBody (o : Operation) : Generated.Body :=
  match o.returns.surface with
  | .throwing => .send o.block
  | .silent => .sendQuietly o.name o.block

/-- The method of the live type for an operation. -/
def liveMethod (o : Operation) : Generated.Method := ⟨[], o.querySignature, o.liveBody⟩

end Operation

/-! ### The type -/

namespace Generated

/-- The live type of a service. -/
structure Live where
  visibility : List Token
  /-- The name of the interface. -/
  interface : String
  name : String
  url : Option String
  methods : List Method
deriving Repr

/-- The constant that has the declared base URL. -/
def urlConstant (url : String) : List Token :=
  Code.paragraphs ["Base URL declared on the trait."] ++
    Code.code "pub const DEFAULT_URL: &'static str =" ++ Code.quoted url ++ Code.symbol ";"

/-- Access to the configuration and the registry. -/
def serviceMethods : List Token :=
  Code.code "fn config(&self) -> &::sprig::ServiceConfig" ++
    Code.braces (Code.code "&self.config") ++
    Code.code "fn interceptors(&self) -> &::sprig::Interceptors" ++
    Code.braces (Code.code "&self.interceptors") ++
    Code.code "fn interceptors_mut(&mut self) -> &mut ::sprig::Interceptors" ++
    Code.braces (Code.code "&mut self.interceptors")

namespace Live

/-- The type. -/
def typeTokens (l : Live) : List Token :=
  (Operation.documentation ("Live implementation of [`" ++ l.interface ++
      "`], sending each operation over HTTP.\n\n" ++
      "Generic over the transport; defaults to [`::sprig::HyperClient`].")).tokens ++
    l.visibility ++ Code.named "struct" ++ Code.named l.name ++
    Code.code "<C = ::sprig::HyperClient>" ++
    Code.braces (Code.code
      "config: ::sprig::ServiceConfig, interceptors: ::sprig::Interceptors, client: C,")

/-- The constructor for the declared base URL, if there is one. -/
def urlTokens (l : Live) : List Token :=
  match l.url with
  | none => []
  | some url =>
    urlConstant url ++
      Code.paragraphs ["Service against [`Self::DEFAULT_URL`].", "", "# Errors", "",
        "Returns an error if the transport cannot be built."] ++
      Code.code "pub fn from_default_url() -> ::sprig::Result<Self>" ++
      Code.braces (Code.code "Self::new(Self::DEFAULT_URL)")

/-- The constructors that build a transport. -/
def constructorTokens (l : Live) : List Token :=
  Code.named "impl" ++ Code.named l.name ++ Code.braces (l.urlTokens ++
    Code.paragraphs ["Service against `base_url` with default configuration.", "", "# Errors", "",
      "Returns an error if the URL does not parse or the transport cannot be built."] ++
    Code.code "pub fn new(base_url: impl ::std::convert::AsRef<str>) -> ::sprig::Result<Self>" ++
    Code.braces
      (Code.code "Self::with_config(::sprig::ServiceConfig::parse(base_url.as_ref())?)") ++
    Code.paragraphs [
      "Service with an explicit configuration; the transport honours its pinning policy.",
      "", "# Errors", "", "Returns an error if the transport cannot be built."] ++
    Code.code "pub fn with_config(config: ::sprig::ServiceConfig) -> ::sprig::Result<Self>" ++
    Code.braces (Code.code "let client = ::sprig::HyperClient::for_service(&config)?;" ++
      Code.code "Ok(Self::with_client(client, config))"))

/-- The constructor for a given transport, and access to the transport. -/
def transportTokens (l : Live) : List Token :=
  Code.code "impl<C>" ++ Code.named l.name ++ Code.code "<C>" ++ Code.braces (
    Code.paragraphs ["Service over a custom transport."] ++ Code.code "#[must_use]" ++
    Code.code "pub fn with_client(client: C, config: ::sprig::ServiceConfig) -> Self" ++
    Code.braces (Code.named "Self" ++ Code.braces
      (Code.code "config, interceptors: ::sprig::Interceptors::new(), client,")) ++
    Code.paragraphs ["The transport."] ++ Code.code "#[must_use]" ++
    Code.code "pub fn client(&self) -> &C" ++ Code.braces (Code.code "&self.client"))

/-- Copies of a service. -/
def cloneTokens (l : Live) : List Token :=
  Code.code "impl<C: ::std::clone::Clone> ::std::clone::Clone for" ++ Code.named l.name ++
    Code.code "<C>" ++ Code.braces (Code.code "fn clone(&self) -> Self" ++
      Code.braces (Code.named "Self" ++ Code.braces (Code.code
        "config: self.config.clone(), interceptors: self.interceptors.clone()," ++
        Code.code "client: self.client.clone(),")))

/-- Diagnostics of a service. -/
def debugTokens (l : Live) : List Token :=
  Code.code "impl<C> ::std::fmt::Debug for" ++ Code.named l.name ++ Code.code "<C>" ++
    Code.braces (
      Code.code "fn fmt(&self, f: &mut ::std::fmt::Formatter<'_>) -> ::std::fmt::Result" ++
      Code.braces (Code.code "f.debug_struct" ++
        Code.parentheses (Code.code "stringify!" ++ Code.parentheses (Code.named l.name)) ++
        Code.code ".field(\"config\", &self.config).field(\"interceptors\", &self.interceptors)" ++
        Code.code ".finish_non_exhaustive()"))

/-- What a service shares with the other ones. -/
def serviceTokens (l : Live) : List Token :=
  Code.code "impl<C> ::sprig::Service for" ++ Code.named l.name ++ Code.code "<C>" ++
    Code.braces serviceMethods

/-- The operations. -/
def operationTokens (l : Live) : List Token :=
  Code.code "#[allow(clippy::used_underscore_binding)] impl<C: ::sprig::HttpClient>" ++
    Code.named l.interface ++ Code.named "for" ++ Code.named l.name ++ Code.code "<C>" ++
    Code.braces (l.methods.flatMap Method.tokens)

/-- A live type as it is written. -/
def tokens (l : Live) : List Token :=
  l.typeTokens ++ l.constructorTokens ++ l.transportTokens ++ l.cloneTokens ++ l.debugTokens ++
    l.serviceTokens ++ l.operationTokens

end Live

end Generated

/-- The live type of a service. -/
def Service.live (s : Service) : Generated.Live where
  visibility := s.visibility
  interface := s.name
  name := s.typeName "Service"
  url := s.options.url
  methods := s.operations.map Operation.liveMethod

end Waybill
