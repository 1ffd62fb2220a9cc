import Waybill.Code.Fragment
import Waybill.Header
import Waybill.Method

/-!
# Statements of generated code

The body that is generated for an operation fills the template in, collects the query, and builds a
request, with a variable for each step. Statements keep the names of the variables that they read
and define, because they share one scope with the arguments of the operation, and a later definition
of a name hides an earlier one.

## Main definitions

* `Waybill.Generated.Expression`, `Waybill.Generated.Statement`, and the tokens of both.
* `Waybill.Generated.Expression.names`, `Waybill.Generated.Statement.names`,
  `Waybill.Generated.Statement.defined?` — the names that are read, and the one that is defined.
* `Waybill.Generated.Local` — the variables of generated code.
-/

namespace Waybill.Generated

open Code (Token)

/-! ### Variables of generated code -/

namespace Local

def template : String := "__template"
def path : String := "__path"
def configuration : String := "__config"
def url : String := "__url"
def rawTemplate : String := "__raw_template"
def rawUrl : String := "__raw_url"
def query : String := "__query"
def builder : String := "__builder"
def data : String := "__data"
def payload : String := "__payload"
def request : String := "__request"
def outcome : String := "__outcome"

/-- The element that a loop or a case is about. -/
def element : String := "value"

end Local

/-- The argument that fills a placeholder. -/
structure Filling where
  placeholder : String
  argument : String
  /-- Whether the argument may be missing. -/
  isOptional : Bool
deriving DecidableEq, Repr

/-- What a variable is defined as. -/
inductive Expression where
  | template (source : String)
  /-- The path of a template with its placeholders filled in. -/
  | path (template : String) (fillings : List Filling)
  | configuration
  | endpoint (configuration path : String)
  | rawTemplate (template : String)
  /-- The text of an endpoint, even if that is no URL. -/
  | endpointKey (configuration path : String)
  | named (name : String)
  | noItems
  | request (method : Method) (url : String) (headers : Headers) (query : String)
  | header (builder name argument : String)
  /-- A header that is left out with its argument. -/
  | headerIfPresent (builder name argument : String)
  | json (builder argument : String)
  | form (builder argument : String)
  | body (builder argument : String)
  | bytes (argument : String)
  | payload (name fileName data : String)
  | multipart (builder payload data : String)
  | build (builder : String)
deriving DecidableEq, Repr

/-- A statement. -/
inductive Statement where
  | define (name : String) (isMutable : Bool) (value : Expression)
  | push (query key argument : String)
  /-- An item that is left out with its argument. -/
  | pushIfPresent (query key argument : String)
  /-- An item for each element of the argument. -/
  | pushEach (query key argument : String)
  | append (query items : String)
deriving DecidableEq, Repr

/-! ### Names -/

/-- The names that an expression reads. The element of a case is its own. -/
def Expression.names : Expression → List String
  | template _ | configuration | noItems => []
  | path t fillings => fillings.map (·.argument) ++ [t]
  | endpoint c p | endpointKey c p => [c, p]
  | rawTemplate t => [t]
  | named name => [name]
  | request _ u _ q => [u, q]
  | header b _ a | headerIfPresent b _ a | json b a | form b a | body b a => [b, a]
  | bytes a => [a]
  | payload _ _ d => [d]
  | multipart b p d => [b, p, d]
  | build b => [b]

namespace Statement

/-- The names that a statement reads. -/
def names : Statement → List String
  | define _ _ value => value.names
  | push query _ argument | pushIfPresent query _ argument | pushEach query _ argument =>
    [query, argument]
  | append query items => [query, items]

/-- The name that a statement defines for what follows it. -/
def defined? : Statement → Option String
  | define name _ _ => some name
  | _ => none

end Statement

/-! ### Tokens -/

/-- The text that a value is displayed as. -/
def displayed (value : List Token) : List Token :=
  Code.call (Code.code "::std::string::ToString::to_string") [value]

/-- The bytes that a value holds. -/
def bytesOf (argument : String) : List Token :=
  Code.call (Code.code "::std::convert::AsRef::<[u8]>::as_ref") [Code.reference argument]

/-- The case of a value that is there. -/
def presentCase : List Token :=
  Code.call (Code.code "::std::option::Option::Some") [Code.named Local.element]

/-- A pair of a placeholder and its value. -/
def Filling.tokens (f : Filling) : List Token :=
  Code.parentheses (Code.quoted f.placeholder ++ Code.symbol "," ++
    if f.isOptional then
      Code.named f.argument ++ Code.code ".as_ref().map(::std::string::ToString::to_string)"
    else
      Code.call (Code.code "::std::option::Option::Some") [displayed (Code.reference f.argument)])

/-- The declared headers of a request, if there are any. -/
def headerTokens (headers : Headers) : List Token :=
  if headers.isEmpty then []
  else Code.call (Code.code ".headers") [Code.brackets (Code.separated ","
    (headers.map fun (name, value) =>
      Code.parentheses (Code.quoted name ++ Code.symbol "," ++ Code.quoted value)))]

/-- An expression as it is written. -/
def Expression.tokens : Expression → List Token
  | template source =>
    Code.call (Code.code "::sprig::Template::parse") [Code.quoted source] ++ Code.symbol "?"
  | path t fillings =>
    Code.methodCall t "resolve" [Code.symbol "&" ++
      Code.brackets (Code.separated "," (fillings.map Filling.tokens))] ++ Code.symbol "?"
  | configuration => Code.code "::sprig::Service::config(self)"
  | endpoint c p => Code.methodCall c "endpoint" [Code.reference p] ++ Code.symbol "?"
  | rawTemplate t => Code.methodCall t "raw" []
  | endpointKey c p =>
    Code.methodCall c "endpoint" [Code.reference p] ++
      Code.call (Code.code ".map_or_else")
        [Code.code "|_|" ++ Code.methodCall c "endpoint_key" [Code.reference p],
          Code.code "::std::string::String::from"]
  | named name => Code.named name
  | noItems => Code.code "::std::vec::Vec::<::sprig::QueryItem>::new()"
  | request method u headers q =>
    Code.call (Code.code "::sprig::Request::builder")
      [Code.code "::sprig::Method::" ++ Code.named method.variant, Code.named u] ++
    headerTokens headers ++ Code.call (Code.code ".query_items") [Code.reference q]
  | header b name a =>
    Code.methodCall b "header" [Code.quoted name, displayed (Code.reference a)]
  | headerIfPresent b name a =>
    Code.named "match" ++ Code.reference a ++ Code.braces
      (presentCase ++ Code.symbol "=>" ++ Code.braces
          (Code.methodCall b "header" [Code.quoted name, displayed (Code.named Local.element)]) ++
        Code.code "::std::option::Option::None =>" ++ Code.named b ++ Code.symbol ",")
  | json b a => Code.methodCall b "json" [Code.reference a] ++ Code.symbol "?"
  | form b a => Code.methodCall b "form" [Code.reference a] ++ Code.symbol "?"
  | body b a =>
    Code.methodCall b "body" [Code.code "::sprig::bytes::Bytes::copy_from_slice" ++
      Code.parentheses (bytesOf a ++ Code.symbol ",")]
  | bytes a => Code.call (Code.code "::sprig::bytes::Bytes::copy_from_slice") [bytesOf a]
  | payload name fileName d =>
    Code.call (Code.code "::sprig::PayloadDescription::for_data")
      [Code.quoted name, Code.quoted fileName, Code.reference d]
  | multipart b p d => Code.methodCall b "multipart" [Code.reference p, Code.named d]
  | build b => Code.methodCall b "build" []

/-- A statement that adds an item to a query. -/
def pushTokens (query key : String) (value : List Token) : List Token :=
  Code.methodCall query "push" [Code.call (Code.code "::sprig::QueryItem::new")
    [Code.quoted key, value]] ++ Code.symbol ";"

/-- A statement as it is written. -/
def Statement.tokens : Statement → List Token
  | define name isMutable value =>
    Code.named "let" ++ (if isMutable then Code.named "mut" else []) ++ Code.named name ++
      Code.symbol "=" ++ value.tokens ++ Code.symbol ";"
  | push query key argument => pushTokens query key (Code.reference argument)
  | pushIfPresent query key argument =>
    Code.code "if let" ++ presentCase ++ Code.symbol "=" ++ Code.reference argument ++
      Code.braces (pushTokens query key (Code.named Local.element))
  | pushEach query key argument =>
    Code.named "for" ++ Code.named Local.element ++ Code.named "in" ++ Code.reference argument ++
      Code.braces (pushTokens query key (Code.named Local.element))
  | append query items =>
    Code.methodCall query "extend" [Code.named items] ++ Code.symbol ";"

end Waybill.Generated
