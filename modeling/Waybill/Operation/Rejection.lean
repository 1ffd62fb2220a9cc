import Waybill.Code.Attribute
import Waybill.Failure

/-!
# Rejected declarations

A declaration that cannot become an operation is rejected for the first rule that it breaks. Each
rejection belongs to a kind, and its message starts with the name of the kind.

## Main definitions

* `Waybill.Rejection`, `Waybill.Rejection.message`.
* `Waybill.RejectionKind`, `Waybill.Rejection.kind`.
-/

namespace Waybill

/-- Kinds of rejections. -/
inductive RejectionKind where
  | malformedTemplate
  | unsupportedDefault
  | missingMethod
  | duplicateMethod
  | unknownBodyParameter
  | fileUploadWithoutBody
  | unboundPlaceholder
  | unsupportedSignature
  | invalidAttribute
deriving DecidableEq, Repr

/-- The name of a kind. -/
def RejectionKind.name : RejectionKind → String
  | malformedTemplate => "MalformedTemplate"
  | unsupportedDefault => "UnsupportedDefault"
  | missingMethod => "MissingMethod"
  | duplicateMethod => "DuplicateMethod"
  | unknownBodyParameter => "UnknownBodyParameter"
  | fileUploadWithoutBody => "FileUploadWithoutBody"
  | unboundPlaceholder => "UnboundPlaceholder"
  | unsupportedSignature => "UnsupportedSignature"
  | invalidAttribute => "InvalidAttribute"

/-- Why a declaration is rejected. -/
inductive Rejection where
  | template (error : TemplateError)
  /-- A default that is no literal of its parameter's type. -/
  | defaultOfType (default placeholder type : String)
  | noMethod (operation : String)
  | twoMethods (operation : String)
  | unknownBody (body operation : String)
  | uploadWithoutBody (operation : String)
  | unbound (placeholder : String)
  | hasBody (operation : String)
  | notAsync (operation : String)
  | isGeneric (operation : String)
  | isQualified (operation : String)
  | receiver (operation : String)
  | returns (operation : String)
  | secondReceiver
  | unnamedParameter
  | reservedParameter (name : String)
  | strayParameter (name source : String)
  | repeated (owner : String)
  /-- The arguments of an attribute that has to have one text. -/
  | textArgument (owner : String) (fault : Code.ArgumentFault)
  | argument (fault : Code.ArgumentFault)
  | declarationFormat
  | unknownMethod (token : String)
  | assignedUpload
  | assignedPlace (owner : String)
  | emptyHeaderName
  | twoPlaces
  | placedBody (name : String)
  | noPlaceholder (name source : String)
  | boundTwice (placeholder : String)
  | genericTrait
  | qualifiedTrait
  | otherItem
deriving DecidableEq, Repr

namespace Rejection

/-- The kind of a rejection. -/
def kind : Rejection → RejectionKind
  | template (.unsupportedDefault _ _) => .unsupportedDefault
  | template _ => .malformedTemplate
  | defaultOfType _ _ _ => .unsupportedDefault
  | noMethod _ => .missingMethod
  | twoMethods _ => .duplicateMethod
  | unknownBody _ _ => .unknownBodyParameter
  | uploadWithoutBody _ => .fileUploadWithoutBody
  | unbound _ => .unboundPlaceholder
  | hasBody _ | notAsync _ | isGeneric _ | isQualified _ | receiver _ | returns _
  | secondReceiver | unnamedParameter | reservedParameter _ | strayParameter _ _
  | genericTrait | qualifiedTrait | otherItem => .unsupportedSignature
  | repeated _ | textArgument _ _ | argument _ | declarationFormat | unknownMethod _
  | assignedUpload | assignedPlace _ | emptyHeaderName | twoPlaces | placedBody _
  | noPlaceholder _ _ | boundTwice _ => .invalidAttribute

/-- A text between backquotes. -/
def marked (s : String) : String := "`" ++ s ++ "`"

/-- What is said about a rejection besides its kind. -/
def detail : Rejection → String
  | template error => error.message
  | defaultOfType default placeholder type =>
    "default " ++ marked default ++ " of " ++ marked placeholder ++ " is not a literal of type " ++
      marked type
  | noMethod operation => marked operation ++
      " needs one of #[get], #[post], #[put], #[patch], #[delete], #[head], #[options] or #[http]"
  | twoMethods operation => marked operation ++ " already has an HTTP method attribute"
  | unknownBody body operation => marked body ++ " is not a parameter of " ++ marked operation
  | uploadWithoutBody operation =>
    marked operation ++ " is a file upload but declares no #[body]"
  | unbound placeholder =>
    "placeholder " ++ marked placeholder ++ " matches no parameter and has no default"
  | hasBody operation => marked operation ++ " must be declared without a body"
  | notAsync operation => marked operation ++ " must be an `async fn`"
  | isGeneric operation => marked operation ++ " must not be generic"
  | isQualified operation => marked operation ++ " must be a plain `async fn`"
  | receiver operation => marked operation ++ " must take `&self` first"
  | returns operation => marked operation ++
      " must return `Result<()>`, `Result<T>`, `Result<Option<T>>` or `Option<T>`"
  | secondReceiver => "unexpected receiver"
  | unnamedParameter => "parameters must be plain identifiers"
  | reservedParameter name => marked name ++ " is reserved for the explicit query overload"
  | strayParameter name source =>
    "parameter " ++ marked name ++ " matches no placeholder of " ++ marked source ++
      ", is not the #[body] and has no #[query] or #[header]"
  | repeated name => "repeated #[" ++ name ++ "] attribute"
  | textArgument name fault => "#[" ++ name ++ "] expects a string literal: " ++ fault.message
  | argument fault => fault.message
  | declarationFormat =>
    "expected format: \"METHOD /path\" (e.g., \"GET /posts/" ++ "\x7bid\x7d\")"
  | unknownMethod token => (Failure.invalidRequest ("unsupported HTTP method: " ++ token)).message
  | assignedUpload =>
    "expected #[file_upload] or #[file_upload(name = \"...\", file_name = \"...\")]"
  | assignedPlace name => "expected #[" ++ name ++ "] or #[" ++ name ++ "(\"name\")]"
  | emptyHeaderName => "empty header name"
  | twoPlaces => "a parameter takes at most one of #[path], #[query] and #[header]"
  | placedBody name =>
    marked name ++ " is the body and cannot carry #[path], #[query] or #[header]"
  | noPlaceholder name source => "no placeholder " ++ marked name ++ " in " ++ marked source
  | boundTwice placeholder => "placeholder " ++ marked placeholder ++ " is bound twice"
  | genericTrait => "service traits must not be generic"
  | qualifiedTrait => "service traits must be plain traits"
  | otherItem => "service traits may only declare `async fn` operations"

/-- The wording of a rejection. -/
def message (r : Rejection) : String := r.kind.name ++ ": " ++ r.detail

end Rejection

end Waybill
