import Waybill.Text.Ascii
import Waybill.Text.Blank

/-!
# Kinds of content

The value of a `Content-Type` header is looked at up to its first `;`. Three media types have a
meaning of their own; any other is passed on as it is.

## Main definitions

* `Waybill.ContentKind`, `Waybill.ContentKind.classify`.
-/

namespace Waybill

/-- The media type of structured bodies. -/
def jsonType : String := "application/json"

/-- The media type of bodies of query pairs. -/
def formType : String := "application/x-www-form-urlencoded"

/-- The media type of bodies in parts. -/
def multipartType : String := "multipart/form-data"

/-- What the value of a `Content-Type` header announces. -/
inductive ContentKind where
  | json
  | formUrlEncoded
  | multipart
  | other
deriving DecidableEq, Repr

namespace ContentKind

/-- The name of a kind. -/
def name : ContentKind → String
  | .json => "Json"
  | .formUrlEncoded => "FormUrlEncoded"
  | .multipart => "Multipart"
  | .other => "Other"

/-- The media type in the value of a header, without its parameters. -/
def essence (value : String) : String :=
  String.ofList (trim (value.toList.takeWhile (· != ';')))

/-- What the value of a `Content-Type` header announces. -/
def classify (value : String) : ContentKind :=
  let type := essence value
  if Ascii.sameFold type jsonType then .json
  else if Ascii.sameFold type formType then .formUrlEncoded
  else if Ascii.sameFold type multipartType then .multipart
  else .other

end ContentKind

end Waybill
