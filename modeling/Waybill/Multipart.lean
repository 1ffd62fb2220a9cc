import Waybill.Media.Kind
import Waybill.Media.Signature
import Waybill.Text.Quoted
import Waybill.Text.Utf8

/-!
# Bodies in parts

A form is a list of parts between lines that hold a boundary. A part has a name, perhaps a file name
and a media type, and its data. The boundary is announced in the media type of the body; it must not
occur in the data.

## Main definitions

* `Waybill.Multipart.Part`, `Waybill.Multipart.Form`.
* `Waybill.Multipart.freshBoundary` — a boundary made of a random number.
* `Waybill.Multipart.Form.contentType`, `Waybill.Multipart.Form.body` — the form on the wire.
* `Waybill.Multipart.Payload` — the description of data that is uploaded as one part.
-/

namespace Waybill.Multipart

/-- A part of a form. -/
structure Part where
  name : String
  fileName : Option String
  contentType : Option String
  data : List UInt8
deriving DecidableEq, Repr

/-- Parts and the boundary between them. -/
structure Form where
  boundary : String
  parts : List Part
deriving DecidableEq, Repr

/-- A boundary made of a random number of 128 bits. -/
def freshBoundary (number : Nat) : String :=
  let digits := hexDigits (number % Nat.pow 2 128)
  "sprig-" ++ String.ofList (List.replicate (32 - digits.length) '0') ++ digits

/-- The end of a line. -/
def lineBreak : String := "\r\n"

/-- The line that names a part and its file. -/
def Part.disposition (p : Part) : String :=
  "Content-Disposition: form-data; name=\"" ++ p.name ++ "\"" ++
    match p.fileName with
    | some fileName => "; filename=\"" ++ fileName ++ "\""
    | none => ""

/-- The lines before the data of a part. -/
def Part.headerLines (p : Part) : List String :=
  p.disposition ::
    match p.contentType with
    | some type => ["Content-Type: " ++ type]
    | none => []

/-- The header block of a part, with the empty line that ends it. -/
def Part.header (p : Part) : String :=
  String.join (p.headerLines.map (· ++ lineBreak)) ++ lineBreak

namespace Form

/-- The line before each part. -/
def delimiter (f : Form) : String := "--" ++ f.boundary ++ lineBreak

/-- The line after the last part. -/
def closing (f : Form) : String := "--" ++ f.boundary ++ "--" ++ lineBreak

/-- A part with the line before it. -/
def partBytes (f : Form) (p : Part) : List UInt8 :=
  Utf8.bytes f.delimiter ++ Utf8.bytes p.header ++ p.data ++ Utf8.bytes lineBreak

/-- The bytes of a form. -/
def body (f : Form) : List UInt8 := f.parts.flatMap f.partBytes ++ Utf8.bytes f.closing

/-- The media type of a form, which announces its boundary. -/
def contentType (f : Form) : String := multipartType ++ "; boundary=" ++ f.boundary

end Form

/-- The description of data that is uploaded as one part. -/
structure Payload where
  name : String
  fileName : String
  type : String
deriving DecidableEq, Repr

namespace Payload

/-- The name of a part and of a file where none is declared. -/
def defaultName : String := "payload"

/-- The description of data whose media type is told from its bytes. -/
def ofData (name fileName : String) (data : List UInt8) : Payload :=
  ⟨name, fileName, mediaTypeOf data⟩

/-- The form of one part that holds the data. -/
def form (p : Payload) (boundary : String) (data : List UInt8) : Form :=
  ⟨boundary, [⟨p.name, some p.fileName, some p.type, data⟩]⟩

end Payload

end Waybill.Multipart
