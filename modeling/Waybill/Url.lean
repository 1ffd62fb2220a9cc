import Waybill.Url.Host

/-!
# URLs

A URL is kept by its components: a scheme, credentials, a host and port, a path, a query and a
fragment. Its text is a function of them, `Waybill.Url.write`, so that an edit of one component
leaves the text of the others as it was.

The schemes of the web share a syntax: they always have a host, their paths always start with a
slash, and a backslash is as good as a slash. The scheme `file` follows them with rules of its own
for drive letters. Other schemes may have a path that is no list of segments, as in `mailto:a@b`.

Every component is stored as it is written, escapes included.

## Main definitions

* `Waybill.Url` — a URL by its components.
* `Waybill.Url.SchemeKind` — which syntax a scheme follows.
* `Waybill.Url.isFlat` — whether the path is no list of segments.
* `Waybill.Url.write` — the text of a URL.
* `Waybill.Url.fragmentSet`, `Waybill.Url.pathSet`, `Waybill.Url.credentialSet`,
  `Waybill.Url.querySet`, `Waybill.Url.webQuerySet` — what the components escape.
-/

namespace Waybill

namespace Url

/-- Which syntax a scheme follows. -/
inductive SchemeKind where
  | web
  | file
  | other
deriving DecidableEq, Repr

/-- The syntax of a scheme in small letters. -/
def schemeKind (scheme : String) : SchemeKind :=
  if ["http", "https", "ws", "wss", "ftp"].contains scheme then .web
  else if scheme == "file" then .file
  else .other

/-- Whether the scheme reads a backslash as a slash. -/
def SchemeKind.isSpecial : SchemeKind → Bool
  | .other => false
  | _ => true

/-- The port that a scheme stands for when none is written. -/
def defaultPort? (scheme : String) : Option Nat :=
  if scheme == "http" || scheme == "ws" then some 80
  else if scheme == "https" || scheme == "wss" then some 443
  else if scheme == "ftp" then some 21
  else none

end Url

/-- A URL by its components, each as it is written. -/
structure Url where
  scheme : String
  username : String
  password : String
  host : Option Host
  port : Option Nat
  /-- Whether a step that leads nowhere, written as `/.`, keeps a path without a host apart from the
  scheme, so that two slashes at its start do not read as the mark of a host. -/
  detached : Bool
  path : String
  query : Option String
  fragment : Option String
deriving DecidableEq, Repr

namespace Url

/-! ### What the components escape -/

/-- The set for fragments. -/
def fragmentSet : Percent.EscapeSet := fun c => Ascii.isControl c || " \"<>`".toList.contains c

/-- The set for segments of a path. -/
def pathSet : Percent.EscapeSet := fun c => fragmentSet c || "#?\x7b\x7d".toList.contains c

/-- The set for user names and passwords. -/
def credentialSet : Percent.EscapeSet := fun c => pathSet c || "/:;=@[\\]^|".toList.contains c

/-- The set for queries. -/
def querySet : Percent.EscapeSet := fun c => Ascii.isControl c || " \"#<>".toList.contains c

/-- The set for queries in the schemes of the web. -/
def webQuerySet : Percent.EscapeSet := fun c => querySet c || c == '\''

/-- The set for queries in a scheme. -/
def querySetOf (scheme : String) : Percent.EscapeSet :=
  if (schemeKind scheme).isSpecial then webQuerySet else querySet

/-! ### The text of a URL -/

/-- The credentials with the `@` that ends them, or nothing. -/
def credentials (u : Url) : String :=
  if u.username.isEmpty && u.password.isEmpty then ""
  else u.username ++ (if u.password.isEmpty then "" else ":" ++ u.password) ++ "@"

/-- The port with the colon before it, or nothing. -/
def portText (u : Url) : String :=
  match u.port with
  | some port => ":" ++ toString port
  | none => ""

/-- The part of the text between the scheme and the path. -/
def authority (u : Url) : String :=
  match u.host with
  | some host => "//" ++ u.credentials ++ host.write ++ u.portText
  | none => if u.detached then "/." else ""

/-- Whether the path is no list of segments: nothing stands between it and the scheme, and it does
not start with a slash. -/
def isFlat (u : Url) : Bool := u.host.isNone && !u.detached && u.path.toList.head? != some '/'

/-- The scheme, credentials, host and port: what two URLs of one origin share. -/
def origin (u : Url) : String × String × String × Option Host × Option Nat :=
  (u.scheme, u.username, u.password, u.host, u.port)

/-- The query with its mark, or nothing. -/
def queryText (u : Url) : String :=
  match u.query with
  | some query => "?" ++ query
  | none => ""

/-- The fragment with its mark, or nothing. -/
def fragmentText (u : Url) : String :=
  match u.fragment with
  | some fragment => "#" ++ fragment
  | none => ""

/-- The text of a URL. -/
def write (u : Url) : String :=
  u.scheme ++ ":" ++ u.authority ++ u.path ++ u.queryText ++ u.fragmentText

instance : ToString Url := ⟨write⟩

end Url

end Waybill
