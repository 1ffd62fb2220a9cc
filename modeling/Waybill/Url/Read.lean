import Waybill.Url.Path

/-!
# Reading URLs

The text of a URL is read in stages, one for each mark that splits it: blanks and controls at the
ends are dropped, tabs and line breaks are skipped wherever they stand; the scheme ends at the first
colon; the fragment starts at the first `#`, the query at the first `?` before it; the authority
ends at the first slash; the credentials end at the last `@` of it, and the port starts after the
host.

## Main definitions

* `Waybill.Url.splitScheme?`, `Waybill.Url.cutAt`.
* `Waybill.Url.readCredentials`, `Waybill.Url.readPort`, `Waybill.Url.readAuthority`.
* `Waybill.Url.readFile`, `Waybill.Url.readOther` — the schemes outside the web.
* `Waybill.Url.parse`.
-/

namespace Waybill.Url

/-- Blanks and controls at the ends of the text, which are no part of it. -/
def isTrimmed (c : Char) : Bool := c.toNat ≤ 0x20

/-- The text without the blanks and controls at its ends. -/
def trimmed (cs : List Char) : List Char :=
  ((cs.dropWhile isTrimmed).reverse.dropWhile isTrimmed).reverse

/-- The text before the first occurrence of a mark, and the text after it. -/
def cutAt (mark : Char) (cs : List Char) : List Char × Option (List Char) :=
  match cs.dropWhile (· != mark) with
  | [] => (cs.takeWhile (· != mark), none)
  | _ :: after => (cs.takeWhile (· != mark), some after)

/-- Characters of a scheme after its first letter. -/
def isSchemePart (c : Char) : Bool := c.isAlphanum || c == '+' || c == '-' || c == '.'

/-- The scheme in small letters, and the text after the colon that ends it. -/
def splitScheme? (cs : List Char) : Option (String × List Char) :=
  let isPart (c : Char) := isSchemePart c || isSkipped c
  match significant (cs.takeWhile isPart), cs.dropWhile isPart with
  | c :: name, ':' :: rest =>
    if c.isAlpha then some (String.ofList ((c :: name).map Char.toLower), rest) else none
  | _, _ => none

/-! ### Authorities -/

/-- The credentials before the last `@` of an authority, and the rest of it. `followed` says whether
the authority ends at a mark rather than at the end of the text. -/
def readCredentials (cs : List Char) (followed : Bool) :
    Except UrlError (String × String × List Char) :=
  match cs.reverse.dropWhile (· != '@') with
  | [] => .ok ("", "", cs)
  | _ :: before =>
    let rest := (cs.reverse.takeWhile (· != '@')).reverse
    let written := before.reverse
    if written.isEmpty && rest.isEmpty && followed then .error .emptyHost
    else
      let (name, password?) := cutAt ':' written
      let encode (cs : List Char) := String.ofList (Percent.encode credentialSet cs)
      .ok (encode name, encode (password?.getD []), rest)

/-- The host and the port of an authority without credentials: the first colon outside brackets
separates them. -/
def cutPort : List Char → Bool → List Char × Option (List Char)
  | [], _ => ([], none)
  | c :: rest, bracketed =>
    if c == ':' && !bracketed then ([], some rest)
    else
      let bracketed := if c == '[' then true else if c == ']' then false else bracketed
      let (host, port) := cutPort rest bracketed
      (c :: host, port)

/-- A port: decimal digits up to 65535. An empty port and the scheme's own are not kept. -/
def readPort (scheme : String) (cs : List Char) : Except UrlError (Option Nat) :=
  if !cs.all Char.isDigit then .error .invalidPort
  else
    match cs.foldlM (fun n c =>
        let n := 10 * n + (c.toNat - '0'.toNat)
        if 65535 < n then none else some n) 0 with
    | none => .error .invalidPort
    | some port => .ok (if cs.isEmpty || defaultPort? scheme == some port then none else some port)

/-- What an authority holds, and the text after a backslash at which its port ends. -/
structure Authority where
  username : String
  password : String
  host : Host
  port : Option Nat
  rest : List Char

/-- An authority. Only schemes outside the web may leave the host empty, and then without
credentials or port. -/
def readAuthority (scheme : String) (cs : List Char) (followed : Bool) :
    Except UrlError Authority := do
  let kind := schemeKind scheme
  let (username, password, rest) ← readCredentials cs followed
  let (hostText, portText?) := cutPort rest false
  if hostText.isEmpty then
    if kind.isSpecial || portText?.isSome || !username.isEmpty || !password.isEmpty then
      .error .emptyHost
    else .ok ⟨username, password, .empty, none, []⟩
  else
    let host ← if kind.isSpecial then Host.ofDomain hostText else Host.ofName hostText
    match portText? with
    | none => .ok ⟨username, password, host, none, []⟩
    | some text =>
      let port ← readPort scheme (text.takeWhile (· != '\\'))
      .ok ⟨username, password, host, port, text.dropWhile (· != '\\')⟩

/-- The authority and the path after `//`. A backslash ends a host only where it is read as a
slash, and ends a port everywhere. -/
def readHierarchy (scheme : String) (cs : List Char) (followed : Bool) :
    Except UrlError (Authority × List Char) := do
  let kind := schemeKind scheme
  let ends := isSeparator kind
  let rest := cs.dropWhile (!ends ·)
  let authority ←
    readAuthority scheme (significant (cs.takeWhile (!ends ·))) (followed || !rest.isEmpty)
  .ok (authority, (Site.readPathStart ⟨kind, false⟩ (authority.rest ++ rest)).1)

/-! ### Files -/

/-- The path of a file on this machine, which may have been read as far as its first slash. -/
def localFile (path cs : List Char) : Host × List Char :=
  (.empty, (Site.readPath ⟨.file, true⟩ path cs).1)

/-- The host of a file and its path, after `//`. A drive letter is no host, and neither the name
`localhost` nor a host before a drive is kept. -/
def readFileHost (cs : List Char) : Except UrlError (Host × List Char) := do
  let ends := isSeparator .file
  let hostText := significant (cs.takeWhile (!ends ·))
  let rest := cs.dropWhile (!ends ·)
  if isDriveLetter hostText then .ok (localFile ['/'] cs)
  else if hostText.isEmpty then .ok (localFile ['/'] rest)
  else
    let host ← Host.ofDomain hostText
    if host == .name "localhost" then .ok (localFile ['/'] rest)
    else
      let (path, drive) := Site.readPathStart ⟨.file, false⟩ rest
      .ok (if drive then .empty else host, path)

/-- The host and path of a file. -/
def readFile (cs : List Char) : Except UrlError (Host × List Char) :=
  match next? cs with
  | none => .ok (localFile ['/'] cs)
  | some (first, rest) =>
    if !isSeparator .file first then .ok (localFile ['/'] cs)
    else
      match next? rest with
      | none => .ok (localFile [] cs)
      | some (second, rest) =>
        if isSeparator .file second then readFileHost rest else .ok (localFile [] cs)

/-! ### Whole URLs -/

/-- The components before the query. A path without an authority may be detached. -/
structure Body where
  authority : Option Authority
  detached : Bool
  path : List Char

/-- The text after two slashes at its start. -/
def afterSlashes? (cs : List Char) : Option (List Char) :=
  match next? cs with
  | some ('/', rest) =>
    match next? rest with
    | some ('/', rest) => some rest
    | _ => none
  | _ => none

/-- The components before the query of a URL outside the web. -/
def readOther (scheme : String) (cs : List Char) (followed : Bool) : Except UrlError Body :=
  match afterSlashes? cs with
  | some rest => do
    let (authority, path) ← readHierarchy scheme rest followed
    .ok ⟨some authority, false, path⟩
  | none =>
    match next? cs with
    | some ('/', rest) =>
      let path := (Site.readPath ⟨.other, false⟩ ['/'] rest).1
      .ok ⟨none, "//".toList.isPrefixOf path, path⟩
    | _ => .ok ⟨none, false, Percent.encode Ascii.isControl (significant cs)⟩

/-- The components before the query. -/
def readBody (scheme : String) (cs : List Char) (followed : Bool) : Except UrlError Body :=
  match schemeKind scheme with
  | .web => do
    let (authority, path) ←
      readHierarchy scheme (cs.dropWhile fun c => isSeparator .web c || isSkipped c) followed
    .ok ⟨some authority, false, path⟩
  | .file => do
    let (host, path) ← readFile cs
    .ok ⟨some ⟨"", "", host, none, []⟩, false, path⟩
  | .other => readOther scheme cs followed

/-- A list of characters as a URL. -/
def parseChars (cs : List Char) : Except UrlError Url :=
  match splitScheme? (trimmed cs) with
  | none => .error .relative
  | some (scheme, rest) =>
    let (rest, fragment?) := cutAt '#' rest
    let (body, query?) := cutAt '?' rest
    let encode (set : Percent.EscapeSet) (cs : List Char) : String :=
      String.ofList (Percent.encode set (significant cs))
    match readBody scheme body (query?.isSome || fragment?.isSome) with
    | .error e => .error e
    | .ok ⟨authority?, detached, path⟩ =>
      .ok {
        scheme
        username := (authority?.map (·.username)).getD ""
        password := (authority?.map (·.password)).getD ""
        host := authority?.map (·.host)
        port := authority?.bind (·.port)
        detached
        path := String.ofList path
        query := query?.map (encode (querySetOf scheme))
        fragment := fragment?.map (encode fragmentSet) }

/-- A text as a URL. -/
def parse (text : String) : Except UrlError Url := parseChars text.toList

end Waybill.Url
