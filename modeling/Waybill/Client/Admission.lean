import Waybill.Pinning
import Waybill.Request

/-!
# Admission

Before a request is sent, a client chooses the pool of connections that it goes through and writes
it in the form of the wire. Both can refuse it. The checks have an order, and the first defect
decides: the pool, the target, then each header in turn, its name before its value.

The target is the text of the URL. It is stricter than URLs are: after a scheme there must be two
slashes and an authority, and a text without a scheme is read as a bare authority.

## Main definitions

* `Waybill.selectPool` — the pool that a request goes through.
* `Waybill.Target`, `Waybill.Target.read` — the target of a request.
* `Waybill.WireFault`, `Waybill.wireRequest` — the request on the wire, and why there is none.
* `Waybill.admission` — both.
-/

namespace Waybill

/-! ### Pools -/

/-- The pool that a request goes through, for a client that may have a policy. -/
def selectPool (policy : Option PinningPolicy) (r : Request) : Outcome Pool :=
  if !r.pinned then .ok .plain
  else if r.url.scheme != "https" then
    .error (.pinning s!"pinned request to {r.url.write} is not sent over https")
  else match policy with
    | some policy => .ok (.pinned policy)
    | none => .error (.pinning "the transport was built without a pinning policy")

/-! ### Targets -/

/-- Why a text is no target. -/
inductive TargetFault where
  | tooLong
  | schemeTooLong
  /-- Nothing follows a scheme. -/
  | empty
  | invalidCharacter
  | invalidAuthority
  | invalidFormat
deriving DecidableEq, Repr

/-- The wording of a fault. -/
def TargetFault.message : TargetFault → String
  | .tooLong => "uri too long"
  | .schemeTooLong => "scheme too long"
  | .empty => "empty string"
  | .invalidCharacter => "invalid uri character"
  | .invalidAuthority => "invalid authority"
  | .invalidFormat => "invalid format"

/-- The form of a target. -/
inductive Target where
  /-- A scheme, an authority and a path. -/
  | absolute
  /-- An authority alone, which does not say how to reach it. -/
  | bare
deriving DecidableEq, Repr

namespace Target

/-- The greatest length of a target. -/
def lengthLimit : Nat := 65534

/-- The greatest length of a scheme. -/
def schemeLimit : Nat := 64

/-- The greatest number of colons in a row of parts of an authority. -/
def colonLimit : Nat := 8

/-- Characters of a scheme. -/
def isSchemeCharacter (c : Char) : Bool := c.isAlphanum || c == '+' || c == '-' || c == '.'

/-- Characters of an authority. -/
def isAuthorityCharacter (c : Char) : Bool :=
  c.isAlphanum || "!$&'()*+,-.;=_~".toList.contains c

/-- Characters of a path that are not written as an escape. -/
def isPathCharacter (c : Char) : Bool :=
  let n := c.toNat
  n == 0x21 || n == 0x22 || (0x24 ≤ n && n ≤ 0x3B) || n == 0x3D || (0x40 ≤ n && n ≤ 0x5F) ||
    0x61 ≤ n

/-- Characters of a query that are not written as an escape. -/
def isQueryCharacter (c : Char) : Bool :=
  let n := c.toNat
  n == 0x21 || (0x24 ≤ n && n ≤ 0x3B) || n == 0x3D || 0x3F ≤ n

/-- What follows the scheme of a target and its two slashes, if it has one. -/
def afterScheme (cs : List Char) : Except TargetFault (Option (List Char)) :=
  let scheme := cs.takeWhile isSchemeCharacter
  match cs.dropWhile isSchemeCharacter with
  | ':' :: '/' :: '/' :: rest =>
    if schemeLimit < scheme.length then .error .schemeTooLong else .ok (some rest)
  | _ => .ok none

/-- What was met in an authority so far. -/
structure AuthorityState where
  colons : Nat
  opened : Bool
  closed : Bool
  /-- A percent sign outside of credentials and brackets. -/
  percent : Bool
  /-- Whether the last character ended the credentials. -/
  atSign : Bool

/-- The state before an authority. -/
def AuthorityState.start : AuthorityState := ⟨0, false, false, false, false⟩

/-- The state after one more character. Credentials and bracketed addresses may hold colons and
percent signs, which are forgotten when they end. -/
def AuthorityState.step (s : AuthorityState) (c : Char) : Except TargetFault AuthorityState :=
  let s' := { s with atSign := false }
  if c == ':' then
    if colonLimit ≤ s.colons then .error .invalidAuthority
    else .ok { s' with colons := s.colons + 1 }
  else if c == '[' then
    if s.percent || s.opened then .error .invalidAuthority else .ok { s' with opened := true }
  else if c == ']' then
    if !s.opened || s.closed then .error .invalidAuthority
    else .ok { s' with closed := true, colons := 0, percent := false }
  else if c == '@' then .ok { s with atSign := true, colons := 0, percent := false }
  else if c == '%' then .ok { s' with percent := true }
  else if isAuthorityCharacter c then .ok s'
  else .error .invalidCharacter

/-- Whether an authority may end in a state. -/
def AuthorityState.mayEnd (s : AuthorityState) : Bool :=
  s.opened == s.closed && s.colons ≤ 1 && !s.atSign && !s.percent

/-- Characters that end an authority. -/
def endsAuthority (c : Char) : Bool := c == '/' || c == '?' || c == '#'

/-- Whether a text starts with an authority, and what follows it. -/
def readAuthority (cs : List Char) : Except TargetFault (List Char) := do
  let state ← (cs.takeWhile (!endsAuthority ·)).foldlM AuthorityState.step .start
  if state.mayEnd then .ok (cs.dropWhile (!endsAuthority ·)) else .error .invalidAuthority

/-- Whether the characters of a path and a query are allowed; a fragment is not looked at. -/
def checkPath (cs : List Char) : Except TargetFault Unit :=
  let cs := cs.takeWhile (· != '#')
  let path := cs.takeWhile (· != '?')
  let query := (cs.dropWhile (· != '?')).drop 1
  if path.all isPathCharacter && query.all isQueryCharacter then .ok ()
  else .error .invalidCharacter

/-- A text as a target. -/
def read (text : String) : Except TargetFault Target := do
  let cs := text.toList
  if lengthLimit < text.utf8ByteSize then .error .tooLong
  match ← afterScheme cs with
  | none =>
    match ← readAuthority cs with
    | [] => .ok .bare
    | _ => .error .invalidFormat
  | some rest =>
    if rest.isEmpty then .error .empty
    let after ← readAuthority rest
    if after.length == rest.length then .error .invalidFormat
    checkPath after
    .ok .absolute

end Target

/-! ### The wire -/

/-- Why a request has no form on the wire. -/
inductive WireFault where
  | target (fault : TargetFault)
  | headerName
  | headerValue
deriving DecidableEq, Repr

/-- The wording of a fault. -/
def WireFault.message : WireFault → String
  | .target fault => fault.message
  | .headerName => "invalid HTTP header name"
  | .headerValue => "failed to parse header value"

/-- A request on the wire. -/
structure WireRequest where
  method : Method
  target : Target
  text : String
  headers : List (String × String)
  body : List UInt8
deriving DecidableEq, Repr

/-- Characters of a header's name. -/
def isHeaderNameCharacter (c : Char) : Bool :=
  c.isAlphanum || "!#$%&'*+-.^_\x60|~".toList.contains c

/-- The greatest length of a header's name. -/
def headerNameLimit : Nat := 65535

/-- Whether a text can be the name of a header. -/
def isHeaderName (name : String) : Bool :=
  !name.isEmpty && name.utf8ByteSize ≤ headerNameLimit && name.toList.all isHeaderNameCharacter

/-- Whether a text can be the value of a header: it has no control characters but tabs. -/
def isHeaderValue (value : String) : Bool :=
  value.toList.all fun c => c == '\t' || !Ascii.isControl c

/-- Looks for the first header that cannot be sent. -/
def checkHeaders : List (String × String) → Except WireFault Unit
  | [] => .ok ()
  | (name, value) :: rest =>
    if !isHeaderName name then .error .headerName
    else if !isHeaderValue value then .error .headerValue
    else checkHeaders rest

/-- A request on the wire. -/
def wireRequest (r : Request) : Except WireFault WireRequest :=
  match Target.read r.url.write with
  | .error fault => .error (.target fault)
  | .ok target => do
    checkHeaders r.headers
    .ok ⟨r.method, target, r.url.write, r.headers, r.body.getD []⟩

/-- The pool and the form in which a request is sent, for a client that may have a policy. -/
def admission (policy : Option PinningPolicy) (r : Request) : Outcome (Pool × WireRequest) := do
  let pool ← selectPool policy r
  match wireRequest r with
  | .ok wire => .ok (pool, wire)
  | .error fault => .error (.invalidRequest fault.message)

end Waybill
