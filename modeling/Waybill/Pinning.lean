import Waybill.Digest
import Waybill.Failure
import Waybill.Text.Base64
import Waybill.Url

/-!
# Certificate pinning

A policy lists the digests of the certificates that a server may present. In one mode the server's
own certificate must be among them, in the other any certificate of the presented chain. URLs may be
exempt: an exclusion is a text with which the URL starts.

## Main definitions

* `Waybill.PinningMode`, `Waybill.PinningPolicy`.
* `Waybill.PinningPolicy.ofTexts` — a policy from digests written as base64.
* `Waybill.PinningPolicy.fingerprint` — the text of a certificate's digest.
* `Waybill.PinningPolicy.admits` — whether a chain satisfies a policy.
* `Waybill.Pool` — the connections that a request may go through.
* `Waybill.isExcluded` — whether a URL is exempt.
-/

namespace Waybill

/-- Which certificates of the presented chain a pin may be about. -/
inductive PinningMode where
  /-- The server's own certificate. -/
  | certificate
  /-- Any certificate of the chain. -/
  | authority
deriving DecidableEq, Repr

/-- The name of a mode. -/
def PinningMode.name : PinningMode → String
  | .certificate => "Certificate"
  | .authority => "CertificateAuthority"

/-- Digests of certificates, and which certificates they may be about. -/
structure PinningPolicy where
  mode : PinningMode
  digests : List (List UInt8)
deriving DecidableEq, Repr

/-- Why there is no such policy. -/
inductive PinningError where
  | invalidFingerprint (text : String)
  | noFingerprint
deriving DecidableEq, Repr

/-- The wording of an error. -/
def PinningError.message : PinningError → String
  | .invalidFingerprint text => "invalid SHA-256 fingerprint: " ++ text
  | .noFingerprint => "pinning policy needs at least one fingerprint"

namespace PinningPolicy

/-- The number of bytes of a digest. -/
def digestLength : Nat := 32

/-- The digest that a text stands for. -/
def readFingerprint (text : String) : Except PinningError (List UInt8) :=
  match Base64.decode? text with
  | some digest =>
    if digest.length == digestLength then .ok digest else .error (.invalidFingerprint text)
  | none => .error (.invalidFingerprint text)

/-- The digests that texts stand for, or the first text that stands for none. -/
def readFingerprints : List String → Except PinningError (List (List UInt8))
  | [] => .ok []
  | text :: rest => do
    let digest ← readFingerprint text
    let digests ← readFingerprints rest
    .ok (digest :: digests)

/-- A policy from digests written as base64. -/
def ofTexts (mode : PinningMode) (texts : List String) : Except PinningError PinningPolicy := do
  match ← readFingerprints texts with
  | [] => .error .noFingerprint
  | digests => .ok ⟨mode, digests⟩

/-- The text of a certificate's digest. -/
def fingerprint (certificate : List UInt8) : String := Base64.encode (Digest.sha256 certificate)

/-- Whether a certificate is pinned. -/
def isPinned (policy : PinningPolicy) (certificate : List UInt8) : Bool :=
  policy.digests.contains (Digest.sha256 certificate)

/-- Whether a chain satisfies the policy: the server's own certificate, and those it rests on. -/
def admits (policy : PinningPolicy) (own : List UInt8) (others : List (List UInt8)) : Bool :=
  match policy.mode with
  | .certificate => policy.isPinned own
  | .authority => policy.isPinned own || others.any policy.isPinned

end PinningPolicy

/-- A pool of connections. -/
inductive Pool where
  /-- Connections to servers with any trusted certificate. -/
  | plain
  /-- Connections to servers whose certificates a policy admits. -/
  | pinned (policy : PinningPolicy)
deriving DecidableEq, Repr

/-- A policy that cannot be had makes a request invalid. -/
def Failure.ofPinningError (e : PinningError) : Failure := .invalidRequest e.message

/-- Whether the text of a URL starts with one of the exclusions. -/
def isExcluded (u : Url) (exclusions : List String) : Bool :=
  exclusions.any fun start => start.toList.isPrefixOf u.write.toList

end Waybill
