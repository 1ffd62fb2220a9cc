import Waybill.Percent
import Waybill.Url.Address
import Waybill.Url.Domain

/-!
# Hosts

The host of a URL is a name or an address. In the schemes of the web a name is a domain: its percent
escapes are undone, it is turned into ASCII, and a name that ends in a number is an IPv4 address. In
other schemes a name is kept as it is, with controls and characters beyond ASCII escaped.

## Main definitions

* `Waybill.Host`, `Waybill.Host.write`.
* `Waybill.Host.ofDomain` — the host of a URL in a scheme of the web.
* `Waybill.Host.ofName` — the host of a URL in any other scheme.
-/

namespace Waybill

/-- The host of a URL. -/
inductive Host where
  | name (text : String)
  | ipv4 (address : Nat)
  | ipv6 (pieces : List Nat)
deriving DecidableEq, Repr

namespace Host

/-- A host as it stands in a URL. -/
def write : Host → String
  | name text => text
  | ipv4 address => Address.writeIpv4 address
  | ipv6 pieces => "[" ++ Address.writeIpv6 pieces ++ "]"

/-- The host that is written as nothing. -/
def empty : Host := name ""

/-- ASCII characters that no other host name holds. -/
def isForbiddenName (c : Char) : Bool :=
  "\x00\t\n\r #/:<>?@[\\]^|".toList.contains c

/-- The text inside brackets, if the text starts with one; `none` inside if it is not closed. -/
def bracketed? (cs : List Char) : Option (Option (List Char)) :=
  match cs with
  | '[' :: rest =>
    match rest.getLast? with
    | some ']' => some (some rest.dropLast)
    | _ => some none
  | _ => none

/-- An address in brackets. -/
def ofBracketed : Option (List Char) → Except UrlError Host
  | none => .error .invalidIpv6
  | some inside => (Address.readIpv6 inside).map ipv6

/-- The host of a URL in a scheme of the web. -/
def ofDomain (cs : List Char) : Except UrlError Host :=
  match bracketed? cs with
  | some inside => ofBracketed inside
  | none =>
    match (Utf8.decode (Percent.decode (Utf8.encode cs))).toOption.bind Domain.toAscii? with
    | none => .error .invalidDomain
    | some domain =>
      if domain.isEmpty then .error .emptyHost
      else if Address.endsInNumber domain then (Address.readIpv4 domain).map ipv4
      else .ok (name (String.ofList domain))

/-- The host of a URL in any other scheme. -/
def ofName (cs : List Char) : Except UrlError Host :=
  match bracketed? cs with
  | some inside => ofBracketed inside
  | none =>
    if cs.any isForbiddenName then .error .invalidHostCharacter
    else .ok (name (String.ofList (Percent.encode Ascii.isControl cs)))

end Host

end Waybill
