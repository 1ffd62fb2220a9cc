import Waybill.Text.Ascii
import Waybill.Text.Quoted
import Waybill.Url.Error

/-!
# Numeric hosts

A host name that ends in a number is an IPv4 address: up to four parts in decimal, octal or
hexadecimal notation, of which the last fills all bytes that the others leave. A host in brackets is
an IPv6 address of eight 16-bit pieces, in which `::` stands for one or more zeros and the last two
pieces may be written as an IPv4 address.

## Main definitions

* `Waybill.Address.endsInNumber`, `Waybill.Address.readIpv4`, `Waybill.Address.writeIpv4`.
* `Waybill.Address.readIpv6`, `Waybill.Address.writeIpv6`.
-/

namespace Waybill.Address

/-- The number that digits of a base denote, if all of them are digits of it. -/
def number? (base : Nat) (cs : List Char) : Option Nat :=
  cs.foldlM (fun n c => do
    let d ← Ascii.hexValue? c
    if d < base then some (n * base + d) else none) 0

/-! ### IPv4 -/

/-- A part of an IPv4 address: `0x` marks base sixteen, another leading zero base eight. A marker
alone is zero. -/
def part? (cs : List Char) : Option Nat :=
  match cs with
  | [] => none
  | '0' :: 'x' :: ds => number? 16 ds
  | '0' :: 'X' :: ds => number? 16 ds
  | ['0'] => some 0
  | '0' :: ds => number? 8 ds
  | ds => number? 10 ds

/-- The parts of a name between its dots, without an empty last one. -/
def parts (cs : List Char) : List (List Char) :=
  let ps := cs.splitOn '.'
  match ps.getLast? with
  | some [] => ps.dropLast
  | _ => ps

/-- Whether a name is to be read as an IPv4 address: its last part, a final dot aside, is a
number. -/
def endsInNumber (cs : List Char) : Bool :=
  match (parts cs).getLast? with
  | none => false
  | some last => (!last.isEmpty && last.all Char.isDigit) || (part? last).isSome

/-- The address of parts: all but the last are bytes, and the last fills the rest. -/
def assemble? (ns : List Nat) : Option Nat :=
  match ns.getLast? with
  | none => none
  | some last =>
    let leading := ns.dropLast
    if 4 < ns.length || leading.any (255 < ·) || Nat.pow 256 (4 - leading.length) ≤ last then none
    else some ((leading.zipIdx.foldl (fun acc (n, i) => acc + n * Nat.pow 256 (3 - i)) 0) + last)

/-- A name as an IPv4 address. -/
def readIpv4 (cs : List Char) : Except UrlError Nat :=
  match ((parts cs).mapM part?).bind assemble? with
  | some address => .ok address
  | none => .error .invalidIpv4

/-- An IPv4 address as four decimal numbers. -/
def writeIpv4 (address : Nat) : String :=
  ".".intercalate ([3, 2, 1, 0].map fun i => toString (address / Nat.pow 256 i % 256))

/-! ### IPv6 -/

/-- A decimal number of an IPv4 address inside an IPv6 address: at most 255, without leading
zeros. -/
def byte? (cs : List Char) : Option Nat :=
  match cs with
  | [] => none
  | ['0'] => some 0
  | '0' :: _ => none
  | ds => if ds.length ≤ 3 && ds.all Char.isDigit then (number? 10 ds).filter (· ≤ 255) else none

/-- The two pieces that a dotted IPv4 address fills. -/
def embedded? (cs : List Char) : Option (List Nat) :=
  match (cs.splitOn '.').mapM byte? with
  | some [a, b, c, d] => some [256 * a + b, 256 * c + d]
  | _ => none

/-- A piece of one to four digits of base sixteen. -/
def piece? (cs : List Char) : Option Nat :=
  if cs.isEmpty || 4 < cs.length then none else number? 16 cs

/-- Pieces between colons; the last may be a dotted IPv4 address where `dotted` says so. -/
def pieces? (dotted : Bool) : List (List Char) → Option (List Nat)
  | [] => some []
  | [last] => (piece? last).map ([·]) <|> (if dotted then embedded? last else none)
  | p :: rest => do
    let n ← piece? p
    let ns ← pieces? dotted rest
    some (n :: ns)

/-- The text before and after the first `::`. -/
def splitAtGap? : List Char → Option (List Char × List Char)
  | [] => none
  | ':' :: ':' :: rest => some ([], rest)
  | c :: rest => (splitAtGap? rest).map fun (before, after) => (c :: before, after)

/-- The pieces of a text without `::`; the empty text has none. -/
def colonPieces? (dotted : Bool) (cs : List Char) : Option (List Nat) :=
  if cs.isEmpty then some [] else pieces? dotted (cs.splitOn ':')

/-- A text as the eight pieces of an IPv6 address. -/
def readIpv6 (cs : List Char) : Except UrlError (List Nat) :=
  let found := match splitAtGap? cs with
    | none => (colonPieces? true cs).filter (·.length == 8)
    | some (before, after) => do
      let left ← colonPieces? false before
      let right ← colonPieces? true after
      let missing := 8 - (left.length + right.length)
      if missing == 0 then none else some (left ++ List.replicate missing 0 ++ right)
  match found with
  | some pieces => .ok pieces
  | none => .error .invalidIpv6

/-- The start and length of the longest run of zeros, the first of several. -/
def longestGap (pieces : List Nat) : Nat × Nat :=
  let runs := (List.range pieces.length).map fun i =>
    (i, ((pieces.drop i).takeWhile (· == 0)).length)
  runs.foldl (fun best run => if best.2 < run.2 then run else best) (0, 0)

/-- An IPv6 address with its longest run of at least two zero pieces shortened to `::`. -/
def writeIpv6 (pieces : List Nat) : String :=
  let hex (ns : List Nat) := ":".intercalate (ns.map hexDigits)
  let (start, length) := longestGap pieces
  if length < 2 then hex pieces
  else hex (pieces.take start) ++ "::" ++ hex (pieces.drop (start + length))

end Waybill.Address
