import Waybill.Url

/-!
# Query pairs

A query is written and read as `application/x-www-form-urlencoded`: pairs `key=value` joined by `&`,
with letters, digits and `*-._` as they are, spaces as `+`, and every other byte as `%` and two
digits. Form bodies have the same syntax.

Writing is defined pair by pair. Reading undoes it: it cuts at `&`, skips empty pieces, cuts each
piece at its first `=`, and undoes the escapes.

## Main definitions

* `Waybill.Query.Pair`, `Waybill.Query.writePair`, `Waybill.Query.writePairs`.
* `Waybill.Query.readPairs` — the pairs that a query stands for.
* `Waybill.Url.appendPairs` — a URL with pairs added at the end of its query.
-/

namespace Waybill.Query

/-- A key and a value. -/
abbrev Pair := String × String

/-- Bytes that stand for themselves. -/
def isKept (b : UInt8) : Bool :=
  let c := Char.ofNat b.toNat
  (b < 0x80 && c.isAlphanum) || c == '*' || c == '-' || c == '.' || c == '_'

/-- A byte of a key or a value. -/
def writeByte (b : UInt8) : List Char :=
  if b == 0x20 then ['+'] else if isKept b then [Char.ofNat b.toNat] else Percent.triplet b

/-- A key or a value. -/
def writePart (s : String) : List Char := (Utf8.bytes s).flatMap writeByte

/-- A pair. -/
def writePair (p : Pair) : List Char := writePart p.1 ++ '=' :: writePart p.2

/-- Pairs joined by `&`. -/
def writePairs (ps : List Pair) : String := String.ofList (['&'].intercalate (ps.map writePair))

/-- A key or a value as it is read: `+` is a space, escapes are undone, and bytes that are no UTF-8
are replaced. -/
def readPart (cs : List Char) : String :=
  let bytes := Percent.decode ((Utf8.encode cs).map fun b => if b == 0x2B then 0x20 else b)
  String.ofList (Utf8.lossy bytes)

/-- One piece of a query, cut at its first `=`. -/
def readPair (cs : List Char) : Pair :=
  (readPart (cs.takeWhile (· != '=')), readPart ((cs.dropWhile (· != '=')).drop 1))

/-- The pairs that a query stands for. -/
def readPairs (query : String) : List Pair :=
  ((query.toList.splitOn '&').filter (!·.isEmpty)).map readPair

end Waybill.Query

namespace Waybill.Url

/-- The pairs in the query of a URL. -/
def pairs (u : Url) : List Query.Pair := (u.query.map Query.readPairs).getD []

/-- A query with a pair added at its end; an empty query needs no `&`. -/
def extendQuery (query : String) (p : Query.Pair) : String :=
  (if query.isEmpty then "" else query ++ "&") ++ String.ofList (Query.writePair p)

/-- The URL with pairs added at the end of its query. Without pairs it stays as it is, and gets no
query if it has none. -/
def appendPairs (u : Url) (ps : List Query.Pair) : Url :=
  if ps.isEmpty then u else { u with query := some (ps.foldl extendQuery (u.query.getD "")) }

@[simp] theorem appendPairs_nil (u : Url) : u.appendPairs [] = u := rfl

end Waybill.Url
