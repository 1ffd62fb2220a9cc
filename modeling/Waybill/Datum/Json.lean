import Waybill.Datum
import Waybill.Datum.EncodeError
import Waybill.Text.Quoted

/-!
# Data as JSON

A datum is written as compact JSON. Sequences and tuples are arrays, maps and records are objects
with their entries in the given order, an alternative is its name or an object of one entry, and
what is absent is `null`. Numbers that are not finite have no JSON text and are `null` as well.

The keys of an object are texts. Scalars that are not texts are written inside quotes; other values
are refused as keys.

## Main definitions

* `Waybill.Json.quote` — a JSON string.
* `Waybill.Json.doubleStyle`, `Waybill.Json.singleStyle` — how JSON writes numbers with a point.
* `Waybill.Datum.json` — a datum as JSON.
-/

namespace Waybill

namespace Json

/-- Numbers of 64 bits are positional from `1e-5` up to below `1e16`. -/
def doubleStyle : Decimal.Style := ⟨-5, 16, true⟩

/-- Numbers of 32 bits are positional from `1e-6` up to below `1e13`. -/
def singleStyle : Decimal.Style := ⟨-6, 13, true⟩

/-- A hexadecimal digit of a control character. -/
def controlDigit (n : Nat) : Char := if n < 10 then Char.ofNat (48 + n) else Char.ofNat (87 + n)

/-- A character inside a JSON string. -/
def quoteChar (c : Char) : List Char :=
  if c == '"' then ['\\', '"']
  else if c == '\\' then ['\\', '\\']
  else if c == '\x08' then ['\\', 'b']
  else if c == '\x0C' then ['\\', 'f']
  else if c == '\n' then ['\\', 'n']
  else if c == '\r' then ['\\', 'r']
  else if c == '\t' then ['\\', 't']
  else if c.toNat < 0x20 then
    ['\\', 'u', '0', '0', controlDigit (c.toNat / 16), controlDigit (c.toNat % 16)]
  else [c]

/-- A JSON string. -/
def quote (s : String) : String := "\"" ++ String.ofList (s.toList.flatMap quoteChar) ++ "\""

/-- A number with a point, or `null` for what is not finite. -/
def writeNumber (f : Binary.Format) (style : Decimal.Style) (x : Binary) : String :=
  (Decimal.write? f style x).getD "null"

/-- Texts in brackets, separated by commas. -/
def writeArray (items : List String) : String := "[" ++ ",".intercalate items ++ "]"

/-- Entries in braces, separated by commas. -/
def writeObject (entries : List (String × String)) : String :=
  "\x7b" ++ ",".intercalate (entries.map fun (k, v) => k ++ ":" ++ v) ++ "\x7d"

/-- The text of a float used as a key. -/
def numberKey (f : Binary.Format) (style : Decimal.Style) (x : Binary) :
    Except EncodeError String :=
  match Decimal.write? f style x with
  | some s => .ok (quote s)
  | none => .error .keyNotFinite

end Json

namespace Datum

/-- The key of an object. -/
def jsonKey : Datum → Except EncodeError String
  | text s => .ok (Json.quote s)
  | character c => .ok (Json.quote c.toString)
  | boolean b => .ok (Json.quote (ofBool b))
  | integer i => .ok (Json.quote (toString i))
  | wide i => .ok (Json.quote (toString i))
  | double x => Json.numberKey .double Json.doubleStyle x
  | single x => Json.numberKey .single Json.singleStyle x
  | variant name => .ok (Json.quote name)
  | present d => jsonKey d
  | _ => .error .keyNotText

mutual

/-- A datum as JSON. -/
def json : Datum → Except EncodeError String
  | absent => .ok "null"
  | unit => .ok "null"
  | boolean b => .ok (ofBool b)
  | integer i => .ok (toString i)
  | wide i => .ok (toString i)
  | double x => .ok (Json.writeNumber .double Json.doubleStyle x)
  | single x => .ok (Json.writeNumber .single Json.singleStyle x)
  | character c => .ok (Json.quote c.toString)
  | text s => .ok (Json.quote s)
  | bytes bs => .ok (Json.writeArray (bs.map fun b => toString b.toNat))
  | present d => json d
  | list ds => (jsonItems ds).map Json.writeArray
  | tuple ds => (jsonItems ds).map Json.writeArray
  | map entries => (jsonEntries entries).map Json.writeObject
  | record fields => (jsonFields fields).map Json.writeObject
  | variant name => .ok (Json.quote name)
  | tagged name d => do .ok (Json.writeObject [(Json.quote name, ← json d)])

/-- The items of an array. -/
def jsonItems : List Datum → Except EncodeError (List String)
  | [] => .ok []
  | d :: ds => do
    let item ← json d
    let items ← jsonItems ds
    .ok (item :: items)

/-- The entries of an object. -/
def jsonEntries : List (Datum × Datum) → Except EncodeError (List (String × String))
  | [] => .ok []
  | (k, d) :: rest => do
    let key ← jsonKey k
    let value ← json d
    let entries ← jsonEntries rest
    .ok ((key, value) :: entries)

/-- The fields of an object. -/
def jsonFields : List (String × Datum) → Except EncodeError (List (String × String))
  | [] => .ok []
  | (name, d) :: rest => do
    let value ← json d
    let fields ← jsonFields rest
    .ok ((Json.quote name, value) :: fields)

end

end Datum

end Waybill
