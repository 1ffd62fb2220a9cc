import Waybill.Datum

/-!
# JSON values

A JSON value is kept with the entries of its objects sorted by key, each key once. Numbers are
integers where they have neither a point nor an exponent and fit 64 bits, else floating-point
numbers.

## Main definitions

* `Waybill.Json`, `Waybill.Json.Number` — values and numbers.
* `Waybill.Json.insert`, `Waybill.Json.member?` — sorted entries.
* `Waybill.Json.datum` — a value as a datum.
-/

namespace Waybill

/-- A number of a JSON text. -/
inductive Json.Number where
  | integer (value : Int)
  | floating (value : Binary)
deriving DecidableEq, Repr

/-- A JSON value. -/
inductive Json where
  | null
  | boolean (value : Bool)
  | number (value : Json.Number)
  | text (value : String)
  | array (items : List Json)
  | object (members : List (String × Json))
deriving Repr

namespace Json

/-- The entries with a value under a key, at its place in the order. -/
def insert {α : Type} (key : String) (value : α) : List (String × α) → List (String × α)
  | [] => [(key, value)]
  | (k, v) :: rest =>
    if key < k then (key, value) :: (k, v) :: rest
    else if key = k then (key, value) :: rest
    else (k, v) :: insert key value rest

/-- The entries written one after the other into a sorted list; the last of a key stays. -/
def sorted {α : Type} (entries : List (String × α)) : List (String × α) :=
  entries.foldl (fun acc (k, v) => insert k v acc) []

/-- The value under a key. -/
def member? {α : Type} (key : String) (members : List (String × α)) : Option α :=
  (members.find? (·.1 == key)).map (·.2)

/-- A number as a datum. -/
def Number.datum : Number → Datum
  | integer i => .integer i
  | floating x => .double x

mutual

/-- A value as a datum. -/
def datum : Json → Datum
  | null => .unit
  | boolean b => .boolean b
  | number n => n.datum
  | text s => .text s
  | array items => .list (datumItems items)
  | object members => .map (datumMembers members)

/-- Items as data. -/
def datumItems : List Json → List Datum
  | [] => []
  | j :: rest => datum j :: datumItems rest

/-- Entries as data. -/
def datumMembers : List (String × Json) → List (Datum × Datum)
  | [] => []
  | (k, j) :: rest => (.text k, datum j) :: datumMembers rest

end

end Json

end Waybill
