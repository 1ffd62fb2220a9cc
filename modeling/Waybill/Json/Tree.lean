import Waybill.Json.Fault
import Waybill.Json.Value

/-!
# Located JSON

A JSON text is read into a tree that remembers where its parts are and where the text is broken.
Reading never fails: what is broken becomes a leaf or an ending of the tree, and whoever walks the
tree in order meets it in its place. In this way one walk decides which of two errors comes first,
the shape of a value or the syntax of what follows it.

A part that nobody looks at need not be well formed in every respect: a number may be out of range
and an escape may be half of a pair. Numbers and texts therefore carry two results, one for those
who want the value and one for those who only pass over it.

## Main definitions

* `Waybill.Json.Tree`, `Waybill.Json.Key`, `Waybill.Json.Ending`.
* `Waybill.Json.Tree.start` — where a part starts.
-/

namespace Waybill.Json

/-- A scalar that starts somewhere: its value, and the number of bytes up to its end for those who
pass over it. -/
structure Leaf (α : Type) where
  start : Nat
  value : Except Fault α
  passed : Except Fault Nat

/-- The key of an entry, and the number of bytes up to what follows it. -/
structure Key where
  name : Leaf String
  follow : Nat

/-- How an array or an object ends. -/
inductive Ending where
  /-- At its bracket, after the given number of bytes. -/
  | closed (stop : Nat)
  /-- In a fault between its parts. -/
  | broken (fault : Fault)
  /-- In a fault after a key, before its value. -/
  | bare (key : Key) (fault : Fault)

/-- A located JSON value, as far as the text goes. -/
inductive Tree where
  | null (start stop : Nat)
  | boolean (start stop : Nat) (value : Bool)
  | number (leaf : Leaf Number)
  | text (leaf : Leaf String)
  | array (start : Nat) (items : List Tree) (ending : Ending)
  | object (start : Nat) (members : List (Key × Tree)) (ending : Ending)
  | broken (start : Nat) (fault : Fault)

/-- Where a part starts, after the blanks before it. -/
def Tree.start : Tree → Nat
  | null start _ => start
  | boolean start _ _ => start
  | number leaf => leaf.start
  | text leaf => leaf.start
  | array start _ _ => start
  | object start _ _ => start
  | broken start _ => start

end Waybill.Json
