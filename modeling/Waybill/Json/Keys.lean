import Waybill.Json.Value
import Waybill.Text.LetterCase

/-!
# Rewriting keys

Keys made of words joined by underscores are rewritten to capitalised words: each underscore is
dropped and the character after it is capitalised. An underscore at the very start of a key stays.

Rewriting an object writes its entries in the order of their keys, so that of several keys with one
image the greatest wins.

## Main definitions

* `Waybill.Json.camelKey` — a key rewritten.
* `Waybill.Json.camelKeys` — a value with all its keys rewritten.
-/

namespace Waybill.Json

/-- The characters of a key after its first, rewritten; `raised` says whether an underscore was just
dropped. -/
def camelTail : Bool → List Char → List Char
  | _, [] => []
  | raised, c :: rest =>
    if c == '_' then camelTail true rest
    else if raised then capitals c ++ camelTail false rest
    else c :: camelTail false rest

/-- The characters of a key, rewritten. -/
def camelChars : List Char → List Char
  | [] => []
  | c :: rest => c :: camelTail false rest

/-- A key rewritten. -/
def camelKey (key : String) : String := String.ofList (camelChars key.toList)

mutual

/-- A value with all its keys rewritten. -/
def camelKeys : Json → Json
  | array items => .array (camelItems items)
  | object members => .object (sorted (camelMembers members))
  | null => .null
  | boolean b => .boolean b
  | number n => .number n
  | text s => .text s

/-- Items with all their keys rewritten. -/
def camelItems : List Json → List Json
  | [] => []
  | j :: rest => camelKeys j :: camelItems rest

/-- Entries with all their keys rewritten, in the order in which they are written. -/
def camelMembers : List (String × Json) → List (String × Json)
  | [] => []
  | (k, j) :: rest => (camelKey k, camelKeys j) :: camelMembers rest

end

end Waybill.Json
