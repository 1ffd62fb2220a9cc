import Waybill.Json.Scalar

/-!
# Reading JSON

A body is read into a located tree. The three readers for values, items and members call each other
with decreasing fuel; every call takes at least one byte, so that twice the length of the body is
enough.

## Main definitions

* `Waybill.Json.readValue`, `Waybill.Json.readItems`, `Waybill.Json.readMembers`.
* `Waybill.Json.Tree.parse` — a body as a tree, and the bytes after it.
-/

namespace Waybill.Json

/-- The cursor after the letters of a word, or the first fault among them. -/
def readWord (c : Cursor) : List UInt8 → Except Fault Cursor
  | [] => .ok c
  | letter :: letters =>
    match c.rest with
    | [] => .error ⟨.endInValue, c.offset⟩
    | b :: _ =>
      if b == letter then readWord (c.advance 1) letters
      else .error ⟨.expectedWord, c.offset + 1⟩

/-- A word that is a value. -/
def wordValue (start : Cursor) (letters : List UInt8) (tree : Nat → Tree) :
    Tree × Option Cursor :=
  match readWord (start.advance 1) letters with
  | .ok after => (tree after.offset, some after)
  | .error fault => (.broken start.offset fault, none)

/-- What follows a value or a member inside brackets. -/
inductive Follow where
  /-- Another one, at the cursor. -/
  | another (c : Cursor)
  /-- The closing bracket, with the cursor after it. -/
  | closed (c : Cursor)
  | broken (fault : Fault)

/-- What follows inside an array. -/
def followItem (first : Bool) (c : Cursor) : Follow :=
  let c := c.skipBlanks
  match c.rest with
  | [] => .broken (c.fault .endInArray)
  | b :: _ =>
    if b == 0x5D then .closed (c.advance 1)
    else if first then .another c
    else if b == 0x2C then
      let c := (c.advance 1).skipBlanks
      match c.rest with
      | [] => .broken (c.fault .endInValue)
      | 0x5D :: _ => .broken (c.fault .trailingComma)
      | _ => .another c
    else .broken (c.fault .expectedCommaOrBracket)

/-- What follows inside an object: another member starts with a quote. -/
def followMember (first : Bool) (c : Cursor) : Follow :=
  let c := c.skipBlanks
  match c.rest with
  | [] => .broken (c.fault .endInObject)
  | b :: _ =>
    if b == 0x7D then .closed (c.advance 1)
    else if first then
      if b == 0x22 then .another c else .broken (c.fault .keyNotText)
    else if b == 0x2C then
      let c := (c.advance 1).skipBlanks
      match c.rest with
      | [] => .broken (c.fault .endInValue)
      | 0x22 :: _ => .another c
      | 0x7D :: _ => .broken (c.fault .trailingComma)
      | _ => .broken (c.fault .keyNotText)
    else .broken (c.fault .expectedCommaOrBrace)

/-- The cursor after the colon that follows a key. -/
def readColon (c : Cursor) : Except Fault Cursor :=
  let c := c.skipBlanks
  match c.rest with
  | 0x3A :: _ => .ok (c.advance 1)
  | [] => .error (c.fault .endInObject)
  | _ => .error (c.fault .expectedColon)

/-- The place where a problem with a key is reported: after the blanks that follow it, and after a
brace there. -/
def followOf (c : Cursor) : Nat :=
  let c := c.skipBlanks
  match c.rest with
  | 0x7D :: _ => c.offset + 1
  | _ => c.offset

mutual

/-- The value at a cursor, and the cursor after it unless the text is broken there. -/
def readValue : Nat → Cursor → Tree × Option Cursor
  | 0, c => (.broken c.offset (c.fault .endInValue), none)
  | fuel + 1, c =>
    let c := c.skipBlanks
    match c.rest with
    | [] => (.broken c.offset (c.fault .endInValue), none)
    | b :: _ =>
      if b == 0x6E then wordValue c [0x75, 0x6C, 0x6C] (.null c.offset ·)
      else if b == 0x74 then wordValue c [0x72, 0x75, 0x65] (.boolean c.offset · true)
      else if b == 0x66 then wordValue c [0x61, 0x6C, 0x73, 0x65] (.boolean c.offset · false)
      else if b == 0x22 then
        let (leaf, after) := readText c
        (.text leaf, after)
      else if b == 0x2D || isDigit b then
        let (leaf, after) := readNumber c
        (.number leaf, after)
      else if b == 0x5B then
        let (items, ending, after) := readItems fuel true (c.advance 1)
        (.array c.offset items ending, after)
      else if b == 0x7B then
        let (members, ending, after) := readMembers fuel true (c.advance 1)
        (.object c.offset members ending, after)
      else (.broken c.offset (c.fault .expectedValue), none)

/-- The items of an array from a cursor on. -/
def readItems : Nat → Bool → Cursor → List Tree × Ending × Option Cursor
  | 0, _, c => ([], .broken (c.fault .endInArray), none)
  | fuel + 1, first, c =>
    match followItem first c with
    | .broken fault => ([], .broken fault, none)
    | .closed after => ([], .closed after.offset, some after)
    | .another c =>
      match readValue fuel c with
      | (tree, none) => ([tree], .broken ⟨.endInArray, c.offset⟩, none)
      | (tree, some after) =>
        let (items, ending, last) := readItems fuel false after
        (tree :: items, ending, last)

/-- The members of an object from a cursor on. -/
def readMembers : Nat → Bool → Cursor → List (Key × Tree) × Ending × Option Cursor
  | 0, _, c => ([], .broken (c.fault .endInObject), none)
  | fuel + 1, first, c =>
    match followMember first c with
    | .broken fault => ([], .broken fault, none)
    | .closed after => ([], .closed after.offset, some after)
    | .another c =>
      match readText c with
      | (leaf, none) => ([], .bare ⟨leaf, c.offset⟩ ⟨.endInText, c.offset⟩, none)
      | (leaf, some after) =>
        let key : Key := ⟨leaf, followOf after⟩
        match readColon after with
        | .error fault => ([], .bare key fault, none)
        | .ok c =>
          match readValue fuel c with
          | (tree, none) => ([(key, tree)], .broken ⟨.endInObject, c.offset⟩, none)
          | (tree, some after) =>
            let (members, ending, last) := readMembers fuel false after
            ((key, tree) :: members, ending, last)

end

/-- A body as a tree, and the cursor after it unless the text is broken. -/
def Tree.parse (body : List UInt8) : Tree × Option Cursor :=
  readValue (2 * body.length + 2) ⟨0, body⟩

end Waybill.Json
