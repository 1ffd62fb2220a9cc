import Waybill.Json.Parse
import Waybill.Json.Keys
import Waybill.Json.Schema
import Waybill.Datum.Json

/-!
# Decoding JSON

A body is decoded by walking its located tree along a schema. The walk goes in the order of the
text, so the first thing that is wrong with it decides the error, be it the shape of a value or the
syntax. An error carries the path to the value it is about.

Under `KeyStrategy.asIs` the walk starts at the body, and what follows the first value is not looked
at. Under `KeyStrategy.fromSnakeCase` the whole body must be one JSON value; its keys are rewritten
and the walk goes over the rewritten value, whose parts have no place in the text any more.

## Main definitions

* `Waybill.Json.Problem`, `Waybill.Json.Failure` — errors and their paths.
* `Waybill.Json.Tree.json` — the value of a tree.
* `Waybill.Schema.decoder` — the walk along a schema.
* `Waybill.Json.parse` — a body as one value.
* `Waybill.KeyStrategy.decode`, `Waybill.KeyStrategy.decodeOptional`.
-/

namespace Waybill

namespace Json

/-! ### Errors -/

/-- A step from a value to one of its parts. -/
inductive Step where
  | index (i : Nat)
  | key (name : String)
  /-- A part whose key could not be read. -/
  | unknown
deriving DecidableEq, Repr

/-- The wording of a path: keys are joined by points, and the empty path is one point. -/
def pathText (path : List Step) : String :=
  let write (first : Bool) : Step → String
    | .index i => s!"[{i}]"
    | .key name => (if first then "" else ".") ++ name
    | .unknown => if first then "?" else ".?"
  match path with
  | [] => "."
  | step :: rest => write true step ++ String.join (rest.map (write false))

/-- What was found in the place of something else. -/
inductive Found where
  | unit
  | boolean (value : Bool)
  | number (value : Number)
  | text (value : String)
  | sequence
  | map
deriving DecidableEq, Repr

/-- The wording of what was found. -/
def Found.message : Found → String
  | .unit => "null"
  | .boolean b => s!"boolean `{Datum.ofBool b}`"
  | .number (.integer i) => s!"integer `{i}`"
  | .number (.floating x) => s!"floating point `{writeNumber .double doubleStyle x}`"
  | .text s => "string " ++ Quoted.text s
  | .sequence => "sequence"
  | .map => "map"

/-- Why a value does not decode. -/
inductive Problem where
  | text (cause : Cause)
  | invalidType (found : Found) (expected : String)
  | invalidValue (found : Found) (expected : String)
  | invalidLength (length : Nat) (expected : String)
  | missingField (name : String)
  | duplicateField (name : String)
  | unknownField (name : String) (known : List String)
deriving DecidableEq, Repr

/-- Alternatives in backticks. -/
def alternatives : List String → String
  | [a] => s!"`{a}`"
  | [a, b] => s!"`{a}` or `{b}`"
  | names => "one of " ++ ", ".intercalate (names.map fun n => s!"`{n}`")

/-- The wording of a problem. -/
def Problem.message : Problem → String
  | .text cause => cause.message
  | .invalidType found expected => s!"invalid type: {found.message}, expected {expected}"
  | .invalidValue found expected => s!"invalid value: {found.message}, expected {expected}"
  | .invalidLength length expected => s!"invalid length {length}, expected {expected}"
  | .missingField name => s!"missing field `{name}`"
  | .duplicateField name => s!"duplicate field `{name}`"
  | .unknownField name [] => s!"unknown field `{name}`, there are no fields"
  | .unknownField name known => s!"unknown field `{name}`, expected {alternatives known}"

/-- A problem, the path to the value it is about, and the number of bytes up to its place. -/
structure Failure where
  path : List Step
  problem : Problem
  offset : Option Nat
deriving DecidableEq, Repr

namespace Failure

/-- A fault of the text as a failure at the value at hand. -/
def ofFault (fault : Fault) : Failure := ⟨[], .text fault.cause, some fault.offset⟩

/-- A failure seen from the value around it. -/
def within (step : Step) (f : Failure) : Failure := { f with path := step :: f.path }

/-- A failure without its place. -/
def unplaced (f : Failure) : Failure := { f with offset := none }

/-- The wording of a failure, with the line and column of its place. -/
def message (body : List UInt8) (f : Failure) : String :=
  match f.offset with
  | none => f.problem.message
  | some offset =>
    let p := place body offset
    s!"{f.problem.message} at line {p.line} column {p.column}"

end Failure

/-- A result of decoding. -/
abbrev Decoded := Except Failure

/-- A fault as a failure at the value at hand. -/
def fail {α : Type} (fault : Fault) : Decoded α := .error (.ofFault fault)

/-- A result that may carry a fault. -/
def lift {α : Type} : Except Fault α → Decoded α
  | .ok a => .ok a
  | .error fault => fail fault

/-- A result seen from the value around it. -/
def atStep {α : Type} (step : Step) : Decoded α → Decoded α
  | .ok a => .ok a
  | .error f => .error (f.within step)

/-! ### The value of a tree -/

/-- The number of brackets that may be open at once, plus one. -/
def depthLimit : Nat := 128

/-- The depth inside one more bracket, which starts at the given byte. -/
def deeper (depth start : Nat) : Decoded Nat :=
  if depth ≤ 1 then fail ⟨.tooDeep, start + 1⟩ else .ok (depth - 1)

/-- The end of an array or an object, if it is closed. -/
def stopOf : Ending → Decoded Nat
  | .closed stop => .ok stop
  | .broken fault => fail fault
  | .bare _ fault => fail fault

/-- The end of an object, if it is closed. A fault before a key belongs to an unknown part. -/
def stopOfMembers : Ending → Decoded Nat
  | .closed stop => .ok stop
  | .broken fault => atStep .unknown (fail fault)
  | .bare key fault => do
    let _ ← atStep .unknown (lift key.name.value)
    fail fault

mutual

/-- The value of a tree. -/
def Tree.json (depth : Nat) : Tree → Decoded Json
  | .null _ _ => .ok .null
  | .boolean _ _ b => .ok (.boolean b)
  | .number leaf => (lift leaf.value).map .number
  | .text leaf => (lift leaf.value).map .text
  | .array start items ending => do
    let depth ← deeper depth start
    let values ← jsonOfItems depth 0 items
    let _ ← stopOf ending
    .ok (.array values)
  | .object start members ending => do
    let depth ← deeper depth start
    let values ← jsonOfMembers depth members
    let _ ← stopOfMembers ending
    .ok (.object (sorted values))
  | .broken _ fault => fail fault

/-- The values of items, the first of which has the given index. -/
def jsonOfItems (depth i : Nat) : List Tree → Decoded (List Json)
  | [] => .ok []
  | tree :: rest => do
    let value ← atStep (.index i) (Tree.json depth tree)
    let values ← jsonOfItems depth (i + 1) rest
    .ok (value :: values)

/-- The keys and values of members. -/
def jsonOfMembers (depth : Nat) : List (Key × Tree) → Decoded (List (String × Json))
  | [] => .ok []
  | (key, tree) :: rest => do
    let name ← atStep .unknown (lift key.name.value)
    let value ← atStep (.key name) (Tree.json depth tree)
    let values ← jsonOfMembers depth rest
    .ok ((name, value) :: values)

end

/-! ### Parts that nobody looks at -/

/-- The cause of a fault inside an array that is passed over. -/
def passedItemCause : Cause → Cause
  | .trailingComma => .expectedValue
  | cause => cause

/-- The cause of a fault inside an object that is passed over. -/
def passedMemberCause : Cause → Cause
  | .trailingComma => .keyNotText
  | .endInValue => .endInObject
  | cause => cause

/-- Passes over the end of an array or an object. -/
def passEnding (change : Cause → Cause) : Ending → Except Fault Unit
  | .closed _ => .ok ()
  | .broken fault => .error { fault with cause := change fault.cause }
  | .bare key fault => do
    let _ ← key.name.passed
    .error fault

mutual

/-- Passes over a value. -/
def Tree.pass : Tree → Except Fault Unit
  | .null _ _ => .ok ()
  | .boolean _ _ _ => .ok ()
  | .number leaf => leaf.passed.map fun _ => ()
  | .text leaf => leaf.passed.map fun _ => ()
  | .array _ items ending => do
    passItems items
    passEnding passedItemCause ending
  | .object _ members ending => do
    passMembers members
    passEnding passedMemberCause ending
  | .broken _ fault => .error fault

/-- Passes over items. -/
def passItems : List Tree → Except Fault Unit
  | [] => .ok ()
  | tree :: rest => do
    Tree.pass tree
    passItems rest

/-- Passes over members. -/
def passMembers : List (Key × Tree) → Except Fault Unit
  | [] => .ok ()
  | (_, tree) :: rest => do
    Tree.pass tree
    passMembers rest

end

/-! ### Decoding along a schema -/

/-- What the walk knows: how many brackets may still be opened, and whether the tree is that of a
text or that of a value without one. -/
structure Walk where
  depth : Nat
  located : Bool

/-- Decoding a tree. -/
abbrev Decoder := Walk → Tree → Decoded Datum

/-- What a tree holds in the place of something else, and where that shows: at the start of an array
or an object, at the end of a scalar. -/
def Tree.found : Tree → Decoded (Found × Nat)
  | .null _ stop => .ok (.unit, stop)
  | .boolean _ stop b => .ok (.boolean b, stop)
  | .number leaf => do .ok (.number (← lift leaf.value), ← lift leaf.passed)
  | .text leaf => do .ok (.text (← lift leaf.value), ← lift leaf.passed)
  | .array start _ _ => .ok (.sequence, start)
  | .object start _ _ => .ok (.map, start)
  | .broken _ fault => fail fault

/-- A value of the wrong type. -/
def mismatch {α : Type} (expected : String) (tree : Tree) : Decoded α := do
  let (found, offset) ← tree.found
  .error ⟨[], .invalidType found expected, some offset⟩

/-- An integer in the range of a type. -/
def decodeInteger (type : IntegerType) : Decoder := fun _ tree =>
  match tree with
  | .number leaf => do
    match ← lift leaf.value with
    | .integer i =>
      if type.holds i then .ok (.integer i)
      else
        let stop ← lift leaf.passed
        .error ⟨[], .invalidValue (.number (.integer i)) type.name, some stop⟩
    | .floating _ => mismatch type.name tree
  | _ => mismatch type.name tree

/-- A floating-point number; an integer is rounded. -/
def decodeDouble : Decoder := fun _ tree =>
  match tree with
  | .number leaf => do
    match ← lift leaf.value with
    | .integer i => .ok (.double (Binary.ofInt .double i))
    | .floating x => .ok (.double x)
  | _ => mismatch "f64" tree

/-- A text of one character. -/
def decodeCharacter : Decoder := fun _ tree =>
  match tree with
  | .text leaf => do
    let s ← lift leaf.value
    match s.toList with
    | [c] => .ok (.character c)
    | _ => do
      let stop ← lift leaf.passed
      .error ⟨[], .invalidValue (.text s) "a character", some stop⟩
  | _ => mismatch "a character" tree

/-- Items decoded in order, the first of which has the given index. -/
def decodeItems (decode : Decoder) (walk : Walk) (i : Nat) : List Tree → Decoded (List Datum)
  | [] => .ok []
  | tree :: rest => do
    let value ← atStep (.index i) (decode walk tree)
    let values ← decodeItems decode walk (i + 1) rest
    .ok (value :: values)

/-- An array whose items are all decoded alike. -/
def decodeList (item : Decoder) : Decoder := fun walk tree =>
  match tree with
  | .array start items ending => do
    let depth ← deeper walk.depth start
    let values ← decodeItems item { walk with depth } 0 items
    let _ ← stopOf ending
    .ok (.list values)
  | _ => mismatch "a sequence" tree

/-- The end of an array after as many items as were wanted. -/
def finishItems (walk : Walk) (count : Nat) (rest : List Tree) (ending : Ending) : Decoded Unit :=
  match rest, ending with
  | extra :: _, _ =>
    if walk.located then fail ⟨.trailingCharacters, extra.start + 1⟩
    else .error ⟨[], .invalidLength count "fewer elements in array", none⟩
  | [], .closed _ => .ok ()
  | [], .broken fault =>
    let cause := match fault.cause with
      | .expectedCommaOrBracket => .trailingCharacters
      | .endInValue => .trailingCharacters
      | cause => cause
    fail { fault with cause }
  | [], .bare _ fault => fail fault

/-- Items decoded one by one, each in its own way; one that is missing is an error unless it has a
default. Gives the items that are left over as well. -/
def decodeEach (expected : String) (walk : Walk) (ending : Ending) (i : Nat) :
    List (Option Datum × Decoder) → List Tree → Decoded (List Datum × List Tree)
  | [], rest => .ok ([], rest)
  | (_, decode) :: wanted, tree :: rest => do
    let value ← atStep (.index i) (decode walk tree)
    let (values, rest) ← decodeEach expected walk ending (i + 1) wanted rest
    .ok (value :: values, rest)
  | (some default, _) :: wanted, [] => do
    let _ ← stopOf ending
    let (values, rest) ← decodeEach expected walk ending (i + 1) wanted []
    .ok (default :: values, rest)
  | (none, _) :: _, [] => do
    let stop ← stopOf ending
    .error ⟨[], .invalidLength i expected, some stop⟩

/-- An array with as many items as are wanted. -/
def decodeTuple (expected : String) (wanted : List (Option Datum × Decoder)) (walk : Walk)
    (start : Nat) (items : List Tree) (ending : Ending) : Decoded (List Datum) := do
  let depth ← deeper walk.depth start
  let walk := { walk with depth }
  let (values, rest) ← decodeEach expected walk ending 0 wanted items
  finishItems walk items.length rest ending
  .ok values

/-- Members decoded alike, with their keys; of several with one key the last stays. -/
def decodeMembers (decode : Decoder) (walk : Walk) :
    List (Key × Tree) → Decoded (List (String × Datum))
  | [] => .ok []
  | (key, tree) :: rest => do
    let name ← atStep .unknown (lift key.name.value)
    let value ← atStep (.key name) (decode walk tree)
    let values ← decodeMembers decode walk rest
    .ok ((name, value) :: values)

/-- An object whose members are all decoded alike. -/
def decodeMap (value : Decoder) : Decoder := fun walk tree =>
  match tree with
  | .object start members ending => do
    let depth ← deeper walk.depth start
    let values ← decodeMembers value { walk with depth } members
    let _ ← stopOfMembers ending
    .ok (.map ((sorted values).map fun (k, d) => (.text k, d)))
  | _ => mismatch "a map" tree

/-! ### Records -/

/-- A field of a record: its name, its value when an array ends before it, its value when an object
does not have it, and how it is decoded. -/
structure FieldDecoder where
  name : String
  default : Option Datum
  missing : Option Datum
  decode : Decoder

/-- The key of a member, checked against the fields that are known and those already met. -/
def fieldOf (strict : Bool) (fields : List FieldDecoder) (met : List (String × Datum))
    (key : Key) : Decoded (String × Option FieldDecoder) := do
  let name ← atStep .unknown (lift key.name.value)
  match fields.find? (·.name == name) with
  | some field =>
    if met.any (·.1 == name) then .error ⟨[], .duplicateField name, some key.follow⟩
    else .ok (name, some field)
  | none =>
    if strict then
      .error ⟨[.key name], .unknownField name (fields.map (·.name)), some key.follow⟩
    else .ok (name, none)

/-- The fields found among members, in the order in which they are met. -/
def decodeFields (strict : Bool) (fields : List FieldDecoder) (walk : Walk)
    (met : List (String × Datum)) : List (Key × Tree) → Decoded (List (String × Datum))
  | [] => .ok met
  | (key, tree) :: rest => do
    let (name, field?) ← fieldOf strict fields met key
    match field? with
    | some field =>
      let value ← atStep (.key name) (field.decode walk tree)
      decodeFields strict fields walk ((name, value) :: met) rest
    | none =>
      atStep (.key name) (lift tree.pass)
      decodeFields strict fields walk met rest

/-- The fields of a record in their own order, from those that were met. -/
def completeFields (met : List (String × Datum)) (stop : Nat) :
    List FieldDecoder → Decoded (List (String × Datum))
  | [] => .ok []
  | field :: rest => do
    let value ← match member? field.name met, field.missing with
      | some value, _ => .ok value
      | none, some value => .ok value
      | none, none => .error ⟨[], .missingField field.name, some stop⟩
    let values ← completeFields met stop rest
    .ok ((field.name, value) :: values)

/-- The end of a record. A key without a value is checked like any other. -/
def stopOfRecord (strict : Bool) (fields : List FieldDecoder) (met : List (String × Datum)) :
    Ending → Decoded Nat
  | .bare key fault => do
    let _ ← fieldOf strict fields met key
    fail fault
  | ending => stopOfMembers ending

/-- A record: an object with its fields, or an array of their values in order. -/
def decodeRecord (name : String) (strict : Bool) (fields : List FieldDecoder) : Decoder :=
  fun walk tree =>
    match tree with
    | .object start members ending => do
      let depth ← deeper walk.depth start
      let met ← decodeFields strict fields { walk with depth } [] members
      let stop ← stopOfRecord strict fields met ending
      (completeFields met stop fields).map .record
    | .array start items ending => do
      let expected := s!"struct {name} with {fields.length} " ++
        (if fields.length == 1 then "element" else "elements")
      let wanted := fields.map fun field => (field.default, field.decode)
      let values ← decodeTuple expected wanted walk start items ending
      .ok (.record ((fields.map (·.name)).zip values))
    | _ => mismatch ("struct " ++ name) tree

end Json

open Json in
mutual

/-- The walk along a schema. -/
def Schema.decoder : Schema → Decoder
  | .any => fun walk tree => (tree.json walk.depth).map Json.datum
  | .boolean => fun _ tree =>
    match tree with
    | .boolean _ _ b => .ok (.boolean b)
    | _ => mismatch "a boolean" tree
  | .integer type => decodeInteger type
  | .double => decodeDouble
  | .character => decodeCharacter
  | .text => fun _ tree =>
    match tree with
    | .text leaf => (lift leaf.value).map .text
    | _ => mismatch "a string" tree
  | .unit => fun _ tree =>
    match tree with
    | .null _ _ => .ok .unit
    | _ => mismatch "unit" tree
  | .list item => decodeList item.decoder
  | .tuple items => fun walk tree =>
    match tree with
    | .array start trees ending =>
      (decodeTuple (Schema.tuple items).expectation
        ((Schema.decoders items).map fun decode => (none, decode)) walk start trees ending).map
          .tuple
    | _ => mismatch (Schema.tuple items).expectation tree
  | .map value => decodeMap value.decoder
  | .optional value => fun walk tree =>
    match tree with
    | .null _ _ => .ok .absent
    | _ => (value.decoder walk tree).map .present
  | .record name strict fields => decodeRecord name strict (Schema.fieldDecoders fields)

/-- The walks along several schemas. -/
def Schema.decoders : List Schema → List Decoder
  | [] => []
  | s :: rest => s.decoder :: Schema.decoders rest

/-- The walks along the fields of a record. -/
def Schema.fieldDecoders : List (String × Option Datum × Schema) → List FieldDecoder
  | [] => []
  | (name, default, s) :: rest =>
    ⟨name, default, s.missing? default, s.decoder⟩ :: Schema.fieldDecoders rest

end

namespace Json

/-! ### Values without a text -/

/-- A scalar that is no part of a text. -/
def Leaf.of {α : Type} (a : α) : Leaf α := ⟨0, .ok a, .ok 0⟩

mutual

/-- A value as a tree without places. -/
def tree : Json → Tree
  | null => .null 0 0
  | boolean b => .boolean 0 0 b
  | number n => .number (.of n)
  | text s => .text (.of s)
  | array items => .array 0 (treeItems items) (.closed 0)
  | object members => .object 0 (treeMembers members) (.closed 0)

/-- Items as trees without places. -/
def treeItems : List Json → List Tree
  | [] => []
  | j :: rest => tree j :: treeItems rest

/-- Entries as members without places. -/
def treeMembers : List (String × Json) → List (Key × Tree)
  | [] => []
  | (k, j) :: rest => (⟨.of k, 0⟩, tree j) :: treeMembers rest

end

/-- A body as one JSON value, with nothing but blanks after it. -/
def parse (body : List UInt8) : Decoded Json := do
  let (located, after?) := Tree.parse body
  let value ← located.json depthLimit
  match after?.map Cursor.skipBlanks with
  | some c => if c.rest.isEmpty then .ok value else fail (c.fault .trailingCharacters)
  | none => .ok value

end Json

/-! ### Key strategies -/

/-- How the keys of a response are mapped before they are decoded. -/
inductive KeyStrategy where
  /-- Keys are taken as they are. -/
  | asIs
  /-- Words joined by underscores become capitalised words. -/
  | fromSnakeCase
deriving DecidableEq, Repr

/-- Why a body does not decode: the path to the value at fault, and the wording. -/
structure DecodeError where
  path : String
  message : String
deriving DecidableEq, Repr

namespace KeyStrategy

/-- A body decoded along a schema, with the failure if there is one. -/
def decode? (keys : KeyStrategy) (schema : Schema) (body : List UInt8) : Json.Decoded Datum :=
  match keys with
  | .asIs => schema.decoder ⟨Json.depthLimit, true⟩ (Json.Tree.parse body).1
  | .fromSnakeCase =>
    match Json.parse body with
    | .error f => .error { f with path := [] }
    | .ok value =>
      match schema.decoder ⟨Json.depthLimit, false⟩ (Json.camelKeys value).tree with
      | .ok d => .ok d
      | .error f => .error f.unplaced

/-- A body decoded along a schema. -/
def decode (keys : KeyStrategy) (schema : Schema) (body : List UInt8) :
    Except DecodeError Datum :=
  match keys.decode? schema body with
  | .ok d => .ok d
  | .error f => .error ⟨Json.pathText f.path, f.message body⟩

/-- A body decoded along a schema where there may be no value: a body of blanks holds none, and
neither does `null`. -/
def decodeOptional (keys : KeyStrategy) (schema : Schema) (body : List UInt8) :
    Except DecodeError (Option Datum) :=
  if body.all Ascii.isBlankByte then .ok none
  else
    match keys.decode (.optional schema) body with
    | .error e => .error e
    | .ok (.present d) => .ok (some d)
    | .ok _ => .ok none

end KeyStrategy

end Waybill
