import Waybill.Number.Decimal
import Waybill.Pattern.Bracket
import Waybill.Pattern.Size

/-!
# Reading patterns

The syntax of patterns: literals, `.`, classes in brackets with ranges, named classes and set
operations, groups with or without names, alternatives, anchors, repetitions, and flags that change
how the rest of a group is read. There are neither references to groups nor conditions on what
follows or precedes. What is nested too deep, or would be too large, is no pattern either.

## Main definitions

* `Waybill.Pattern.Part` — a part of a pattern with its depth.
* `Waybill.Pattern.read` — a text as a pattern.
-/

namespace Waybill.Pattern

/-! ### Repetitions -/

/-- A decimal number below `2 ^ 32` between blanks. -/
def readCount (flags : Flags) (cs : List Char) : Reading (Nat × List Char) :=
  let (digits, rest) := flags.takeSpaced Char.isDigit false (cs.dropWhile isBlank)
  let n := Decimal.natOfDigits digits
  if digits.isEmpty || Nat.pow 2 32 ≤ n then .error .invalidCount
  else .ok (n, flags.skipSpaces (rest.dropWhile isBlank))

/-- The limits of a repetition, after its brace. -/
def readLimits (flags : Flags) (cs : List Char) : Reading (Nat × Option Nat × List Char) := do
  let (least, rest) ← readCount flags (flags.skipSpaces cs)
  match rest with
  | '\x7d' :: rest => .ok (least, some least, flags.skipSpaces rest)
  | ',' :: rest =>
    match flags.skipSpaces rest with
    | '\x7d' :: rest => .ok (least, none, flags.skipSpaces rest)
    | rest =>
      match ← readCount flags rest with
      | (most, '\x7d' :: rest) =>
        if least ≤ most then .ok (least, some most, flags.skipSpaces rest)
        else .error .invalidCount
      | _ => .error .invalidCount
  | _ => .error .invalidCount

/-- The mark of a repetition that takes as little as it can; it does not change where an expression
leads. -/
def skipLazy : List Char → List Char
  | '?' :: rest => rest
  | cs => cs

/-- The limits of a repetition at the start of a text, if there is one. -/
def readRepetition? (flags : Flags) (cs : List Char) :
    Option (Reading (Nat × Option Nat × List Char)) :=
  match cs with
  | '*' :: rest => some (.ok (0, none, skipLazy rest))
  | '+' :: rest => some (.ok (1, none, skipLazy rest))
  | '?' :: rest => some (.ok (0, some 1, skipLazy rest))
  | '\x7b' :: rest =>
    some ((readLimits flags rest).map fun (least, most, rest) => (least, most, skipLazy rest))
  | _ => none

/-! ### Groups -/

/-- Flags after an opening `(?`: they end at a colon, after which the group follows, or at a closing
bracket, and then they are for the rest of the group around them. `seen` are the signs read so
far, the last one first. -/
def readFlags (flags : Flags) (value : Bool) (seen : List Char) :
    List Char → Reading (Flags × Bool × List Char)
  | [] => .error .unclosedGroup
  | c :: rest =>
    if c == ':' || c == ')' then
      if seen.head? == some '-' then .error .invalidFlag
      else if c == ')' && seen.isEmpty then .error .nothingToRepeat
      else .ok (flags, c == ':', rest)
    else if seen.contains c then .error .invalidFlag
    else
      let set (flags : Flags) := readFlags flags value (c :: seen) rest
      if c == '-' then readFlags flags false (c :: seen) rest
      else if c == 'i' then set { flags with anyCase := value }
      else if c == 'm' then set { flags with lines := value }
      else if c == 's' then set { flags with dotAll := value }
      else if c == 'x' then set { flags with spaced := value }
      else if c == 'R' then set { flags with returns := value }
      else if c == 'u' then set { flags with alphabet := if value then .unicode else .ascii }
      else if c == 'U' then set flags
      else .error .invalidFlag

/-- Characters at the start of a group's name. -/
def isNameStart (c : Char) : Bool := c == '_' || Letter.alphabetic.has c

/-- Characters of a group's name. -/
def isNamePart (c : Char) : Bool :=
  isNameStart c || (Category.of c).isNumber || c == '.' || c == '[' || c == ']'

/-- The name of a group, after its bracket. -/
def readName (cs : List Char) : Reading (String × List Char) :=
  let name := cs.takeWhile (· != '>')
  match cs.dropWhile (· != '>'), name with
  | _ :: rest, c :: tail =>
    if isNameStart c && tail.all isNamePart then .ok (String.ofList name, rest)
    else .error .invalidName
  | _, _ => .error .invalidName

/-- How a group starts. -/
inductive GroupStart where
  /-- A group that is kept, perhaps under a name. -/
  | kept (name : Option String)
  /-- A group that is read with the given flags. -/
  | plain (flags : Flags)
  /-- Flags for the rest of the group around. -/
  | flags (flags : Flags)

/-- The start of a group, after its bracket. -/
def readGroupStart (flags : Flags) (cs : List Char) : Reading (GroupStart × List Char) :=
  match flags.skipSpaces cs with
  | '?' :: '=' :: _ => .error .unsupportedLook
  | '?' :: '!' :: _ => .error .unsupportedLook
  | '?' :: '<' :: '=' :: _ => .error .unsupportedLook
  | '?' :: '<' :: '!' :: _ => .error .unsupportedLook
  | '?' :: '<' :: rest => do
    let (name, rest) ← readName rest
    .ok (.kept (some name), rest)
  | '?' :: 'P' :: '<' :: rest => do
    let (name, rest) ← readName rest
    .ok (.kept (some name), rest)
  | '?' :: rest => do
    let (changed, opens, rest) ← readFlags flags true [] rest
    .ok (if opens then .plain changed else .flags changed, rest)
  | cs => .ok (.kept none, cs)

/-! ### Expressions -/

/-- A part of a pattern: its expression, unless it is flags, which cannot be repeated, and the depth
of what is nested in it. -/
structure Part where
  expression : Option Expression
  depth : Nat

/-- Parts one after the other, the last one first, as one part. -/
def sequenced (parts : List Part) : Part :=
  let e := Expression.sequence (parts.reverse.filterMap (·.expression))
  match parts with
  | [] => ⟨some e, 0⟩
  | [p] => ⟨some e, p.depth⟩
  | _ => ⟨some e, (parts.map (·.depth)).foldl max 0 + 1⟩

/-- Parts to choose from, the last one first, as one part. -/
def chosen (parts : List Part) : Part :=
  let e := Expression.choice (parts.reverse.filterMap (·.expression))
  match parts with
  | [p] => ⟨some e, p.depth⟩
  | _ => ⟨some e, (parts.map (·.depth)).foldl max 0 + 1⟩

/-- The set of all characters but some. -/
def allBut (excluded : List Char) : CodeSet :=
  .complement (.unionAll (excluded.map fun c => .single c.toNat))

/-- The set that a dot stands for. -/
def dot (flags : Flags) : Reading CodeSet :=
  if flags.alphabet == .ascii then .error .beyondAscii
  else if flags.dotAll then .ok .all
  else .ok (allBut (if flags.returns then ['\n', '\r'] else ['\n']))

/-- A single character, class, escape or anchor. -/
def readOne (fuel : Nat) (flags : Flags) (c : Char) (rest : List Char) :
    Reading (Part × List Char) := do
  let look (l : Look) : Part := ⟨some (.look l), 0⟩
  let one (s : CodeSet) : Part := ⟨some (.one s), 0⟩
  let literal (c : Char) := one (flags.closed (.single c.toNat))
  if c == '[' then
    let (s, depth, rest) ← readBracket fuel flags rest
    .ok (⟨some (.one s), depth⟩, rest)
  else if c == '\\' then
    match ← readEscape flags rest with
    | (.char c, rest) => .ok (literal c, rest)
    | (.set s, rest) => .ok (one s, rest)
    | (.look l, rest) => .ok (look l, rest)
  else if c == '.' then .ok (one (← dot flags), rest)
  else if c == '^' then
    let l := if flags.lines then if flags.returns then .anyLineStart else .lineStart else Look.start
    .ok (look l, rest)
  else if c == '$' then
    let l := if flags.lines then if flags.returns then .anyLineStop else .lineStop else Look.stop
    .ok (look l, rest)
  else .ok (literal c, rest)

/-- What has been read of a group: the alternatives before the present one and the parts of the
present one, both with the last one first, and the names of the groups of the whole pattern. -/
structure Progress where
  others : List Part
  parts : List Part
  names : List String

namespace Progress

/-- The start of a group after other groups with names. -/
def start (names : List String) : Progress := ⟨[], [], names⟩

/-- One more part. -/
def push (p : Progress) (part : Part) : Progress := { p with parts := part :: p.parts }

/-- The present alternative is at its end. -/
def turn (p : Progress) : Progress :=
  { p with others := sequenced p.parts :: p.others, parts := [] }

/-- The group as one part. -/
def finish (p : Progress) : Part := chosen p.turn.others

/-- The name of a group is taken, unless it has been before. -/
def name (p : Progress) : Option String → Reading (List String)
  | some name => if p.names.contains name then .error .repeatedName else .ok (name :: p.names)
  | none => .ok p.names

end Progress

/-- A group as a part of the group around it. -/
def grouped (kept : Bool) (inner : Part) : Part :=
  ⟨if kept then inner.expression.map .group else inner.expression, inner.depth + 1⟩

/-- The end of a group: what has been read of it, and what follows its closing bracket. -/
def closeGroup : Progress × List Char → Reading (Progress × List Char)
  | (p, ')' :: rest) => .ok (p, rest)
  | _ => .error .unclosedGroup

/-- Alternatives up to the end of their group. -/
def readGroup : Nat → Flags → Progress → List Char → Reading (Progress × List Char)
  | 0, _, _, _ => .error .unclosedGroup
  | fuel + 1, flags, p, cs =>
    let cs := flags.skipSpaces cs
    match cs with
    | [] => .ok (p, [])
    | ')' :: _ => .ok (p, cs)
    | '|' :: rest => readGroup fuel flags p.turn rest
    | '(' :: rest => do
      match ← readGroupStart flags rest with
      | (.flags changed, rest) => readGroup fuel changed (p.push ⟨none, 0⟩) rest
      | (.plain changed, rest) =>
        let (q, rest) ← closeGroup (← readGroup fuel changed (.start p.names) rest)
        readGroup fuel flags ({ p with names := q.names }.push (grouped false q.finish)) rest
      | (.kept name, rest) =>
        let (q, rest) ← closeGroup (← readGroup fuel flags (.start (← p.name name)) rest)
        readGroup fuel flags ({ p with names := q.names }.push (grouped true q.finish)) rest
    | c :: rest =>
      match readRepetition? flags cs with
      | some limits =>
        match p.parts with
        | ⟨some e, depth⟩ :: parts => do
          let (least, most, rest) ← limits
          let part : Part := ⟨some (e.repeated least most), depth + 1⟩
          readGroup fuel flags { p with parts := part :: parts } rest
        | _ => .error .nothingToRepeat
      | none => do
        let (part, rest) ← readOne fuel flags c rest
        readGroup fuel flags (p.push part) rest

/-- The depth to which a pattern may be nested. -/
def depthLimit : Nat := 250

/-- A text as a pattern. -/
def read (source : String) : Reading Pattern := do
  let cs := source.toList
  match ← readGroup (cs.length + 1) .plain (.start []) cs with
  | (p, []) =>
    let part := p.finish
    let e := part.expression.getD .nothing
    if depthLimit < part.depth then .error .tooDeep
    else if e.isTooLarge then .error .tooLarge
    else .ok ⟨source, e⟩
  | _ => .error .unopenedGroup

end Waybill.Pattern
