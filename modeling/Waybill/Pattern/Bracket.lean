import Waybill.Pattern.Escape

/-!
# Classes in brackets

A class in brackets is a union of characters, ranges, escapes, named classes of ASCII and classes in
brackets, on which operations on sets may be made from left to right. A class is as deep as the
classes, unions and operations that are nested in it.

## Main definitions

* `Waybill.Pattern.Members` — what has been read of a union.
* `Waybill.Pattern.readBracket` — a class, its set and its depth.
-/

namespace Waybill.Pattern

/-- The classes of ASCII with a name. -/
def namedClass? (name : String) : Option CodeSet :=
  let small := ('a', 'z')
  let capital := ('A', 'Z')
  let digit := ('0', '9')
  if name == "alnum" then some (chars [digit, capital, small])
  else if name == "alpha" then some (chars [capital, small])
  else if name == "ascii" then some (chars [('\x00', '\x7F')])
  else if name == "blank" then some (chars [('\t', '\t'), (' ', ' ')])
  else if name == "cntrl" then some (chars [('\x00', '\x1F'), ('\x7F', '\x7F')])
  else if name == "digit" then some (chars [digit])
  else if name == "graph" then some (chars [('!', '~')])
  else if name == "lower" then some (chars [small])
  else if name == "print" then some (chars [(' ', '~')])
  else if name == "punct" then some (chars [('!', '/'), (':', '@'), ('[', '\x60'), ('\x7b', '~')])
  else if name == "space" then some asciiBlank
  else if name == "upper" then some (chars [capital])
  else if name == "word" then some asciiWord
  else if name == "xdigit" then some (chars [digit, ('A', 'F'), ('a', 'f')])
  else none

/-- A named class such as `[:alpha:]`, after its bracket: whether it is negated, its set, and what
follows. -/
def readNamed? (cs : List Char) : Option (Bool × CodeSet × List Char) :=
  match cs with
  | ':' :: rest =>
    let (negative, rest) := match rest with
      | '^' :: rest => (true, rest)
      | _ => (false, rest)
    match rest.dropWhile (· != ':') with
    | ':' :: ']' :: after =>
      (namedClass? (String.ofList (rest.takeWhile (· != ':')))).map fun s => (negative, s, after)
    | _ => none
  | _ => none

/-! ### Parts of a class -/

/-- The members of a union: their set, their number, and the depth of the deepest. -/
structure Members where
  set : CodeSet
  count : Nat
  depth : Nat

namespace Members

/-- No members. -/
def none : Members := ⟨.empty, 0, 0⟩

/-- One more member. -/
def add (m : Members) (s : CodeSet) (depth : Nat) : Members :=
  ⟨m.set.union s, m.count + 1, max m.depth depth⟩

/-- A single member is as deep as it is alone, several are one deeper. -/
def height (m : Members) : Nat := if m.count ≤ 1 then m.depth else m.depth + 1

end Members

/-- An operation on two sets. -/
inductive SetOperation where
  | inter
  | difference
  | symmetric
deriving DecidableEq, Repr

/-- The set that an operation gives. -/
def SetOperation.apply : SetOperation → CodeSet → CodeSet → CodeSet
  | .inter => .inter
  | .difference => .diff
  | .symmetric => .symmDiff

/-- An operation that still lacks what is on its right: the set and the depth of its left. -/
structure Pending where
  set : CodeSet
  depth : Nat
  operation : SetOperation

/-- The set and the depth of a union, and of the operation that it is the right of. Without an
operation the set is taken as it is; case is seen to on both sides of one. -/
def combined (flags : Flags) (pending : Option Pending) (m : Members) : CodeSet × Nat :=
  match pending with
  | some p => (p.operation.apply (flags.closed p.set) (flags.closed m.set),
      max p.depth m.height + 1)
  | none => (m.set, m.height)

/-- A character, which must be of ASCII if nothing else is allowed. -/
def plainChar (flags : Flags) (c : Char) : Reading Char :=
  if flags.alphabet == .ascii && !Ascii.isAscii c then .error .beyondAscii else .ok c

/-- One character or one escape of a class. -/
def readClassItem (flags : Flags) (cs : List Char) : Reading (Escape × List Char) := do
  match ← match cs with
    | [] => .error .unclosedClass
    | '\\' :: rest => readEscape flags rest
    | c :: rest => .ok (.char c, rest) with
  | (.char c, rest) => .ok (.char (← plainChar flags c), rest)
  | item => .ok item

/-- The set of an item that is no end of a range. -/
def itemSet : Escape → Reading CodeSet
  | .char c => .ok (.single c.toNat)
  | .set s => .ok s
  | .look _ => .error .invalidEscape

/-- The character that follows a hyphen, past any blanks. After the sign of a comment it is the next
one that is no blank, whether the comment has ended or not. -/
def peekSpaced (flags : Flags) (cs : List Char) : Option Char :=
  if !flags.spaced then cs.head?
  else match cs.dropWhile isBlank with
    | '#' :: rest => ((rest.dropWhile isBlank).head?).or cs.head?
    | c :: _ => some c
    | [] => cs.head?

/-- A character, an escape or a range of a class. -/
def readRange (flags : Flags) (cs : List Char) : Reading (CodeSet × List Char) := do
  let (low, rest) ← readClassItem flags cs
  let rest := flags.skipSpaces rest
  match rest with
  | [] => .error .unclosedClass
  | '-' :: after =>
    let next := peekSpaced flags after
    if next == some ']' || next == some '-' then do .ok (← itemSet low, rest)
    else
      let (high, rest) ← readClassItem flags (flags.skipSpaces after)
      match low, high with
      | .char a, .char b =>
        if a ≤ b then .ok (.range a.toNat b.toNat, rest) else .error .invalidRange
      | _, _ => .error .invalidRange
  | _ => do .ok (← itemSet low, rest)

/-- The hyphens at the start of a class stand for themselves. -/
def readHyphens (flags : Flags) (fuel : Nat) (m : Members) (cs : List Char) : Members × List Char :=
  match fuel, cs with
  | fuel + 1, '-' :: rest =>
    readHyphens flags fuel (m.add (.single '-'.toNat) 0) (flags.skipSpaces rest)
  | _, _ => (m, cs)

/-- What follows the bracket of a class: a sign of negation, and hyphens or a closing bracket that
stand for themselves. -/
def readClassStart (flags : Flags) (cs : List Char) : Bool × Members × List Char :=
  let cs := flags.skipSpaces cs
  let (negative, cs) := match cs with
    | '^' :: rest => (true, flags.skipSpaces rest)
    | _ => (false, cs)
  let (m, cs) := readHyphens flags cs.length .none cs
  match cs with
  | ']' :: rest =>
    if m.count == 0 then (negative, m.add (.single ']'.toNat) 0, flags.skipSpaces rest)
    else (negative, m, cs)
  | _ => (negative, m, cs)

mutual

/-- A class, after its bracket, with its depth. -/
def readBracket : Nat → Flags → List Char → Reading (CodeSet × Nat × List Char)
  | 0, _, _ => .error .unclosedClass
  | fuel + 1, flags, cs => do
    let (negative, m, cs) := readClassStart flags cs
    let (s, depth, rest) ← readMembers fuel flags none m cs
    .ok (← flags.negated negative (flags.closed s), depth + 1, rest)

/-- The parts of a class up to its closing bracket: `m` is the union since the last operation. -/
def readMembers : Nat → Flags → Option Pending → Members → List Char →
    Reading (CodeSet × Nat × List Char)
  | 0, _, _, _, _ => .error .unclosedClass
  | fuel + 1, flags, pending, m, cs =>
    let operate (operation : SetOperation) (rest : List Char) :=
      let (s, depth) := combined flags pending m
      readMembers fuel flags (some ⟨s, depth, operation⟩) .none rest
    match flags.skipSpaces cs with
    | [] => .error .unclosedClass
    | ']' :: rest =>
      let (s, depth) := combined flags pending m
      .ok (s, depth, rest)
    | '[' :: rest =>
      match readNamed? rest with
      | some (negative, s, rest) => do
        readMembers fuel flags pending (m.add (← flags.negated negative (flags.closed s)) 0) rest
      | none => do
        let (s, depth, rest) ← readBracket fuel flags rest
        readMembers fuel flags pending (m.add s depth) rest
    | '&' :: '&' :: rest => operate .inter rest
    | '-' :: '-' :: rest => operate .difference rest
    | '~' :: '~' :: rest => operate .symmetric rest
    | cs => do
      let (s, rest) ← readRange flags cs
      readMembers fuel flags pending (m.add s 0) rest

end

end Waybill.Pattern
