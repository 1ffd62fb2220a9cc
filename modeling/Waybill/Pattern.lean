import Waybill.Pattern.Alphabet

/-!
# Patterns

A pattern is a regular expression that is looked for anywhere in a text. Its meaning is the set of
places that can be reached from a given place by reading characters as the expression says;
repetition is iteration of that step, and stops when nothing new can be reached.

## Main definitions

* `Waybill.Pattern.Look` — conditions on a place.
* `Waybill.Pattern.Expression`, `Waybill.Pattern.Expression.ends` — expressions and where they lead.
* `Waybill.Pattern.Expression.sequence`, `Waybill.Pattern.Expression.choice`,
  `Waybill.Pattern.Expression.repeated` — expressions without idle parts.
* `Waybill.Pattern`, `Waybill.Pattern.occursIn`.
-/

namespace Waybill

namespace Pattern

/-- A place in a text: its number, the character before it, and the characters after it. -/
structure Place where
  index : Nat
  before : Option Char
  after : List Char
deriving DecidableEq, Repr

/-- Where a place is with respect to words. -/
inductive Edge where
  | start
  | stop
  | startHalf
  | stopHalf
  | boundary
  | noBoundary
deriving DecidableEq, Repr

/-- A condition on a place. -/
inductive Look where
  | start
  | stop
  | lineStart
  | lineStop
  /-- The start of a line, where a carriage return may end the line before it too. -/
  | anyLineStart
  /-- The end of a line, which may be before a carriage return too. -/
  | anyLineStop
  | word (edge : Edge) (alphabet : Alphabet)
deriving DecidableEq, Repr

/-- Whether an edge is between a part of a word or something else and another such. -/
def Edge.holds (edge : Edge) (left right : Bool) : Bool :=
  match edge with
  | .start => !left && right
  | .stop => left && !right
  | .startHalf => !left
  | .stopHalf => !right
  | .boundary => left != right
  | .noBoundary => left == right

/-- Whether a place satisfies a condition. -/
def Look.holds (look : Look) (p : Place) : Bool :=
  match look with
  | .start => p.before.isNone
  | .stop => p.after.isEmpty
  | .lineStart => p.before.all (· == '\n')
  | .lineStop => p.after.head?.all (· == '\n')
  | .anyLineStart =>
    p.before.all fun c => c == '\n' || (c == '\r' && p.after.head? != some '\n')
  | .anyLineStop =>
    p.after.head?.all fun c => c == '\r' || (c == '\n' && p.before != some '\r')
  | .word edge alphabet => edge.holds (p.before.any alphabet.word.has)
      (p.after.head?.any alphabet.word.has)

/-- An expression. -/
inductive Expression where
  | nothing
  | one (s : CodeSet)
  | look (l : Look)
  | both (a b : Expression)
  | either (a b : Expression)
  /-- An expression repeated at least so many times, and at most so many if there is a limit. -/
  | times (a : Expression) (least : Nat) (most : Option Nat)
  /-- An expression whose place in the text is kept. -/
  | group (a : Expression)
deriving DecidableEq, Repr

/-! ### Meaning -/

/-- Whether a place of the same number is among the given ones. -/
def Place.isAmong (p : Place) (places : List Place) : Bool := places.any (·.index == p.index)

/-- Places without repetitions. -/
def distinct (places : List Place) : List Place :=
  places.foldr (fun p acc => if p.isAmong acc then acc else p :: acc) []

/-- The places reached by a step from any of the given places, `n` times. -/
def iterate (step : Place → List Place) : Nat → List Place → List Place
  | 0, places => places
  | n + 1, places =>
    match places with
    | [] => []
    | _ => iterate step n (distinct (places.flatMap step))

/-- The places reached from the newest ones by a step at most `n` times, besides those that were
reached before. -/
def closure (step : Place → List Place) : Nat → List Place → List Place → List Place
  | 0, reached, _ => reached
  | n + 1, reached, newest =>
    match (distinct (newest.flatMap step)).filter (!·.isAmong reached) with
    | [] => reached
    | found => closure step n (reached ++ found) found

namespace Expression

/-- The places that an expression leads to. -/
def ends : Expression → Place → List Place
  | .nothing, p => [p]
  | .one s, p =>
    match p.after with
    | c :: rest => if s.has c then [⟨p.index + 1, some c, rest⟩] else []
    | [] => []
  | .look l, p => if l.holds p then [p] else []
  | .both a b, p => distinct ((a.ends p).flatMap b.ends)
  | .either a b, p => distinct (a.ends p ++ b.ends p)
  | .times a least most, p =>
    let first := iterate a.ends least [p]
    let more := p.after.length
    match most with
    | none => closure a.ends more first first
    | some most => closure a.ends (min (most - least) more) first first
  | .group a, p => a.ends p

/-! ### Expressions without idle parts -/

/-- Whether an expression reads no character, whatever the text. -/
def isStill : Expression → Bool
  | .nothing | .look _ => true
  | .one _ => false
  | .both a b | .either a b => a.isStill && b.isStill
  | .times a _ _ | .group a => a.isStill

/-- Whether an expression may read no character. -/
def mayStay : Expression → Bool
  | .nothing | .look _ => true
  | .one _ => false
  | .both a b => a.mayStay && b.mayStay
  | .either a b => a.mayStay || b.mayStay
  | .times a least _ => least == 0 || a.mayStay
  | .group a => a.mayStay

/-- Expressions one after the other. -/
def sequence : List Expression → Expression
  | [] => .nothing
  | [a] => a
  | a :: rest =>
    match a, sequence rest with
    | .nothing, b => b
    | a, .nothing => a
    | a, b => .both a b

/-- The set of an expression that reads one character. -/
def set? : Expression → Option CodeSet
  | .one s => some s
  | _ => none

/-- The first of some expressions or the second and so on. -/
def choice : List Expression → Expression
  | [] => .nothing
  | a :: rest =>
    match (a :: rest).mapM set? with
    | some sets => .one (.unionAll sets)
    | none => rest.foldl .either a

/-- An expression repeated. Where it reads nothing, once is as good as any number of times. -/
def repeated (a : Expression) (least : Nat) (most : Option Nat) : Expression :=
  let (least, most) :=
    if a.isStill then (min least 1, some (min 1 (most.getD 1))) else (least, most)
  if most == some 0 then .nothing
  else if least == 1 && most == some 1 then a
  else .times a least most

end Expression

/-- The places of a text from the given one on. -/
def placesFrom (index : Nat) (before : Option Char) : List Char → List Place
  | [] => [⟨index, before, []⟩]
  | c :: rest => ⟨index, before, c :: rest⟩ :: placesFrom (index + 1) (some c) rest

end Pattern

/-- An expression with the text it was read from. -/
structure Pattern where
  source : String
  expression : Pattern.Expression
deriving DecidableEq, Repr

namespace Pattern

/-- Whether the pattern occurs anywhere in a text. -/
def occursIn (p : Pattern) (text : String) : Bool :=
  (placesFrom 0 none text.toList).any fun place => !(p.expression.ends place).isEmpty

end Pattern

end Waybill
