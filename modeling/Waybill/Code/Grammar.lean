import Waybill.Code.Reader
import Waybill.Code.TypeExpr

/-!
# What may be nested in code

Types, expressions, bindings, statements and items contain each other. The reader of each is written
in terms of readers for what is nested in it, which are kept together in a grammar. A grammar of
some depth reads whatever is nested no deeper than that.

What is read comes out as tokens, as they are written again: symbols have no gaps inside and a gap
behind. A reader says no more about what it has read than what the meaning of the next tokens
depends on.

## Main definitions

* `Waybill.Code.TypeRead`, `Waybill.Code.BoundRead`, `Waybill.Code.ExpressionRead`,
  `Waybill.Code.BindingRead` — what readers say.
* `Waybill.Code.Level` — how tightly operators bind.
* `Waybill.Code.Grammar` — readers for what is nested.
-/

namespace Waybill.Code

/-- What a type can be the start of. -/
inductive TypeForm where
  /-- A single name with its arguments. -/
  | single
  /-- A path of names. -/
  | path
  /-- A single trait without a keyword in front of it. -/
  | bare
  | other
deriving DecidableEq, Repr

/-- A type, and what it can be the start of. -/
structure TypeRead where
  type : TypeExpr
  form : TypeForm

/-- The tokens of a type. -/
def TypeRead.written (t : TypeRead) : List Token := t.type.tokens

/-- What a bound is. -/
inductive BoundForm where
  | lifetime
  | trait
  /-- A list of what a type depends on. -/
  | capture
deriving DecidableEq, Repr

/-- A bound: its tokens and what it is. -/
structure BoundRead where
  written : List Token
  form : BoundForm

/-- What an expression is, as far as anything depends on it. -/
inductive ExpressionForm where
  /-- A block, or a construct that ends in one and needs nothing behind it. -/
  | block
  /-- An invocation of a macro, in braces or not. -/
  | invocation (isBraced : Bool)
  | range
  | comparison
  | other
deriving DecidableEq, Repr

/-- An expression: its tokens and its form. -/
structure ExpressionRead where
  written : List Token
  form : ExpressionForm

/-- What a value is bound to or compared with: its tokens, its name if it is one name and nothing
else, and whether it is a range without a start or an end. -/
structure BindingRead where
  written : List Token
  name : Option String
  isOpen : Bool

/-- How tightly operators bind. -/
inductive Level where
  | jump
  | assign
  | range
  | or
  | and
  | letting
  | compare
  | bitOr
  | bitXor
  | bitAnd
  | shift
  | sum
  | product
  | cast
deriving DecidableEq, Repr

/-- The place of a level, from the loosest on. -/
def Level.rank : Level → Nat
  | jump => 0
  | assign => 1
  | range => 2
  | or => 3
  | and => 4
  | letting => 5
  | compare => 6
  | bitOr => 7
  | bitXor => 8
  | bitAnd => 9
  | shift => 10
  | sum => 11
  | product => 12
  | cast => 13

/-- Readers for what is nested. -/
structure Grammar where
  /-- A type, to which further bounds may be added or not. -/
  type : Bool → Reader TypeRead
  /-- A bound, which may be a list of what a type depends on, and may have a mark of constants. -/
  bound : Bool → Bool → Reader BoundRead
  /-- An expression, in which braces behind a path may be the fields of a structure or not. -/
  expression : Bool → Reader ExpressionRead
  /-- An expression at the start of a statement, which may end with a block. -/
  leading : Reader ExpressionRead
  /-- An operand with what stands in front of it and behind it. -/
  operand : Bool → Reader ExpressionRead
  /-- The operators of some level and above behind an expression, with their operands. -/
  operations : Bool → Level → ExpressionRead → Reader ExpressionRead
  /-- What a value is bound to. -/
  binding : Reader BindingRead
  /-- A parameter that something is generic in; the answer says whether it is a lifetime. -/
  parameter : Reader (List Token × Bool)
  /-- Statements up to the end of a block. -/
  statements : Reader (List Token)
  /-- An item. -/
  item : Reader (List Token)
  /-- A tree of names that are brought into scope, the trees in whose groups may be rooted or not;
  the answer says whether any is. -/
  names : Bool → Reader (List Token × Bool)
  /-- Fields with names, in braces. -/
  fields : Reader (List Token)

/-- The grammar of nothing. -/
def Grammar.nothing : Grammar where
  type _ := Reader.refuse
  bound _ _ := Reader.refuse
  expression _ := Reader.refuse
  leading := Reader.refuse
  operand _ := Reader.refuse
  operations _ _ _ := Reader.refuse
  binding := Reader.refuse
  parameter := Reader.refuse
  statements := Reader.refuse
  item := Reader.refuse
  names _ := Reader.refuse
  fields := Reader.refuse

namespace Reader

/-- An expression, as tokens. -/
def expression (g : Grammar) (structures : Bool) : Reader (List Token) := do
  return (← g.expression structures).written

/-- A type, as tokens. -/
def typeTokens (g : Grammar) : Reader (List Token) := do return (← g.type true).written

/-- A block. -/
def block (g : Grammar) : Reader (List Token) := do return braces (← group .brace g.statements)

end Reader

end Waybill.Code
