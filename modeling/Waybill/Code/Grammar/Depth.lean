import Waybill.Code.Statement
import Waybill.Code.TypeExpr.Read

/-!
# Grammars of any depth

A grammar of some depth reads what is nested with a grammar that is one less deep. Each step down
goes past a token, so that no code needs a deeper grammar than it has tokens.

## Main definitions

* `Waybill.Code.Grammar.ofDepth`, `Waybill.Code.Grammar.of`.
-/

namespace Waybill.Code.Grammar

/-- The grammar of a depth. -/
def ofDepth : Nat → Grammar
  | 0 => nothing
  | depth + 1 => {
    type := fun plus => Reader.type (ofDepth depth) plus
    bound := fun captures constants => Reader.bound (ofDepth depth) captures constants
    expression := fun structures => Reader.wholeExpression (ofDepth depth) structures
    leading := fun tokens => Reader.leadingExpression (ofDepth depth) tokens
    operand := fun structures => Reader.operand (ofDepth depth) structures
    operations := fun structures base first =>
      Reader.operations (ofDepth depth) structures base first
    binding := fun tokens => Reader.binding (ofDepth depth) tokens
    parameter := fun tokens => Reader.parameter (ofDepth depth) tokens
    statements := fun tokens => Reader.statements (ofDepth depth) tokens
    item := fun tokens => Reader.item (ofDepth depth) tokens
    names := fun roots => Reader.names (ofDepth depth) roots
    fields := fun tokens => Reader.namedFields (ofDepth depth) tokens }

/-- A grammar that is deep enough for a sequence of tokens. -/
def of (tokens : List Token) : Grammar := ofDepth (2 * countTokens tokens + 8)

end Waybill.Code.Grammar

namespace Waybill.Code

/-- The type that a sequence of tokens is. -/
def TypeExpr.read (tokens : List Token) : Option TypeExpr :=
  ((Reader.type (.of tokens) true).run tokens).map (·.type)

end Waybill.Code
