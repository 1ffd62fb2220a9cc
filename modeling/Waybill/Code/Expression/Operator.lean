import Waybill.Code.Binding

/-!
# Operators

Operators bind their operands as tightly as their level says; those of the same level from left to
right, except assignments. A comparison is not compared again, and nothing but a cast or another
operator's operand may follow a range.

## Main definitions

* `Waybill.Code.operators` — the operators with their levels.
* `Waybill.Code.Reader.operations` — the operators behind an expression.
-/

namespace Waybill.Code

/-- The operators with their levels; no operator comes after a shorter one that it starts with. -/
def operators : List (String × Level) := [
  ("+=", .assign), ("-=", .assign), ("*=", .assign), ("/=", .assign), ("%=", .assign),
  ("^=", .assign), ("&=", .assign), ("|=", .assign), ("<<=", .assign), (">>=", .assign),
  ("&&", .and), ("||", .or), ("<<", .shift), (">>", .shift), ("==", .compare), ("<=", .compare),
  ("!=", .compare), (">=", .compare), ("+", .sum), ("-", .sum), ("*", .product), ("/", .product),
  ("%", .product), ("^", .bitXor), ("&", .bitAnd), ("|", .bitOr), ("<", .compare), (">", .compare)]

/-- Whether one level is at least as tight as another. -/
def Level.reaches (level base : Level) : Bool := base.rank ≤ level.rank

/-- An expression without a form of its own. -/
def ExpressionRead.of (written : List Token) : ExpressionRead := ⟨written, .other⟩

namespace Reader

/-- The operator that comes next. -/
def operator? : Reader (Option (String × Level)) := do
  let tokens ← rest
  return operators.find? fun (s, _) => startsWithSymbol s tokens

/-- Whether an equals sign of an assignment comes next. -/
def atAssignment : Reader Bool := return (← atSymbol "=") && !(← atSymbol "=>")

/-- The level of what comes next. -/
def nextLevel : Reader Level := do
  match ← operator? with
  | some (_, level) => return level
  | none =>
    if ← atAssignment then return .assign
    else if ← atSymbol ".." then return .range
    else if ← atWord "as" then return .cast
    else return .jump

/-- An expression behind an operator of some level, with the tighter operators behind it. -/
def rightOperand (g : Grammar) (structures : Bool) (level : Level) : Reader ExpressionRead := do
  let first ← g.operand structures
  extend (fun right => do
    let next ← nextLevel
    if level.rank < next.rank || (next == level && level == .assign) then
      let before := (← rest).length
      let right ← g.operations structures next right
      if (← rest).length < before then return some right else return none
    else return none) first

/-- Whether a range without an end stops here. -/
def atRangeEnd (structures : Bool) : Reader Bool := looking fun tokens =>
  tokens.isEmpty || (!structures && startsWithGroup .brace tokens) ||
    (startsWithSymbol "." tokens && !startsWithSymbol ".." tokens) ||
    startsWithWord ["as"] tokens ||
    [",", ";", "?", "=>", "=", "+", "/", "%", "^", ">", "<=", "!=", "-=", "*=", "&=", "|=",
      "<<="].any (startsWithSymbol · tokens)

/-- A range behind its start. -/
def rangeExpression (g : Grammar) (structures : Bool) (start : List Token) :
    Reader ExpressionRead := do
  let (mark, isClosed) ← rangeMark false
  if !isClosed && (← atRangeEnd structures) then return ⟨start ++ mark, .range⟩
  else return ⟨start ++ mark ++ (← rightOperand g structures .range).written, .range⟩

/-- Whether something comes next that cannot follow the type of a cast. -/
def atSuffix : Reader Bool := looking fun tokens =>
  (startsWithSymbol "." tokens && !startsWithSymbol ".." tokens) || startsWithSymbol "?" tokens ||
    startsWithGroup .bracket tokens || startsWithGroup .parenthesis tokens

/-- One operator of some level or above behind an expression, with its operand. -/
def operation (g : Grammar) (structures : Bool) (base : Level) (left : ExpressionRead) :
    Reader (Option ExpressionRead) := do
  if left.form == .range then return none
  match ← operator? with
  | some (s, level) =>
    if !level.reaches base then return none
    require !(level == .compare && left.form == .comparison)
    let mark ← takeSymbol s
    let right ← rightOperand g structures level
    return some ⟨left.written ++ mark ++ right.written,
      if level == .compare then .comparison else .other⟩
  | none =>
    if Level.assign.reaches base && (← atAssignment) then
      let mark ← takeSymbol "="
      let right ← rightOperand g structures .assign
      return some (.of (left.written ++ mark ++ right.written))
    else if Level.range.reaches base && (← atSymbol "..") then
      return some (← rangeExpression g structures left.written)
    else if Level.cast.reaches base && (← atWord "as") then
      let mark ← keyword "as"
      let type ← g.type false
      require !(← atSuffix)
      return some (.of (left.written ++ mark ++ type.written))
    else return none

/-- The operators of some level and above behind an expression, with their operands. -/
def operations (g : Grammar) (structures : Bool) (base : Level) (first : ExpressionRead) :
    Reader ExpressionRead :=
  extend (operation g structures base) first

end Reader

end Waybill.Code
