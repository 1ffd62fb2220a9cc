import Waybill.Code.Item.Read

/-!
# Statements

A block has statements: items, bindings of values, invocations of macros and expressions. An
expression that ends in a block needs no semicolon behind it, and the last expression of a block
none either.

## Main definitions

* `Waybill.Code.Reader.statements` — the statements of a block.
-/

namespace Waybill.Code.Reader

/-- A value with a name. What stands behind `else` is for a value that is not bound. -/
def letStatement (g : Grammar) : Reader (List Token) := do
  let start := (← keyword "let") ++ (← g.binding).written
  let colon ← takeSymbol? ":"
  let type ← if colon.isEmpty then pure [] else typeTokens g
  let equals ← takeSymbol? "="
  let value ← if equals.isEmpty then pure [] else expression g true
  let endsWithBlock := match value.getLast? with
    | some (.group .brace _) => true
    | _ => false
  let word ← if equals.isEmpty || endsWithBlock then pure [] else keyword? "else"
  let otherwise ← if word.isEmpty then pure [] else block g
  return start ++ colon ++ type ++ equals ++ value ++ word ++ otherwise ++ (← takeSymbol ";")

/-- What an invocation of a macro at the start of a statement is. -/
inductive MacroForm where
  | item
  | statement

/-- The form of the invocation of a macro that comes next, unless it is a part of an expression or
there is none. -/
def macroForm? : Reader (Option MacroForm) := do
  match modulePath (← rest) with
  | some (_, .mark '!' _ :: next) =>
    let after := next.drop 1
    let goesOn := (startsWithSymbol "." after && !startsWithSymbol ".." after) ||
      startsWithSymbol "?" after
    if startsWithName next || startsWithWord ["try"] next then return some .item
    else if startsWithGroup .brace next && !goesOn then return some .statement
    else return none
  | _ => return none

/-- Whether an item comes next that is no macro. -/
def startsWithItem (tokens : List Token) : Bool :=
  let next := tokens.drop 1
  let third := next.drop 1
  startsWithWord ["pub", "extern", "use", "fn", "mod", "type", "struct", "enum", "trait", "impl",
    "macro"] tokens ||
  (startsWithWord ["crate"] tokens && !startsWithSymbol "::" next) ||
  (startsWithWord ["static"] tokens && (startsWithWord ["mut"] next || startsWithName next)) ||
  (startsWithWord ["const"] tokens && !(startsWithGroup .brace next ||
    startsWithWord ["static", "move"] next || startsWithSymbol "|" next ||
    (startsWithWord ["async"] next && !startsWithWord ["unsafe", "extern", "fn"] third))) ||
  (startsWithWord ["unsafe"] tokens && !startsWithGroup .brace next) ||
  (startsWithWord ["async"] tokens && startsWithWord ["unsafe", "extern", "fn"] next) ||
  (startsWithWord ["union"] tokens && startsWithName next) ||
  (startsWithWord ["auto"] tokens && startsWithWord ["trait"] next) ||
  (startsWithWord ["default"] tokens && startsWithWord ["unsafe", "impl"] next)

/-- A statement, and whether nothing may follow it but the end of the block. -/
def statement (g : Grammar) : Reader (List Token × Bool) := do
  let before ← rest
  let attributes ← attributeTokens g
  let form ← macroForm?
  if form matches some .statement then
    let path ← modulePath
    let (inner, _) ← invocation
    return (attributes ++ path ++ inner ++ (← takeSymbol? ";"), false)
  else if ← atWord "let" then return (attributes ++ (← letStatement g), false)
  else if (form matches some .item) || (← looking startsWithItem) then
    set before
    return (← g.item, false)
  else
    let e ← g.leading
    let semicolon ← takeSymbol? ";"
    let isDone := match e.form with
      | .block | .invocation true => true
      | _ => !semicolon.isEmpty
    return (attributes ++ e.written ++ semicolon, !isDone)

/-- The statements of a block. -/
def statements (g : Grammar) : Reader (List Token) := do
  let all ← many (return !(← atEnd)) do
    if ← atSymbol ";" then takeSymbol ";"
    else
      let (written, isLast) ← statement g
      require (!isLast || (← atEnd))
      return written
  return all.flatten

end Waybill.Code.Reader
