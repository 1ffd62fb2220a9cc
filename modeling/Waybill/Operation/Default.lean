import Waybill.Code.Lexer
import Waybill.Code.TypeExpr
import Waybill.Datum

/-!
# Defaults as literals

A placeholder's default is a text of the template. Where a call leaves the argument out, generated
code passes a literal of the parameter's type instead, which has to stand for that text. A parameter
whose argument may be missing is passed no value, and the template fills its default in.

## Main definitions

* `Waybill.DefaultValue`, `Waybill.DefaultValue.tokens`, `Waybill.DefaultValue.value?`.
* `Waybill.DefaultValue.ofText?` — the literal of a type for a default.
-/

namespace Waybill

open Code (Token TypeExpr Scalar Literal)

/-- What generated code passes for an argument that is left out. -/
inductive DefaultValue where
  /-- No value; the template fills its default in. -/
  | absent
  | integer (negative : Bool) (literal : Literal)
  | float (negative : Bool) (written : String)
  | boolean (value : Bool)
  | character (value : Char)
  | text (value : String)
  | ownedText (value : String)
deriving DecidableEq, Repr

namespace DefaultValue

/-- A literal with a sign, if it is negative. -/
def signed (negative : Bool) (literal : Literal) : List Token :=
  (if negative then Code.symbol "-" else []) ++ [.literal literal]

/-- A default as generated code writes it. -/
def tokens : DefaultValue → List Token
  | absent => Code.code "::std::option::Option::None"
  | integer negative literal => signed negative literal
  | float negative written => signed negative ⟨written, .decimal ""⟩
  | boolean value => [.word (Datum.ofBool value)]
  | character value => [.literal (.ofChar value)]
  | text value => [Code.textLiteral value]
  | ownedText value =>
    Code.code "::std::string::String::from" ++ Code.parentheses [Code.textLiteral value]

/-- The value that a default stands for as an argument. -/
def value? : DefaultValue → Option Datum
  | absent => some .absent
  | integer negative literal =>
    match literal.value with
    | .integer n _ => some (.integer (if negative then -n else n))
    | _ => none
  | float negative written =>
    (Decimal.read? .double (String.ofList ((if negative then ['-'] else []) ++
      written.toList.filter (· != '_')))).map Datum.double
  | boolean value => some (.boolean value)
  | character value => some (.character value)
  | text value => some (.text value)
  | ownedText value => some (.text value)

/-- The only token of a text, if it is a literal and the text starts with a digit. -/
def numeral? (text : List Char) : Option Literal :=
  match text with
  | c :: _ =>
    if c.isDigit then
      match Code.lex (String.ofList text) with
      | some [.literal l] => some l
      | _ => none
    else none
  | [] => none

/-- A text without the sign before it. -/
def splitSign : List Char → Bool × List Char
  | '-' :: rest => (true, rest)
  | cs => (false, cs)

/-- The integer literal for a default. -/
def integer? (allowNegative : Bool) (text : List Char) : Option DefaultValue := do
  let (negative, digits) := if allowNegative then splitSign text else (false, text)
  let l ← numeral? digits
  match l.value with
  | .integer _ "" => some (integer negative l)
  | _ => none

/-- The floating-point literal for a default. A whole number is written in base ten and gets a
fraction. -/
def float? (text : List Char) : Option DefaultValue := do
  let (negative, digits) := splitSign text
  let l ← numeral? digits
  match l.value with
  | .decimal "" => some (float negative l.written)
  | .integer n "" => some (float negative (toString n ++ ".0"))
  | _ => none

/-- The literal of a scalar type for a default. -/
def ofScalar? (scalar : Scalar) (default : String) : Option DefaultValue :=
  match scalar with
  | .signedInteger => integer? true default.toList
  | .unsignedInteger => integer? false default.toList
  | .float => float? default.toList
  | .boolean =>
    if default == "true" then some (boolean true)
    else if default == "false" then some (boolean false)
    else none
  | .character =>
    match default.toList with
    | [c] => some (character c)
    | _ => none
  | .text => some (text default)
  | .ownedText => some (ownedText default)

/-- What is passed to a parameter of a type for a default, if the default is a literal of the
type. -/
def ofText? (type : TypeExpr) (default : String) : Option DefaultValue := do
  let literal ← ofScalar? (← type.scalar?) default
  return if type.isOption then absent else literal

end DefaultValue

end Waybill
