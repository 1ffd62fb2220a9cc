import Waybill.Code.Token

/-!
# Types in declarations

A type is kept as it is written, and looked into only as far as an operation depends on it: through
references and parentheses, and into the first argument of its last name. Names are compared as they
are written, so that `std::option::Option<T>` and `Option<T>` are the same, and a name of one's own
that happens to be `Option` counts as well.

## Main definitions

* `Waybill.Code.TypeExpr`, `Waybill.Code.TypeExpr.tokens`.
* `Waybill.Code.TypeExpr.argument?` — the argument of a type with a given name.
* `Waybill.Code.Scalar`, `Waybill.Code.TypeExpr.scalar?` — types that a literal can have.
-/

namespace Waybill.Code

/-- A type, as far as anything looks into it. -/
inductive TypeExpr where
  /-- A name behind a path, with its first argument if that is a type. -/
  | named (written : List Token) (name : String) (argument : Option TypeExpr)
  | reference (written : List Token) (target : TypeExpr)
  | grouped (written : List Token) (inner : TypeExpr)
  | unit
  | other (written : List Token)
deriving Repr

/-- Types that a literal can have. -/
inductive Scalar where
  | signedInteger
  | unsignedInteger
  | float
  | boolean
  | character
  /-- A borrowed text. -/
  | text
  /-- A text that is passed on for good. -/
  | ownedText
deriving DecidableEq, Repr

namespace Scalar

/-- The name of a family of scalar types. -/
def name : Scalar → String
  | signedInteger => "SignedInt"
  | unsignedInteger => "UnsignedInt"
  | float => "Float"
  | boolean => "Bool"
  | character => "Char"
  | text => "Str"
  | ownedText => "OwnedString"

/-- The scalar type with a name. -/
def ofName? (name : String) : Option Scalar :=
  if ["i8", "i16", "i32", "i64", "i128", "isize"].contains name then some signedInteger
  else if ["u8", "u16", "u32", "u64", "u128", "usize"].contains name then some unsignedInteger
  else if ["f32", "f64"].contains name then some float
  else if name == "bool" then some boolean
  else if name == "char" then some character
  else if name == "str" then some text
  else if name == "String" then some ownedText
  else none

/-- The type of a reference to a scalar: a borrowed text is never passed on for good. -/
def borrowed : Scalar → Scalar
  | ownedText => text
  | s => s

end Scalar

namespace TypeExpr

/-- A type as it is written. -/
def tokens : TypeExpr → List Token
  | named written _ _ => written
  | reference written _ => written
  | grouped written _ => written
  | unit => parentheses []
  | other written => written

/-- The argument of a type with the given name. -/
def argument? (type : TypeExpr) (name : String) : Option TypeExpr :=
  match type with
  | named _ written argument => if written == name then argument else none
  | _ => none

/-- The type of a value that may be missing. -/
def option? (type : TypeExpr) : Option TypeExpr := type.argument? "Option"

/-- The type of a value that a failure may replace. -/
def result? (type : TypeExpr) : Option TypeExpr := type.argument? "Result"

/-- Whether a value of the type may be missing. -/
def isOption (type : TypeExpr) : Bool := type.option?.isSome

/-- Whether values of the type are sequences. -/
def isVec (type : TypeExpr) : Bool := (type.argument? "Vec").isSome

/-- Whether the type has one value only. -/
def isUnit : TypeExpr → Bool
  | unit => true
  | _ => false

/-- The scalar type that a type is. If `through` is set, a type that may be missing counts as what
it may be; one inside another does not. -/
def scalarOf (through : Bool) : TypeExpr → Option Scalar
  | named _ name none => Scalar.ofName? name
  | named _ name (some inner) =>
    if through && name == "Option" then inner.scalarOf false else Scalar.ofName? name
  | reference _ target => (target.scalarOf true).map Scalar.borrowed
  | grouped _ inner => inner.scalarOf true
  | _ => none

/-- The scalar type that a type is, or may be. -/
def scalar? (type : TypeExpr) : Option Scalar := type.scalarOf true

end TypeExpr

end Waybill.Code
