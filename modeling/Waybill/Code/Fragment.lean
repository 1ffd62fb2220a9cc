import Waybill.Code.Lexer

/-!
# Fragments of code

Generated code is put together from fixed texts, names and values. This module has the forms that it
uses again and again.

## Main definitions

* `Waybill.Code.named`, `Waybill.Code.quoted`, `Waybill.Code.reference` — names and texts.
* `Waybill.Code.call`, `Waybill.Code.methodCall` — calls.
* `Waybill.Code.paragraphs` — documentation.
-/

namespace Waybill.Code

/-- A name. -/
def named (name : String) : List Token := [.word name]

/-- A text between quotes. -/
def quoted (text : String) : List Token := [textLiteral text]

/-- A reference to what a name stands for. -/
def reference (name : String) : List Token := symbol "&" ++ named name

/-- A call with arguments. -/
def call (function : List Token) (arguments : List (List Token)) : List Token :=
  function ++ parentheses (separated "," arguments)

/-- A call of a method of what a name stands for. -/
def methodCall (receiver method : String) (arguments : List (List Token)) : List Token :=
  call (named receiver ++ symbol "." ++ named method) arguments

/-- Lines of documentation without quotes and backslashes, as attributes. A line that is not empty
starts with a space. -/
def paragraphs (lines : List String) : List Token :=
  lines.flatMap fun line =>
    let text := if line.isEmpty then line else " " ++ line
    symbol "#" ++ brackets (named "doc" ++ symbol "=" ++ [.literal (.verbatim text)])

end Waybill.Code
