import Waybill.Code.Reader

/-!
# Attributes

An attribute has a path and perhaps arguments in brackets or a value behind `=`. What the arguments
must be depends on the attribute: one text, entries `name = "text"`, or options of given names. The
readers here say what is wrong when they are something else.

## Main definitions

* `Waybill.Code.Attribute`, `Waybill.Code.Attribute.name?`.
* `Waybill.Code.ArgumentFault`, `Waybill.Code.ArgumentFault.message`.
* `Waybill.Code.Attribute.text`, `Waybill.Code.Attribute.entries`,
  `Waybill.Code.Attribute.options` — arguments of the three forms.
-/

namespace Waybill.Code

/-- What stands behind the path of an attribute. -/
inductive AttributeInput where
  | nothing
  | arguments (delimiter : Delimiter) (inner : List Token)
  | value (tokens : List Token)
deriving Repr

/-- An attribute; `encloses` says that it stands inside of what it describes. -/
structure Attribute where
  encloses : Bool
  path : List Token
  input : AttributeInput
deriving Repr

/-- What arguments should have been. -/
inductive Expected where
  | text
  | boolean
  | word
deriving DecidableEq, Repr

/-- What is wrong with the arguments of an attribute. -/
inductive ArgumentFault where
  /-- There are none. -/
  | missing (shape : String)
  /-- A value stands in their place. -/
  | assigned (shape : String)
  /-- Something else stands there, or nothing more. -/
  | expected (what : Expected) (atEnd : Bool)
  | expectedMark (c : Char)
  /-- Something follows them. -/
  | trailing
  /-- A literal stands in place of an option's name. -/
  | literalOption
  /-- Something else stands there. -/
  | markOption
  /-- The path of an option ends too early. -/
  | noOption
  /-- No option has this name; the names that options have are given. -/
  | unknownOption (known : String)
  /-- The text of an option is not accepted. -/
  | refused (reason : String)
deriving DecidableEq, Repr

/-- The wording of an expectation. -/
def Expected.message : Expected → String
  | .text => "expected string literal"
  | .boolean => "expected boolean literal"
  | .word => "expected ident"

/-- What is said about the end of a sequence where more is expected. -/
def endOfInput (message : String) : String := "unexpected end of input, " ++ message

/-- The wording of a fault. -/
def ArgumentFault.message : ArgumentFault → String
  | missing shape => "expected attribute arguments in parentheses: " ++ shape
  | assigned shape => "expected parentheses: " ++ shape
  | expected what atEnd => if atEnd then endOfInput what.message else what.message
  | expectedMark c => "expected `" ++ c.toString ++ "`"
  | trailing => "unexpected token"
  | literalOption => "unexpected literal in nested attribute, expected ident"
  | markOption => "unexpected token in nested attribute, expected ident"
  | noOption => endOfInput "expected nested attribute"
  | unknownOption known => known
  | refused reason => reason

/-- Readers of arguments. -/
abbrev ArgumentReader := StateT (List Token) (Except ArgumentFault)

namespace ArgumentReader

/-- A text. -/
def text : ArgumentReader String := fun
  | .literal l :: rest =>
    match l.text? with
    | some s => .ok (s, rest)
    | none => .error (.expected .text false)
  | tokens => .error (.expected .text tokens.isEmpty)

/-- `true` or `false`. -/
def boolean : ArgumentReader Bool := fun
  | .word w :: rest =>
    if w == "true" then .ok (true, rest)
    else if w == "false" then .ok (false, rest)
    else .error (.expected .boolean false)
  | tokens => .error (.expected .boolean tokens.isEmpty)

/-- A mark, whatever follows it without a gap. -/
def mark (c : Char) : ArgumentReader Unit := fun
  | .mark d _ :: rest => if c == d then .ok ((), rest) else .error (.expectedMark c)
  | _ => .error (.expectedMark c)

/-- A word, keywords among them. -/
def word : ArgumentReader String := fun
  | .word w :: rest => .ok (w, rest)
  | tokens => .error (.expected .word tokens.isEmpty)

/-- The names of a path behind its first one. -/
def pathRest : Nat → List String → ArgumentReader (List String)
  | 0, names => pure names
  | count + 1, names => do
    if startsWithMarks [':', ':'] (← get) then
      modify (·.drop 2)
      pathRest count (names ++ [← word])
    else return names

/-- The path of an option: its name if it is one word. -/
def optionName : ArgumentReader (Option String) := do
  let rooted := startsWithMarks [':', ':'] (← get)
  if rooted then modify (·.drop 2)
  match ← get with
  | .word first :: rest =>
    set rest
    let names ← pathRest rest.length [first]
    return if rooted || names.length != 1 then none else some first
  | [] => throw .noOption
  | tokens => throw (if (Reader.constant tokens).isSome then .literalOption else .markOption)

/-- Options with commas, read one by one; `read` has what the options before say, and reads what
follows the name of one. -/
def options {σ : Type} (read : σ → Option String → ArgumentReader σ) :
    Nat → σ → ArgumentReader σ
  | 0, state => pure state
  | count + 1, state => do
    let state ← read state (← optionName)
    if (← get).isEmpty then return state
    mark ','
    if (← get).isEmpty then return state
    options read count state

/-- An entry: a name, which may be a text or a word with underscores for hyphens, and a text. -/
def entry : ArgumentReader (String × String) := do
  let name ← match ← get with
    | .literal l :: rest =>
      match l.text? with
      | some s => do
        set rest
        pure s
      | none => word
    | _ => do
      let name := (plainWord (← word)).toList
      pure (String.ofList (name.map fun c => if c == '_' then '-' else c))
  mark '='
  return (name, ← text)

/-- Entries with commas. -/
def entries : Nat → ArgumentReader (List (String × String))
  | 0 => pure []
  | count + 1 => do
    if (← get).isEmpty then return []
    let first ← entry
    if (← get).isEmpty then return [first]
    mark ','
    return first :: (← entries count)

/-- All of a sequence. -/
def run {α : Type} (reader : ArgumentReader α) (tokens : List Token) : Except ArgumentFault α :=
  match reader tokens with
  | .ok (a, []) => .ok a
  | .ok (_, _ :: _) => .error .trailing
  | .error fault => .error fault

end ArgumentReader

namespace Attribute

/-- The name of an attribute, if its path is one word. -/
def name? (a : Attribute) : Option String :=
  match a.path with
  | [.word name] => some name
  | _ => none

/-- Whether an attribute has a name. -/
def isNamed (a : Attribute) (name : String) : Bool := a.name? == some name

/-- An attribute as it is written. -/
def tokens (a : Attribute) : List Token :=
  symbol "#" ++ (if a.encloses then symbol "!" else []) ++ brackets (a.path ++
    match a.input with
    | .nothing => []
    | .arguments delimiter inner => [.group delimiter inner]
    | .value tokens => symbol "=" ++ tokens)

/-- An attribute with parentheses to be filled in. -/
def shape (a : Attribute) : String :=
  (if a.encloses then "#![" else "#[") ++ (a.name?.getD "?") ++ "(...)]"

/-- The arguments of an attribute, all of them read by a reader. -/
def read {α : Type} (a : Attribute) (reader : ArgumentReader α) : Except ArgumentFault α :=
  match a.input with
  | .nothing => .error (.missing a.shape)
  | .value _ => .error (.assigned a.shape)
  | .arguments _ inner => reader.run inner

/-- The one text that an attribute has. -/
def text (a : Attribute) : Except ArgumentFault String := a.read ArgumentReader.text

/-- The entries that an attribute has. -/
def entries (a : Attribute) : Except ArgumentFault (List (String × String)) :=
  a.read fun tokens => ArgumentReader.entries (tokens.length + 1) tokens

/-- Options in a sequence, which may be empty. -/
def optionsOf {σ : Type} (state : σ) (step : σ → Option String → ArgumentReader σ) :
    ArgumentReader σ := fun tokens =>
  if tokens.isEmpty then .ok (state, tokens)
  else ArgumentReader.options step (tokens.length + 1) state tokens

/-- What the options of an attribute say, starting from what holds without them. -/
def options {σ : Type} (a : Attribute) (state : σ)
    (step : σ → Option String → ArgumentReader σ) : Except ArgumentFault σ :=
  a.read (optionsOf state step)

/-- The attribute with a text for its argument. -/
def ofText (name text : String) : Attribute :=
  ⟨false, [.word name], .arguments .parenthesis [textLiteral text]⟩

@[simp] theorem text_ofText (name text : String) : (ofText name text).text = .ok text := by
  simp [ofText, Attribute.text, read, ArgumentReader.run, ArgumentReader.text, textLiteral]

end Attribute

end Waybill.Code
