import Waybill.Code.Token

/-!
# Reading code

A reader takes what it reads from the start of a sequence of tokens, or refuses the sequence. The
contents of a group are read by a reader of their own, which has to take all of them.

A symbol of one mark is met whatever follows it without a gap: `=` is met at the start of `==`.

## Main definitions

* `Waybill.Code.Reader` — readers.
* `Waybill.Code.Reader.identifier`, `Waybill.Code.Reader.keyword`, `Waybill.Code.Reader.takeSymbol`,
  `Waybill.Code.Reader.lifetime`, `Waybill.Code.Reader.constant` — single items.
* `Waybill.Code.Reader.many`, `Waybill.Code.Reader.extend`, `Waybill.Code.Reader.listUntil`,
  `Waybill.Code.Reader.listWhile` — several items. Each of them reads one token at least, so there
  are no more of them than tokens.
* `Waybill.Code.Reader.group`, `Waybill.Code.Reader.run` — whole sequences.
-/

namespace Waybill.Code

/-- Words that are no names. -/
def keywords : List String := [
  "_", "abstract", "as", "async", "await", "become", "box", "break", "const", "continue", "crate",
  "do", "dyn", "else", "enum", "extern", "false", "final", "fn", "for", "if", "impl", "in", "let",
  "loop", "macro", "match", "mod", "move", "mut", "override", "priv", "pub", "ref", "return",
  "Self", "self", "static", "struct", "super", "trait", "true", "try", "type", "typeof", "unsafe",
  "unsized", "use", "virtual", "where", "while", "yield"]

/-- Whether a word is a name. -/
def isName (word : String) : Bool := !keywords.contains word

/-- A word without the `r#` that makes a name of it. -/
def plainWord (w : String) : String :=
  match w.toList with
  | 'r' :: '#' :: name => String.ofList name
  | _ => w

/-- Readers of tokens. -/
abbrev Reader := StateT (List Token) Option

/-! ### How sequences start -/

/-- Whether a sequence starts with marks. -/
def startsWithMarks : List Char → List Token → Bool
  | [], _ => true
  | [c], .mark d _ :: _ => c == d
  | c :: more, .mark d joined :: rest => c == d && joined && startsWithMarks more rest
  | _, _ => false

/-- Whether a sequence starts with a symbol. -/
def startsWithSymbol (s : String) (tokens : List Token) : Bool := startsWithMarks s.toList tokens

/-- Whether a sequence starts with one of some words. -/
def startsWithWord (words : List String) : List Token → Bool
  | .word w :: _ => words.contains w
  | _ => false

/-- Whether a sequence starts with a name. -/
def startsWithName : List Token → Bool
  | .word w :: _ => isName w
  | _ => false

/-- Whether a sequence starts with a group. -/
def startsWithGroup (delimiter : Delimiter) : List Token → Bool
  | .group d _ :: _ => d == delimiter
  | _ => false

/-- Whether a sequence starts with a lifetime. -/
def startsWithLifetime : List Token → Bool
  | .mark '\'' true :: .word _ :: _ => true
  | _ => false

/-- A sequence without its first token, or without its first lifetime. -/
def skipOne : List Token → List Token
  | .mark '\'' true :: .word _ :: rest => rest
  | tokens => tokens.drop 1

namespace Reader

/-- The tokens that are left. -/
def rest : Reader (List Token) := get

/-- Refuses. -/
def refuse {α : Type} : Reader α := fun _ => none

/-- Refuses unless something holds. -/
def require (holds : Bool) : Reader Unit := if holds then pure () else refuse

/-- Whether nothing is left. -/
def atEnd : Reader Bool := return (← rest).isEmpty

/-- Any token. -/
def anyToken : Reader Token := fun
  | t :: rest => some (t, rest)
  | [] => none

/-- Any word, keywords among them. -/
def anyWord : Reader String := fun
  | .word name :: rest => some (name, rest)
  | _ => none

/-- A name. -/
def identifier : Reader String := fun
  | .word name :: rest => if isName name then some (name, rest) else none
  | _ => none

/-- Whether what is left satisfies a condition. -/
def looking (condition : List Token → Bool) : Reader Bool := return condition (← rest)

/-- Whether a word comes next. -/
def atWord (word : String) : Reader Bool := looking (startsWithWord [word])

/-- Whether one of some words comes next. -/
def atAnyOf (words : List String) : Reader Bool := looking (startsWithWord words)

/-- Whether a name comes next. -/
def atIdentifier : Reader Bool := looking startsWithName

/-- Whether a group comes next. -/
def atGroup (delimiter : Delimiter) : Reader Bool := looking (startsWithGroup delimiter)

/-- Whether a symbol comes next. -/
def atSymbol (s : String) : Reader Bool := looking (startsWithSymbol s)

/-- Whether a lifetime comes next. -/
def atLifetime : Reader Bool := looking startsWithLifetime

/-- A keyword, as tokens. -/
def keyword (word : String) : Reader (List Token) := do
  require (← atWord word)
  return [← anyToken]

/-- A keyword if it comes next. -/
def keyword? (word : String) : Reader (List Token) := do
  if ← atWord word then keyword word else pure []

/-- A symbol, as tokens. -/
def takeSymbol (s : String) : Reader (List Token) := do
  require (← atSymbol s)
  modify (·.drop s.length)
  return symbol s

/-- A symbol if it comes next. -/
def takeSymbol? (s : String) : Reader (List Token) := do
  if ← atSymbol s then takeSymbol s else pure []

/-- A lifetime, as tokens. -/
def lifetime : Reader (List Token) := fun
  | .mark '\'' true :: .word name :: rest => some ([.mark '\'' true, .word name], rest)
  | _ => none

/-- A lifetime if it comes next. -/
def lifetime? : Reader (List Token) := do
  if ← atLifetime then lifetime else pure []

/-- All of a sequence. -/
def run {α : Type} (reader : Reader α) (tokens : List Token) : Option α :=
  match reader tokens with
  | some (a, []) => some a
  | _ => none

/-- All that stands in a group. -/
def group {α : Type} (delimiter : Delimiter) (inner : Reader α) : Reader α := fun
  | .group d tokens :: rest =>
    if d == delimiter then (inner.run tokens).map fun a => (a, rest) else none
  | _ => none

/-- Any group, as a token. -/
def anyGroup : Reader Token := fun
  | .group d inner :: rest => some (.group d inner, rest)
  | _ => none

/-- What a reader takes, as it is. -/
def verbatim {α : Type} (reader : Reader α) : Reader (List Token) := do
  let before ← rest
  let _ ← reader
  return before.take (before.length - (← rest).length)

/-- What a reader takes: as the reader writes it, or as it is if the reader says so. -/
def eitherWay (reader : Reader (List Token × Bool)) : Reader (List Token) := do
  let before ← rest
  let (written, isKept) ← reader
  let after ← rest
  return if isKept then before.take (before.length - after.length) else written

/-! ### Several items -/

/-- Goes on from what has been read as long as there is a way, at most so many times. -/
def extendUpTo {α : Type} (step : α → Reader (Option α)) : Nat → α → Reader α
  | 0, a => pure a
  | n + 1, a => do
    match ← step a with
    | some b => extendUpTo step n b
    | none => return a

/-- Goes on from what has been read as long as there is a way. -/
def extend {α : Type} (step : α → Reader (Option α)) (a : α) : Reader α := do
  extendUpTo step ((← rest).length + 1) a

/-- Items as long as a condition holds. -/
def many {α : Type} (more : Reader Bool) (item : Reader α) : Reader (List α) := do
  let items ← extend (fun items => do
    if ← more then return some ((← item) :: items) else return none) []
  return items.reverse

/-- Items with a symbol between them, and perhaps behind the last one, up to where a condition
holds. Each comes with the symbol behind it. -/
def listUntil {α : Type} (stop : Reader Bool) (separator : String) (item : Reader α) :
    Reader (List (α × List Token)) :=
  many (return !(← stop)) do
    let a ← item
    if ← stop then return (a, []) else return (a, ← takeSymbol separator)

/-- Items with a symbol between them, and perhaps behind the last one, as long as the symbol comes
and a condition does not hold. -/
def listWhile {α : Type} (stop : Reader Bool) (separator : String) (item : Reader α) :
    Reader (List (α × List Token)) := do
  if ← stop then return []
  let first := (← item, ← takeSymbol? separator)
  let items ← extend (fun items => do
    match items with
    | (_, _ :: _) :: _ =>
      if ← stop then return none else return some ((← item, ← takeSymbol? separator) :: items)
    | _ => return none) [first]
  return items.reverse

/-- Tokens of items with the symbols behind them. -/
def joined (items : List (List Token × List Token)) : List Token :=
  items.flatMap fun (a, separator) => a ++ separator

/-! ### Items that nothing is nested in -/

/-- A literal, or a number with a sign. -/
def constant : Reader (List Token) := do
  let sign ← takeSymbol? "-"
  match ← anyToken with
  | .literal value =>
    require (sign.isEmpty || value.isNumber)
    return sign ++ [.literal value]
  | .word w => if sign.isEmpty && (w == "true" || w == "false") then return [.word w] else refuse
  | _ => refuse

/-- Whether a literal comes next. -/
def atConstant : Reader Bool := return (constant (← rest)).isSome

/-- A path of names without arguments, keywords of places among them. -/
def modulePath : Reader (List Token) := do
  let start ← takeSymbol? "::"
  let name : Reader (List Token) := do
    let word ← anyWord
    require (isName word || ["super", "self", "Self", "crate"].contains word)
    return [.word word]
  let first ← name
  let more ← many (atSymbol "::") (do return (← takeSymbol "::") ++ (← name))
  return start ++ first ++ more.flatten

/-- The calling convention of a function. -/
def convention? : Reader (List Token) := do
  if ← atWord "extern" then
    let start ← keyword "extern"
    match ← rest with
    | .literal value :: _ => do
      if value.text?.isSome then return start ++ [← anyToken] else return start
    | _ => return start
  else return []

end Reader

mutual

/-- The number of tokens in a token, itself included. -/
def Token.count : Token → Nat
  | .group _ inner => countTokens inner + 1
  | _ => 1

/-- The number of tokens in a sequence and its groups. -/
def countTokens : List Token → Nat
  | [] => 0
  | t :: rest => t.count + countTokens rest

end

end Waybill.Code
