import Waybill.Code.Expression.Read
import Waybill.Code.Item.Signature

/-!
# Reading items

An item declares something for the block or the module around it: a function, a constant, a type, a
module, names of others, or what a macro makes. An item that lacks something, such as a constant
without a value, or has something that is only planned for the language, is kept as it is written.

## Main definitions

* `Waybill.Code.Reader.item` — an item.
* `Waybill.Code.Reader.traitItem`, `Waybill.Code.Reader.trait` — a trait and what it declares.
-/

namespace Waybill.Code.Reader

/-! ### Constants, types and names -/

/-- A name, or an underscore. -/
def nameOrBlank : Reader (List Token) := do
  if ← atWord "_" then keyword "_" else return [.word (← identifier)]

/-- The value behind an equals sign, if there is one. -/
def assigned? (g : Grammar) : Reader (List Token) := do
  let equals ← takeSymbol? "="
  if equals.isEmpty then return [] else return equals ++ (← expression g true)

/-- What an item is: its tokens as they are written again, whether it lacks something, and whether
it has something that is only planned. -/
structure ItemRead where
  written : List Token
  lacks : Bool
  isPlanned : Bool

/-- An item as it has to be. -/
def ItemRead.plain (written : List Token) : ItemRead := ⟨written, false, false⟩

/-- A constant. It may lack a value; parameters and conditions of constants are planned. -/
def constantItem (g : Grammar) : Reader ItemRead := do
  let start := (← keyword "const") ++ (← nameOrBlank)
  let isGeneric ← atSymbol "<"
  let parameters ← generics g
  let colon ← takeSymbol ":"
  let type ← typeTokens g
  let value ← assigned? g
  let conditions ← conditions? g
  let written := start ++ parameters ++ colon ++ type ++ value ++ conditions.getD []
  return ⟨written ++ (← takeSymbol ";"), value.isEmpty, isGeneric || conditions.isSome⟩

/-- A value with a place of its own. It may lack its type or its value. -/
def staticItem (g : Grammar) : Reader ItemRead := do
  let start := (← keyword "static") ++ (← keyword? "mut") ++ [.word (← identifier)]
  let colon ← takeSymbol? ":"
  let type ← if colon.isEmpty then pure [] else typeTokens g
  let value ← assigned? g
  require (!colon.isEmpty || !value.isEmpty)
  return ⟨start ++ colon ++ type ++ value ++ (← takeSymbol ";"), colon.isEmpty || value.isEmpty,
    false⟩

/-- Where the conditions of a name for a type may stand: in front of the type, or behind it. -/
structure ConditionPlaces where
  before : Bool
  behind : Bool

/-- A name for a type. -/
structure TypeItemRead where
  written : List Token
  hasColon : Bool
  hasType : Bool

/-- A name for a type, which may have bounds, and a type that it is a name for. -/
def typeItem (g : Grammar) (places : ConditionPlaces) : Reader TypeItemRead := do
  let start := (← keyword "type") ++ [.word (← identifier)] ++ (← generics g)
  let hasColon ← atSymbol ":"
  let stop : Reader Bool := return (← atWord "where") || (← atSymbol "=") || (← atSymbol ";")
  let bounds ← bounded? do
    return joined (← listUntil stop "+" (return (← g.bound false true).written))
  let first ← if places.before then conditions? g else pure none
  let equals ← takeSymbol? "="
  let type ← if equals.isEmpty then pure [] else typeTokens g
  let second ← if places.behind && first.isNone then conditionTokens g else pure []
  let written := start ++ bounds ++ first.getD [] ++ equals ++ type ++ second
  return ⟨written ++ (← takeSymbol ";"), hasColon, !equals.isEmpty⟩

/-- A name for a type that has to be given and has no bounds. -/
def namedType (g : Grammar) (places : ConditionPlaces) : Reader ItemRead := do
  let item ← typeItem g places
  return ⟨item.written, !item.hasType, item.hasColon⟩

/-- Another name, if one is given. -/
def renamed? : Reader (List Token) := do
  if ← atWord "as" then return (← keyword "as") ++ (← nameOrBlank) else return []

/-- A tree of names that are brought into scope. With `roots`, the trees in its groups may be
rooted; the answer says whether any is. -/
def names (g : Grammar) (roots : Bool) : Reader (List Token × Bool) := do
  if ← atSymbol "*" then return (← takeSymbol "*", false)
  else if ← atGroup .brace then
    let all ← group .brace (listUntil atEnd "," do
      let root ← if roots then takeSymbol? "::" else pure []
      let (tree, isRooted) ← g.names (roots && root.isEmpty)
      return (root ++ tree, isRooted || !root.isEmpty))
    let written := all.flatMap fun ((tree, _), comma) => tree ++ comma
    return (braces written, all.any fun ((_, isRooted), _) => isRooted)
  else
    let word ← anyWord
    require (isName word || ["self", "super", "crate", "try"].contains word)
    if ← atSymbol "::" then
      let mark ← takeSymbol "::"
      return (.word word :: mark ++ (← g.names false).1, false)
    else return (.word word :: (← renamed?), false)

/-- Names that are brought into scope. That trees in groups are rooted is planned. -/
def namesItem (g : Grammar) : Reader ItemRead := do
  let start := (← keyword "use") ++ (← takeSymbol? "::")
  let (tree, isRooted) ← names g (start.length == 1)
  return ⟨start ++ tree ++ (← takeSymbol ";"), false, isRooted⟩

/-- What a macro makes of what it is handed. -/
def macroItem (isNamed : Bool) : Reader ItemRead := do
  require !(← atWord "Self")
  let path ← modulePath
  let mark ← takeSymbol "!"
  let name ← if isNamed && ((← atIdentifier) || (← atWord "try")) then verbatim anyWord else pure []
  let isBraced ← atGroup .brace
  let inner ← anyGroup
  let stop ← if isBraced then pure [] else takeSymbol ";"
  return .plain (path ++ mark ++ name ++ [inner] ++ stop)

/-! ### Structures -/

/-- A field of a structure with names. A field without a name may be a structure itself, which is
kept as it is written. -/
def namedField (g : Grammar) : Reader (List Token) := do
  let start := (← attributeTokens g) ++ (← visibility)
  let isBlank ← atWord "_"
  let name ← nameOrBlank
  let colon ← takeSymbol ":"
  let isNested ← looking fun tokens => startsWithWord ["struct"] tokens ||
    (startsWithWord ["union"] tokens && startsWithGroup .brace (tokens.drop 1))
  let type ← if isBlank && isNested then verbatim do
      let _ ← anyWord
      let _ ← g.fields
    else typeTokens g
  return start ++ name ++ colon ++ type

/-- A field of a structure without names. -/
def plainField (g : Grammar) : Reader (List Token) := do
  let start := (← attributeTokens g) ++ (← visibility)
  return start ++ (← typeTokens g)

/-- Fields with names. -/
def namedFields (g : Grammar) : Reader (List Token) :=
  return braces (joined (← group .brace (listUntil atEnd "," (namedField g))))

/-- Fields without names. -/
def plainFields (g : Grammar) : Reader (List Token) :=
  return parentheses (joined (← group .parenthesis (listUntil atEnd "," (plainField g))))

/-- A structure. -/
def structureItem (g : Grammar) : Reader (List Token) := do
  let start := (← keyword "struct") ++ [.word (← identifier)] ++ (← generics g)
  let first ← conditions? g
  if first.isNone && (← atGroup .parenthesis) then
    return start ++ (← plainFields g) ++ (← conditionTokens g) ++ (← takeSymbol ";")
  else if ← atGroup .brace then return start ++ first.getD [] ++ (← namedFields g)
  else return start ++ first.getD [] ++ (← takeSymbol ";")

/-- One of the forms of a value. -/
def variant (g : Grammar) : Reader (List Token) := do
  let start ← attributeTokens g
  let _ ← visibility
  let name ← identifier
  let fields ← if ← atGroup .brace then namedFields g
    else if ← atGroup .parenthesis then plainFields g else pure []
  return start ++ [.word name] ++ fields ++ (← assigned? g)

/-- A type by the forms of its values. -/
def variantsItem (g : Grammar) : Reader (List Token) := do
  let start := (← keyword "enum") ++ [.word (← identifier)] ++ (← generics g)
  let conditions ← conditionTokens g
  return start ++ conditions ++
    braces (joined (← group .brace (listUntil atEnd "," (variant g))))

/-- A type whose values share their place. -/
def unionItem (g : Grammar) : Reader (List Token) := do
  let start := (← keyword "union") ++ [.word (← identifier)] ++ (← generics g)
  return start ++ (← conditionTokens g) ++ (← namedFields g)

/-! ### Traits -/

/-- A function of a trait, as tokens and as a declaration. Attributes in its body are its own. -/
def traitFunction (g : Grammar) (attributes : List Attribute) :
    Reader (List Token × MethodDeclaration) := do
  let (written, declaration) ← signature g false
  if ← atGroup .brace then
    let (inner, body) ← group .brace (do return (← innerAttributes g, ← g.statements))
    return (written ++ braces (inner.flatMap Attribute.tokens ++ body),
      { declaration with attributes := attributes ++ inner, hasBody := true })
  else return (written ++ (← takeSymbol ";"), { declaration with attributes })

/-- An item of a trait that is no function, behind what stands in front of it. -/
def traitMember (g : Grammar) (isPlain : Bool) : Reader ItemRead := do
  if ← atWord "const" then return { ← constantItem g with lacks := false }
  else if ← atWord "type" then return .plain (← typeItem g ⟨false, true⟩).written
  else
    require isPlain
    macroItem false

/-- An item of a trait, as tokens and as a declaration. A function with a visibility or a mark of
its own is no plain one. -/
def traitItem (g : Grammar) : Reader (List Token × TraitItem) := do
  let before ← rest
  let attributes ← attributes g
  let marks := (← visibility) ++ (← keyword? "default")
  let start := attributes.flatMap Attribute.tokens ++ marks
  let (written, isKept, declared) ←
    if ← atFunction false then do
      let (written, method) ← traitFunction g attributes
      pure (written, !marks.isEmpty, if marks.isEmpty then TraitItem.method method else .other)
    else do
      let member ← traitMember g marks.isEmpty
      pure (member.written, !marks.isEmpty || member.isPlanned, TraitItem.other)
  let kept := before.take (before.length - (← rest).length)
  return (if isKept then kept else start ++ written, declared)

/-- A trait behind its attributes and its visibility, as tokens and as a declaration. -/
def trait (g : Grammar) (attributes : List Attribute) (visibility : List Token) :
    Reader (List Token × TraitDeclaration) := do
  let isUnsafe ← keyword? "unsafe"
  let isAuto ← keyword? "auto"
  let start := isUnsafe ++ isAuto ++ (← keyword "trait")
  let name ← identifier
  let parameters ← generics g
  let colon ← takeSymbol? ":"
  let stop : Reader Bool := return (← atWord "where") || (← atGroup .brace)
  let bounds ← if colon.isEmpty then pure []
    else listUntil stop "+" (return (← g.bound false true).written)
  let conditions ← conditions? g
  let (inner, items) ← group .brace do
    let inner ← innerAttributes g
    return (inner, ← many (return !(← atEnd)) (traitItem g))
  let written := start ++ [.word name] ++ parameters ++
    (if bounds.isEmpty then [] else colon ++ joined bounds) ++ conditions.getD [] ++
    braces (inner.flatMap Attribute.tokens ++ items.flatMap (·.1))
  return (visibility ++ written, {
    attributes := attributes ++ inner
    visibility
    isUnsafe := !isUnsafe.isEmpty
    isAuto := !isAuto.isEmpty
    name
    isGeneric := !parameters.isEmpty || conditions.isSome
    bounds := bounds.map (·.1)
    items := items.map (·.2) })

/-- Another name for bounds. -/
def traitAlias (g : Grammar) : Reader (List Token) := do
  let start := (← keyword "trait") ++ [.word (← identifier)] ++ (← generics g) ++ (← takeSymbol "=")
  let stop : Reader Bool := return (← atWord "where") || (← atSymbol ";")
  let bounds ← listUntil stop "+" (return (← g.bound false true).written)
  return start ++ joined bounds ++ (← conditionTokens g) ++ (← takeSymbol ";")

/-- A trait, or another name for bounds. -/
def traitDefinition (g : Grammar) : Reader ItemRead := do
  match traitAlias g (← rest) with
  | some (written, tokens) =>
    set tokens
    return .plain written
  | none => return .plain (← trait g [] []).1

/-! ### Implementations and modules -/

/-- A function, which may lack its body. -/
def function (g : Grammar) : Reader ItemRead := do
  let (written, _) ← signature g false
  if ← atSymbol ";" then return ⟨written ++ (← takeSymbol ";"), true, false⟩
  else return .plain (written ++ (← attributedBlock g))

/-- Items up to the end, with the attributes of what is around them. -/
def itemsToEnd (g : Grammar) (one : Reader (List Token)) : Reader (List Token) := do
  let attributes ← innerAttributeTokens g
  return attributes ++ (← many (return !(← atEnd)) one).flatten

/-- What stands in front of an item, and whether anything does but attributes. -/
def itemStart (g : Grammar) (marks : Reader (List Token)) : Reader (List Token × Bool) := do
  let attributes ← attributeTokens g
  let marks := (← visibility) ++ (← marks)
  return (attributes ++ marks, !marks.isEmpty)

/-- The mark of an item that may be replaced. -/
def default? : Reader (List Token) := do
  if ← looking fun tokens => startsWithSymbol "!" (tokens.drop 1) then return []
  else keyword? "default"

/-- An item of an implementation. -/
def implementationItem (g : Grammar) : Reader (List Token) := eitherWay do
  let (start, isMarked) ← itemStart g default?
  let item ←
    if ← atFunction false then function g
    else if ← atWord "const" then constantItem g
    else if ← atWord "type" then namedType g ⟨false, true⟩
    else do
      require !isMarked
      macroItem false
  return (start ++ item.written, item.lacks || item.isPlanned)

/-- An implementation of a trait, which may be denied, or of functions of a type. Constant ones and
those of anything but a path are planned. -/
def implementation (g : Grammar) : Reader ItemRead := do
  let start := (← keyword? "default") ++ (← keyword? "unsafe") ++ (← keyword "impl")
  let parameters ← if ← looking startsWithParameters then generics g else pure []
  let isConst ← looking fun tokens => startsWithWord ["const"] tokens ||
    (startsWithSymbol "?" tokens && startsWithWord ["const"] (tokens.drop 1))
  let const ← if isConst then do pure ((← takeSymbol? "?") ++ (← keyword "const")) else pure []
  let isDenied ← looking fun tokens =>
    startsWithSymbol "!" tokens && !startsWithGroup .brace (tokens.drop 1)
  let mark ← if isDenied then takeSymbol "!" else pure []
  let first ← g.type true
  let word ← keyword? "for"
  require (!isDenied || !word.isEmpty)
  let second ← if word.isEmpty then pure [] else typeTokens g
  let conditions ← conditionTokens g
  let inner ← group .brace (itemsToEnd g (implementationItem g))
  let isTrait := first.form == .single || first.form == .path
  return ⟨start ++ parameters ++ const ++ mark ++ first.written ++ word ++ second ++ conditions ++
    braces inner, false, isConst || (!word.isEmpty && !isTrait)⟩

/-- A value with a place of its own elsewhere. That it has a value, or a word for how safe it is, is
planned. -/
def foreignStatic (g : Grammar) : Reader ItemRead := do
  let mark ← if ← atWord "unsafe" then keyword "unsafe" else keyword? "safe"
  let start := mark ++ (← keyword "static") ++ (← keyword? "mut") ++ [.word (← identifier)]
  let colon ← takeSymbol ":"
  let type ← typeTokens g
  let value ← assigned? g
  return ⟨start ++ colon ++ type ++ value ++ (← takeSymbol ";"), false,
    !mark.isEmpty || !value.isEmpty⟩

/-- A function elsewhere. That it has a body, or is said to be safe, is planned. -/
def foreignFunction (g : Grammar) : Reader ItemRead := do
  let isSafe ← looking fun tokens => (qualifiers true tokens).any fun (q, _) => !q.isSafe.isEmpty
  let (written, _) ← signature g true
  if ← atGroup .brace then return ⟨written ++ (← attributedBlock g), false, true⟩
  else return ⟨written ++ (← takeSymbol ";"), false, isSafe⟩

/-- An item of code elsewhere. -/
def foreignItem (g : Grammar) : Reader (List Token) := eitherWay do
  let (start, isMarked) ← itemStart g (return [])
  let atStatic ← looking fun tokens => startsWithWord ["static"] tokens ||
    (startsWithWord ["unsafe", "safe"] tokens && startsWithWord ["static"] (tokens.drop 1))
  let item ←
    if ← atFunction true then foreignFunction g
    else if atStatic then foreignStatic g
    else if ← atWord "type" then do
      let item ← typeItem g ⟨true, true⟩
      pure ⟨item.written, false, item.hasColon || item.hasType⟩
    else do
      require !isMarked
      macroItem false
  return (start ++ item.written, item.isPlanned)

/-- Items of code elsewhere, or the name of such code. -/
def foreign (g : Grammar) : Reader ItemRead := do
  let start ← keyword? "unsafe"
  if start.isEmpty && (← looking fun tokens => startsWithWord ["crate"] (tokens.drop 1)) then
    let start := (← keyword "extern") ++ (← keyword "crate")
    let name ← if ← atWord "self" then anyWord else identifier
    return .plain (start ++ [.word name] ++ (← renamed?) ++ (← takeSymbol ";"))
  else
    let convention ← convention?
    require !convention.isEmpty
    let inner ← group .brace (itemsToEnd g (foreignItem g))
    return .plain (start ++ convention ++ braces inner)

/-- A module. -/
def module (g : Grammar) : Reader ItemRead := do
  let start := (← keyword? "unsafe") ++ (← keyword "mod")
  let name ← if ← atWord "try" then anyWord else identifier
  if ← atSymbol ";" then return .plain (start ++ [.word name] ++ (← takeSymbol ";"))
  else
    let inner ← group .brace (itemsToEnd g g.item)
    return .plain (start ++ [.word name] ++ braces inner)

/-- A macro by its rules, which is planned. -/
def macroDefinition : Reader ItemRead := do
  let start := (← keyword "macro") ++ [.word (← identifier)]
  let parameters ← if ← atGroup .parenthesis then verbatim anyGroup else pure []
  require (← atGroup .brace)
  return ⟨start ++ parameters ++ [← anyGroup], false, true⟩

/-! ### Items -/

/-- An item behind its attributes and its visibility. What a macro makes has no visibility of its
own. -/
def bareItem (g : Grammar) (isVisible : Bool) : Reader ItemRead := do
  let follows (word : String) : Reader Bool :=
    looking fun tokens => startsWithWord [word] (tokens.drop 1)
  let either (word : String) : Reader Bool :=
    return (← atWord word) || ((← atWord "unsafe") && (← follows word))
  let isUnion ← looking fun tokens =>
    startsWithWord ["union"] tokens && startsWithName (tokens.drop 1)
  let isAuto ← looking fun tokens =>
    let next := if startsWithWord ["unsafe"] tokens then tokens.drop 1 else tokens
    startsWithWord ["auto"] next && startsWithWord ["trait"] (next.drop 1)
  let isDefault ← looking fun tokens =>
    startsWithWord ["default"] tokens && !startsWithSymbol "!" (tokens.drop 1)
  if ← atFunction false then function g
  else if ← either "extern" then foreign g
  else if ← atWord "use" then namesItem g
  else if ← atWord "static" then staticItem g
  else if ← atWord "const" then constantItem g
  else if ← either "mod" then module g
  else if ← atWord "type" then namedType g ⟨true, false⟩
  else if ← atWord "struct" then return .plain (← structureItem g)
  else if ← atWord "enum" then return .plain (← variantsItem g)
  else if isUnion then return .plain (← unionItem g)
  else if ← atWord "trait" then traitDefinition g
  else if (← either "trait") || isAuto then return .plain (← trait g [] []).1
  else if (← either "impl") || isDefault then
    return { ← implementation g with lacks := isVisible }
  else if ← atWord "macro" then macroDefinition
  else
    require !isVisible
    macroItem true

/-- An item. -/
def item (g : Grammar) : Reader (List Token) := eitherWay do
  let (start, isVisible) ← itemStart g (return [])
  let item ← bareItem g isVisible
  return (start ++ item.written, item.lacks || item.isPlanned)

end Waybill.Code.Reader
