import Waybill.Character.Emoji
import Waybill.Character.Ideograph
import Waybill.Character.Mark
import Waybill.Character.Script
import Waybill.Character.Segmentation
import Waybill.Character.Sign
import Waybill.Pattern.Alphabet
import Waybill.Text.Ascii
import Waybill.Text.Identifier

/-!
# Properties of characters by name

A class may name a property that a character has or has not, a general category, a script, or a
property with one of its values. Names are compared without regard to case, blanks, hyphens,
underscores and a leading `is`.

## Main definitions

* `Waybill.Pattern.Property.normal` — a name as it is compared.
* `Waybill.Pattern.Property.named?`, `Waybill.Pattern.Property.valued?` — the set of a property.
* `Waybill.Pattern.Property.set?` — the set of what stands in the braces.
-/

namespace Waybill.Pattern.Property

/-- A name as it is compared. Nothing is left out of the abbreviation of `ISO_Comment`. -/
def normal (name : List Char) : String :=
  let (is, rest) := match name with
    | i :: s :: rest => if i.toLower == 'i' && s.toLower == 's' then (true, rest) else (false, name)
    | _ => (false, name)
  let kept := rest.filterMap fun c =>
    if c == ' ' || c == '_' || c == '-' || !Ascii.isAscii c then none else some c.toLower
  if is && kept == ['c'] then "isc" else String.ofList kept

/-- Whether a name is the given one. -/
def isCalled (wanted name : String) : Bool := normal name.toList == wanted

/-- The properties that a character has or has not. -/
def binary : List (List String × CodeSet) := [
  (["ahex", "asciihexdigit"], Sign.asciiHexDigit),
  (["alpha", "alphabetic"], Letter.alphabetic),
  (["bidic", "bidicontrol"], Invisible.directionControl),
  (["ci", "caseignorable"], Mark.caseIgnorable),
  (["cased"], Letter.cased),
  (["cwcf", "changeswhencasefolded"], Letter.changesWhenFolded),
  (["cwcm", "changeswhencasemapped"], Letter.changesWhenMapped),
  (["cwl", "changeswhenlowercased"], Letter.changesWhenLowered),
  (["cwt", "changeswhentitlecased"], Letter.changesWhenTitled),
  (["cwu", "changeswhenuppercased"], Letter.changesWhenRaised),
  (["dash"], Sign.dash),
  (["di", "defaultignorablecodepoint"], Invisible.ignorable),
  (["dep", "deprecated"], Invisible.deprecated),
  (["dia", "diacritic"], Mark.diacritic),
  (["emoji"], Emoji.emoji),
  (["ecomp", "emojicomponent"], Emoji.component),
  (["emod", "emojimodifier"], Emoji.modifier),
  (["ebase", "emojimodifierbase"], Emoji.modifierBase),
  (["epres", "emojipresentation"], Emoji.presentation),
  (["extpict", "extendedpictographic"], Emoji.pictographic),
  (["ext", "extender"], Mark.extender),
  (["grbase", "graphemebase"], Mark.base),
  (["grext", "graphemeextend"], Mark.extending),
  (["grlink", "graphemelink"], Mark.linking),
  (["hex", "hexdigit"], Sign.hexDigit),
  (["hyphen"], Sign.hyphen),
  (["idsb", "idsbinaryoperator"], Ideograph.binaryOperator),
  (["idst", "idstrinaryoperator"], Ideograph.ternaryOperator),
  (["idsu", "idsunaryoperator"], Ideograph.unaryOperator),
  (["idcompatmathcontinue"], Sign.compatMathPart),
  (["idcompatmathstart"], Sign.compatMathStart),
  (["idc", "idcontinue"], Identifier.loosePart),
  (["ids", "idstart"], Identifier.looseStart),
  (["ideo", "ideographic"], Ideograph.ideographic),
  (["joinc", "joincontrol"], Invisible.joinControl),
  (["loe", "logicalorderexception"], Sign.logicalOrder),
  (["lower", "lowercase"], Letter.lowercase),
  (["math"], Sign.math),
  (["mcm", "modifiercombiningmark"], Mark.modifying),
  (["nchar", "noncharactercodepoint"], Invisible.noncharacter),
  (["oalpha", "otheralphabetic"], Letter.otherAlphabetic),
  (["odi", "otherdefaultignorablecodepoint"], Invisible.otherIgnorable),
  (["ogrext", "othergraphemeextend"], Mark.otherExtending),
  (["oidc", "otheridcontinue"], Identifier.otherPart),
  (["oids", "otheridstart"], Identifier.otherStart),
  (["olower", "otherlowercase"], Letter.otherLowercase),
  (["omath", "othermath"], Sign.otherMath),
  (["oupper", "otheruppercase"], Letter.otherUppercase),
  (["patsyn", "patternsyntax"], Sign.patternSyntax),
  (["patws", "patternwhitespace"], Sign.patternBlank),
  (["pcm", "prependedconcatenationmark"], Mark.prepended),
  (["qmark", "quotationmark"], Sign.quotation),
  (["radical"], Ideograph.radical),
  (["ri", "regionalindicator"], Emoji.regional),
  (["sterm", "sentenceterminal"], Sign.sentenceTerminal),
  (["sd", "softdotted"], Letter.softDotted),
  (["term", "terminalpunctuation"], Sign.terminal),
  (["uideo", "unifiedideograph"], Ideograph.unified),
  (["upper", "uppercase"], Letter.uppercase),
  (["vs", "variationselector"], Invisible.variation),
  (["wspace", "space", "whitespace"], Invisible.blank),
  (["xidc", "xidcontinue"], Identifier.part),
  (["xids", "xidstart"], Identifier.start)]

/-- The general categories and groups of them. Patterns have no surrogates. -/
def categories : List (List String × List Category) := [
  (["lu", "uppercaseletter"], [.uppercaseLetter]),
  (["ll", "lowercaseletter"], [.lowercaseLetter]),
  (["lt", "titlecaseletter"], [.titlecaseLetter]),
  (["lm", "modifierletter"], [.modifierLetter]),
  (["lo", "otherletter"], [.otherLetter]),
  (["lc", "casedletter"], [.uppercaseLetter, .lowercaseLetter, .titlecaseLetter]),
  (["l", "letter"],
    [.uppercaseLetter, .lowercaseLetter, .titlecaseLetter, .modifierLetter, .otherLetter]),
  (["mn", "nonspacingmark"], [.nonspacingMark]),
  (["mc", "spacingmark"], [.spacingMark]),
  (["me", "enclosingmark"], [.enclosingMark]),
  (["m", "mark", "combiningmark"], [.nonspacingMark, .spacingMark, .enclosingMark]),
  (["nd", "decimalnumber", "digit"], [.decimalNumber]),
  (["nl", "letternumber"], [.letterNumber]),
  (["no", "othernumber"], [.otherNumber]),
  (["n", "number"], [.decimalNumber, .letterNumber, .otherNumber]),
  (["pc", "connectorpunctuation"], [.connectorPunctuation]),
  (["pd", "dashpunctuation"], [.dashPunctuation]),
  (["ps", "openpunctuation"], [.openPunctuation]),
  (["pe", "closepunctuation"], [.closePunctuation]),
  (["pi", "initialpunctuation"], [.initialPunctuation]),
  (["pf", "finalpunctuation"], [.finalPunctuation]),
  (["po", "otherpunctuation"], [.otherPunctuation]),
  (["p", "punctuation", "punct"],
    [.connectorPunctuation, .dashPunctuation, .openPunctuation, .closePunctuation,
      .initialPunctuation, .finalPunctuation, .otherPunctuation]),
  (["sm", "mathsymbol"], [.mathSymbol]),
  (["sc", "currencysymbol"], [.currencySymbol]),
  (["sk", "modifiersymbol"], [.modifierSymbol]),
  (["so", "othersymbol"], [.otherSymbol]),
  (["s", "symbol"], [.mathSymbol, .currencySymbol, .modifierSymbol, .otherSymbol]),
  (["zs", "spaceseparator"], [.spaceSeparator]),
  (["zl", "lineseparator"], [.lineSeparator]),
  (["zp", "paragraphseparator"], [.paragraphSeparator]),
  (["z", "separator"], [.spaceSeparator, .lineSeparator, .paragraphSeparator]),
  (["cc", "control", "cntrl"], [.control]),
  (["cf", "format"], [.format]),
  (["co", "privateuse"], [.privateUse]),
  (["cn", "unassigned"], [.unassigned]),
  (["c", "other"], [.control, .format, .privateUse, .unassigned])]

/-- The entry of a table under a name. -/
def find? {α : Type} (table : List (List String × α)) (name : String) : Option α :=
  (table.find? fun row => row.1.contains name).map (·.2)

/-- The code points of some categories, as patterns know them. -/
def ofCategories (wanted : List Category) : CodeSet :=
  if wanted.contains .unassigned then (Category.set wanted).union newest
  else (Category.set wanted).inter known

/-- The code points of a general category or of a group of them. -/
def category? (name : String) : Option CodeSet :=
  if name == "any" then some .all
  else if name == "assigned" then some (ofCategories [.unassigned]).complement
  else if name == "ascii" then some (.range 0 0x7F)
  else (find? categories name).map ofCategories

/-- The set of a script by its name, unless the script is not known. -/
def script? (setOf : Nat → CodeSet) (name : String) : Option CodeSet :=
  match Script.named? (isCalled name) with
  | some i =>
    let isUnknown := Script.names[i]? == some ["Unknown", "Zzzz"]
    if ((Script.set i).inter known).isEmpty || isUnknown then none
    else some ((setOf i).inter known)
  | none => none

/-- The code points in use in a version of the standard. -/
def age? (name : String) : Option CodeSet :=
  match Age.versions.find? fun (a, b) => name == s!"{a}.{b}" || name == s!"v{a}{b}" with
  | some version => if version == (17, 0) then none else Age.upTo? version
  | none => none

/-- The set of a property, a category or a script. -/
def named? (name : String) : Option CodeSet :=
  let property := if ["cf", "lc", "sc"].contains name then none else find? binary name
  (property.map (·.inter known)).or ((category? name).or (script? Script.set name))

/-- The set of the characters for which a property has a value. -/
def valued? (name value : String) : Option CodeSet :=
  let part (names : List (List String)) (division : Partition) :=
    (Segmentation.find? names division (isCalled value)).map (·.inter known)
  if name == "gc" || name == "generalcategory" then category? value
  else if name == "sc" || name == "script" then script? Script.set value
  else if name == "scx" || name == "scriptextensions" then script? Script.users value
  else if name == "age" then age? value
  else if name == "gcb" || name == "graphemeclusterbreak" then
    part Segmentation.clusterNames Segmentation.clusters
  else if name == "wb" || name == "wordbreak" then part Segmentation.wordNames Segmentation.words
  else if name == "sb" || name == "sentencebreak" then
    part Segmentation.sentenceNames Segmentation.sentences
  else none

/-- A text before and after the first place where a mark starts. -/
def splitAt? (mark : List Char) : List Char → Option (List Char × List Char)
  | [] => none
  | c :: rest =>
    if mark.isPrefixOf (c :: rest) then some ([], (c :: rest).drop mark.length)
    else (splitAt? mark rest).map fun (before, after) => (c :: before, after)

/-- The set of what stands in the braces: a name, or a name and a value between which there is a
colon or an equals sign. An exclamation mark before the latter changes nothing. -/
def set? (inside : List Char) : Option CodeSet :=
  match (splitAt? ['!', '='] inside).or ((splitAt? [':'] inside).or (splitAt? ['='] inside)) with
  | some (name, value) => valued? (normal name) (normal value)
  | none => named? (normal inside)

end Waybill.Pattern.Property
