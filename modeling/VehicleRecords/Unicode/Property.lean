import VehicleRecords.Unicode.GeneralCategory
import VehicleRecords.Unicode.ListedProperty

/-!
Character properties of Unicode 16.0: those that follow from the general category and from the
listed properties, and all of them by name.
-/
namespace VehicleRecords.Unicode

open GeneralCategory

/-- The character has one of the categories. -/
def hasCategory (categories : List GeneralCategory) (c : Char) : Bool :=
  categories.any (·.contains c)

/-- The ranges of a listed property. -/
def listedRanges (name : String) : Ranges :=
  (NamedRanges.find? listedProperties name).getD ⟨#[]⟩

def otherLowercaseRanges : Ranges := listedRanges "olower"
def otherUppercaseRanges : Ranges := listedRanges "oupper"
def otherAlphabeticRanges : Ranges := listedRanges "oalpha"
def otherMathRanges : Ranges := listedRanges "omath"
def otherGraphemeExtendRanges : Ranges := listedRanges "ogrext"
def otherIdentifierStartRanges : Ranges := listedRanges "oids"
def otherIdentifierContinueRanges : Ranges := listedRanges "oidc"
def patternSyntaxRanges : Ranges := listedRanges "patsyn"
def patternBlankRanges : Ranges := listedRanges "patws"
def joinControlRanges : Ranges := listedRanges "joinc"

def isDecimalDigit (c : Char) : Bool := decimalNumber.contains c

def isLowercase (c : Char) : Bool :=
  lowercaseLetter.contains c || otherLowercaseRanges.contains c.toNat

def isUppercase (c : Char) : Bool :=
  uppercaseLetter.contains c || otherUppercaseRanges.contains c.toNat

def isAlphabetic (c : Char) : Bool :=
  hasCategory [lowercaseLetter, uppercaseLetter, titlecaseLetter, modifierLetter, otherLetter,
    letterNumber] c || otherAlphabeticRanges.contains c.toNat || isLowercase c || isUppercase c

/-- Letters or numbers in the wide sense. -/
def isAlphanumeric (c : Char) : Bool :=
  isAlphabetic c || hasCategory [decimalNumber, letterNumber, otherNumber] c

def isGraphemeExtend (c : Char) : Bool :=
  hasCategory [nonspacingMark, enclosingMark] c || otherGraphemeExtendRanges.contains c.toNat

def isIdentifierStart (c : Char) : Bool :=
  (hasCategory [uppercaseLetter, lowercaseLetter, titlecaseLetter, modifierLetter, otherLetter,
    letterNumber] c || otherIdentifierStartRanges.contains c.toNat) &&
    !patternSyntaxRanges.contains c.toNat && !patternBlankRanges.contains c.toNat

def isIdentifierContinue (c : Char) : Bool :=
  isIdentifierStart c || ((hasCategory [nonspacingMark, spacingMark, decimalNumber,
    connectorPunctuation] c || otherIdentifierContinueRanges.contains c.toNat) &&
    !patternSyntaxRanges.contains c.toNat && !patternBlankRanges.contains c.toNat)

/-- Identifier characters whose compatibility form would not continue an identifier. -/
def unstableIdentifierRanges : Ranges :=
  .ofText "37A 309B-309C FC5E-FC63 FDFA-FDFB FE70 FE72 FE74 FE76 FE78 FE7A FE7C FE7E"

/-- Identifier starts whose compatibility form would not start an identifier. -/
def unstableStartRanges : Ranges := .ofText "E33 EB3 FF9E-FF9F"

/-- Punctuation inside words, which case mapping looks through. -/
def midWordRanges : Ranges :=
  .ofText "27 2E 3A B7 387 55F 5F4 2018-2019 2024 2027 FE13 FE52 FE55 FF07 FF0E FF1A"

/-- What a word is made of: letters, marks, digits, joiners and connecting punctuation. -/
def isWord (c : Char) : Bool :=
  isAlphabetic c || hasCategory [nonspacingMark, spacingMark, enclosingMark, decimalNumber,
    connectorPunctuation] c || joinControlRanges.contains c.toNat

/-- The properties that are not listed, by their names. -/
def derivedProperties : List (List String × (Char → Bool)) :=
  [(["alpha", "alphabetic"], isAlphabetic),
    (["lower", "lowercase"], isLowercase),
    (["upper", "uppercase"], isUppercase),
    (["math"], fun c => mathSymbol.contains c || otherMathRanges.contains c.toNat),
    (["cased"], fun c => isLowercase c || isUppercase c || titlecaseLetter.contains c),
    (["graphemeextend", "grext"], isGraphemeExtend),
    (["graphemebase", "grbase"], fun c =>
      !(hasCategory [control, format, privateUse, unassigned, lineSeparator, paragraphSeparator] c ||
        isGraphemeExtend c)),
    (["ids", "idstart"], isIdentifierStart),
    (["idc", "idcontinue"], isIdentifierContinue),
    (["xids", "xidstart"], fun c =>
      isIdentifierStart c && !unstableIdentifierRanges.contains c.toNat &&
        !unstableStartRanges.contains c.toNat),
    (["xidc", "xidcontinue"], fun c =>
      isIdentifierContinue c && !unstableIdentifierRanges.contains c.toNat),
    (["caseignorable", "ci"], fun c =>
      hasCategory [nonspacingMark, enclosingMark, format, modifierLetter, modifierSymbol] c ||
        midWordRanges.contains c.toNat)]

/-- The general categories and their groups, by their names. -/
def categoryNames : List (List String × List GeneralCategory) :=
  [(["lu", "uppercaseletter"], [uppercaseLetter]),
    (["ll", "lowercaseletter"], [lowercaseLetter]),
    (["lt", "titlecaseletter"], [titlecaseLetter]),
    (["lc", "casedletter"], [uppercaseLetter, lowercaseLetter, titlecaseLetter]),
    (["lm", "modifierletter"], [modifierLetter]),
    (["lo", "otherletter"], [otherLetter]),
    (["l", "letter"],
      [uppercaseLetter, lowercaseLetter, titlecaseLetter, modifierLetter, otherLetter]),
    (["mn", "nonspacingmark"], [nonspacingMark]),
    (["mc", "spacingmark"], [spacingMark]),
    (["me", "enclosingmark"], [enclosingMark]),
    (["m", "mark", "combiningmark"], [nonspacingMark, spacingMark, enclosingMark]),
    (["nd", "decimalnumber", "digit"], [decimalNumber]),
    (["nl", "letternumber"], [letterNumber]),
    (["no", "othernumber"], [otherNumber]),
    (["n", "number"], [decimalNumber, letterNumber, otherNumber]),
    (["pc", "connectorpunctuation"], [connectorPunctuation]),
    (["pd", "dashpunctuation"], [dashPunctuation]),
    (["ps", "openpunctuation"], [openPunctuation]),
    (["pe", "closepunctuation"], [closePunctuation]),
    (["pi", "initialpunctuation"], [initialPunctuation]),
    (["pf", "finalpunctuation"], [finalPunctuation]),
    (["po", "otherpunctuation"], [otherPunctuation]),
    (["p", "punct", "punctuation"],
      [connectorPunctuation, dashPunctuation, openPunctuation, closePunctuation,
        initialPunctuation, finalPunctuation, otherPunctuation]),
    (["sm", "mathsymbol"], [mathSymbol]),
    (["sc", "currencysymbol"], [currencySymbol]),
    (["sk", "modifiersymbol"], [modifierSymbol]),
    (["so", "othersymbol"], [otherSymbol]),
    (["s", "symbol"], [mathSymbol, currencySymbol, modifierSymbol, otherSymbol]),
    (["zs", "spaceseparator"], [spaceSeparator]),
    (["zl", "lineseparator"], [lineSeparator]),
    (["zp", "paragraphseparator"], [paragraphSeparator]),
    (["z", "separator"], [spaceSeparator, lineSeparator, paragraphSeparator]),
    (["cc", "cntrl", "control"], [control]),
    (["cf", "format"], [format]),
    (["co", "privateuse"], [privateUse]),
    (["cn", "unassigned"], [unassigned]),
    (["c", "other"], [control, format, privateUse, unassigned])]

/-- Names are compared without case, blanks, underscores, hyphens, a leading `is`, and anything
that is not ASCII. -/
def looseName (s : List Char) : String :=
  let lower := s.map Char.toLower
  let (stripped, rest) :=
    match lower with
    | 'i' :: 's' :: rest => (true, rest)
    | _ => (false, lower)
  let kept := rest.filter fun c => c ≠ ' ' && c ≠ '_' && c ≠ '-' && c.toNat < 0x80
  if stripped && kept == ['c'] then "isc" else String.ofList kept

/-- A property by its loose name. -/
def property? (name : String) : Option (Char → Bool) :=
  match derivedProperties.find? (·.1.contains name) with
  | some (_, p) => some p
  | none => (NamedRanges.find? listedProperties name).map fun r c => r.contains c.toNat

/-- A general category or group of them by its loose name. -/
def categorySet? (name : String) : Option (Char → Bool) :=
  match name with
  | "any" => some fun _ => true
  | "assigned" => some fun c => !unassigned.contains c
  | "ascii" => some fun c => c.toNat < 0x80
  | _ => (categoryNames.find? (·.1.contains name)).map fun entry => hasCategory entry.2

/-- The set that a single name stands for: a property, a general category or a script. A few short
names are kept for categories. -/
def namedSet? (s : List Char) : Option (Char → Bool) :=
  let name := looseName s
  let property := if name == "cf" || name == "sc" || name == "lc" then none else property? name
  property.orElse fun _ =>
    (categorySet? name).orElse fun _ => (script? name).map fun r c => r.contains c.toNat

/-- The set that a property name and a value stand for. -/
def valueSet? (s value : List Char) : Option (Char → Bool) :=
  match looseName s with
  | "gc" | "generalcategory" => categorySet? (looseName value)
  | "sc" | "script" => (script? (looseName value)).map fun r c => r.contains c.toNat
  | "scx" | "scriptextensions" =>
    (scriptExtensions? (looseName value)).map fun r c => r.contains c.toNat
  | _ => none

end VehicleRecords.Unicode
