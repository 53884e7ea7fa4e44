import VehicleRecords.Text.Split
import VehicleRecords.Unicode.Composition
import VehicleRecords.Unicode.Direction
import VehicleRecords.Unicode.DomainMapping
import VehicleRecords.Url.Punycode

/-!
Domain names in the form that name servers know. A label with other than ASCII characters is encoded
and marked as such; a label that bears the mark has to be what its decoded text is encoded as.
-/
namespace VehicleRecords.Url

open Unicode

/-- The mark in front of an encoded label. -/
def encodedMark : List Char := ['x', 'n', '-', '-']

/-- Characters that separate the parts of a URL, and those that are not printable. -/
def isBarred (c : Char) : Bool :=
  c.toNat ≤ 0x20 || c.toNat == 0x7F || "%#/:<>?@[\\]^|".contains c

/-- The replacements of a name's characters in canonical form. -/
def foldName? (name : List Char) : Option (List Char) :=
  (name.mapM nameForm?).map fun forms => canonical forms.flatten

/-- The text that a label stands for. -/
def readLabel? (label : List Char) : Option (List Char) :=
  if encodedMark.isPrefixOf label then
    (Punycode.decode? (label.drop encodedMark.length)).filter fun text =>
      !text.all Punycode.isPlain && foldName? text = some text
  else some label

/-- Each joiner stands behind a mark that kills a vowel, or between letters that join. -/
def joinersFit (before : List Char) : List Char → Bool
  | [] => true
  | c :: rest =>
    let isTransparent (c : Char) :=
      !isJoiner c && hasCategory [.nonspacingMark, .enclosingMark, .format] c
    let fits := before.head?.any (markClass · = 9) ||
      (c == '\u200c' &&
        (before.dropWhile isTransparent).head?.any (joinsNextRanges.contains ·.toNat) &&
        (rest.dropWhile isTransparent).head?.any (joinsPreviousRanges.contains ·.toNat))
    (!isJoiner c || fits) && joinersFit (c :: before) rest

def isValidLabel (label : List Char) : Bool :=
  !label.any isBarred && joinersFit [] label &&
    !label.head?.any (hasCategory [.nonspacingMark, .spacingMark, .enclosingMark])

/-- A label as name servers know it. -/
def encodeLabel (label : List Char) : List Char :=
  if label.all Punycode.isPlain then label else encodedMark ++ Punycode.encode label

/-- The ASCII form of a name. -/
def domainToAscii? (name : List Char) : Option (List Char) := do
  let folded ← foldName? name
  let labels ← (Text.cut '.' folded).mapM readLabel?
  let isValid := labels.all isValidLabel && (!labels.any hasRightToLeft || labels.all readsOneWay)
  if isValid then some (['.'].intercalate (labels.map encodeLabel)) else none

end VehicleRecords.Url
