/-!
Why a text is no pattern.
-/
namespace VehicleRecords.Regex

inductive PatternError where
  | unclosedGroup
  | unopenedGroup
  | unclosedClass
  | unclosedCount
  | unclosedWordBoundary
  | endOfPattern
  | nothingToRepeat
  | badCount
  | badRange
  | badEscape
  | badHex
  | badClassItem
  | badFlag
  | badGroupName
  | duplicateGroupName
  | badWordBoundary
  | unknownProperty
  | backReference
  | lookAround
  | notUnicode
  | nestedTooDeep
  | tooLarge
  deriving DecidableEq, Repr

/-- The most bytes an automaton may take. -/
def sizeLimit : Nat := 10485760

namespace PatternError

def reason : PatternError → String
  | unclosedGroup => "unclosed group"
  | unopenedGroup => "unopened group"
  | unclosedClass => "unclosed character class"
  | unclosedCount => "unclosed counted repetition"
  | unclosedWordBoundary => "unclosed word boundary assertion"
  | endOfPattern => "the pattern ends too early"
  | nothingToRepeat => "repetition operator missing expression"
  | badCount => "invalid repetition count"
  | badRange => "invalid character class range"
  | badEscape => "unrecognized escape sequence"
  | badHex => "invalid hexadecimal escape"
  | badClassItem => "no single character or class"
  | badFlag => "invalid flags"
  | badGroupName => "invalid group name"
  | duplicateGroupName => "duplicate group name"
  | badWordBoundary => "unrecognized word boundary assertion"
  | unknownProperty => "Unicode property not found"
  | backReference => "backreferences are not supported"
  | lookAround => "look-around is not supported"
  | notUnicode => "the pattern leaves Unicode text"
  | nestedTooDeep => "too many nested groups"
  | tooLarge => "too large"

def message (e : PatternError) : String :=
  match e with
  | tooLarge => "Compiled regex exceeds size limit of " ++ toString sizeLimit ++ " bytes."
  | e => "regex parse error: " ++ e.reason

end PatternError

end VehicleRecords.Regex
