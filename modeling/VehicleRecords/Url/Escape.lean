import VehicleRecords.Text.Percent

/-!
Which characters stand for themselves in the parts of a URL. All others are written as escapes.
-/
namespace VehicleRecords.Url

/-- A printable ASCII character. -/
def isPrintable (c : Char) : Bool := ' ' ≤ c && c ≤ '~'

/-- Opaque hosts and opaque paths. -/
def keepsOpaque (c : Char) : Bool := isPrintable c

def keepsFragment (c : Char) : Bool := isPrintable c && !" \"<>`".contains c

def keepsQuery (c : Char) : Bool := isPrintable c && !" \"#<>".contains c

/-- Queries of the schemes that web browsers know. -/
def keepsSpecialQuery (c : Char) : Bool := keepsQuery c && c != '\''

def keepsPath (c : Char) : Bool := keepsFragment c && !"#?\x7b\x7d".contains c

def keepsUserInfo (c : Char) : Bool := keepsPath c && !"/:;=@[\\]^|".contains c

def escape (keeps : Char → Bool) (s : List Char) : List Char :=
  Text.percentEncode keeps (Text.Utf8.encode s)

end VehicleRecords.Url
