import VehicleRecords.Text.Percent
import VehicleRecords.Text.Split

/-!
Form encoding: pairs joined by `&`, each a key and a value joined by `=`, with spaces written as `+`.
-/
namespace VehicleRecords.Text.Form

/-- The text of one key or value. Bytes that are no text are shown as U+FFFD. -/
def decodePart (part : Bytes) : String :=
  String.ofList (Utf8.decodeLenient (percentDecode (part.map fun b => if b = 0x2B then 0x20 else b)))

/-- The pairs of an encoded text. Empty pieces are no pairs; a piece without `=` has an empty value. -/
def parse (s : String) : List (String × String) :=
  ((cut 0x26 (bytesOf s)).filter (!·.isEmpty)).map fun piece =>
    let (key, value) := cutOnce 0x3D piece
    (decodePart key, decodePart (value.getD []))

/-- The characters that stand for themselves. -/
def isPlain (c : Char) : Bool := c.isAlphanum || c == '*' || c == '-' || c == '.' || c == '_'

def encodePart (s : String) : List Char :=
  (bytesOf s).flatMap fun b => if b = 0x20 then ['+'] else percentEncode isPlain [b]

def encodePair (pair : String × String) : List Char :=
  encodePart pair.1 ++ '=' :: encodePart pair.2

/-- The encoded text of pairs. -/
def print (pairs : List (String × String)) : String :=
  String.ofList (['&'].intercalate (pairs.map encodePair))

end VehicleRecords.Text.Form
