/-!
Texts as bytes. Bytes are read from left to right; the longest beginning of a character that is not
completed counts as one fault. A strict reading has no fault, a lenient one shows U+FFFD for each.
-/
namespace VehicleRecords

abbrev Bytes := List UInt8

namespace Text.Utf8

def encode (s : List Char) : Bytes := s.flatMap String.utf8EncodeChar

/-- A character whose later bytes are missing: its code so far, how many bytes are due, and the
bounds of the next one. -/
structure Partial where
  code : Nat
  due : Nat
  least : UInt8 := 0x80
  greatest : UInt8 := 0xBF

/-- What a byte can begin. -/
inductive Start where
  | char (c : Char)
  | more (p : Partial)
  | fault

def start (b : UInt8) : Start :=
  let n := b.toNat
  if b < 0x80 then .char (Char.ofNat n)
  else if 0xC2 ≤ b && b ≤ 0xDF then .more { code := n - 0xC0, due := 1 }
  else if b == 0xE0 then .more { code := 0, due := 2, least := 0xA0 }
  else if b == 0xED then .more { code := 13, due := 2, greatest := 0x9F }
  else if 0xE1 ≤ b && b ≤ 0xEF then .more { code := n - 0xE0, due := 2 }
  else if b == 0xF0 then .more { code := 0, due := 3, least := 0x90 }
  else if 0xF1 ≤ b && b ≤ 0xF3 then .more { code := n - 0xF0, due := 3 }
  else if b == 0xF4 then .more { code := 4, due := 3, greatest := 0x8F }
  else .fault

/-- The characters of a byte string, `none` for each fault, behind an unfinished character. -/
def readBehind : Option Partial → Bytes → List (Option Char)
  | none, [] => []
  | some _, [] => [none]
  | before, b :: rest =>
    match before.filter fun p => p.least ≤ b && b ≤ p.greatest with
    | some p =>
      let code := p.code * 64 + (b.toNat - 0x80)
      if p.due ≤ 1 then some (Char.ofNat code) :: readBehind none rest
      else readBehind (some { code, due := p.due - 1 }) rest
    | none =>
      let faults := if before.isSome then [none] else []
      match start b with
      | .char c => faults ++ some c :: readBehind none rest
      | .more p => faults ++ readBehind (some p) rest
      | .fault => faults ++ none :: readBehind none rest

def read (bytes : Bytes) : List (Option Char) := readBehind none bytes

/-- The text of bytes without a fault. -/
def decode? (bytes : Bytes) : Option (List Char) := (read bytes).mapM id

/-- The text of any bytes. -/
def decodeLenient (bytes : Bytes) : List Char := (read bytes).map (·.getD '\ufffd')

end Text.Utf8

/-- The bytes of a text. -/
def bytesOf (s : String) : Bytes := Text.Utf8.encode s.toList

end VehicleRecords
