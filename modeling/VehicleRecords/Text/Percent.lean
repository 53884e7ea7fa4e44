import VehicleRecords.Text.Utf8

/-!
Percent-escapes of bytes, and the form encoding of key-value pairs built on them.
-/
namespace VehicleRecords.Text

/-- The value of a byte that is a hexadecimal digit. -/
def hexByteValue? (b : UInt8) : Option UInt8 :=
  if 0x30 ≤ b ∧ b ≤ 0x39 then some (b - 0x30)
  else if 0x41 ≤ b ∧ b ≤ 0x46 then some (b - 0x41 + 10)
  else if 0x61 ≤ b ∧ b ≤ 0x66 then some (b - 0x61 + 10)
  else none

/-- Replaces each percent sign before two hexadecimal digits by the byte they name. -/
def percentDecode : Bytes → Bytes
  | 0x25 :: high :: low :: rest =>
    match hexByteValue? high, hexByteValue? low with
    | some h, some l => (h * 16 + l) :: percentDecode rest
    | _, _ => 0x25 :: percentDecode (high :: low :: rest)
  | b :: rest => b :: percentDecode rest
  | [] => []

def upperHexDigit (n : Nat) : Char :=
  Char.ofNat (if n < 10 then '0'.toNat + n else 'A'.toNat + (n - 10))

/-- The escape of one byte. -/
def percentEscape (b : UInt8) : List Char :=
  ['%', upperHexDigit (b.toNat / 16), upperHexDigit (b.toNat % 16)]

/-- The text of bytes, with every byte escaped except the characters that `keeps` allows. -/
def percentEncode (keeps : Char → Bool) (bytes : Bytes) : List Char :=
  bytes.flatMap fun b =>
    let c := Char.ofNat b.toNat
    if b < 0x80 && keeps c then [c] else percentEscape b

end VehicleRecords.Text
