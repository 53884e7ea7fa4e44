/-!
Texts written with letters, digits and hyphens only. The plain characters come first; the others are
inserted one by one in ascending order, and each insertion is a difference to the one before it,
written with a threshold for each digit that adapts to the differences so far.
-/
namespace VehicleRecords.Url.Punycode

def digitChar (n : Nat) : Char := Char.ofNat (if n < 26 then 'a'.toNat + n else '0'.toNat + n - 26)

def digitValue? (c : Char) : Option Nat :=
  if 'a' ≤ c && c ≤ 'z' then some (c.toNat - 'a'.toNat)
  else if 'A' ≤ c && c ≤ 'Z' then some (c.toNat - 'A'.toNat)
  else if c.isDigit then some (c.toNat - '0'.toNat + 26)
  else none

/-- Digits below the threshold end a difference; `place` is 36 for its first digit, 72 for the next. -/
def threshold (bias place : Nat) : Nat := min 26 (max 1 (place - bias))

theorem threshold_bounds (bias place : Nat) :
    1 ≤ threshold bias place ∧ threshold bias place ≤ 26 := by
  unfold threshold
  omega

/-- Divides a difference until it is small, and counts the divisions. -/
def shrink (delta : Nat) : Nat × Nat :=
  if 455 < delta then
    let (rest, count) := shrink (delta / 35)
    (rest, count + 1)
  else (delta, 0)

/-- The bias behind a difference, with `length` characters in place. -/
def adapt (delta length : Nat) (isFirst : Bool) : Nat :=
  let delta := if isFirst then delta / 700 else delta / 2
  let (rest, count) := shrink (delta + delta / length)
  36 * count + 36 * rest / (rest + 38)

/-- Where the next insertion is counted from. -/
structure Cursor where
  code : Nat := 0x80
  /-- The place behind the latest insertion. -/
  place : Nat := 0
  bias : Nat := 72
  isFirst : Bool := true

/-- Moves behind the insertion of `code` at `place` by a difference, `length` characters being there
after it. -/
def Cursor.move (delta length code place : Nat) (k : Cursor) : Cursor :=
  ⟨code, place + 1, adapt delta length k.isFirst, false⟩

/-- The digits of a difference. -/
def deltaDigits (bias place delta : Nat) : List Char :=
  let t := threshold bias place
  if delta < t then [digitChar delta]
  else
    digitChar (t + (delta - t) % (36 - t)) :: deltaDigits bias (place + 36) ((delta - t) / (36 - t))
termination_by delta
decreasing_by
  have h := threshold_bounds bias place
  have := Nat.div_le_self (delta - threshold bias place) (36 - threshold bias place)
  omega

def isPlain (c : Char) : Bool := c.toNat < 0x80

/-- The characters that are not plain in the order of their insertion: by code, then by place. Each
comes with the number of characters in front of it that are there before. -/
def insertions (s : List Char) : List (Char × Nat) :=
  let others := (s.zipIdx.filter fun (c, _) => !isPlain c).mergeSort fun a b => a.1 ≤ b.1
  others.map fun (c, i) => (c, ((s.take i).filter (· ≤ c)).length)

def encodeInsertions (k : Cursor) (length : Nat) : List (Char × Nat) → List Char
  | [] => []
  | (c, place) :: rest =>
    let delta := (c.toNat - k.code) * (length + 1) + place - k.place
    deltaDigits k.bias 36 delta ++
      encodeInsertions (k.move delta (length + 1) c.toNat place) (length + 1) rest

def encode (s : List Char) : List Char :=
  let plain := s.filter isPlain
  (if plain.isEmpty then [] else plain ++ ['-']) ++ encodeInsertions {} plain.length (insertions s)

/-- What has been read of an encoded text: the characters in place and the digits of a difference that
is not complete. -/
structure Draft where
  chars : List Char
  cursor : Cursor := {}
  delta : Nat := 0
  weight : Nat := 1
  place : Nat := 36

/-- The character with a code, when there is one. -/
def char? (code : Nat) : Option Char :=
  if h : code.isValidChar then some (Char.ofNatAux code h) else none

def Draft.step? (d : Draft) (c : Char) : Option Draft := do
  let digit ← digitValue? c
  let t := threshold d.cursor.bias d.place
  let delta := d.delta + digit * d.weight
  if digit < t then
    let length := d.chars.length + 1
    let code := d.cursor.code + (d.cursor.place + delta) / length
    let place := (d.cursor.place + delta) % length
    return { chars := d.chars.insertIdx place (← char? code),
             cursor := d.cursor.move delta length code place }
  else return { d with delta, weight := d.weight * (36 - t), place := d.place + 36 }

/-- The parts in front of the last hyphen and behind it. A hyphen at the front separates nothing. -/
def cutLast (s : List Char) : List Char × List Char :=
  match s.reverse.span (· ≠ '-') with
  | (back, _ :: c :: front) => ((c :: front).reverse, back.reverse)
  | _ => ([], s)

def decode? (s : List Char) : Option (List Char) := do
  let (plain, digits) := cutLast s
  if !plain.all isPlain then none
  let d ← digits.foldlM Draft.step? { chars := plain }
  if d.place = 36 then some d.chars else none

end VehicleRecords.Url.Punycode
