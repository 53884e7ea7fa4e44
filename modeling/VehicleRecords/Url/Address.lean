import VehicleRecords.Text.Digit
import VehicleRecords.Text.Split

/-!
Internet addresses as they stand in URLs. An IPv4 address has up to four numbers, of which the last
fills all bytes that are left; an IPv6 address has eight groups, and one gap of zeros may be left out.
-/
namespace VehicleRecords.Url

open Text (natural? cut)

/-- A number of an IPv4 address: hexadecimal behind `0x`, octal behind another leading zero. -/
def ipv4Number? : List Char → Option Nat
  | ['0', 'x'] | ['0', 'X'] => some 0
  | '0' :: 'x' :: s | '0' :: 'X' :: s => natural? 16 s
  | '0' :: c :: s => natural? 8 (c :: s)
  | s => natural? 10 s

/-- The labels of a name without the empty one behind a final dot. -/
def labels (name : List Char) : List (List Char) :=
  let all := cut '.' name
  if all.getLast? = some [] then all.dropLast else all

/-- The last label looks like a number, so that the name has to be an address. -/
def endsInNumber (name : List Char) : Bool :=
  match (labels name).getLast? with
  | none => false
  | some label => (!label.isEmpty && label.all Char.isDigit) || (ipv4Number? label).isSome

def ipv4? (name : List Char) : Option UInt32 := do
  let numbers ← (labels name).mapM ipv4Number?
  let front := numbers.dropLast
  let last ← numbers.getLast?
  if front.length ≤ 3 ∧ front.all (· < 256) ∧ last < Nat.pow 256 (4 - front.length) then
    some (.ofNat (front.zipIdx.foldl (fun sum (n, i) => sum + n * Nat.pow 256 (3 - i)) last))
  else none

def ipv4Text (address : UInt32) : String :=
  ".".intercalate ([3, 2, 1, 0].map fun i => toString (address.toNat / Nat.pow 256 i % 256))

/-- A byte in decimal, without needless zeros. -/
def decimalByte? : List Char → Option Nat
  | '0' :: _ :: _ => none
  | s => (natural? 10 s).filter (· < 256)

def ipv6Group? (s : List Char) : Option Nat := if s.length ≤ 4 then natural? 16 s else none

/-- Two groups written as four bytes. -/
def dottedGroups? (s : List Char) : Option (List Nat) := do
  match ← (cut '.' s).mapM decimalByte? with
  | [a, b, c, d] => some [a * 256 + b, c * 256 + d]
  | _ => none

/-- The groups on one side of the gap. The last groups of an address may be dotted. -/
def ipv6Groups? (isLast : Bool) (s : List Char) : Option (List Nat) :=
  if s.isEmpty then some []
  else
    let groups := cut ':' s
    let last := groups.getLastD []
    if isLast && last.contains '.' then do
      return (← groups.dropLast.mapM ipv6Group?) ++ (← dottedGroups? last)
    else groups.mapM ipv6Group?

/-- The text before the first gap and, when there is one, the text after it. -/
def cutGap : List Char → List Char × Option (List Char)
  | ':' :: ':' :: rest => ([], some rest)
  | c :: rest =>
    let (before, after) := cutGap rest
    (c :: before, after)
  | [] => ([], none)

/-- The eight groups of an address. A gap stands for at least one group. -/
def ipv6? (s : List Char) : Option (List Nat) :=
  match cutGap s with
  | (all, none) => (ipv6Groups? true all).filter (·.length = 8)
  | (before, some after) => do
    let front ← ipv6Groups? false before
    let back ← ipv6Groups? true after
    if front.length + back.length < 8 then
      some (front ++ List.replicate (8 - front.length - back.length) 0 ++ back)
    else none

/-- The number of zeros that a list begins with. -/
def zerosAhead (groups : List Nat) : Nat := (groups.takeWhile (· = 0)).length

/-- Where the longest run of zeros begins, the first one of several. -/
def longestZeros (groups : List Nat) : Nat :=
  (List.range groups.length).foldl
    (fun best i => if zerosAhead (groups.drop best) < zerosAhead (groups.drop i) then i else best) 0

/-- The shortest text of an address: the longest run of two or more zeros becomes the gap. -/
def ipv6Text (groups : List Nat) : String :=
  let join (groups : List Nat) : String :=
    ":".intercalate (groups.map fun n => String.ofList (Nat.toDigits 16 n))
  let start := longestZeros groups
  let length := zerosAhead (groups.drop start)
  if 2 ≤ length then join (groups.take start) ++ "::" ++ join (groups.drop (start + length))
  else join groups

end VehicleRecords.Url
