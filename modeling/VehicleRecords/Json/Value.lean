import VehicleRecords.Json.Reading

/-!
JSON documents as values: the order of members does not matter, and of members with one key the last
one counts.
-/
namespace VehicleRecords.Json

/-- Puts a member in front of sorted members with other keys, or leaves it out. -/
def insertMember (key : Option String) (value : Tree) :
    List (Option String × Tree) → List (Option String × Tree)
  | [] => [(key, value)]
  | (k, v) :: rest =>
    if key = k then (k, v) :: rest
    else if key.getD "" < k.getD "" then (key, value) :: (k, v) :: rest
    else (k, v) :: insertMember key value rest

namespace Tree

mutual

/-- Members in the order of their keys, the last one of each key. -/
def sorted : Tree → Tree
  | .array items => .array (sortedItems items)
  | .object members => .object (sortedMembers members)
  | t => t

def sortedItems : List Tree → List Tree
  | [] => []
  | item :: items => sorted item :: sortedItems items

def sortedMembers : List (Option String × Tree) → List (Option String × Tree)
  | [] => []
  | (key, value) :: members => insertMember key (sorted value) (sortedMembers members)

end

/-- The value of a whole document, which has to keep all limits. -/
def ofBytes? (bytes : Bytes) : Option Tree :=
  match tokens? bytes with
  | some ts => if keepsLimits 0 ts then (ofTokens? ts).map sorted else none
  | none => none

/-- Nothing at all: a null, or an object without members. -/
def isNothing : Tree → Bool
  | .null | .object [] => true
  | _ => false

end Tree

/-- The message for a value of another form. Arrays are measured as a whole. -/
def Problem.valueMessage : Problem → String
  | tooLong length => (Problem.tooShort length "fewer elements in array").message
  | p => p.message

end VehicleRecords.Json
