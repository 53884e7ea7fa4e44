import VehicleRecords.Text.Quoted

/-!
Nested named values printed with one part a line and four spaces a level.
-/
namespace VehicleRecords.Text

inductive Outline where
  /-- A name without parts. -/
  | word (name : String)
  /-- A text, shown in quotes. -/
  | quoted (text : String)
  | tuple (name : String) (parts : List Outline)
  | record (name : String) (fields : List (String × Outline))

namespace Outline

def margin (depth : Nat) : String := String.ofList (List.replicate (4 * depth) ' ')

mutual

/-- The text of a value whose parts stand one level below `depth`. -/
def render (depth : Nat) : Outline → String
  | word name => name
  | quoted text => quote text
  | tuple name parts => name ++ "(\n" ++ showParts (depth + 1) parts ++ margin depth ++ ")"
  | record name fields => name ++ " \x7b\n" ++ showFields (depth + 1) fields ++ margin depth ++ "\x7d"

def showParts (depth : Nat) : List Outline → String
  | [] => ""
  | part :: rest => margin depth ++ render depth part ++ ",\n" ++ showParts depth rest

def showFields (depth : Nat) : List (String × Outline) → String
  | [] => ""
  | (name, part) :: rest =>
    margin depth ++ name ++ ": " ++ render depth part ++ ",\n" ++ showFields depth rest

end

def text (o : Outline) : String := o.render 0

end Outline

end VehicleRecords.Text
