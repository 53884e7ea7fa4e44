import VehicleRecords.Toml.Parser

/-!
Reading settings from TOML values. A group of settings is a table, or an array that holds its settings
in order; settings that are left out keep their defaults, and others do not matter.
-/
namespace VehicleRecords.Toml

/-- The settings of a group, by name. A date holds none of them. -/
def group? (names : List String) : Value → Option (String → Option Value)
  | .table entries => some fun name => entries.lookup name
  | .array items => some fun name => items[names.idxOf name]?
  | .scalar .datetime => some fun _ => none
  | _ => none

def text? : Value → Option String
  | .text s => some s
  | _ => none

/-- An integer of a range. -/
def integer? (range : Text.IntegerRange) : Value → Option Int
  | .scalar (.integer n) => if range.contains n then some n else none
  | _ => none

/-- One of several words: a text, or a table with that word as its only key and nothing below it. -/
def word? (words : List String) (v : Value) : Option String :=
  let word := match v with
    | .text s => some s
    | .table [(key, .table [])] | .table [(key, .array [])] => some key
    | _ => none
  word.filter words.contains

/-- A setting that may be left out. -/
def settingOr (default : α) (read : Value → Option α) : Option Value → Option α
  | none => some default
  | some v => read v

end VehicleRecords.Toml
