import VehicleRecords.Value

/-!
SQL text before it is written: fixed words, quoted names, and bound values. Writing numbers the
bound values, so the text holds `$n` where the fragments hold the n-th value, and nothing of the
values themselves.
-/
namespace VehicleRecords.Sql

inductive Fragment where
  /-- Fixed text, with neither a double quote nor a dollar sign. -/
  | word (text : String)
  /-- A quoted identifier. -/
  | name (identifier : String)
  /-- A value, written as a numbered placeholder. -/
  | bind (value : Value)
  deriving DecidableEq, Repr

/-- A name in double quotes; a quote inside it is written twice. -/
def quoteName (name : String) : String :=
  String.ofList ('"' :: name.toList.flatMap (fun c => if c = '"' then ['"', '"'] else [c]) ++ ['"'])

/-- The placeholder of the n-th parameter. -/
def placeholder (n : Nat) : String := "$" ++ toString n

namespace Fragment

/-- The value a fragment binds. -/
def value? : Fragment → Option Value
  | bind value => some value
  | _ => none

/-- The bound values in the order of their placeholders. -/
def values (fs : List Fragment) : List Value := fs.filterMap value?

/-- Writes fragments behind `text`, the first placeholder having the number after `bound`. -/
def writeOnto (text : String) (bound : Nat) : List Fragment → String
  | [] => text
  | word w :: rest => writeOnto (text ++ w) bound rest
  | name n :: rest => writeOnto (text ++ quoteName n) bound rest
  | bind _ :: rest => writeOnto (text ++ placeholder (bound + 1)) (bound + 1) rest

/-- The SQL text of fragments when `bound` parameters precede them. -/
def write (bound : Nat) (fs : List Fragment) : String := writeOnto "" bound fs

/-- Groups with commas between them. -/
def commaSeparated (groups : List (List Fragment)) : List Fragment :=
  [word ", "].intercalate groups

theorem writeOnto_eq (text : String) (bound : Nat) (fs : List Fragment) :
    writeOnto text bound fs = text ++ write bound fs := by
  induction fs generalizing text bound with
  | nil => simp [write, writeOnto]
  | cons f rest ih =>
    cases f <;> simp only [write, writeOnto] <;> rw [ih, ih ("" ++ _)] <;>
      simp [String.append_assoc]

end Fragment

end VehicleRecords.Sql
