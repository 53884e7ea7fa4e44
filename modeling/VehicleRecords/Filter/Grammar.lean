import VehicleRecords.Filter.Predicate

/-!
How a store reads the texts of a filter, and what becomes of a filter field that cannot be read.
-/
namespace VehicleRecords

/-- The reading of one filter text. -/
inductive Grammar where
  /-- Texts are tokens with an optional connective and operator. -/
  | tokens
  /-- Texts are values, compared for equality. -/
  | bareValues
  deriving DecidableEq, Repr

namespace Grammar

def parse : Grammar → Column → String → Except Error Predicate
  | tokens, column, raw => Predicate.parse column raw
  | bareValues, column, raw => .ok { column, value := raw }

/-- Appends the condition that `raw` stands for. -/
def add (g : Grammar) (filter : Filter) (column : Column) (raw : String) : Except Error Filter :=
  (g.parse column raw).map fun predicate => filter ++ [predicate]

end Grammar

/-- What to do with a filter field that cannot be read. -/
inductive FilterPolicy where
  /-- Leave the field out. -/
  | skip
  /-- Fail the whole listing. -/
  | reject
  deriving DecidableEq, Repr, Inhabited

namespace FilterPolicy

def keyword : FilterPolicy → String
  | skip => "skip"
  | reject => "reject"

def ofText (s : String) : Except Error FilterPolicy :=
  match [skip, reject].find? fun p => Text.sameWord p.keyword s with
  | some policy => .ok policy
  | none => .error (.adhoc ("unknown filter policy `" ++ s ++ "`; expected `skip` or `reject`"))

end FilterPolicy

namespace Filter

/-- Reads raw fields in order. The policy decides about those that cannot be read. -/
def build (g : Grammar) (policy : FilterPolicy) : List (Column × String) → Except Error Filter
  | [] => .ok []
  | (column, raw) :: rest =>
    match g.parse column raw, policy with
    | .ok predicate, _ => (build g policy rest).map (predicate :: ·)
    | .error _, .skip => build g policy rest
    | .error e, .reject => .error e

end Filter

end VehicleRecords
