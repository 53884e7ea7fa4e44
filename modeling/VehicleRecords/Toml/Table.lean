import VehicleRecords.Toml.Scalar

/-!
Tables of a TOML text while they are put together from headers and from key-value pairs. A table is
defined once: by a header, by the dotted keys of one section, or by an inline value.
-/
namespace VehicleRecords.Toml

inductive Value where
  | text (s : String)
  | scalar (v : Scalar)
  | array (items : List Value)
  | table (entries : List (String × Value))
  deriving Repr, Inhabited

/-- How a table came about. -/
inductive Origin where
  /-- By a header or as an inline value. -/
  | defined
  /-- A header names a table inside it. -/
  | implied
  /-- A dotted key leads through it. -/
  | dotted
  deriving DecidableEq, Repr

/-- What stands under a key. -/
inductive Node where
  | value (v : Value)
  | table (origin : Origin) (entries : List (String × Node))
  /-- Tables that each have a header of their own, the last one apart. -/
  | tables (before : List (List (String × Node))) (last : List (String × Node))

abbrev Entries := List (String × Node)

namespace Entries

/-- Puts a node in the place of the one with the same key, or behind all others. -/
def put (entries : Entries) (key : String) (node : Node) : Entries :=
  if entries.any (·.1 == key) then entries.map fun e => if e.1 == key then (key, node) else e
  else entries ++ [(key, node)]

/-- Changes the table at the end of a path. Tables that are missing on the way come about as `new`;
a way of dotted keys leads through no defined table. -/
def change? (new : Origin) (f : Origin → Entries → Option Entries) :
    List String → Origin → Entries → Option Entries
  | [], origin, entries => f origin entries
  | key :: path, _, entries =>
    match entries.lookup key with
    | none => (change? new f path new []).map fun sub => entries.put key (.table new sub)
    | some (.value _) => none
    | some (.table origin sub) =>
      if new = .dotted ∧ origin = .defined then none
      else (change? new f path origin sub).map fun sub => entries.put key (.table origin sub)
    | some (.tables before last) =>
      (change? new f path .defined last).map fun last => entries.put key (.tables before last)

/-- Adds a key-value pair. A dotted key ends in a table of dotted keys, a simple key in no such
table. -/
def add? (path : List String) (key : String) (v : Value) (origin : Origin) (entries : Entries) :
    Option Entries :=
  change? .dotted
    (fun origin entries =>
      if (origin == .dotted) == path.isEmpty || entries.any (·.1 == key) then none
      else some (entries.put key (.value v)))
    path origin entries

/-- Defines a table. It may have been implied before. -/
def define? (key : String) (entries : Entries) : Option Entries :=
  match entries.lookup key with
  | none => some (entries.put key (.table .defined []))
  | some (.table .implied sub) => some (entries.put key (.table .defined sub))
  | some _ => none

/-- Begins the next one of an array of tables. -/
def append? (key : String) (entries : Entries) : Option Entries :=
  match entries.lookup key with
  | none => some (entries.put key (.tables [] []))
  | some (.tables before last) => some (entries.put key (.tables (before ++ [last]) []))
  | some _ => none

end Entries

namespace Node

mutual

def toValue : Node → Value
  | .value v => v
  | .table _ entries => .table (values entries)
  | .tables before last => .array (arrays before ++ [.table (values last)])

def values : List (String × Node) → List (String × Value)
  | [] => []
  | (key, node) :: rest => (key, toValue node) :: values rest

def arrays : List (List (String × Node)) → List Value
  | [] => []
  | entries :: rest => .table (values entries) :: arrays rest

end

end Node

end VehicleRecords.Toml
