import VehicleRecords.Json.Token

/-!
JSON texts as trees. An automaton with a stack of open arrays and objects turns tokens into a tree,
whatever their nesting; the limits on nesting, numbers and strings are a separate check of the
tokens.
-/
namespace VehicleRecords.Json

/-- A JSON value. Members keep their order and their repetitions. A string or key without a value
holds something that is no character. -/
inductive Tree where
  | null
  | bool (b : Bool)
  | number (n : Number)
  | string (s : Option String)
  | array (items : List Tree)
  | object (members : List (Option String × Tree))
  deriving Repr, Inhabited

def text (s : String) : Tree := .string (some s)

def integer (n : Int) : Tree := .number (.ofInt n)

def object (members : List (String × Tree)) : Tree :=
  .object (members.map fun (key, value) => (some key, value))

/-- An array or object that is not closed yet, with what it holds so far, the latest first. An
object also has the key whose value is due. -/
inductive Frame where
  | array (items : List Tree)
  | object (members : List (Option String × Tree)) (key : Option String)

/-- What may come next, inside the frames that are open, the innermost first. -/
inductive Position where
  /-- A value is due. -/
  | value (frames : List Frame)
  /-- An array has just been opened. -/
  | firstItem (frames : List Frame)
  /-- An object has just been opened. -/
  | firstKey (frames : List Frame)
  /-- The next key is due. -/
  | key (frames : List Frame) (members : List (Option String × Tree))
  | colon (frames : List Frame) (members : List (Option String × Tree)) (key : Option String)
  /-- A value is complete. -/
  | behind (frames : List Frame) (value : Tree)

namespace Position

/-- The token begins a value. -/
def start? (frames : List Frame) : Token → Option Position
  | .openArray => some (.firstItem frames)
  | .openObject => some (.firstKey frames)
  | .null => some (.behind frames .null)
  | .bool b => some (.behind frames (.bool b))
  | .number n => some (.behind frames (.number n))
  | .string s => some (.behind frames (.string s))
  | _ => none

def step? : Position → Token → Option Position
  | value frames, t => start? frames t
  | firstItem frames, .closeArray => some (behind frames (.array []))
  | firstItem frames, t => start? (.array [] :: frames) t
  | firstKey frames, .closeObject => some (behind frames (.object []))
  | firstKey frames, .string k => some (colon frames [] k)
  | key frames members, .string k => some (colon frames members k)
  | colon frames members k, .colon => some (value (.object members k :: frames))
  | behind (.array items :: frames) v, .comma => some (value (.array (v :: items) :: frames))
  | behind (.array items :: frames) v, .closeArray =>
    some (behind frames (.array (v :: items).reverse))
  | behind (.object members k :: frames) v, .comma => some (key frames ((k, v) :: members))
  | behind (.object members k :: frames) v, .closeObject =>
    some (behind frames (.object ((k, v) :: members).reverse))
  | _, _ => none

def finish? : Position → Option Tree
  | behind [] v => some v
  | _ => none

end Position

/-- The tree of a complete text. -/
def Tree.ofTokens? (ts : List Token) : Option Tree :=
  (ts.foldlM Position.step? (.value [])).bind Position.finish?

/-- Most arrays and objects that may stand inside each other. -/
def maxNesting : Nat := 127

/-- Inside `depth` arrays and objects, the tokens keep the nesting limit, and all their strings and
numbers have a value. -/
def keepsLimits (depth : Nat) : List Token → Bool
  | [] => true
  | .openArray :: ts | .openObject :: ts => depth < maxNesting && keepsLimits (depth + 1) ts
  | .closeArray :: ts | .closeObject :: ts => keepsLimits (depth - 1) ts
  | .string s :: ts => s.isSome && keepsLimits depth ts
  | .number n :: ts => n.isFinite && keepsLimits depth ts
  | _ :: ts => keepsLimits depth ts

end VehicleRecords.Json
