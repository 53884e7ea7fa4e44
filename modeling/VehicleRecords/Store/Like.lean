/-!
The wildcard patterns of `LIKE`: `%` stands for any text, `_` for one character, and nothing is
escaped.
-/
namespace VehicleRecords.Store

/-- Whether the text is one piece per pattern character, in order. -/
def like : List Char → List Char → Bool
  | [], [] => true
  | _ :: _, [] => false
  | [], c :: pattern => c == '%' && like [] pattern
  | x :: text, c :: pattern =>
    if c == '%' then like (x :: text) pattern || like text (c :: pattern)
    else (c == '_' || c == x) && like text pattern
termination_by text pattern => text.length + pattern.length

end VehicleRecords.Store
