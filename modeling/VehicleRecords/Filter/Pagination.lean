/-!
Page windows of a listing.
-/
namespace VehicleRecords

/-- A window of at most `limit` records after the first `offset`. A limit of zero is no window. -/
structure Pagination where
  limit : UInt64 := 0
  offset : UInt64 := 0
  deriving DecidableEq, Repr, Inhabited

namespace Pagination

def isEnabled (p : Pagination) : Bool := p.limit != 0

/-- The records inside the window. -/
def apply (p : Pagination) (xs : List α) : List α :=
  if p.isEnabled then (xs.drop p.offset.toNat).take p.limit.toNat else xs

end Pagination

end VehicleRecords
