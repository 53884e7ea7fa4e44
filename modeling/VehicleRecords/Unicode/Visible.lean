import VehicleRecords.Unicode.Property

/-!
Which characters can be shown as they are. The rest are control, format and private-use characters,
separators other than the plain space, unassigned code points, and marks that join a neighbour.
-/
namespace VehicleRecords.Unicode

open GeneralCategory

/-- The categories whose characters leave no mark on paper. -/
def invisibleCategories : List GeneralCategory :=
  [control, format, privateUse, unassigned, lineSeparator, paragraphSeparator, spaceSeparator]

def isVisible (c : Char) : Bool :=
  c == ' ' || !(hasCategory invisibleCategories c || isGraphemeExtend c)

end VehicleRecords.Unicode
