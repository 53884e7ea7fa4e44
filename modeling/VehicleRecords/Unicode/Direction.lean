import VehicleRecords.Unicode.Property

/-!
The direction of characters in Unicode 16.0, and which names read in one direction only. Characters
outside the tables read from left to right.
-/
namespace VehicleRecords.Unicode

def rightToLeftRanges : Ranges := .ofText "
  5BE 5C0 5C3 5C6 5D0-5F4 608 60B 60D 61B-64A 66D-66F 671-6D5 6E5-6E6 6EE-6EF 6FA-710 712-72F
  74D-7A5 7B1-7EA 7F4-7F5 7FA 7FE-815 81A 824 828 830-858 85E-88E 8A0-8C9 FBB2-FBC2 FE73
  10800-1091B 10920-10A00 10A10-10A35 10A40-10AE4 10AEB-10B35 10B40-10D23 10D40-10D65 10D6F-10D85
  10D8E-10D8F 10E80-10EA9 10EAD-10EC4 10F00-10F45 10F51-10F81 10F86-10FF6 1E800-1E8CF 1E922-1E943
  1E94B-1ED3D"

def arabicNumberRanges : Ranges := .ofText "660-669 66B-66C 10D30-10D39 10E60-10E7E"

def europeanNumberRanges : Ranges := .ofText "30-39 6F0-6F9 102E1-102FB 1CCF0-1CCF9"

/-- Characters that read as their neighbours do. -/
def neutralRanges : Ranges := .ofText "
  0-2F 3A-40 5B-60 7B-D7 F7 2B9-2BA 2C2-2CF 2D2-2ED 2EF-2FF 375 3F6 58A-58F 606-607 609-60A 60C
  60E-60F 66A 6DE 6E9 7F6-7F9 9F2-9F3 9FB AF1 BF3-BFA C78-C7E E3F F3A-F3D 1390-1399 1400 169B-169C
  17DB 17F0-180A 1940-1945 19DE-19FF 2010-20C0 2104-214D 218A-2335 237B-2394 2396-26AB 26AD-27FF
  2900-2BFF 2CE5-2CEA 2CF9-2CFF 2E00-3004 3008-3020 3030 3037 303D-303F 30A0 30FB 31C0-31E3
  4DC0-4DFF A490-A4C6 A60D-A60F A673 A67E-A67F A700-A721 A788 A828-A82B A838-A839 A874-A877
  AB6A-AB6B FD3E-FDFF FE45-FE46 10101 10140-1018C 10190-101A0 1091F 10B39-10B3F 11052-11065
  11660-1166C 11FD5-11FF1 16FE2 1D1E9-1D241 1D245 1D300-1D356 1E2FF 1EEF0-1F12F 1F16D-1F16F 1F1AD
  1F260-1F6D7 1F6DD-1F773 1F780-1F7D8 1F7E0-1FA74 1FA78-1FA86 1FA90-1FAAC 1FAB0-1FABA 1FAC0-1FAC5
  1FAD0-1FAD9 1FAE0-1FAE7 1FAF0-1FAF6 1FB00-1FBCA"

/-- Letters that join the letter behind them, and those that join the letter in front of them. -/
def joinsNextRanges : Ranges := .ofText "
  620 626 628 62A-62E 633-63F 641-647 649-64A 66E-66F 679-687 69A-6BF 6C1-6C2 6CC 6CE 6D0-6D1
  6FA-6FC 6FF 712-714 71A-71D 71F-727 729 72B 72D-72E 74E-758 75C-766 850-853 855 8A0 8A2-8A9 1807
  1820-1877 1887-18A8 18AA A840-A872"

def joinsPreviousRanges : Ranges := .ofText "
  620 622-63F 641-64A 66E-66F 671-673 679-6D3 6D5 6EE-6EF 6FA-6FC 6FF 710 712-72F 74D-766 850-855
  8A0 8A2-8AC 1807 1820-1877 1887-18A8 18AA A840-A871"

inductive Direction where
  | leftToRight
  | rightToLeft
  | arabicNumber
  | europeanNumber
  | neutral
  /-- Marks belong to the character in front of them. -/
  | mark
  deriving DecidableEq, Repr

open GeneralCategory

def direction (c : Char) : Direction :=
  if rightToLeftRanges.contains c.toNat then .rightToLeft
  else if arabicNumberRanges.contains c.toNat then .arabicNumber
  else if europeanNumberRanges.contains c.toNat then .europeanNumber
  else if hasCategory [nonspacingMark, enclosingMark] c then .mark
  else if neutralRanges.contains c.toNat then .neutral
  else .leftToRight

/-- The label makes directions matter in the whole name. -/
def hasRightToLeft (label : List Char) : Bool :=
  label.any fun c => direction c = .rightToLeft ∨ direction c = .arabicNumber

/-- The label reads in one direction from its first character to its last one. -/
def readsOneWay (label : List Char) : Bool :=
  let directions := label.map direction
  let last := (directions.reverse.dropWhile (· = .mark)).head?
  match directions with
  | [] => true
  | .rightToLeft :: _ =>
    !directions.contains .leftToRight &&
      (last = some .rightToLeft || last = some .arabicNumber || last = some .europeanNumber) &&
      !(directions.contains .arabicNumber && directions.contains .europeanNumber)
  | .leftToRight :: _ =>
    !directions.contains .rightToLeft && !directions.contains .arabicNumber &&
      (last = some .leftToRight || last = some .europeanNumber)
  | _ => false

end VehicleRecords.Unicode
