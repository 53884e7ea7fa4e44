import VehicleRecords.Proofs.Postgres.Bind
import VehicleRecords.Proofs.Text.Written

/-!
The bytes of a value as its meaning in a type. Values and types are related to the integers and texts
that a column can hold; a value with a meaning is written as bytes that are read as this meaning, and
only one without a meaning is refused (`encode_by_meaning`).
-/
namespace VehicleRecords.Postgres

open Text (Fits)

inductive Datum where
  | integer (n : Int)
  | text (s : String)
  deriving DecidableEq, Repr

def SqlType.width? : SqlType → Option Nat
  | .int2 => some 2
  | .int4 => some 4
  | .int8 => some 8
  | _ => none

/-- What the bytes of a cell are read as: an integer type as two's complement of its own width, any
other type as text. -/
def SqlType.decode? (type : SqlType) (bytes : Bytes) : Option Datum :=
  match type.width? with
  | some size => if bytes.length = size then some (.integer (ofBigEndian bytes)) else none
  | none => (Text.Utf8.decode? bytes).map fun s => .text (String.ofList s)

/-- The integer that a value stands for, of whatever size: itself, or the one that a text writes
between white space. -/
inductive Denotes : Value → Int → Prop
  | integer (n : Int64) : Denotes (.int n) n.toInt
  | numeral {s : String} {n : Int} (h : Text.Writes s n) : Denotes (.text s) n

inductive Spells : Value → String → Prop
  | text (s : String) : Spells (.text s) s
  | decimal (n : Int64) : Spells (.int n) (toString n.toInt)

inductive Means (type : SqlType) (value : Value) : Datum → Prop
  | integer {size : Nat} {n : Int} (hwidth : type.width? = some size) (hn : Denotes value n)
      (hfits : Fits size n) : Means type value (.integer n)
  | text {s : String} (htext : type.isText = true) (hs : Spells value s) :
      Means type value (.text s)

/-! ## Integers -/

theorem half_pow_256 {size : Nat} (h : 0 < size) : Int.pow 256 size / 2 = 2 ^ (8 * size - 1) := by
  have hbits : 8 * size = 8 * size - 1 + 1 := by omega
  have hpow : Int.pow 256 size = 2 ^ (8 * size - 1) * 2 := by
    calc Int.pow 256 size
      _ = ((2 : Int) ^ 8) ^ size := rfl
      _ = 2 ^ (8 * size) := (pow_mul 2 8 size).symm
      _ = 2 ^ (8 * size - 1) * 2 := by rw [hbits, pow_succ, Nat.add_sub_cancel]
  rw [hpow, Int.mul_ediv_cancel _ (by decide)]

theorem decode?_bigEndian {type : SqlType} {size : Nat} (hwidth : type.width? = some size) {n : Int}
    (hfits : Fits size n) : type.decode? (bigEndian size n) = some (.integer n) := by
  have hpos : 0 < size := by cases type <;> cases hwidth <;> decide
  have hread : ofBigEndian (bigEndian size n) = n := by
    refine ofBigEndian_bigEndian ?_ ?_ <;> rw [half_pow_256 hpos]
    · exact hfits.1
    · exact hfits.2
  rw [SqlType.decode?, hwidth]
  dsimp only
  rw [if_pos (length_bigEndian size n), hread]

/-- An integer type has the range of its width. -/
theorem integer?_of_width? {type : SqlType} {size : Nat} (hwidth : type.width? = some size) :
    ∃ range : Text.IntegerRange, type.integer? = some (range, size) ∧
      (range.least < 0 ∧ 0 ≤ range.greatest) ∧ ∀ n, range.contains n = true ↔ Fits size n := by
  cases type with
  | int2 | int4 | int8 =>
    cases hwidth
    refine ⟨_, rfl, by decide, fun n => ?_⟩
    simp only [Text.IntegerRange.contains_iff, Fits, Text.IntegerRange.int16, Text.IntegerRange.int32,
      Text.IntegerRange.int64]
    omega
  | _ => cases hwidth

theorem toOption_eq_some_iff {ε α : Type} (r : Except ε α) (a : α) :
    r.toOption = some a ↔ r = .ok a := by
  cases r <;> simp [Except.toOption]

/-- An integer type takes from a value the integer it stands for, in its range. -/
theorem integerOf?_eq_some_iff {range : Text.IntegerRange}
    (hr : range.least < 0 ∧ 0 ≤ range.greatest) (value : Value) (n : Int) :
    integerOf? range value = some n ↔ Denotes value n ∧ range.contains n = true := by
  cases value with
  | null =>
    constructor
    · nofun
    · rintro ⟨h, _⟩
      cases h
  | int k =>
    rw [integerOf?, Option.ite_none_right_eq_some, Option.some.injEq]
    constructor
    · rintro ⟨hk, rfl⟩
      exact ⟨.integer k, hk⟩
    · rintro ⟨h, hn⟩
      cases h
      exact ⟨hn, rfl⟩
  | text s =>
    rw [integerOf?, toOption_eq_some_iff, Text.read_trim_iff hr]
    constructor
    · rintro ⟨hn, hrange⟩
      exact ⟨.numeral hn, hrange⟩
    · rintro ⟨h, hrange⟩
      cases h with
      | numeral hn => exact ⟨hn, hrange⟩

/-! ## Conversion -/

section Conversion

variable {type : SqlType} {value : Value}

theorem encode_of_integer {range : Text.IntegerRange} {size : Nat}
    (htype : type.integer? = some (range, size)) {n : Int} (h : integerOf? range value = some n) :
    encode type value = .ok (some (bigEndian size n)) := by
  cases value with
  | null => cases h
  | int _ => simp only [encode, htype, h]
  | text _ => simp only [encode, htype, h]

theorem encode_of_no_integer {range : Text.IntegerRange} {size : Nat}
    (htype : type.integer? = some (range, size)) (hvalue : value ≠ .null)
    (h : integerOf? range value = none) : encode type value = .error ⟨shown value, type⟩ := by
  cases value with
  | null => exact absurd rfl hvalue
  | int _ => simp only [encode, htype, h]
  | text _ => simp only [encode, htype, h]

/-- A type that is accepted has a width or holds text, and not both. -/
theorem width?_cases (htype : type.isAccepted = true) :
    (∃ size, type.width? = some size ∧ type.isText = false) ∨
      (type.width? = none ∧ type.isText = true) := by
  cases type with
  | int2 | int4 | int8 => exact .inl ⟨_, rfl, rfl⟩
  | text | varchar => exact .inr ⟨rfl, rfl⟩
  | other name => cases htype

theorem spells_shown (hvalue : value ≠ .null) : Spells value (shown value) := by
  cases value with
  | null => exact absurd rfl hvalue
  | int n => exact .decimal n
  | text s => exact .text s

theorem encode_of_spells (htext : type.isText = true) {s : String} (h : Spells value s) :
    encode type value = .ok (some (bytesOf s)) := by
  have hinteger : type.integer? = none := by cases type <;> first | rfl | cases htext
  cases h <;> simp only [encode, hinteger, shown]

theorem decode?_bytesOf (hwidth : type.width? = none) (s : String) :
    type.decode? (bytesOf s) = some (.text s) := by
  have hread : Text.Utf8.decode? (bytesOf s) = some s.toList := Text.Utf8.decode?_encode s.toList
  rw [SqlType.decode?, hwidth]
  dsimp only
  rw [hread, Option.map_some, String.ofList_toList]

/-- A meaning is written as bytes that are read as it. -/
theorem encode_of_means (htype : type.isAccepted = true) {d : Datum} (h : Means type value d) :
    ∃ bytes, encode type value = .ok (some bytes) ∧ type.decode? bytes = some d ∧
      ∀ s, d = .text s → bytes = bytesOf s := by
  cases h with
  | integer hwidth hn hfits =>
    obtain ⟨range, hinteger, hr, hrange⟩ := integer?_of_width? hwidth
    have hread := (integerOf?_eq_some_iff hr value _).2 ⟨hn, (hrange _).2 hfits⟩
    exact ⟨_, encode_of_integer hinteger hread, decode?_bigEndian hwidth hfits, nofun⟩
  | text htext hs =>
    rcases width?_cases htype with ⟨_, _, hno⟩ | ⟨hwidth, _⟩
    · rw [hno] at htext
      cases htext
    · refine ⟨_, encode_of_spells htext hs, decode?_bytesOf hwidth _, ?_⟩
      rintro s ⟨rfl⟩
      rfl

/-- Only an integer type refuses a value: every value that is not null spells a text. -/
theorem encode_of_no_meaning (htype : type.isAccepted = true) (hvalue : value ≠ .null)
    (h : ¬ ∃ d, Means type value d) : encode type value = .error ⟨shown value, type⟩ := by
  rcases width?_cases htype with ⟨size, hwidth, _⟩ | ⟨_, htext⟩
  · obtain ⟨range, hinteger, hr, hrange⟩ := integer?_of_width? hwidth
    refine encode_of_no_integer hinteger hvalue (Option.eq_none_iff_forall_ne_some.2 ?_)
    intro n hread
    obtain ⟨hn, hcontains⟩ := (integerOf?_eq_some_iff hr value n).1 hread
    exact h ⟨_, .integer hwidth hn ((hrange n).1 hcontains)⟩
  · exact absurd ⟨_, .text htext (spells_shown hvalue)⟩ h

end Conversion

/-- A null is written as the database's null. Any other value is written as bytes exactly when it has a
meaning in the type, and the bytes are read as this meaning: an integer of the type's range in the
type's width, or a text as its own bytes. A value without a meaning is refused, and the refusal tells
the type and the value as it was given, with the white space that a reading leaves out. -/
theorem encode_by_meaning {type : SqlType} (htype : type.isAccepted = true) (value : Value) :
    encode type .null = .ok none ∧
    (value ≠ .null →
      ((∃ bytes, encode type value = .ok (some bytes)) ↔ ∃ d, Means type value d) ∧
      (∀ d, Means type value d → ∃ bytes, encode type value = .ok (some bytes) ∧
        type.decode? bytes = some d ∧ ∀ s, d = .text s → bytes = bytesOf s) ∧
      ((¬ ∃ d, Means type value d) →
        ∃ given, Spells value given ∧ encode type value = .error ⟨given, type⟩)) := by
  refine ⟨rfl, fun hvalue => ⟨⟨?_, ?_⟩, fun d => encode_of_means htype, fun h =>
    ⟨_, spells_shown hvalue, encode_of_no_meaning htype hvalue h⟩⟩⟩
  · rintro ⟨bytes, hbytes⟩
    by_contra h
    rw [encode_of_no_meaning htype hvalue h] at hbytes
    cases hbytes
  · rintro ⟨d, hd⟩
    obtain ⟨bytes, hbytes, _⟩ := encode_of_means htype hd
    exact ⟨bytes, hbytes⟩

/-- The least integer of two bytes, between wide and narrow white space, and the first one too many. -/
theorem encode_at_the_limits :
    let least : Value := .text "\u2003-0032768 "
    let beyond : Value := .text " +32768"
    SqlType.int2.isAccepted = true ∧ least ≠ .null ∧ beyond ≠ .null ∧
    Means .int2 least (.integer (-32768)) ∧ encode .int2 least = .ok (some [0x80, 0x00]) ∧
    SqlType.int2.decode? [0x80, 0x00] = some (.integer (-32768)) ∧
    encode .int2 beyond = .error ⟨" +32768", .int2⟩ ∧ ¬ ∃ d, Means .int2 beyond d := by
  intro least beyond
  have haccepted : SqlType.int2.isAccepted = true := rfl
  have hleast : least ≠ .null := nofun
  have hbeyond : beyond ≠ .null := nofun
  have hdenotes : Denotes least (-32768) := .numeral ⟨_, Text.trimmed_trim _, by decide⟩
  have hmeans : Means .int2 least (.integer (-32768)) :=
    .integer rfl hdenotes ⟨by decide, by decide⟩
  have hbytes : encode .int2 least = .ok (some [0x80, 0x00]) := by rfl
  have hrefused : encode .int2 beyond = .error ⟨" +32768", .int2⟩ := by rfl
  obtain ⟨_, hwritten, _⟩ := (encode_by_meaning haccepted least).2 hleast
  obtain ⟨hmeaning, _, _⟩ := (encode_by_meaning haccepted beyond).2 hbeyond
  refine ⟨haccepted, hleast, hbeyond, hmeans, hbytes, ?_, hrefused, fun h => ?_⟩
  · obtain ⟨bytes, hsome, hread, _⟩ := hwritten _ hmeans
    rw [hbytes] at hsome
    cases hsome
    exact hread
  · obtain ⟨bytes, hsome⟩ := hmeaning.2 h
    rw [hrefused] at hsome
    cases hsome

end VehicleRecords.Postgres
