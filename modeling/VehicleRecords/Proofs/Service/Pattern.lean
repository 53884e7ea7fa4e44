import VehicleRecords.Proofs.Service.Run
import VehicleRecords.Proofs.Store.Listing

namespace VehicleRecords

/-- The record has a text in the column, and the text is made of pieces for the pattern. -/
def Predicate.InPieces (p : Predicate) (car : Car) : Prop :=
  ∃ stored pieces, car.value p.column = .text stored ∧
    Store.PiecesOf stored.toList p.value.toList pieces

namespace Service

open Store LoggedMemory

theorem holdsOf_iff_inPieces {p : Predicate} (hlike : p.operator = .like) (hyear : p.column ≠ .year)
    (car : Car) : p.HoldsOf car ↔ p.InPieces car := by
  obtain ⟨stored, hstored⟩ := value_of_ne_year hyear car
  simp only [Predicate.HoldsOf, Predicate.InPieces, hstored, if_pos hlike, ← like_iff,
    like_iff_exists_piecesOf]
  constructor
  · rintro ⟨pieces, hpieces⟩
    exact ⟨stored, pieces, rfl, hpieces⟩
  · rintro ⟨_, pieces, ⟨⟩, hpieces⟩
    exact ⟨pieces, hpieces⟩

/-- The matcher answers true exactly when the text is a row of pieces, one for each character of the
pattern in order: any piece for `%`, one character for `_`, and for another character itself. So a
listing by patterns for columns other than the year succeeds. Cut to the page, it has in their order the
stored records whose texts are so made for all patterns of some group of the filter. -/
theorem patterns_in_pieces :
    (∀ text pattern : List Char,
      like text pattern = true ↔ ∃ pieces, PiecesOf text pattern pieces) ∧
    ∀ (s : Service LoggedMemory) (filter : Filter) (page : Pagination) (m : LoggedMemory),
      s.backend.exec = LoggedMemory.exec →
      (∀ p ∈ filter, p.operator = .like ∧ p.column ≠ .year) →
      ∃ keep : Car → Bool,
        (s.listCars filter page m).1 = .ok (page.apply (m.memory.cars.filter keep)) ∧
        ∀ car, keep car = true ↔
          filter = [] ∨ ∃ group ∈ groupsOf filter, ∀ p ∈ group, p.InPieces car := by
  refine ⟨like_iff_exists_piecesOf, fun s filter page m hs hfilter => ?_⟩
  have hwell (p : Predicate) (hp : p ∈ filter) : p.WellTyped :=
    fun hyear => absurd hyear (hfilter p hp).2
  have hpieces (car : Car) (group : List Predicate) (hgroup : group ∈ groupsOf filter) :
      (∀ p ∈ group, p.HoldsOf car) ↔ ∀ p ∈ group, p.InPieces car := by
    refine forall₂_congr fun p hp => ?_
    obtain ⟨hlike, hyear⟩ := hfilter p (mem_of_mem_groupsOf hgroup hp)
    exact holdsOf_iff_inPieces hlike hyear car
  obtain ⟨keep, hselect, hkeep⟩ := select_of_wellTyped hwell
  refine ⟨keep, ?_, fun car => ?_⟩
  · rw [Service.listCars, (listCars_eq hs filter page m).1, hselect]
    rfl
  · rw [hkeep]
    exact or_congr_right (exists_congr fun group => and_congr_right (hpieces car group))

/-- A character of two bytes is one character to `_`, a second `%` takes an empty piece, and an empty text
has no character for `_`. -/
theorem patterns_for_wide_and_empty_texts :
    (permissive LoggedMemory.backend).backend.exec = LoggedMemory.exec ∧
    (∀ p ∈ ([⟨.or, .mark, .like, "Л_д%"⟩, ⟨.and, .model, .like, "%%_"⟩] : Filter),
      p.operator = .like ∧ p.column ≠ .year) ∧
    ((permissive LoggedMemory.backend).listCars
        [⟨.or, .mark, .like, "Л_д%"⟩, ⟨.and, .model, .like, "%%_"⟩] {}
        ⟨⟨[{ mark := "Лада", model := "5" }, { mark := "Лада", model := "" }], 2⟩, []⟩).1 =
      .ok [{ mark := "Лада", model := "5" }] := by
  have hfilter : ∀ p ∈ ([⟨.or, .mark, .like, "Л_д%"⟩, ⟨.and, .model, .like, "%%_"⟩] : Filter),
      p.operator = .like ∧ p.column ≠ .year := by decide
  have hgroups : groupsOf [⟨.or, .mark, .like, "Л_д%"⟩, ⟨.and, .model, .like, "%%_"⟩] =
      [[⟨.or, .mark, .like, "Л_д%"⟩, ⟨.and, .model, .like, "%%_"⟩]] := rfl
  have hmark : PiecesOf "Лада".toList "Л_д%".toList [['Л'], ['а'], ['д'], ['а']] :=
    ⟨by decide, by simp [StandsFor]⟩
  have hmodel : PiecesOf "5".toList "%%_".toList [[], [], ['5']] :=
    ⟨by decide, by simp [StandsFor]⟩
  have hempty (pieces : List (List Char)) : ¬ PiecesOf "".toList "%%_".toList pieces := by
    intro hpieces
    have hlike := (patterns_in_pieces.1 _ _).2 ⟨pieces, hpieces⟩
    simp [like] at hlike
  obtain ⟨keep, hlist, hkeep⟩ := patterns_in_pieces.2 (permissive LoggedMemory.backend) _ {}
    ⟨⟨[{ mark := "Лада", model := "5" }, { mark := "Лада", model := "" }], 2⟩, []⟩ rfl hfilter
  have hboth (car : Car) : keep car = true ↔ Predicate.InPieces ⟨.or, .mark, .like, "Л_д%"⟩ car ∧
      Predicate.InPieces ⟨.and, .model, .like, "%%_"⟩ car := by
    rw [hkeep, hgroups]
    simp
  have hfirst : keep { mark := "Лада", model := "5" } = true :=
    (hboth _).2 ⟨⟨_, _, rfl, hmark⟩, _, _, rfl, hmodel⟩
  have hsecond : ¬ keep { mark := "Лада", model := "" } = true := by
    rw [hboth]
    rintro ⟨-, stored, pieces, ⟨⟩, hpieces⟩
    exact hempty pieces hpieces
  refine ⟨rfl, hfilter, hlist.trans ?_⟩
  rw [List.filter_cons_of_pos hfirst, List.filter_cons_of_neg hsecond]
  rfl

end Service

end VehicleRecords
