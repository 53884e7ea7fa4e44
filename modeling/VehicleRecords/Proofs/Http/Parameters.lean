import Mathlib.Algebra.Order.BigOperators.Group.List
import Mathlib.Data.List.Flatten
import VehicleRecords.Proofs.Filter.Policy
import VehicleRecords.Proofs.Http.Listing
import VehicleRecords.Proofs.Service.Refusal
import VehicleRecords.Proofs.Text.Length

/-!
How many values a request for a listing can bind. Every condition takes at least five bytes of the query
string, the separator counted, so a request target of moderate size never asks for more parameters
than one statement may bind (`listing_parameters`), although a listing is never split.
-/
namespace VehicleRecords

namespace Text.Form

def readPiece (piece : Bytes) : String × String :=
  let (key, value) := cutOnce 0x3D piece
  (decodePart key, decodePart (value.getD []))

theorem parse_eq (s : String) :
    parse s = ((cut 0x26 (bytesOf s)).filter (!·.isEmpty)).map readPiece := rfl

theorem length_key_readPiece_le (piece : Bytes) :
    (readPiece piece).1.toList.length ≤ piece.length := by
  have hkey := length_decodePart_le (cutOnce 0x3D piece).1
  exact hkey.trans (sublist_of_cutOnce 0x3D piece).1.length_le

end Text.Form

/-- A condition is made of one field at most. -/
theorem Filter.length_build_le (g : Grammar) (policy : FilterPolicy) (fields : List (Column × String))
    {filter : Filter} (h : Filter.build g policy fields = .ok filter) :
    filter.length ≤ fields.length := by
  induction fields generalizing filter with
  | nil =>
    cases h
    exact Nat.le_refl 0
  | cons field rest ih =>
    cases hfield : g.read field with
    | ok p =>
      rw [build_cons_ok policy hfield] at h
      obtain ⟨more, hmore, rfl⟩ := map_eq_ok_iff.1 h
      exact Nat.succ_le_succ (ih hmore)
    | error e =>
      rw [build_cons_error policy hfield] at h
      cases policy with
      | skip => exact Nat.le_succ_of_le (ih h)
      | reject => cases h

namespace Sql

theorem length_params_query (table : String) (filter : Filter) (page : Pagination) :
    ∃ c, compile table [] (.run (.query filter page)) = .ok c ∧
      c.params.length ≤ filter.length + 2 := by
  refine ⟨_, rfl, ?_⟩
  rw [values_fragments, List.nil_append, Statement.boundValues, List.length_append, List.length_map]
  split
  · exact Nat.le_add_right _ 2
  · exact Nat.le_refl _

end Sql

namespace Http

namespace Listing

/-- The key names one column at most, and is as long as its name. -/
theorem five_mul_named_le (key : String) :
    5 * (Column.all.filter (key == ·.name)).length ≤ key.toList.length + 1 := by
  by_cases h : ∃ c : Column, key = c.name
  · obtain ⟨c, rfl⟩ := h
    cases c <;> decide
  · have hnone : Column.all.filter (key == ·.name) = [] := by
      rw [List.filter_eq_nil_iff]
      intro c _ hc
      exact h ⟨c, beq_iff_eq.1 hc⟩
    rw [hnone]
    exact Nat.zero_le _

/-- A pair counts for the columns that its key names, whatever stands around it. -/
theorem length_columnFields_cons (pair : String × String) (pairs : List (String × String)) :
    (columnFields (pair :: pairs)).length =
      (Column.all.filter (pair.1 == ·.name)).length + (columnFields pairs).length := by
  -- The pairs are gone through once for each column; the induction is on the columns.
  have hcolumns (columns : List Column) :
      (columns.flatMap fun c => ((pair :: pairs).filter (·.1 == c.name)).map fun p => (c, p.2)).length =
        (columns.filter (pair.1 == ·.name)).length +
          (columns.flatMap fun c => (pairs.filter (·.1 == c.name)).map fun p => (c, p.2)).length := by
    induction columns with
    | nil => rfl
    | cons c columns ih =>
      rw [List.flatMap_cons, List.flatMap_cons, List.length_append, List.length_append, ih,
        List.filter_cons, List.filter_cons, List.length_map, List.length_map]
      cases pair.1 == c.name with
      | true =>
        rw [if_pos rfl, if_pos rfl, List.length_cons, List.length_cons]
        omega
      | false =>
        rw [if_neg Bool.false_ne_true, if_neg Bool.false_ne_true]
        omega
  exact hcolumns Column.all

/-- A piece of a query string is a field of at most one column, and then the column's name is in it. -/
theorem five_mul_length_columnFields_le (pieces : List Bytes) :
    5 * (columnFields (pieces.map Text.Form.readPiece)).length ≤
      (pieces.map fun piece => piece.length + 1).sum := by
  induction pieces with
  | nil => exact Nat.zero_le _
  | cons piece pieces ih =>
    have hkey := Text.Form.length_key_readPiece_le piece
    have hnamed := five_mul_named_le (Text.Form.readPiece piece).1
    rw [List.map_cons, length_columnFields_cons, List.map_cons, List.sum_cons]
    omega

/-- Every field takes five bytes: the name of a column, which has four at least, and a separator. -/
theorem length_fields_le {query : Option String} {listing : Listing}
    (h : Listing.parse query = .ok listing) :
    listing.fields.length ≤ ((bytesOf (query.getD "")).length + 1) / 5 := by
  rw [Listing.parse] at h
  obtain ⟨pagination, -, rfl⟩ := map_eq_ok_iff.1 h
  have hpieces := five_mul_length_columnFields_le
    ((Text.cut 0x26 (bytesOf (query.getD ""))).filter (!·.isEmpty))
  have hsub : (((Text.cut 0x26 (bytesOf (query.getD ""))).filter (!·.isEmpty)).map
      fun piece => piece.length + 1).sum ≤ (bytesOf (query.getD "")).length + 1 := by
    rw [← Text.sum_cut 0x26]
    exact (List.filter_sublist.map _).sum_le_sum fun n _ => Nat.zero_le n
  rw [← Text.Form.parse_eq] at hpieces
  rw [Nat.le_div_iff_mul_le (by decide), Nat.mul_comm]
  calc 5 * (columnFields (Text.Form.parse (query.getD ""))).length
    _ ≤ (((Text.cut 0x26 (bytesOf (query.getD ""))).filter (!·.isEmpty)).map
        fun piece => piece.length + 1).sum := hpieces
    _ ≤ (bytesOf (query.getD "")).length + 1 := hsub

end Listing

/-- What is read from a target is written in it. -/
theorem Target.length_query_le (target : String) :
    (bytesOf ((Target.parse target).query.getD "")).length ≤ (bytesOf target).length := by
  have hbytes {s : List Char} (h : s.Sublist target.toList) :
      (Text.Utf8.encode s).length ≤ (bytesOf target).length := (h.flatMap _).length_le
  have hauthority (s : List Char) : (dropAuthority s).Sublist s := by
    fun_cases dropAuthority s with
    | case1 | case3 => exact List.Sublist.refl _
    | case2 s hslash before rest hcut =>
      have hrest := (Text.sublist_of_cutOnce ':' s).2 ('/' :: '/' :: rest) (by rw [hcut])
      have hdropped := (List.dropWhile_suffix fun c => c != '/' && c != '?' : _ <:+ rest)
      exact (hdropped.trans (List.suffix_append ['/', '/'] rest)).sublist.trans hrest
  have hnofragment := (Text.sublist_of_cutOnce '#' target.toList).1
  have hquery := (Text.sublist_of_cutOnce '?' (dropAuthority (Text.cutOnce '#' target.toList).1)).2
  rw [Target.parse]
  dsimp only
  cases hcut : (Text.cutOnce '?' (dropAuthority (Text.cutOnce '#' target.toList).1)).2 with
  | none => exact Nat.zero_le _
  | some query =>
    have hsub := ((hquery query hcut).trans (hauthority _)).trans hnofragment
    rw [Option.map_some, Option.getD_some, bytesOf, String.toList_ofList]
    exact hbytes hsub

variable {σ : Type}

/-- A listing binds at most one value for every five bytes of its query string, with one byte more, and
the two bounds of the page, whichever of the policies it is read by and however long it gets. So what
the store is given for a target below 64 KiB is always within what a statement may bind. -/
theorem listing_parameters (s : Service σ) :
    (∀ (query : Option String) (listing : Listing) (filter : Filter),
      Listing.parse query = .ok listing → s.buildFilter listing.fields = .ok filter →
      ∀ table, ∃ c, Sql.compile table [] (.run (.query filter listing.pagination)) = .ok c ∧
        c.params.length ≤ ((bytesOf (query.getD "")).length + 1) / 5 + 2) ∧
    ∀ (r : Request) (target : String), r.target = Target.parse target →
      (bytesOf target).length < 65536 → Route.resolve r.method r.target.path = .ok .listCars →
      ∀ (state : σ), ∀ op ∈ (handle (s.withStore s.backend.recorded) r (state, [])).2.2,
      ∀ table, ∃ c, Sql.compile table [] (.run op) = .ok c ∧ c.params.length ≤ Sql.maxParams := by
  have hbound (query : Option String) (listing : Listing) (filter : Filter)
      (hlisting : Listing.parse query = .ok listing)
      (hfilter : s.buildFilter listing.fields = .ok filter) (table : String) :
      ∃ c, Sql.compile table [] (.run (.query filter listing.pagination)) = .ok c ∧
        c.params.length ≤ ((bytesOf (query.getD "")).length + 1) / 5 + 2 := by
    obtain ⟨c, hc, hparams⟩ := Sql.length_params_query table filter listing.pagination
    have hconditions := Filter.length_build_le _ _ _ hfilter
    have hfields := Listing.length_fields_le hlisting
    refine ⟨c, hc, ?_⟩
    calc c.params.length
      _ ≤ filter.length + 2 := hparams
      _ ≤ listing.fields.length + 2 := Nat.add_le_add_right hconditions 2
      _ ≤ ((bytesOf (query.getD "")).length + 1) / 5 + 2 := Nat.add_le_add_right hfields 2
  refine ⟨hbound, fun r target htarget hshort hroute state op hop table => ?_⟩
  have hlength := Target.length_query_le target
  -- Only a query string that can be read, with fields that can be, reaches the store.
  rw [handle, hroute] at hop
  dsimp only [handleRoute] at hop
  rw [listCars] at hop
  cases hlisting : Listing.parse r.target.query with
  | error message =>
    rw [hlisting] at hop
    cases hop
  | ok listing =>
    simp only [hlisting] at hop
    have hbuild : (s.withStore s.backend.recorded).buildFilter listing.fields =
        s.buildFilter listing.fields := rfl
    rw [hbuild] at hop
    cases hfilter : s.buildFilter listing.fields with
    | error e =>
      rw [hfilter] at hop
      cases hop
    | ok filter =>
      simp only [hfilter, answer_listCars_state] at hop
      have hquery : op = .query filter listing.pagination := List.mem_singleton.1 hop
      rw [hquery]
      obtain ⟨c, hc, hparams⟩ := hbound _ listing filter hlisting hfilter table
      refine ⟨c, hc, ?_⟩
      rw [htarget] at hparams
      rw [Sql.maxParams]
      omega

/-- Two conditions on one column and one on another, around the bound of a page. -/
theorem parameters_of_four_pairs :
    Listing.parse (some "mark&limit=2&mark=or:neq:b&year") =
      .ok ⟨[(.mark, ""), (.mark, "or:neq:b"), (.year, "")], ⟨2, 0⟩⟩ ∧
    (Service.permissive Store.LoggedMemory.backend).buildFilter
        [(.mark, ""), (.mark, "or:neq:b"), (.year, "")] =
      .ok [⟨.and, .mark, .eq, ""⟩, ⟨.or, .mark, .ne, "b"⟩, ⟨.and, .year, .eq, ""⟩] ∧
    (∃ c, Sql.compile "cars" [] (.run (.query
        [⟨.and, .mark, .eq, ""⟩, ⟨.or, .mark, .ne, "b"⟩, ⟨.and, .year, .eq, ""⟩] ⟨2, 0⟩)) = .ok c ∧
      c.params.length ≤ 8) ∧
    Route.resolve "GET" (Target.parse "/api/cars?mark&limit=2&mark=or:neq:b&year").path =
      .ok .listCars ∧
    ∀ m, ∀ op ∈ (handle ((Service.permissive Store.LoggedMemory.backend).withStore
          (Service.permissive Store.LoggedMemory.backend).backend.recorded)
        ⟨"GET", Target.parse "/api/cars?mark&limit=2&mark=or:neq:b&year", none⟩ (m, [])).2.2,
      ∀ table, ∃ c, Sql.compile table [] (.run op) = .ok c ∧ c.params.length ≤ Sql.maxParams := by
  have hlisting : Listing.parse (some "mark&limit=2&mark=or:neq:b&year") =
      .ok ⟨[(.mark, ""), (.mark, "or:neq:b"), (.year, "")], ⟨2, 0⟩⟩ := by decide +kernel
  have hfilter : (Service.permissive Store.LoggedMemory.backend).buildFilter
        [(.mark, ""), (.mark, "or:neq:b"), (.year, "")] =
      .ok [⟨.and, .mark, .eq, ""⟩, ⟨.or, .mark, .ne, "b"⟩, ⟨.and, .year, .eq, ""⟩] := by rfl
  have hroute : Route.resolve "GET"
      (Target.parse "/api/cars?mark&limit=2&mark=or:neq:b&year").path = .ok .listCars := by rfl
  obtain ⟨hquery, hrequest⟩ := listing_parameters (Service.permissive Store.LoggedMemory.backend)
  have hshort : (bytesOf "/api/cars?mark&limit=2&mark=or:neq:b&year").length < 65536 := by decide
  exact ⟨hlisting, hfilter, hquery _ _ _ hlisting hfilter "cars", hroute,
    hrequest _ _ rfl hshort hroute⟩

end Http

end VehicleRecords
