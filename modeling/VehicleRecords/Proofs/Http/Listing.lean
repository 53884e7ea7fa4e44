import VehicleRecords.Proofs.Filter.Token
import VehicleRecords.Proofs.Http.Failure
import VehicleRecords.Proofs.Text.Decimal
import VehicleRecords.Proofs.Text.Form

/-!
Every filter can be sent. The query string that encodes its conditions, column by column, and the
bounds of a page makes a listing ask the store for exactly this filter and this page, whatever the
values contain and whatever else stands in the query (`listing_request`).
-/
namespace VehicleRecords

namespace Column

def position (c : Column) : Nat := all.idxOf c

theorem all_increasing : all.Pairwise fun a b => a.position < b.position := by decide

end Column

/-! ## Conditions in column order -/

theorem filter_append_filter {α : Type} (column : α → Column) (c : Column) (xs : List α)
    (hsorted : xs.Pairwise fun x y => (column x).position ≤ (column y).position)
    (hleast : ∀ x ∈ xs, column x ≠ c → c.position < (column x).position) :
    xs.filter (column · == c) ++ xs.filter (column · != c) = xs := by
  induction xs with
  | nil => rfl
  | cons x xs ih =>
    have hrest := List.pairwise_cons.1 hsorted
    -- Behind the first condition on another column there is none on the first one any more.
    by_cases hx : column x = c
    · have ih := ih hrest.2 fun y hy => hleast y (List.mem_cons_of_mem _ hy)
      simp [hx, ih]
    · have hlt := hleast x List.mem_cons_self hx
      have hnone : ∀ y ∈ x :: xs, column y ≠ c := by
        intro y hy hc
        rcases List.mem_cons.1 hy with rfl | hy
        · exact hx hc
        · have := hrest.1 y hy
          rw [hc] at this
          omega
      rw [List.filter_eq_nil_iff.2 fun y hy => by simpa using hnone y hy,
        List.filter_eq_self.2 fun y hy => by simpa using hnone y hy, List.nil_append]

/-- Collecting conditions column by column finds those in column order as they were. -/
theorem flatMap_filter_of_sorted {α : Type} (column : α → Column) (columns : List Column)
    (hcolumns : columns.Pairwise fun a b => a.position < b.position) (xs : List α)
    (hsorted : xs.Pairwise fun x y => (column x).position ≤ (column y).position)
    (hmem : ∀ x ∈ xs, column x ∈ columns) :
    columns.flatMap (fun c => xs.filter (column · == c)) = xs := by
  induction columns generalizing xs with
  | nil =>
    cases xs with
    | nil => rfl
    | cons x xs => exact absurd (hmem x List.mem_cons_self) List.not_mem_nil
  | cons c columns ih =>
    have hc := List.pairwise_cons.1 hcolumns
    have hleast : ∀ x ∈ xs, column x ≠ c → c.position < (column x).position := by
      intro x hx hne
      rcases List.mem_cons.1 (hmem x hx) with heq | hin
      · exact absurd heq hne
      · exact hc.1 _ hin
    -- The other columns do not see the conditions on this one.
    have hothers : columns.flatMap (fun d => xs.filter (column · == d)) =
        columns.flatMap fun d => (xs.filter (column · != c)).filter (column · == d) := by
      rw [List.flatMap_def, List.flatMap_def]
      refine congrArg List.flatten (List.map_congr_left fun d hd => ?_)
      have hdc : d ≠ c := by
        rintro rfl
        have := hc.1 d hd
        omega
      rw [List.filter_filter]
      refine List.filter_congr fun x _ => ?_
      by_cases hx : column x = d <;> simp [hx, hdc]
    have ih := ih hc.2 (xs.filter (column · != c)) (hsorted.sublist List.filter_sublist) (by
      intro x hx
      rw [List.mem_filter] at hx
      rcases List.mem_cons.1 (hmem x hx.1) with heq | hin
      · simp [heq] at hx
      · exact hin)
    rw [List.flatMap_cons, hothers, ih, filter_append_filter column c xs hsorted hleast]

theorem Filter.build_of_written (policy : FilterPolicy) (asked : List (Predicate × String))
    (h : ∀ a ∈ asked, Predicate.Written a.1.column a.2 a.1) :
    Filter.build .tokens policy (asked.map fun a => (a.1.column, a.2)) = .ok (asked.map (·.1)) := by
  induction asked with
  | nil => rfl
  | cons a asked ih =>
    have ha : Grammar.tokens.parse a.1.column a.2 = .ok a.1 :=
      Predicate.parse_of_written _ (h a List.mem_cons_self)
    have ih := ih fun b hb => h b (List.mem_cons_of_mem _ hb)
    simp only [List.map_cons, Filter.build, ha, ih, Except.map]

namespace Http

/-! ## Query strings -/

def Recognised (key : String) : Prop := key = "limit" ∨ key = "offset" ∨ ∃ c : Column, key = c.name

/-- The pairs of `wanted`, in any order that keeps the one of equal keys, among pairs whose keys mean
nothing to a listing. -/
def Interleaves (wanted pairs : List (String × String)) : Prop :=
  ∀ key, Recognised key → pairs.filter (·.1 == key) = wanted.filter (·.1 == key)

def wantedPairs (asked : List (Predicate × String)) (p : Pagination) : List (String × String) :=
  asked.map (fun a => (a.1.column.name, a.2)) ++
    [("limit", toString p.limit.toNat), ("offset", toString p.offset.toNat)]

/-- `text` is the whole token of a condition: connective, operator and value, keywords in any case. -/
def Spells (p : Predicate) (text : String) : Prop :=
  ∃ word keyword, Text.sameWord p.connective.keyword word = true ∧
    Text.sameWord p.operator.keyword keyword = true ∧
    text = word ++ ":" ++ keyword ++ ":" ++ p.value

theorem written_of_spells {p : Predicate} {text : String} (h : Spells p text) :
    Predicate.Written p.column text p := by
  obtain ⟨word, keyword, hc, ho, rfl⟩ := h
  exact .joined p.connective p.operator word keyword p.value hc ho

namespace Listing

theorem parseBound_toString (name : String) (n : UInt64) :
    parseBound name (toString n.toNat) = .ok n := by
  have hread : Text.IntegerRange.uint64.read (toString n.toNat).toList = .ok (n.toNat : Int) := by
    refine Text.IntegerRange.read_toString _ (by decide) _ ?_
    have := n.toNat_lt
    show (n.toNat : Int) ≤ 18446744073709551615
    omega
  rw [parseBound, hread]
  simp

theorem bound_of_filter_cons {key value : String} {pairs : List (String × String)}
    {bounds : List UInt64} (h : ((key, value) :: pairs).filter (·.1 == key) =
      bounds.map fun n => (key, toString n.toNat)) :
    ∃ n rest, bounds = n :: rest ∧ value = toString n.toNat ∧
      pairs.filter (·.1 == key) = rest.map fun n => (key, toString n.toNat) := by
  rw [List.filter_cons_of_pos (by simp)] at h
  cases bounds with
  | nil => cases h
  | cons n rest =>
    rw [List.map_cons, List.cons.injEq, Prod.mk.injEq] at h
    exact ⟨n, rest, rfl, h.1.2, h.2⟩

/-- Of several bounds of one kind the last one counts. -/
theorem parseBounds_eq (pairs : List (String × String)) (p : Pagination) (limits offsets : List UInt64)
    (hlimits : pairs.filter (·.1 == "limit") = limits.map fun n => ("limit", toString n.toNat))
    (hoffsets : pairs.filter (·.1 == "offset") = offsets.map fun n => ("offset", toString n.toNat)) :
    parseBounds p pairs = .ok ⟨limits.getLastD p.limit, offsets.getLastD p.offset⟩ := by
  induction pairs generalizing p limits offsets with
  | nil =>
    have hl : limits = [] := List.map_eq_nil_iff.1 hlimits.symm
    have ho : offsets = [] := List.map_eq_nil_iff.1 hoffsets.symm
    subst hl ho
    rfl
  | cons pair pairs ih =>
    obtain ⟨key, value⟩ := pair
    by_cases hlimit : key = "limit"
    · subst hlimit
      obtain ⟨n, limits, rfl, rfl, hrest⟩ := bound_of_filter_cons hlimits
      rw [List.filter_cons_of_neg (by simp)] at hoffsets
      rw [parseBounds, parseBound_toString, List.getLastD_cons]
      exact ih { p with limit := n } limits offsets hrest hoffsets
    · rw [List.filter_cons_of_neg (by simpa using hlimit)] at hlimits
      by_cases hoffset : key = "offset"
      · subst hoffset
        obtain ⟨n, offsets, rfl, rfl, hrest⟩ := bound_of_filter_cons hoffsets
        rw [parseBounds, parseBound_toString, List.getLastD_cons]
        exact ih { p with offset := n } limits offsets hlimits hrest
      · rw [List.filter_cons_of_neg (by simpa using hoffset)] at hoffsets
        rw [parseBounds]
        · exact ih p limits offsets hlimits hoffsets
        · exact hlimit
        · exact hoffset

theorem filter_name (asked : List (Predicate × String)) (p : Pagination) (c : Column) :
    ((wantedPairs asked p).filter (·.1 == c.name)).map (fun pair => (c, pair.2)) =
      (asked.filter (·.1.column == c)).map fun a => (a.1.column, a.2) := by
  have hbounds : [("limit", toString p.limit.toNat), ("offset", toString p.offset.toNat)].filter
      (·.1 == c.name) = [] := by cases c <;> rfl
  rw [wantedPairs, List.filter_append, hbounds, List.append_nil, List.filter_map, List.map_map]
  have hsame : asked.filter ((·.1 == c.name) ∘ fun a => (a.1.column.name, a.2)) =
      asked.filter (·.1.column == c) := by
    refine List.filter_congr fun a _ => ?_
    rw [Function.comp_apply, Bool.eq_iff_iff, beq_iff_eq, beq_iff_eq]
    exact ⟨fun h => Column.name_injective h, fun h => by rw [h]⟩
  rw [hsame]
  refine List.map_congr_left fun a ha => ?_
  have hc := (List.mem_filter.1 ha).2
  rw [beq_iff_eq] at hc
  rw [Function.comp_apply, hc]

theorem columnFields_eq (asked : List (Predicate × String)) (p : Pagination)
    (pairs : List (String × String))
    (hordered : asked.Pairwise fun a b => a.1.column.position ≤ b.1.column.position)
    (hpairs : Interleaves (wantedPairs asked p) pairs) :
    columnFields pairs = asked.map fun a => (a.1.column, a.2) := by
  -- Per column the query holds what was asked; in column order this is the whole list.
  have hcolumn (c : Column) : (pairs.filter (·.1 == c.name)).map (fun pair => (c, pair.2)) =
      (asked.filter (·.1.column == c)).map fun a => (a.1.column, a.2) := by
    rw [hpairs c.name (.inr (.inr ⟨c, rfl⟩)), filter_name]
  rw [columnFields]
  simp only [hcolumn]
  rw [← List.map_flatMap, flatMap_filter_of_sorted (fun a => a.1.column) Column.all
    Column.all_increasing asked hordered fun a _ => Column.mem_all a.1.column]

/-- The pairs that ask for conditions and a page are found again among the others. -/
theorem parse_print (asked : List (Predicate × String)) (p : Pagination)
    (pairs : List (String × String))
    (hordered : asked.Pairwise fun a b => a.1.column.position ≤ b.1.column.position)
    (hpairs : Interleaves (wantedPairs asked p) pairs) :
    parse (some (Text.Form.print pairs)) =
      .ok ⟨asked.map fun a => (a.1.column, a.2), p⟩ := by
  have hkeys (key : String) (hkey : ∀ c : Column, key ≠ c.name) :
      (asked.map fun a => (a.1.column.name, a.2)).filter (·.1 == key) = [] := by
    rw [List.filter_eq_nil_iff]
    intro pair hpair
    obtain ⟨a, _, rfl⟩ := List.mem_map.1 hpair
    simpa using (hkey a.1.column).symm
  have hlimits : pairs.filter (·.1 == "limit") =
      [p.limit].map fun n => ("limit", toString n.toNat) := by
    rw [hpairs "limit" (.inl rfl), wantedPairs, List.filter_append,
      hkeys "limit" (by intro c; cases c <;> decide)]
    rfl
  have hoffsets : pairs.filter (·.1 == "offset") =
      [p.offset].map fun n => ("offset", toString n.toNat) := by
    rw [hpairs "offset" (.inr (.inl rfl)), wantedPairs, List.filter_append,
      hkeys "offset" (by intro c; cases c <;> decide)]
    rfl
  rw [parse, Option.getD_some, Text.Form.parse_print]
  rw [parseBounds_eq pairs {} [p.limit] [p.offset] hlimits hoffsets,
    columnFields_eq asked p pairs hordered hpairs]
  rfl

end Listing

/-! ## Requests -/

/-- Encoded pairs hold nothing that would end the query of a target. -/
theorem parse_target (pairs : List (String × String)) :
    Target.parse ("/api/cars?" ++ Text.Form.print pairs) =
      ⟨"/api/cars", some (Text.Form.print pairs)⟩ := by
  have hpath : '?' ∉ "/api/cars".toList := by decide
  have htoList : ("/api/cars?" ++ Text.Form.print pairs).toList =
      "/api/cars".toList ++ '?' :: (Text.Form.print pairs).toList := by
    rw [String.toList_append]
    rfl
  have hfragment : '#' ∉ ("/api/cars?" ++ Text.Form.print pairs).toList := by
    rw [String.toList_append, List.mem_append]
    rintro (hmem | hmem)
    · exact absurd hmem (by decide)
    · exact Text.Form.numberSign_not_mem_print pairs hmem
  -- The text begins with a slash, so no authority is taken off it.
  rw [Target.parse, Text.cutOnce_of_not_mem '#' _ hfragment, htoList]
  have hown : Target.dropAuthority ("/api/cars".toList ++ '?' :: (Text.Form.print pairs).toList) =
      "/api/cars".toList ++ '?' :: (Text.Form.print pairs).toList := rfl
  simp only [hown, Text.cutOnce_append '?' _ _ hpath, Option.map_some, String.ofList_toList]
  rfl

variable {σ : Type}

theorem answer_listCars_state (s : Service σ) (filter : Filter) (p : Pagination)
    (respond : List Car → Response) (state : σ) :
    (answer respond (s.listCars filter p) state).2 =
      (s.backend.exec (.query filter p) state).2 := by
  rw [answer_apply, Service.listCars, Backend.listCars, StoreM.bind_apply]
  -- Whatever the store answers, nothing is executed behind the query.
  cases s.backend.exec (.query filter p) state with
  | mk result t =>
    cases result with
    | error e => rfl
    | ok found =>
      cases found <;> rfl

def listingRequest (pairs : List (String × String)) (body : Option Bytes) : Request :=
  ⟨"GET", Target.parse ("/api/cars?" ++ Text.Form.print pairs), body⟩

theorem handle_listingRequest (s : Service σ) (pairs : List (String × String))
    (body : Option Bytes) :
    handle s (listingRequest pairs body) = listCars s (some (Text.Form.print pairs)) := by
  have hpath : Route.ofPath? "/api/cars" = some .listCars := by decide
  have hroute : Route.resolve "GET" "/api/cars" = .ok .listCars := by
    rw [Route.resolve, hpath]
    rfl
  rw [handle, listingRequest, parse_target, hroute]
  rfl

open Store LoggedMemory

/-- For conditions in column order and a page, the query string that encodes a pair for each of them,
in any order that keeps the one of equal keys and among any other pairs, is read as a listing. The
request for it does to every store what the one query with these conditions and this page does, and
a store in memory logs this query. -/
theorem listing_request (asked : List (Predicate × String)) (p : Pagination)
    (pairs : List (String × String)) (body : Option Bytes)
    (hordered : asked.Pairwise fun a b => a.1.column.position ≤ b.1.column.position)
    (hspelled : ∀ a ∈ asked, Spells a.1 a.2)
    (hpairs : Interleaves (wantedPairs asked p) pairs) :
    (∃ listing, Listing.parse (some (Text.Form.print pairs)) = .ok listing) ∧
    (∀ (σ : Type) (s : Service σ), s.backend.grammar = .tokens → ∀ state,
      (handle s (listingRequest pairs body) state).2 =
        (s.backend.exec (.query (asked.map (·.1)) p) state).2) ∧
    ∀ s : Service LoggedMemory, s.backend = LoggedMemory.backend → ∀ m, ∃ compiled,
      (handle s (listingRequest pairs body) m).2 =
        ⟨m.memory, ⟨.query (asked.map (·.1)) p, compiled⟩ :: m.log⟩ := by
  have hparse := Listing.parse_print asked p pairs hordered hpairs
  have hstate (σ : Type) (s : Service σ) (hs : s.backend.grammar = .tokens) (state : σ) :
      (handle s (listingRequest pairs body) state).2 =
        (s.backend.exec (.query (asked.map (·.1)) p) state).2 := by
    have hbuild : s.buildFilter (asked.map fun a => (a.1.column, a.2)) =
        .ok (asked.map (·.1)) := by
      rw [Service.buildFilter, hs]
      exact Filter.build_of_written s.policy asked fun a ha => written_of_spells (hspelled a ha)
    rw [handle_listingRequest, listCars, hparse]
    simp only [hbuild]
    exact answer_listCars_state s (asked.map (·.1)) p _ state
  refine ⟨⟨_, hparse⟩, hstate, fun s hs m => ?_⟩
  have hgrammar : s.backend.grammar = .tokens := by rw [hs]; rfl
  rw [hstate LoggedMemory s hgrammar m, hs]
  exact ⟨_, rfl⟩

/-- The values hold separators, escapes and keywords; the fields stand in another order than the
columns, and a key that means nothing stands among them. -/
theorem listing_request_of_hostile_values :
    let asked : List (Predicate × String) :=
      [(⟨.and, .mark, .eq, "a&mark=b"⟩, "AND:eq:a&mark=b"),
        (⟨.or, .mark, .like, "or:+%41 é"⟩, "oR:Like:or:+%41 é"), (⟨.or, .year, .ge, ""⟩, "or:get:")]
    let pairs := [("year", "or:get:"), ("limit", "18446744073709551615"), ("color", "eq:red"),
      ("mark", "AND:eq:a&mark=b"), ("offset", "0"), ("mark", "oR:Like:or:+%41 é")]
    (asked.Pairwise fun a b => a.1.column.position ≤ b.1.column.position) ∧
    (∀ a ∈ asked, Spells a.1 a.2) ∧
    Interleaves (wantedPairs asked ⟨18446744073709551615, 0⟩) pairs ∧
    ∀ m : LoggedMemory, ∃ compiled,
      (handle { Service.permissive LoggedMemory.backend with policy := .reject }
        (listingRequest pairs none) m).2 =
      ⟨m.memory, ⟨.query [⟨.and, .mark, .eq, "a&mark=b"⟩, ⟨.or, .mark, .like, "or:+%41 é"⟩,
        ⟨.or, .year, .ge, ""⟩] ⟨18446744073709551615, 0⟩, compiled⟩ :: m.log⟩ := by
  intro asked pairs
  have hordered : asked.Pairwise fun a b => a.1.column.position ≤ b.1.column.position := by decide
  have hspelled : ∀ a ∈ asked, Spells a.1 a.2 := by
    refine List.forall_mem_cons.2 ⟨⟨"AND", "eq", by decide, by decide, rfl⟩, ?_⟩
    refine List.forall_mem_cons.2 ⟨⟨"oR", "Like", by decide, by decide, rfl⟩, ?_⟩
    exact List.forall_mem_singleton.2 ⟨"or", "get", by decide, by decide, rfl⟩
  have hpairs : Interleaves (wantedPairs asked ⟨18446744073709551615, 0⟩) pairs := by
    rintro key (rfl | rfl | ⟨c, rfl⟩)
    · decide
    · decide
    · cases c <;> decide
  exact ⟨hordered, hspelled, hpairs,
    (listing_request asked _ pairs none hordered hspelled hpairs).2.2 _ rfl⟩

end Http

end VehicleRecords
