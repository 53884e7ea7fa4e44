import Mathlib.Data.List.Forall2
import VehicleRecords.Json.Reading
import VehicleRecords.Proofs.FirstFailure

/-!
The order of members. What a reader makes of a tree it makes of every tree whose objects have the
same members in another order (`Reader.Stable`). A record is read so when its fields are, and when
setting one field does not depend on what another one was set to (`Record.Orderless.stable_read`).
-/
namespace VehicleRecords.Json

/-- The same values in the same places, but for the order of members, at every depth. -/
inductive Tree.Reordered : Tree → Tree → Prop
  | refl (t : Tree) : Reordered t t
  | array {items items' : List Tree} (values : List.Forall₂ Reordered items items') :
    Reordered (.array items) (.array items')
  | object {members listed members' : List (Option String × Tree)}
    (keys : members.map (·.1) = listed.map (·.1))
    (values : List.Forall₂ Reordered (members.map (·.2)) (listed.map (·.2)))
    (order : listed.Perm members') : Reordered (.object members) (.object members')

open Json.Tree (Reordered)

variable {α β σ : Type}

namespace Reader

/-- What is read of a tree is read of it with its members in another order. -/
def Stable (read : Reader α) : Prop :=
  ∀ t t' a, Reordered t t' → read t = .ok a → read t' = .ok a

/-- A reader that takes neither arrays nor objects. -/
theorem stable_of_simple {read : Reader α} (harray : ∀ items a, read (.array items) ≠ .ok a)
    (hobject : ∀ members a, read (.object members) ≠ .ok a) : Stable read := by
  intro t t' a ht hread
  cases ht with
  | refl => exact hread
  | array values => exact absurd hread (harray _ a)
  | object keys values order => exact absurd hread (hobject _ a)

theorem stable_string : Stable string := stable_of_simple nofun nofun

theorem stable_uint16 : Stable uint16 := stable_of_simple nofun nofun

theorem stable_int32 : Stable int32 := stable_of_simple nofun nofun

theorem Stable.map {read : Reader α} (h : Stable read) (f : α → β) :
    Stable fun t => (read t).map f := by
  intro t t' b ht hread
  obtain ⟨a, ha, hb⟩ := map_eq_ok_iff.1 hread
  exact map_eq_ok_iff.2 ⟨a, h t t' a ht ha, hb⟩

theorem Stable.optional {read : Reader α} (h : Stable read) : Stable (optional read) := by
  intro t t' a ht hread
  cases ht with
  | refl => exact hread
  | array values => exact h.map some _ _ a (.array values) hread
  | object keys values order => exact h.map some _ _ a (.object keys values order) hread

theorem Stable.mapM {read : Reader α} (h : Stable read) {items items' : List Tree}
    (hitems : List.Forall₂ Reordered items items') {as : List α}
    (hread : items.mapM read = .ok as) : items'.mapM read = .ok as := by
  induction hitems generalizing as with
  | nil => exact hread
  | cons hitem _ ih =>
    rw [List.mapM_cons, bind_eq_ok_iff] at hread ⊢
    obtain ⟨a, ha, hrest⟩ := hread
    obtain ⟨rest, hrest, hcons⟩ := bind_eq_ok_iff.1 hrest
    exact ⟨a, h _ _ a hitem ha, bind_eq_ok_iff.2 ⟨rest, ih hrest, hcons⟩⟩

theorem Stable.list {read : Reader α} (h : Stable read) : Stable (list read) := by
  intro t t' a ht hread
  cases ht with
  | refl => exact hread
  | array values => exact h.mapM values hread
  | object keys values order => cases hread

end Reader

namespace Record

/-- Each field of the record is set whatever the order of members in its value, and of two fields
either one may be set first. -/
structure Orderless (r : Record σ α) : Prop where
  stable : ∀ field ∈ r.fields, ∀ draft, Reader.Stable fun t => r.set field t draft
  commutes : ∀ f ∈ r.fields, ∀ g ∈ r.fields, f ≠ g → ∀ t u draft d d',
    r.set f t draft = .ok d → r.set g u d = .ok d' →
      ∃ e, r.set g u draft = .ok e ∧ r.set f t e = .ok d'

variable (r : Record σ α)

/-- A member is left out, or its field is set. -/
theorem setMembers_cons_eq_ok_iff {seen : List String} {draft d : σ} {key : Option String}
    {value : Tree} {members : List (Option String × Tree)} :
    r.setMembers seen draft ((key, value) :: members) = .ok d ↔
      ∃ k, key = some k ∧
        ((k ∉ r.fields ∧ r.setMembers seen draft members = .ok d) ∨
          (k ∈ r.fields ∧ k ∉ seen ∧ ∃ next, r.set k value draft = .ok next ∧
            r.setMembers (k :: seen) next members = .ok d)) := by
  cases key with
  | none => exact ⟨nofun, by rintro ⟨_, ⟨⟩, _⟩⟩
  | some k =>
    rw [setMembers]
    by_cases hk : k ∈ r.fields <;> by_cases hseen : k ∈ seen <;>
      cases hset : r.set k value draft <;> simp [hk, hseen, hset]

theorem setMembers_congr_seen {seen seen' : List String} (h : ∀ k, k ∈ seen ↔ k ∈ seen') (draft : σ)
    (members : List (Option String × Tree)) :
    r.setMembers seen draft members = r.setMembers seen' draft members := by
  induction members generalizing seen seen' draft with
  | nil => rfl
  | cons m members ih =>
    obtain ⟨key, value⟩ := m
    cases key with
    | none => rfl
    | some k =>
      have hsame : seen.contains k = seen'.contains k := by
        rw [Bool.eq_iff_iff, List.contains_iff_mem, List.contains_iff_mem, h]
      have hnext (next : σ) : r.setMembers (k :: seen) next members =
          r.setMembers (k :: seen') next members :=
        ih (fun key => by rw [List.mem_cons, List.mem_cons, h]) next
      simp only [setMembers, hsame, ih h, hnext]

namespace Orderless

variable {r} (h : r.Orderless)

include h

theorem setMembers_values {members listed : List (Option String × Tree)}
    (keys : members.map (·.1) = listed.map (·.1))
    (values : List.Forall₂ Reordered (members.map (·.2)) (listed.map (·.2))) (seen : List String)
    (draft d : σ) (hset : r.setMembers seen draft members = .ok d) :
    r.setMembers seen draft listed = .ok d := by
  induction members generalizing listed seen draft with
  | nil =>
    rw [List.map_eq_nil_iff.1 keys.symm]
    exact hset
  | cons m members ih =>
    cases listed with
    | nil => cases keys
    | cons n listed =>
      obtain ⟨hkey, keys⟩ := List.cons.inj keys
      cases values with
      | cons hvalue values =>
        obtain ⟨k, hk, hset⟩ := r.setMembers_cons_eq_ok_iff.1 hset
        refine r.setMembers_cons_eq_ok_iff.2 ⟨k, hkey.symm.trans hk, ?_⟩
        rcases hset with ⟨hfield, hrest⟩ | ⟨hfield, hseen, next, hset, hrest⟩
        · exact .inl ⟨hfield, ih keys values seen draft hrest⟩
        · have hset := h.stable k hfield draft _ _ next hvalue hset
          exact .inr ⟨hfield, hseen, next, hset, ih keys values (k :: seen) next hrest⟩

/-- By induction on the permutation. The swap of two members is the only case with an argument: their
fields may be set in either order. -/
theorem setMembers_perm {members members' : List (Option String × Tree)}
    (hperm : members.Perm members') (seen : List String) (draft d : σ)
    (hset : r.setMembers seen draft members = .ok d) :
    r.setMembers seen draft members' = .ok d := by
  induction hperm generalizing seen draft with
  | nil => exact hset
  | cons m _ ih =>
    obtain ⟨k, hk, hset⟩ := r.setMembers_cons_eq_ok_iff.1 hset
    refine r.setMembers_cons_eq_ok_iff.2 ⟨k, hk, ?_⟩
    rcases hset with ⟨hfield, hrest⟩ | ⟨hfield, hseen, next, hset, hrest⟩
    · exact .inl ⟨hfield, ih seen draft hrest⟩
    · exact .inr ⟨hfield, hseen, next, hset, ih (k :: seen) next hrest⟩
  | swap a b rest =>
    -- Only two fields are set in another order; any other member is left out wherever it stands.
    obtain ⟨kb, hb, hset⟩ := r.setMembers_cons_eq_ok_iff.1 hset
    rcases hset with ⟨hbfield, hset⟩ | ⟨hbfield, hbseen, next, hbset, hset⟩
    · obtain ⟨ka, ha, hset⟩ := r.setMembers_cons_eq_ok_iff.1 hset
      refine r.setMembers_cons_eq_ok_iff.2 ⟨ka, ha, ?_⟩
      rcases hset with ⟨hafield, hrest⟩ | ⟨hafield, haseen, next, haset, hrest⟩
      · exact .inl ⟨hafield, r.setMembers_cons_eq_ok_iff.2 ⟨kb, hb, .inl ⟨hbfield, hrest⟩⟩⟩
      · exact .inr ⟨hafield, haseen, next, haset,
          r.setMembers_cons_eq_ok_iff.2 ⟨kb, hb, .inl ⟨hbfield, hrest⟩⟩⟩
    · obtain ⟨ka, ha, hset⟩ := r.setMembers_cons_eq_ok_iff.1 hset
      refine r.setMembers_cons_eq_ok_iff.2 ⟨ka, ha, ?_⟩
      rcases hset with ⟨hafield, hrest⟩ | ⟨hafield, haseen, last, haset, hrest⟩
      · exact .inl ⟨hafield,
          r.setMembers_cons_eq_ok_iff.2 ⟨kb, hb, .inr ⟨hbfield, hbseen, next, hbset, hrest⟩⟩⟩
      · rw [List.mem_cons, not_or] at haseen
        obtain ⟨first, hfirst, hlast⟩ :=
          h.commutes kb hbfield ka hafield (Ne.symm haseen.1) _ _ _ _ _ hbset haset
        -- What has been seen is the same, but for the order.
        refine .inr ⟨hafield, haseen.2, first, hfirst, r.setMembers_cons_eq_ok_iff.2
          ⟨kb, hb, .inr ⟨hbfield, ?_, last, hlast, ?_⟩⟩⟩
        · rw [List.mem_cons, not_or]
          exact ⟨Ne.symm haseen.1, hbseen⟩
        · rw [← hrest]
          exact r.setMembers_congr_seen (by simp [or_left_comm]) last rest
  | trans _ _ ih ih' => exact ih' seen draft (ih seen draft hset)

theorem setItems_values {length length' : Nat} {items items' : List Tree}
    (hitems : List.Forall₂ Reordered items items') (fields : List String)
    (hfields : ∀ f ∈ fields, f ∈ r.fields) (draft d : σ)
    (hset : r.setItems length draft fields items = .ok d) :
    r.setItems length' draft fields items' = .ok d := by
  induction hitems generalizing fields draft with
  | nil => cases fields <;> exact hset
  | @cons item item' _ _ hitem _ ih =>
    cases fields with
    | nil => cases hset
    | cons field fields =>
      rw [List.forall_mem_cons] at hfields
      rw [setItems] at hset ⊢
      cases hfirst : r.set field item draft with
      | error p =>
        rw [hfirst] at hset
        cases hset
      | ok next =>
        have hnext : r.set field item' draft = .ok next :=
          h.stable field hfields.1 draft item item' next hitem hfirst
        rw [hfirst] at hset
        rw [hnext]
        exact ih fields hfields.2 next hset

/-- A record whose fields are set independently of each other is read alike from members in any order.
-/
theorem stable_read : Reader.Stable r.read := by
  intro t t' a ht hread
  cases ht with
  | refl => exact hread
  | array values =>
    obtain ⟨d, hset, hfinish⟩ := bind_eq_ok_iff.1 hread
    refine bind_eq_ok_iff.2 ⟨d, ?_, hfinish⟩
    exact h.setItems_values values r.fields (fun _ hf => hf) r.draft d hset
  | object keys values order =>
    obtain ⟨d, hset, hfinish⟩ := bind_eq_ok_iff.1 hread
    have hlisted := h.setMembers_values keys values [] r.draft d hset
    exact bind_eq_ok_iff.2 ⟨d, h.setMembers_perm order [] r.draft d hlisted, hfinish⟩

end Orderless

end Record

end VehicleRecords.Json
