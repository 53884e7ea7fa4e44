import VehicleRecords.Proofs.Store.Exec
import VehicleRecords.Sql.Statement

/-!
What computations come to, whatever state they start in: a result of some kind, or an error of some
kind (`StoreM.Ensures`). An error is plain when it says neither that a record is missing nor that an
answer is of the wrong kind.
-/
namespace VehicleRecords

variable {σ α β : Type}

/-! ## Errors without a state -/

/-- The error of a computation, if it fails, is one of `Q`. -/
def Raises (Q : Error → Prop) (result : Except Error α) : Prop := ∀ e, result = .error e → Q e

namespace Raises

variable {Q : Error → Prop}

theorem pure (a : α) : Raises Q (.ok a) := nofun

theorem throw {e : Error} (h : Q e) : Raises (α := α) Q (.error e) := by
  rintro _ ⟨rfl⟩
  exact h

theorem bind {result : Except Error α} {next : α → Except Error β} (h : Raises Q result)
    (hnext : ∀ a, Raises Q (next a)) : Raises Q (result >>= next) := by
  cases result with
  | error e => exact throw (h e rfl)
  | ok a => exact hnext a

theorem map {result : Except Error α} (h : Raises Q result) (f : α → β) :
    Raises Q (result.map f) := by
  cases result with
  | error e => exact throw (h e rfl)
  | ok a => exact pure (f a)

theorem mapM {f : α → Except Error β} (h : ∀ a, Raises Q (f a)) (l : List α) :
    Raises Q (l.mapM f) := by
  induction l with
  | nil => exact pure []
  | cons a l ih =>
    rw [List.mapM_cons]
    exact bind (h a) fun b => bind ih fun bs => pure (b :: bs)

end Raises

/-! ## Computations over a store -/

namespace StoreM

/-- The computation succeeds with a result of `P` or fails with an error of `Q`. -/
def Ensures (run : StoreM σ α) (P : α → Prop) (Q : Error → Prop) : Prop :=
  ∀ s, (∀ a, (run s).1 = .ok a → P a) ∧ Raises Q (run s).1

namespace Ensures

variable {P : α → Prop} {R : β → Prop} {Q : Error → Prop} {run : StoreM σ α}

theorem of_cases (h : ∀ s, (∃ a t, run s = (.ok a, t) ∧ P a) ∨ ∃ e t, run s = (.error e, t) ∧ Q e) :
    Ensures run P Q := by
  intro s
  rcases h s with ⟨a, t, hrun, ha⟩ | ⟨e, t, hrun, he⟩
  · rw [hrun]
    refine ⟨?_, Raises.pure a⟩
    rintro _ ⟨rfl⟩
    exact ha
  · rw [hrun]
    exact ⟨nofun, Raises.throw he⟩

theorem cases (h : Ensures run P Q) (s : σ) :
    (∃ a t, run s = (.ok a, t) ∧ P a) ∨ ∃ e t, run s = (.error e, t) ∧ Q e := by
  obtain ⟨hok, herror⟩ := h s
  rcases hrun : run s with ⟨result, t⟩
  rw [hrun] at hok herror
  cases result with
  | ok a => exact .inl ⟨a, t, rfl, hok a rfl⟩
  | error e => exact .inr ⟨e, t, rfl, herror e rfl⟩

theorem pure {a : α} (h : P a) : Ensures (σ := σ) (pure a) P Q :=
  of_cases fun s => .inl ⟨a, s, rfl, h⟩

theorem throw {e : Error} (h : Q e) : Ensures (σ := σ) (throw e) P Q :=
  of_cases fun s => .inr ⟨e, s, rfl, h⟩

/-- What follows a computation may rely on what that ensures. -/
theorem bind {next : α → StoreM σ β} (h : Ensures run P Q)
    (hnext : ∀ a, P a → Ensures (next a) R Q) : Ensures (run >>= next) R Q := by
  refine of_cases fun s => ?_
  rw [bind_apply]
  rcases h.cases s with ⟨a, t, hrun, ha⟩ | ⟨e, t, hrun, he⟩
  · rw [hrun]
    exact (hnext a ha).cases t
  · rw [hrun]
    exact .inr ⟨e, t, rfl, he⟩

theorem imp {P' : α → Prop} {Q' : Error → Prop} (h : Ensures run P Q) (hP : ∀ a, P a → P' a)
    (hQ : ∀ e, Q e → Q' e) : Ensures run P' Q' :=
  fun s => ⟨fun a ha => hP a ((h s).1 a ha), fun e he => hQ e ((h s).2 e he)⟩

/-- What is read from a state or written to it is no outcome. -/
theorem get_bind {next : σ → StoreM σ β} (h : ∀ s, Ensures (next s) R Q) :
    Ensures (get >>= next) R Q :=
  fun s => h s s

theorem modify_bind (change : σ → σ) {next : Unit → StoreM σ β} (h : Ensures (next ()) R Q) :
    Ensures (modify change >>= next) R Q :=
  fun s => h (change s)

end Ensures

end StoreM

/-! ## Plain errors -/

namespace Error

def IsMismatch (e : Error) : Prop :=
  ∃ answer : Answer, answer.toCount = .error e ∨ answer.toCars = .error e

/-- The error does not say that a record is missing or that an answer is of the wrong kind. -/
structure Plain (e : Error) : Prop where
  found : e.is .recordNotFound = false
  noMismatch : ¬ e.IsMismatch

/-- Only these two errors tell that an answer is of the wrong kind. -/
theorem isMismatch_iff (e : Error) :
    e.IsMismatch ↔ e = .adhoc "expected a row count, got records" ∨
      e = .adhoc "expected records, got a row count" := by
  constructor
  · rintro ⟨_ | _, h | h⟩
    · cases h
    · exact .inr (Except.error.inj h).symm
    · exact .inl (Except.error.inj h).symm
    · cases h
  · rintro (rfl | rfl)
    · exact ⟨.cars [], .inl rfl⟩
    · exact ⟨.count 0, .inr rfl⟩

/-- One cause alone is plain when it is of a kind of its own, and another one than the missing
record. -/
theorem plain_of_kind {c : Cause} {kind : ErrorKind} (h : c.kind? = some kind)
    (hkind : kind ≠ .recordNotFound) : Plain c := by
  constructor
  · have hbeq : (some kind == some ErrorKind.recordNotFound) = false := by
      rwa [beq_eq_false_iff_ne, ne_eq, Option.some.injEq]
    rw [is, chain, List.any_cons, List.any_nil, Bool.or_false, h]
    exact hbeq
  · rw [isMismatch_iff]
    rintro (heq | heq)
    · rw [(Error.mk.inj heq).1] at h
      cases h
    · rw [(Error.mk.inj heq).1] at h
      cases h

theorem plain_adhoc {message : String} (hcount : message ≠ "expected a row count, got records")
    (hcars : message ≠ "expected records, got a row count") : Plain (.adhoc message) := by
  refine ⟨rfl, ?_⟩
  rw [isMismatch_iff]
  rintro (heq | heq)
  · cases heq
    exact hcount rfl
  · cases heq
    exact hcars rfl

theorem plain_foreign (text : String) : Plain (.foreign text) := by
  refine ⟨rfl, ?_⟩
  rw [isMismatch_iff]
  rintro (heq | heq)
  · cases heq
  · cases heq

theorem noSuchCar_not_mismatch (id : Int64) : ¬ (noSuchCar id).IsMismatch := by
  rw [isMismatch_iff]
  rintro (heq | heq)
  · cases heq
  · cases heq

end Error

/-- A statement is refused with a plain error. -/
theorem Sql.raises_compile (table : String) (before : List Value) (stmt : Sql.Statement) :
    Raises Error.Plain (Sql.compile table before stmt) := by
  have hverify : Raises Error.Plain stmt.verify := by
    unfold Sql.Statement.verify
    split
    · split
      · exact Raises.throw (Error.plain_of_kind rfl (by decide))
      · exact Raises.pure ()
    · split
      · exact Raises.throw (Error.plain_adhoc (by decide) (by decide))
      · exact Raises.pure ()
    · exact Raises.pure ()
  rw [Sql.compile]
  split
  · next e he => exact Raises.throw (hverify e he)
  · exact Raises.pure _

end VehicleRecords
