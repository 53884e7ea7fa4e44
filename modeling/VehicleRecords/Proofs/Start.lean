import VehicleRecords.CommandLine
import VehicleRecords.Proofs.FirstFailure

/-!
The start of the server. Settings that were loaded have passed their checks, so the start never waits
for a connection that cannot come (`start?_isSome`), and what it starts has the checks and the policy of
its settings (`running_of_start?`).
-/
namespace VehicleRecords

namespace Config

/-- What the checks ask for: a name for the table, a slot in the pool, patterns that compile. -/
theorem validate_eq_ok_iff (c : Config) : c.validate = .ok () ↔
    c.database.carTable ≠ "" ∧ c.database.poolMaxSize ≠ some 0 ∧
      ∃ v, Validator.compile c.validator = .ok v := by
  rw [validate]
  by_cases htable : c.database.carTable = ""
  · simp [htable, bind_eq_ok_iff, throw, throwThe, MonadExceptOf.throw]
  · by_cases hsize : c.database.poolMaxSize = some 0
    · simp [htable, hsize, bind_eq_ok_iff, throw, throwThe, MonadExceptOf.throw, pure, Except.pure]
    · simp [htable, hsize, bind_eq_ok_iff, pure, Except.pure]

/-- Settings from either source have passed the checks. -/
theorem validate_of_load {file : String → Except String Bytes} {lookup : String → Option String}
    {path : Option String} {c : Config} (h : load file lookup path = .ok c) :
    c.validate = .ok () := by
  have hchecked {source : Except Error Config} (h : validated source = .ok c) :
      c.validate = .ok () := by
    obtain ⟨config, _, hrest⟩ := bind_eq_ok_iff.1 h
    obtain ⟨_, hvalid, hsame⟩ := bind_eq_ok_iff.1 hrest
    cases hsame
    exact hvalid
  cases path with
  | some path => exact hchecked h
  | none => exact hchecked h

end Config

namespace Pool

/-- A pool with a slot is opened or not, but nobody waits for it. -/
theorem new?_isSome {σ κ : Type} {c : Connector σ κ} (hc : c.maxConnections = none) {maxSize : Nat}
    (hsize : 0 < maxSize) (waitTimeout : Option Nat) (s : σ) :
    (new? c maxSize waitTimeout s).isSome := by
  have hslots : 0 < (c.maxConnections.map (min maxSize ·)).getD maxSize := by
    rw [hc]
    exact hsize
  rw [new?, dif_pos hslots]
  split
  · rfl
  · rfl

end Pool

namespace Surroundings

variable {σ κ : Type} (s : Surroundings σ κ)

/-- The driver has a size for a pool whose settings give none, and the checks refuse a size of zero. -/
theorem connect?_isSome (hsize : 0 < s.defaultPoolSize) {config : Config}
    (hconfig : config.validate = .ok ()) (state : σ) : (s.connect? config state).isSome := by
  obtain ⟨_, hpool, _⟩ := config.validate_eq_ok_iff.1 hconfig
  have hpositive : 0 < (config.database.poolMaxSize.map UInt64.toNat).getD s.defaultPoolSize := by
    cases hmax : config.database.poolMaxSize with
    | none => exact hsize
    | some size =>
      rw [hmax] at hpool
      rw [Option.map_some, Option.getD_some, Nat.pos_iff_ne_zero]
      intro hzero
      apply hpool
      rw [← UInt64.ofNat_toNat (x := size), hzero]
      rfl
  rw [connect?, Database.connect?]
  split
  · rfl
  · rw [Option.isSome_map]
    exact Pool.new?_isSome rfl hpositive none state

/-- The start always comes to a result: settings that leave the pool without a slot are refused. -/
theorem start?_isSome (hsize : 0 < s.defaultPoolSize) (path : Option String) (resetDatabase : Bool)
    (state : σ) : (s.start? path resetDatabase state).isSome := by
  rw [start?]
  cases hload : s.loadConfig path with
  | error f => rfl
  | ok config =>
    have hvalid := Config.validate_of_load (mapError_eq_ok_iff.1 hload)
    rw [Option.isSome_map]
    exact s.connect?_isSome hsize hvalid state

/-- Patterns that were checked compile, so only the registry's URL can be wrong. -/
theorem serviceOver_eq_ok_iff {τ : Type} {config : Config} (hconfig : config.validate = .ok ())
    (backend : Backend τ) (service : Service τ) :
    s.serviceOver config backend = .ok service ↔
      ∃ registry v, Registry.ofText config.registryUrl = .ok registry ∧
        Validator.compile config.validator = .ok v ∧
        service = ⟨backend, registry.lookup s.send, v, config.filterPolicy, s.currentYear⟩ := by
  obtain ⟨_, _, v, hv⟩ := config.validate_eq_ok_iff.1 hconfig
  rw [serviceOver, bind_eq_ok_iff]
  simp only [mapError_eq_ok_iff, hv]
  constructor
  · rintro ⟨registry, hregistry, ⟨⟩⟩
    exact ⟨registry, v, hregistry, rfl, rfl⟩
  · rintro ⟨registry, _, hregistry, ⟨⟩, rfl⟩
    exact ⟨registry, hregistry, rfl⟩

/-- A server that has started runs with settings that passed their checks. Its record table was dropped
and created again if that was asked for, and otherwise created if there was none; its service looks
numbers up at the registry of the settings and has their patterns and their policy. -/
theorem running_of_start? {path : Option String} {resetDatabase : Bool} {state after : σ}
    {r : Running σ κ} (h : s.start? path resetDatabase state = some (.ok r, after)) :
    r.config.validate = .ok () ∧
    (∃ database between,
      s.connect? r.config state = some (.ok database, between) ∧
      (if resetDatabase then r.service.backend.reset else r.service.backend.pushSchema)
        (database.pool, between) = (.ok (), (r.database.pool, after))) ∧
    ∃ registry v, Registry.ofText r.config.registryUrl = .ok registry ∧
      Validator.compile r.config.validator = .ok v ∧
      r.service = ⟨Pool.backend r.database.connector s.connection, registry.lookup s.send, v,
        r.config.filterPolicy, s.currentYear⟩ := by
  rw [start?] at h
  cases hload : s.loadConfig path with
  | error f =>
    rw [hload] at h
    cases h
  | ok config =>
    have hvalid := Config.validate_of_load (mapError_eq_ok_iff.1 hload)
    rw [hload] at h
    obtain ⟨⟨result, between⟩, hconnect, hrest⟩ := Option.map_eq_some_iff.1 h
    cases result with
    | error e => cases hrest
    | ok database =>
      dsimp only at hrest
      split at hrest
      · cases hrest
      · next pool state' hschema =>
        obtain ⟨hservice, rfl⟩ := Prod.mk.inj hrest
        obtain ⟨service, hbuilt, rfl⟩ := map_eq_ok_iff.1 hservice
        obtain ⟨registry, v, hregistry, hv, rfl⟩ := (s.serviceOver_eq_ok_iff hvalid _ _).1 hbuilt
        exact ⟨hvalid, ⟨database, between, hconnect, hschema⟩, registry, v, hregistry, hv, rfl⟩

end Surroundings

end VehicleRecords
