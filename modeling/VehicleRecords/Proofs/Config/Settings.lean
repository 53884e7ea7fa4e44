import Mathlib.Data.List.Basic
import Mathlib.Data.List.Nodup
import VehicleRecords.Config
import VehicleRecords.Proofs.Toml.Document

/-!
Settings that are stated one by one. Each has a place in a document and a variable of its own; there is
a document, and there are variables, that state any given ones and no others.
-/
namespace VehicleRecords

structure Settings where
  logLevel : Option String := none
  httpHost : Option String := none
  httpPort : Option UInt16 := none
  databaseUrl : Option String := none
  carTable : Option String := none
  poolMaxSize : Option UInt64 := none
  registryUrl : Option String := none
  filterPolicy : Option FilterPolicy := none
  regNum : Option String := none
  mark : Option String := none
  model : Option String := none
  ownerName : Option String := none
  ownerSurname : Option String := none
  ownerPatronymic : Option String := none
  deriving DecidableEq, Repr

namespace Settings

/-- A setting as the sources know it: the table and the key that it stands under, its variable, and
what it is set to. -/
structure Entry where
  table : Option String
  key : String
  envName : String
  value : Option Toml.Literal

def entries (s : Settings) : List Entry :=
  [⟨none, "log_level", "LOG_LEVEL", s.logLevel.map .text⟩,
    ⟨some "http", "host", "HTTP_HOST", s.httpHost.map .text⟩,
    ⟨some "http", "port", "HTTP_PORT", s.httpPort.map fun n => .number n.toNat⟩,
    ⟨some "database", "url", "DATABASE_URL", s.databaseUrl.map .text⟩,
    ⟨some "database", "car_table", "CAR_TABLE", s.carTable.map .text⟩,
    ⟨some "database", "pool_max_size", "POOL_MAX_SIZE",
      s.poolMaxSize.map fun n => .number n.toNat⟩,
    ⟨some "registry", "url", "REGISTRY_URL", s.registryUrl.map .text⟩,
    ⟨none, "filter_policy", "FILTER_POLICY", s.filterPolicy.map fun p => .text p.keyword⟩,
    ⟨some "validator", "reg_num", "VALIDATOR_REG_NUM", s.regNum.map .text⟩,
    ⟨some "validator", "mark", "VALIDATOR_MARK", s.mark.map .text⟩,
    ⟨some "validator", "model", "VALIDATOR_MODEL", s.model.map .text⟩,
    ⟨some "validator", "owner_name", "VALIDATOR_OWNER_NAME", s.ownerName.map .text⟩,
    ⟨some "validator", "owner_surname", "VALIDATOR_OWNER_SURNAME", s.ownerSurname.map .text⟩,
    ⟨some "validator", "owner_patronymic", "VALIDATOR_OWNER_PATRONYMIC",
      s.ownerPatronymic.map .text⟩]

/-- The configuration with these settings. Each other field has its default. -/
def config (s : Settings) : Config :=
  let default : Config := {}
  { logLevel := s.logLevel.getD default.logLevel
    http := ⟨s.httpHost.getD default.http.host, s.httpPort.getD default.http.port⟩
    database := ⟨s.databaseUrl.getD default.database.url,
      s.carTable.getD default.database.carTable, s.poolMaxSize.or default.database.poolMaxSize⟩
    registryUrl := s.registryUrl.getD default.registryUrl
    filterPolicy := s.filterPolicy.getD default.filterPolicy
    validator := ⟨s.regNum.getD default.validator.regNum, s.mark.getD default.validator.mark,
      s.model.getD default.validator.model, s.ownerName.getD default.validator.ownerName,
      s.ownerSurname.getD default.validator.ownerSurname,
      s.ownerPatronymic.getD default.validator.ownerPatronymic⟩ }

/-- All settings of a configuration. The size of the pool is left out when it is absent. -/
def ofConfig (c : Config) : Settings where
  logLevel := some c.logLevel
  httpHost := some c.http.host
  httpPort := some c.http.port
  databaseUrl := some c.database.url
  carTable := some c.database.carTable
  poolMaxSize := c.database.poolMaxSize
  registryUrl := some c.registryUrl
  filterPolicy := some c.filterPolicy
  regNum := some c.validator.regNum
  mark := some c.validator.mark
  model := some c.validator.model
  ownerName := some c.validator.ownerName
  ownerSurname := some c.validator.ownerSurname
  ownerPatronymic := some c.validator.ownerPatronymic

theorem config_ofConfig (c : Config) : (ofConfig c).config = c := by
  have hsize : c.database.poolMaxSize.or none = c.database.poolMaxSize := Option.or_none
  rw [config, ofConfig]
  simp only [Option.getD_some, hsize]

/-- A document has no integers above this one. -/
def Fits (s : Settings) : Prop := ∀ n ∈ s.poolMaxSize, n.toNat ≤ 9223372036854775807

/-! ## Documents -/

def tableNames : List String := ["http", "database", "registry", "validator"]

end Settings

namespace Toml.Document

def find? (d : Document) : Option String → String → Option Literal
  | none, key => d.root.lookup key
  | some name, key => ((d.tables.lookup name).getD []).lookup key

end Toml.Document

namespace Settings

/-- The document states these settings and leaves the others out. What else it says does not matter,
as long as no setting stands in the place of a table and no table in that of a setting. -/
structure StatedIn (s : Settings) (d : Toml.Document) : Prop where
  entries : ∀ e ∈ s.entries, d.find? e.table e.key = e.value
  root : ∀ name ∈ tableNames, name ∉ d.root.map (·.1)
  tables : ∀ e ∈ s.entries, e.table = none → e.key ∉ d.tables.map (·.1)

/-- The setting as it stands in a table, if it belongs there and is stated. -/
def Entry.inTable? (e : Entry) (name : Option String) : Option (String × Toml.Literal) :=
  if e.table = name then e.value.map (e.key, ·) else none

theorem Entry.inTable?_eq_some_iff {e : Entry} {name : Option String} {p : String × Toml.Literal} :
    e.inTable? name = some p ↔ e.table = name ∧ e.key = p.1 ∧ e.value = some p.2 := by
  obtain ⟨key, v⟩ := p
  rw [inTable?]
  split
  · next htable =>
    rw [Option.map_eq_some_iff]
    constructor
    · rintro ⟨v, hv, ⟨⟩⟩
      exact ⟨htable, rfl, hv⟩
    · rintro ⟨-, rfl, hv⟩
      exact ⟨v, hv, rfl⟩
  · next htable => exact ⟨nofun, fun h => absurd h.1 htable⟩

def table (s : Settings) (name : Option String) : List (String × Toml.Literal) :=
  s.entries.filterMap (·.inTable? name)

def document (s : Settings) : Toml.Document :=
  ⟨s.table none, tableNames.map fun name => (name, s.table (some name))⟩

variable {s : Settings}

/-- No two settings have the same place. -/
theorem nodup_places (s : Settings) : (s.entries.map fun e => (e.table, e.key)).Nodup := by
  -- The places are those of all settings, whatever is stated.
  have hplaces : (s.entries.map fun e => (e.table, e.key)) =
      ({} : Settings).entries.map fun e => (e.table, e.key) := rfl
  rw [hplaces]
  decide

theorem entry_of_place {a b : Entry} (ha : a ∈ s.entries) (hb : b ∈ s.entries)
    (htable : a.table = b.table) (hkey : a.key = b.key) : a = b :=
  List.inj_on_of_nodup_map s.nodup_places ha hb (Prod.ext htable hkey)

theorem mem_table {name : Option String} {p : String × Toml.Literal} :
    p ∈ s.table name ↔ ∃ e ∈ s.entries, e.table = name ∧ e.key = p.1 ∧ e.value = some p.2 := by
  rw [table, List.mem_filterMap]
  exact exists_congr fun e => and_congr_right fun _ => Entry.inTable?_eq_some_iff

theorem nodup_table (name : Option String) : ((s.table name).map (·.1)).Nodup := by
  rw [List.Nodup, List.pairwise_map, table, List.pairwise_filterMap]
  refine (List.pairwise_map.1 s.nodup_places).imp ?_
  intro a b hplaces p hp q hq heq
  obtain ⟨hatable, hakey, -⟩ := Entry.inTable?_eq_some_iff.1 hp
  obtain ⟨hbtable, hbkey, -⟩ := Entry.inTable?_eq_some_iff.1 hq
  refine hplaces (Prod.ext ?_ ?_)
  · exact hatable.trans hbtable.symm
  · exact (hakey.trans heq).trans hbkey.symm

/-- A table has what is stated for it and nothing else. -/
theorem lookup_table {e : Entry} (he : e ∈ s.entries) :
    (s.table e.table).lookup e.key = e.value := by
  cases hv : e.value with
  | some v =>
    have hmem : (e.key, v) ∈ s.table e.table := mem_table.2 ⟨e, he, rfl, rfl, hv⟩
    exact Toml.lookup_of_mem (nodup_table e.table) hmem
  | none =>
    refine Toml.lookup_of_not_mem fun hmem => ?_
    obtain ⟨p, hp, hkey⟩ := List.mem_map.1 hmem
    obtain ⟨e', he', htable, hkey', hv'⟩ := mem_table.1 hp
    rw [entry_of_place he' he htable (hkey'.trans hkey), hv] at hv'
    cases hv'

theorem bare_keys : ∀ e ∈ s.entries, Toml.IsBareKey e.key := by
  have hkeys : s.entries.map (·.key) = ({} : Settings).entries.map (·.key) := rfl
  have hbare : ∀ key ∈ ({} : Settings).entries.map (·.key), Toml.IsBareKey key := by decide
  intro e he
  exact hbare e.key (hkeys ▸ List.mem_map_of_mem he)

/-- The integers that a document cannot write are sizes of pools. -/
theorem fits_values (h : s.Fits) : ∀ e ∈ s.entries, ∀ v ∈ e.value, v.Fits := by
  have htext {α : Type} (o : Option α) (f : α → String) :
      ∀ v ∈ o.map fun a => Toml.Literal.text (f a), v.Fits := by
    intro v hv
    obtain ⟨a, -, rfl⟩ := Option.map_eq_some_iff.1 hv
    exact trivial
  have hport : ∀ v ∈ s.httpPort.map fun n => Toml.Literal.number n.toNat, v.Fits := by
    intro v hv
    obtain ⟨n, -, rfl⟩ := Option.map_eq_some_iff.1 hv
    exact Nat.le_trans (Nat.le_of_lt n.toNat_lt) (by decide)
  have hsize : ∀ v ∈ s.poolMaxSize.map fun n => Toml.Literal.number n.toNat, v.Fits := by
    intro v hv
    obtain ⟨n, hn, rfl⟩ := Option.map_eq_some_iff.1 hv
    exact h n hn
  simp only [entries, List.forall_mem_cons]
  exact ⟨htext _ id, htext _ id, hport, htext _ id, htext _ id, hsize, htext _ id, htext _ _,
    htext _ id, htext _ id, htext _ id, htext _ id, htext _ id, htext _ id,
    fun _ he => absurd he List.not_mem_nil⟩

/-- A setting stands in one of the tables, or its key is not the name of one. -/
theorem table_of_entry : ∀ e ∈ s.entries,
    (∀ name ∈ e.table, name ∈ tableNames) ∧ (e.table = none → e.key ∉ tableNames) := by
  have hplaces : (s.entries.map fun e => (e.table, e.key)) =
      ({} : Settings).entries.map fun e => (e.table, e.key) := rfl
  have htables : ∀ place ∈ ({} : Settings).entries.map (fun e => (e.table, e.key)),
      (∀ name ∈ place.1, name ∈ tableNames) ∧ (place.1 = none → place.2 ∉ tableNames) := by decide
  intro e he
  have hplace := List.mem_map_of_mem (f := fun e : Entry => (e.table, e.key)) he
  rw [hplaces] at hplace
  exact htables _ hplace

theorem root_names : ∀ name ∈ tableNames, name ∉ (s.table none).map (·.1) := by
  intro name hname hmem
  obtain ⟨p, hp, rfl⟩ := List.mem_map.1 hmem
  obtain ⟨e, he, htable, hkey, -⟩ := mem_table.1 hp
  exact (table_of_entry e he).2 htable (hkey ▸ hname)

/-- The document of settings can be written, if their integers fit. -/
theorem valid_document (h : s.Fits) : s.document.Valid := by
  have hsettings (name : Option String) :
      ∀ row ∈ Toml.Document.settingRows (s.table name), row.Valid := by
    intro row hrow
    obtain ⟨p, hp, rfl⟩ := List.mem_map.1 hrow
    obtain ⟨e, he, -, hkey, hv⟩ := mem_table.1 hp
    exact ⟨hkey ▸ bare_keys e he, fits_values h e he p.2 hv⟩
  have hheads : ∀ name ∈ tableNames, Toml.IsBareKey name := by decide
  refine ⟨?_, ?_, ?_⟩
  · intro row hrow
    rw [Toml.Document.rows, List.mem_append, List.mem_flatMap] at hrow
    rcases hrow with hrow | ⟨t, ht, hrow⟩
    · exact hsettings none row hrow
    · obtain ⟨name, hname, rfl⟩ := List.mem_map.1 ht
      rcases List.mem_cons.1 hrow with rfl | hrow
      · exact hheads name hname
      · exact hsettings (some name) row hrow
  · have hnames : s.document.tables.map (·.1) = tableNames := rfl
    rw [hnames]
    refine List.nodup_append.2 ⟨nodup_table none, by decide, ?_⟩
    rintro key hkey name hname rfl
    exact root_names key hname hkey
  · intro t ht
    obtain ⟨name, -, rfl⟩ := List.mem_map.1 ht
    exact nodup_table (some name)

/-- It states these settings. -/
theorem statedIn_document (s : Settings) : s.StatedIn s.document := by
  have hnames : s.document.tables.map (·.1) = tableNames := rfl
  refine ⟨?_, root_names, ?_⟩
  · intro e he
    have hfound := lookup_table he
    cases htable : e.table with
    | none =>
      rw [htable] at hfound
      exact hfound
    | some name =>
      have hname : s.document.tables.lookup name = some (s.table (some name)) :=
        List.lookup_graph (fun name => s.table (some name)) 
          ((table_of_entry e he).1 name htable)
      rw [htable] at hfound
      rw [Toml.Document.find?, hname]
      exact hfound
  · intro e he htable
    rw [hnames]
    exact (table_of_entry e he).2 htable

/-! ## Variables -/

end Settings

namespace Toml.Literal

def plain : Literal → String
  | text s => s
  | number n => toString n

end Toml.Literal

namespace Settings

/-- The variables state these settings, and none is set for the others. -/
def SetIn (s : Settings) (lookup : String → Option String) : Prop :=
  ∀ e ∈ s.entries, lookup (Config.variablePrefix ++ e.envName) = e.value.map Toml.Literal.plain

def environment (s : Settings) (name : String) : Option String :=
  ((s.entries.map fun e => (Config.variablePrefix ++ e.envName, e.value)).lookup name).join.map
    Toml.Literal.plain

/-- The variables of settings have different names, so each of them is found. -/
theorem setIn_environment (s : Settings) : s.SetIn s.environment := by
  have hnodup : ((s.entries.map fun e => (Config.variablePrefix ++ e.envName, e.value)).map
      (·.1)).Nodup := by
    have hnames : Config.variableNames.Nodup := by decide
    rw [List.map_map]
    exact hnames
  intro e he
  have hmem : (Config.variablePrefix ++ e.envName, e.value) ∈
      s.entries.map fun e => (Config.variablePrefix ++ e.envName, e.value) := List.mem_map_of_mem he
  have hfound := Toml.lookup_of_mem hnodup hmem
  rw [environment]
  exact congrArg (fun v => v.join.map Toml.Literal.plain) hfound

end Settings

end VehicleRecords
