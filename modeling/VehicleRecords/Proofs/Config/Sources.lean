import VehicleRecords.Proofs.Config.Settings

namespace VehicleRecords

namespace Toml

/-! ## Settings of a document -/

theorem settingOr_text (default : String) (o : Option String) :
    settingOr default text? ((o.map .text).map Literal.value) = some (o.getD default) := by
  cases o <;> rfl

theorem integer?_natural (range : Text.IntegerRange) {n : Nat} (hleast : range.least ≤ 0)
    (hgreatest : (n : Int) ≤ range.greatest) :
    integer? range (Literal.number n).value = some (n : Int) := by
  have hcontains : range.contains n = true :=
    Text.IntegerRange.contains_iff.2 ⟨by omega, hgreatest⟩
  exact if_pos hcontains

theorem settingOr_port (o : Option UInt16) :
    settingOr 9099 (integer? .uint16) ((o.map fun n => .number n.toNat).map Literal.value) =
      some ((o.getD 9099).toNat : Int) := by
  cases o with
  | none => rfl
  | some n =>
    have hgreatest : (n.toNat : Int) ≤ 65535 := Int.ofNat_le.2 (Nat.le_of_lt_succ n.toNat_lt)
    exact integer?_natural .uint16 (Int.le_refl 0) hgreatest

theorem settingOr_size (o : Option UInt64) :
    settingOr none (fun v => (integer? .uint64 v).map some)
        ((o.map fun n => .number n.toNat).map Literal.value) =
      some (o.map fun n => (n.toNat : Int)) := by
  cases o with
  | none => rfl
  | some n =>
    have hgreatest : (n.toNat : Int) ≤ 18446744073709551615 :=
      Int.ofNat_le.2 (Nat.le_of_lt_succ n.toNat_lt)
    exact congrArg (Option.map some)
      (integer?_natural .uint64 (Int.le_refl 0) hgreatest)

theorem settingOr_policy (default : FilterPolicy) (o : Option FilterPolicy) :
    settingOr default Config.filterPolicyOfToml?
        ((o.map fun p => .text p.keyword).map Literal.value) = some (o.getD default) := by
  cases o with
  | none => rfl
  | some p => cases p <;> rfl

theorem group?_tableValue (names : List String) (settings : List (String × Literal)) :
    group? names (.table (Document.tableValue settings)) =
      some fun key => (settings.lookup key).map Literal.value := by
  rw [group?]
  exact congrArg some (funext (lookup_map Literal.value settings))

/-- A table that is missing is read like one without settings. -/
theorem settingOr_table {α : Type} {default : α} {read : Value → Option α}
    (hempty : read (.table []) = some default) (o : Option (List (String × Literal))) :
    settingOr default read (o.map fun settings => .table (Document.tableValue settings)) =
      read (.table (Document.tableValue (o.getD []))) := by
  cases o with
  | none => exact hempty.symm
  | some settings => rfl

end Toml

section Tables

open Toml (group?_tableValue settingOr_text settingOr_port settingOr_size)

variable {settings : List (String × Toml.Literal)}

theorem HttpConfig.ofToml?_tableValue {host : Option String} {port : Option UInt16}
    (hhost : settings.lookup "host" = host.map .text)
    (hport : settings.lookup "port" = port.map fun n => .number n.toNat) :
    ofToml? (.table (Toml.Document.tableValue settings)) =
      some ⟨host.getD "0.0.0.0", port.getD 9099⟩ := by
  simp only [ofToml?, group?_tableValue, Option.bind_eq_bind, Option.bind_some, hhost, hport,
    settingOr_text, settingOr_port, Option.pure_def, Int.toNat_natCast, UInt16.ofNat_toNat]

theorem DatabaseConfig.ofToml?_tableValue {url carTable : Option String}
    {size : Option UInt64} (hurl : settings.lookup "url" = url.map .text)
    (htable : settings.lookup "car_table" = carTable.map .text)
    (hsize : settings.lookup "pool_max_size" = size.map fun n => .number n.toNat) :
    ofToml? (.table (Toml.Document.tableValue settings)) =
      some ⟨url.getD "postgresql://localhost:5432/cars", carTable.getD "cars", size⟩ := by
  have hback : (size.map fun n => (n.toNat : Int)).map (fun n => UInt64.ofNat n.toNat) = size := by
    rw [Option.map_map]
    cases size with
    | none => rfl
    | some n => exact congrArg some UInt64.ofNat_toNat
  simp only [ofToml?, group?_tableValue, Option.bind_eq_bind, Option.bind_some, hurl, htable, hsize,
    settingOr_text, settingOr_size, Option.pure_def, hback]

theorem Patterns.ofToml?_tableValue
    {regNum mark model ownerName ownerSurname ownerPatronymic : Option String}
    (hregNum : settings.lookup "reg_num" = regNum.map .text)
    (hmark : settings.lookup "mark" = mark.map .text)
    (hmodel : settings.lookup "model" = model.map .text)
    (hname : settings.lookup "owner_name" = ownerName.map .text)
    (hsurname : settings.lookup "owner_surname" = ownerSurname.map .text)
    (hpatronymic : settings.lookup "owner_patronymic" = ownerPatronymic.map .text) :
    ofToml? (.table (Toml.Document.tableValue settings)) =
      some ⟨regNum.getD "", mark.getD "", model.getD "", ownerName.getD "", ownerSurname.getD "",
        ownerPatronymic.getD ""⟩ := by
  simp only [ofToml?, group?_tableValue, Option.bind_eq_bind, Option.bind_some, hregNum, hmark,
    hmodel, hname, hsurname, hpatronymic, settingOr_text, Option.pure_def]

theorem Config.registryUrlOfToml?_tableValue {url : Option String}
    (hurl : settings.lookup "url" = url.map .text) :
    registryUrlOfToml? (.table (Toml.Document.tableValue settings)) = some (url.getD "") := by
  simp only [registryUrlOfToml?, group?_tableValue, Option.bind_eq_bind, Option.bind_some, hurl,
    settingOr_text]

end Tables

namespace Settings

/-- Table by table, a setting that is stated is read, and another one has its default. -/
theorem ofTomlValue?_of_statedIn {s : Settings} {d : Toml.Document} (h : s.StatedIn d) :
    Config.ofTomlValue? d.value = some s.config := by
  have hstated := h.entries
  simp only [entries, List.forall_mem_cons, Toml.Document.find?] at hstated
  obtain ⟨hlevel, hhost, hport, hurl, hcars, hsize, hregistry, hpolicy, hregNum, hmark, hmodel,
    hname, hsurname, hpatronymic, -⟩ := hstated
  -- No table stands in the place of a setting outside of the tables.
  have hsettings := h.tables
  simp only [entries, List.forall_mem_cons, forall_const, reduceCtorEq, IsEmpty.forall_iff,
    true_and] at hsettings
  obtain ⟨hlevelPlace, hpolicyPlace, -⟩ := hsettings
  -- A table that is missing counts as one without settings.
  have htable {α : Type} {a : α} (default : α) (read : Toml.Value → Option α) (name : String)
      (hname : name ∈ tableNames) (hempty : read (.table []) = some default)
      (hread : read (.table (Toml.Document.tableValue ((d.tables.lookup name).getD []))) = some a) :
      Toml.settingOr default read (d.content.lookup name) = some a := by
    rw [d.lookup_table (h.root name hname), Toml.settingOr_table hempty, hread]
  have hhttp := htable {} HttpConfig.ofToml? "http" (by decide) rfl
    (HttpConfig.ofToml?_tableValue hhost hport)
  have hdatabase := htable {} DatabaseConfig.ofToml? "database" (by decide) rfl
    (DatabaseConfig.ofToml?_tableValue hurl hcars hsize)
  have haddress := htable "" Config.registryUrlOfToml? "registry" (by decide) rfl
    (Config.registryUrlOfToml?_tableValue hregistry)
  have hpatterns := htable {} Patterns.ofToml? "validator" (by decide) rfl
    (Patterns.ofToml?_tableValue hregNum hmark hmodel hname hsurname hpatronymic)
  have hget (names : List String) :
      Toml.group? names d.value = some fun name => d.content.lookup name := rfl
  simp only [Config.ofTomlValue?, hget, Option.bind_eq_bind, Option.bind_some,
    d.lookup_setting hlevelPlace, d.lookup_setting hpolicyPlace, hlevel, hpolicy,
    Toml.settingOr_text, Toml.settingOr_policy, hhttp, hdatabase, haddress, hpatterns, Option.pure_def,
    config, Option.or_none]

/-! ## Variables -/

theorem map_plain_text (o : Option String) : (o.map .text).map Toml.Literal.plain = o := by
  cases o <;> rfl

theorem map_plain_number {α : Type} (f : α → Nat) (o : Option α) :
    (o.map fun a => .number (f a)).map Toml.Literal.plain = o.map fun a => toString (f a) := by
  rw [Option.map_map]
  rfl

theorem integerVariable_natural (range : Text.IntegerRange) (hleast : range.least ≤ 0) {n : Nat}
    (hgreatest : (n : Int) ≤ range.greatest) (name : String) :
    Config.integerVariable range name (toString n) = .ok (n : Int) := by
  have hread := range.read_toString ⟨hleast, by omega⟩ n hgreatest
  rw [Config.integerVariable, hread]

theorem portVariable (default : UInt16) (o : Option UInt16) :
    Config.variableOr default
        (fun v => (Config.integerVariable .uint16 "HTTP_PORT" v).map fun n => .ofNat n.toNat)
        (o.map fun n => toString n.toNat) = .ok (o.getD default) := by
  cases o with
  | none => rfl
  | some n =>
    have hgreatest : (n.toNat : Int) ≤ 65535 := Int.ofNat_le.2 (Nat.le_of_lt_succ n.toNat_lt)
    have hread := integerVariable_natural .uint16 (Int.le_refl 0) hgreatest "HTTP_PORT"
    rw [Option.map_some, Config.variableOr, hread, Except.map, Int.toNat_natCast,
      UInt16.ofNat_toNat, Option.getD_some]

theorem sizeVariable (o : Option UInt64) :
    Config.variableOr none
        (fun v => (Config.integerVariable .uint64 "POOL_MAX_SIZE" v).map fun n =>
          some (.ofNat n.toNat))
        (o.map fun n => toString n.toNat) = .ok o := by
  cases o with
  | none => rfl
  | some n =>
    have hgreatest : (n.toNat : Int) ≤ 18446744073709551615 :=
      Int.ofNat_le.2 (Nat.le_of_lt_succ n.toNat_lt)
    have hread := integerVariable_natural .uint64 (Int.le_refl 0) hgreatest
      "POOL_MAX_SIZE"
    rw [Option.map_some, Config.variableOr, hread, Except.map, Int.toNat_natCast,
      UInt64.ofNat_toNat]

theorem policyVariable (default : FilterPolicy) (o : Option FilterPolicy) :
    Config.variableOr default FilterPolicy.ofText (o.map FilterPolicy.keyword) =
      .ok (o.getD default) := by
  cases o with
  | none => rfl
  | some p => cases p <;> rfl

/-- Variable by variable, as with a document. -/
theorem ofVariables_of_setIn {s : Settings} {lookup : String → Option String} (h : s.SetIn lookup) :
    Config.ofVariables lookup = .ok s.config := by
  have hpolicies : (s.filterPolicy.map fun p => .text p.keyword).map Toml.Literal.plain =
      s.filterPolicy.map FilterPolicy.keyword := by
    rw [Option.map_map]
    rfl
  -- What the variables are set to, one by one.
  rw [SetIn] at h
  simp only [entries, List.forall_mem_cons, map_plain_text, map_plain_number, hpolicies] at h
  obtain ⟨hlevel, hhost, hport, hurl, hcars, hsize, hregistry, hpolicy, hregNum, hmark, hmodel,
    hname, hsurname, hpatronymic, -⟩ := h
  simp only [Config.ofVariables, String.reduceAppend, hlevel, hhost, hport, hurl, hcars, hsize,
    hregistry, hpolicy, hregNum, hmark, hmodel, hname, hsurname, hpatronymic, portVariable,
    sizeVariable, policyVariable]
  have hsizes : s.poolMaxSize.or ({} : Config).database.poolMaxSize = s.poolMaxSize :=
    Option.or_none
  rw [config, hsizes]
  rfl

end Settings

/-! ## Both sources -/

open Settings

/-- A document and variables agree. Every configuration is read back from the document that states all
its settings, however the characters of its texts are spelled, and from the variables that do. More
generally, where a document states some settings and variables are set for the same ones, both are
read as the configuration with these settings and the defaults of the others, whatever else the
document holds and in whatever order; and there are such sources for any settings. -/
theorem Config.sources_agree {spell : Char → List Char} (hspell : ∀ c, Toml.Spells c (spell c)) :
    (∀ c : Config, (∀ n ∈ c.database.poolMaxSize, n.toNat ≤ 9223372036854775807) →
      ofToml ((ofConfig c).document.print spell) = .ok c ∧
      ofVariables (ofConfig c).environment = .ok c) ∧
    (∀ (s : Settings) (d : Toml.Document) (lookup : String → Option String),
      d.Valid → s.StatedIn d → s.SetIn lookup →
      ofToml (d.print spell) = .ok s.config ∧ ofVariables lookup = .ok s.config) ∧
    ∀ s : Settings, (∀ n ∈ s.poolMaxSize, n.toNat ≤ 9223372036854775807) →
      s.document.Valid ∧ s.StatedIn s.document ∧ s.SetIn s.environment := by
  have hread {s : Settings} {d : Toml.Document} (hvalid : d.Valid) (hstated : s.StatedIn d) :
      ofToml (d.print spell) = .ok s.config := by
    rw [ofToml, Toml.parse?_print hspell hvalid, Option.bind_some,
      ofTomlValue?_of_statedIn hstated]
  refine ⟨fun c hsize => ?_, fun s d lookup hvalid hstated hset => ?_, fun s hsize => ?_⟩
  · have hdocument := hread (valid_document (s := ofConfig c) hsize) (statedIn_document _)
    have hvariables := ofVariables_of_setIn (setIn_environment (ofConfig c))
    rw [config_ofConfig] at hdocument hvariables
    exact ⟨hdocument, hvariables⟩
  · exact ⟨hread hvalid hstated, ofVariables_of_setIn hset⟩
  · exact ⟨valid_document hsize, statedIn_document s, setIn_environment s⟩

/-- A configuration with quotes, escapes, line breaks and brackets in its texts, and the largest size of
a pool that a document can have. -/
def Config.hostile : Config where
  logLevel := "\"\"\"\\u0041 # = [http]\r\n\tport = 1"
  http := ⟨"", 65535⟩
  database := ⟨"'é\x7f\x00🚗", "\n[database]\nurl = \"\"", some 9223372036854775807⟩
  registryUrl := "\\"
  filterPolicy := .reject
  validator := ⟨"^\\d+\"$", " ", "\t", "#", "]", "\ufeff"⟩

/-- Hostile texts are read back from both sources. A port and a policy are read beside the defaults
where a table is missing, empty or has another setting, too. -/
theorem Config.sources_of_hostile_settings :
    (∀ c, Toml.Spells c (Toml.escapeChar c)) ∧
    ofToml ((ofConfig hostile).document.print Toml.escapeChar) = .ok hostile ∧
    ofVariables (ofConfig hostile).environment = .ok hostile ∧
    ofToml "filter_policy = \"reject\"\ncolor = \"red\"\n[validator]\n[http]\nport = 7000\n" =
      .ok { http := { port := 7000 }, filterPolicy := .reject } ∧
    ofVariables (fun name =>
        if name = "CARREG_HTTP_PORT" then some "7000"
        else if name = "CARREG_FILTER_POLICY" then some "reject" else none) =
      .ok { http := { port := 7000 }, filterPolicy := .reject } := by
  obtain ⟨hall, hstated, -⟩ := sources_agree Toml.spells_escapeChar
  have hsize : ∀ n ∈ hostile.database.poolMaxSize, n.toNat ≤ 9223372036854775807 := by
    rintro n ⟨⟩
    exact Nat.le_refl _
  obtain ⟨hdocument, hvariables⟩ := hall hostile hsize
  have htext : Toml.Document.print Toml.escapeChar
      ⟨[("filter_policy", .text "reject"), ("color", .text "red")],
        [("validator", []), ("http", [("port", .number 7000)])]⟩ =
      "filter_policy = \"reject\"\ncolor = \"red\"\n[validator]\n[http]\nport = 7000\n" := by rfl
  have hpartial := hstated { httpPort := some 7000, filterPolicy := some .reject }
    ⟨[("filter_policy", .text "reject"), ("color", .text "red")],
      [("validator", []), ("http", [("port", .number 7000)])]⟩
    (fun name =>
      if name = "CARREG_HTTP_PORT" then some "7000"
      else if name = "CARREG_FILTER_POLICY" then some "reject" else none)
    ⟨by decide, by decide, by decide⟩ ⟨by decide, by decide, by decide⟩
    (by rw [SetIn]; decide)
  rw [htext] at hpartial
  exact ⟨Toml.spells_escapeChar, hdocument, hvariables, hpartial.1, hpartial.2⟩

end VehicleRecords
