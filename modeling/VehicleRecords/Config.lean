import VehicleRecords.Filter.Grammar
import VehicleRecords.Toml.Reading
import VehicleRecords.Validator

/-!
The settings of the service. They come from a TOML text or from environment variables; what neither
mentions has a default.
-/
namespace VehicleRecords

structure HttpConfig where
  host : String := "0.0.0.0"
  port : UInt16 := 9099
  deriving DecidableEq, Repr, Inhabited

structure DatabaseConfig where
  url : String := "postgresql://localhost:5432/cars"
  carTable : String := "cars"
  /-- The most connections at a time; a default of the machine when absent. -/
  poolMaxSize : Option UInt64 := none
  deriving DecidableEq, Repr, Inhabited

structure Config where
  logLevel : String := "info"
  http : HttpConfig := {}
  database : DatabaseConfig := {}
  /-- The address that vehicles are looked up at. -/
  registryUrl : String := ""
  filterPolicy : FilterPolicy := .skip
  validator : Patterns := {}
  deriving DecidableEq, Repr, Inhabited

namespace HttpConfig

def ofToml? (v : Toml.Value) : Option HttpConfig := do
  let get ← Toml.group? ["host", "port"] v
  let host ← Toml.settingOr "0.0.0.0" Toml.text? (get "host")
  let port ← Toml.settingOr 9099 (Toml.integer? .uint16) (get "port")
  return ⟨host, .ofNat port.toNat⟩

end HttpConfig

namespace DatabaseConfig

def ofToml? (v : Toml.Value) : Option DatabaseConfig := do
  let default : DatabaseConfig := {}
  let get ← Toml.group? ["url", "car_table", "pool_max_size"] v
  let url ← Toml.settingOr default.url Toml.text? (get "url")
  let carTable ← Toml.settingOr default.carTable Toml.text? (get "car_table")
  let size ← Toml.settingOr none
    (fun v => (Toml.integer? .uint64 v).map some) (get "pool_max_size")
  return ⟨url, carTable, size.map fun n => .ofNat n.toNat⟩

end DatabaseConfig

namespace Patterns

def ofToml? (v : Toml.Value) : Option Patterns := do
  let get ← Toml.group?
    ["reg_num", "mark", "model", "owner_name", "owner_surname", "owner_patronymic"] v
  let pattern (name : String) := Toml.settingOr "" Toml.text? (get name)
  return ⟨← pattern "reg_num", ← pattern "mark", ← pattern "model", ← pattern "owner_name",
    ← pattern "owner_surname", ← pattern "owner_patronymic"⟩

end Patterns

namespace Config

def registryUrlOfToml? (v : Toml.Value) : Option String := do
  let get ← Toml.group? ["url"] v
  Toml.settingOr "" Toml.text? (get "url")

def filterPolicyOfToml? (v : Toml.Value) : Option FilterPolicy :=
  (Toml.word? ["skip", "reject"] v).map fun word => if word = "skip" then .skip else .reject

def ofTomlValue? (v : Toml.Value) : Option Config := do
  let get ← Toml.group?
    ["log_level", "http", "database", "registry", "filter_policy", "validator"] v
  let logLevel ← Toml.settingOr "info" Toml.text? (get "log_level")
  let http ← Toml.settingOr {} HttpConfig.ofToml? (get "http")
  let database ← Toml.settingOr {} DatabaseConfig.ofToml? (get "database")
  let registryUrl ← Toml.settingOr "" registryUrlOfToml? (get "registry")
  let filterPolicy ← Toml.settingOr .skip filterPolicyOfToml? (get "filter_policy")
  let validator ← Toml.settingOr {} Patterns.ofToml? (get "validator")
  return { logLevel, http, database, registryUrl, filterPolicy, validator }

/-- The message for a text that is no TOML or holds settings of another form. -/
def tomlMessage : String := "TOML parse error"

def ofToml (text : String) : Except Error Config :=
  match (Toml.parse? text.toList).bind ofTomlValue? with
  | some config => .ok config
  | none => .error (.foreign tomlMessage)

/-- The bytes of a file as a text of settings. The content is the system's message when the file
cannot be read. -/
def ofFile (path : String) (content : Except String Bytes) : Except Error Config :=
  match content with
  | .error message => .error (unreadable message)
  | .ok bytes =>
    match Text.Utf8.decode? bytes with
    | some text => ofToml (String.ofList text)
    | none => .error (unreadable "stream did not contain valid UTF-8")
where
  unreadable (message : String) : Error :=
    (Error.foreign message).context (Cause.adhoc ("reading `" ++ path ++ "`"))

/-- The names of all variables of the service begin like this. -/
def variablePrefix : String := "CARREG_"

def variableNames : List String :=
  ["LOG_LEVEL", "HTTP_HOST", "HTTP_PORT", "DATABASE_URL", "CAR_TABLE", "POOL_MAX_SIZE",
    "REGISTRY_URL", "FILTER_POLICY", "VALIDATOR_REG_NUM", "VALIDATOR_MARK", "VALIDATOR_MODEL",
    "VALIDATOR_OWNER_NAME", "VALIDATOR_OWNER_SURNAME", "VALIDATOR_OWNER_PATRONYMIC"].map
    (variablePrefix ++ ·)

/-- An integer in a variable; the failure names the variable. -/
def integerVariable (range : Text.IntegerRange) (name value : String) : Except Error Int :=
  match range.read value.toList with
  | .ok n => .ok n
  | .error e =>
    .error ((Error.foreign e.message).context
      (Cause.adhoc (variablePrefix ++ name ++ "=`" ++ value ++ "`")))

/-- A setting from a variable that may be unset. -/
def variableOr (default : α) (read : String → Except Error α) : Option String → Except Error α
  | none => .ok default
  | some value => read value

/-- Settings from variables. A variable that is unset leaves the default. -/
def ofVariables (lookup : String → Option String) : Except Error Config := do
  let get (name : String) := lookup (variablePrefix ++ name)
  let default : Config := {}
  let port ← variableOr default.http.port
    (fun v => (integerVariable .uint16 "HTTP_PORT" v).map fun n => .ofNat n.toNat) (get "HTTP_PORT")
  let poolMaxSize ← variableOr none
    (fun v => (integerVariable .uint64 "POOL_MAX_SIZE" v).map fun n => some (.ofNat n.toNat))
    (get "POOL_MAX_SIZE")
  let filterPolicy ← variableOr .skip FilterPolicy.ofText (get "FILTER_POLICY")
  let pattern (name : String) := (get ("VALIDATOR_" ++ name)).getD ""
  return {
    logLevel := (get "LOG_LEVEL").getD default.logLevel
    http := ⟨(get "HTTP_HOST").getD default.http.host, port⟩
    database := ⟨(get "DATABASE_URL").getD default.database.url,
      (get "CAR_TABLE").getD default.database.carTable, poolMaxSize⟩
    registryUrl := (get "REGISTRY_URL").getD default.registryUrl
    filterPolicy
    validator := ⟨pattern "REG_NUM", pattern "MARK", pattern "MODEL", pattern "OWNER_NAME",
      pattern "OWNER_SURNAME", pattern "OWNER_PATRONYMIC"⟩ }

/-- Checks what the form of the settings does not show. -/
def validate (c : Config) : Except Error Unit := do
  if c.database.carTable.isEmpty then
    throw (.validation "database.car_table" "must not be empty")
  if c.database.poolMaxSize = some 0 then
    throw (.validation "database.pool_max_size" "must be at least 1")
  let _ ← Validator.compile c.validator

/-- Settings that have passed the checks. -/
def validated (c : Except Error Config) : Except Error Config := do
  let config ← c
  config.validate
  return config

/-- The settings of a file, or of the environment when no file is named. -/
def load (file : String → Except String Bytes) (lookup : String → Option String) :
    Option String → Except Error Config
  | some path => validated (ofFile path (file path))
  | none => validated (ofVariables lookup)

/-- The address to listen at. -/
def httpAddress (c : Config) : String := c.http.host ++ ":" ++ toString c.http.port.toNat

end Config

end VehicleRecords
