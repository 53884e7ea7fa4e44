import VehicleRecords.Config
import VehicleRecords.Database
import VehicleRecords.Registry
import VehicleRecords.Service

/-!
The command line of the server, and its start. Arguments are read from left to right, and the first one
that settles what to do, or that is wrong, ends the reading. The start stops at the first step that
fails.
-/
namespace VehicleRecords

inductive Command where
  | help
  | version
  /-- Serve with the settings of a file or of the environment. -/
  | serve (config : Option String) (resetDatabase : Bool)
  | misuse
  deriving DecidableEq, Repr

namespace Command

/-- An argument that can only be an option. -/
def isOption (arg : String) : Bool :=
  match arg.toList with
  | '-' :: _ :: _ => true
  | _ => false

/-- The value that is written into the same argument as its option. -/
def attachedConfig? (arg : String) : Option String :=
  let mark := "--config=".toList
  if mark.isPrefixOf arg.toList then some (String.ofList (arg.toList.drop mark.length)) else none

/-- The short option that an argument begins with. -/
def shortOption? (arg : String) : Option Char :=
  match arg.toList with
  | ['-', '-'] => none
  | '-' :: c :: _ => some c
  | _ => none

/-- Reads arguments behind some that have set `config` and `resetDatabase`. -/
def parseFrom (config : Option String) (resetDatabase : Bool) : List String → Command
  | [] | ["--"] => serve config resetDatabase
  | "--help" :: _ => help
  | "--version" :: _ => version
  | "--reset-db" :: rest => if resetDatabase then misuse else parseFrom config true rest
  | ["--config"] => misuse
  | "--config" :: path :: rest =>
    if path.isEmpty || isOption path || config.isSome then misuse
    else parseFrom (some path) resetDatabase rest
  | arg :: rest =>
    match attachedConfig? arg, shortOption? arg with
    | some path, _ =>
      if path.isEmpty || config.isSome then misuse else parseFrom (some path) resetDatabase rest
    | none, some 'h' => help
    | none, some 'V' => version
    | none, _ => misuse

def parse : List String → Command := parseFrom none false

end Command

/-- The words of the command line. -/
def usage : String := "\n".intercalate
  ["Car registration record service", "",
    "Usage: carreg-server [OPTIONS]", "",
    "Options:",
    "      --config <CONFIG>  Path to a TOML config file. Without one, `CARREG_*` environment " ++
      "variables are read",
    "      --reset-db         Drop and recreate the car table before serving",
    "  -h, --help             Print help",
    "  -V, --version          Print version"]

def versionLine : String := "carreg-server 0.1.0"

/-- What the server finds around it. -/
structure Surroundings (σ κ : Type) where
  /-- The bytes of a file, or the system's message. -/
  file : String → Except String Bytes
  lookup : String → Option String
  /-- The size of a pool when the settings leave it open. -/
  defaultPoolSize : Nat
  /-- Opens a connection for the record table of the given name. -/
  login : String → Postgres.Login → StoreM σ κ
  /-- What an open connection does. -/
  connection : Backend (κ × σ)
  /-- Sends a request to the registry. -/
  send : Uri → Except Error Registry.Reply
  currentYear : Nat

/-- What went wrong at the start, and in which step if that is told. -/
structure StartFailure where
  step : Option String := none
  cause : Error
  deriving DecidableEq, Repr

namespace StartFailure

/-- The lines of a text, all but the first one behind `indent`. -/
def indented (indent text : String) : String := ("\n" ++ indent).intercalate (text.splitOn "\n")

/-- The causes of a failure as they are listed: a single one plainly, several ones by number. -/
def listed : List String → String
  | [] => ""
  | [cause] => "\n\nCaused by:\n    " ++ indented "    " cause
  | causes => "\n\nCaused by:" ++ String.join (causes.mapIdx fun i cause =>
      "\n" ++ "".pushn ' ' (5 - (toString i).length) ++ toString i ++ ": " ++ indented "       " cause)

/-- The text that is shown for a failure. -/
def text (f : StartFailure) : String :=
  "Error: " ++ match f.step with
    | some step => step ++ listed (f.cause.message :: f.cause.sources)
    | none => f.cause.message ++ listed f.cause.sources

end StartFailure

/-- A service that has started, with the settings and the database it was started with. -/
structure Running (σ κ : Type) where
  config : Config
  service : Service (AnsweringPool κ × σ)
  database : Database σ κ

namespace Surroundings

variable {σ κ : Type}

def loadConfig (s : Surroundings σ κ) (path : Option String) : Except StartFailure Config :=
  let source := match path with
    | some path => "`" ++ path ++ "`"
    | none => "environment"
  (Config.load s.file s.lookup path).mapError
    (⟨some ("failed to load config from " ++ source), ·⟩)

/-- Connects to the database of the settings. -/
def connect? (s : Surroundings σ κ) (config : Config) (state : σ) :
    Option (Except Error (Database σ κ) × σ) :=
  let size := (config.database.poolMaxSize.map UInt64.toNat).getD s.defaultPoolSize
  Database.connect? (s.login config.database.carTable) config.database.url size none state

/-- The service over a store, with the registry and the checks of the settings. -/
def serviceOver {τ : Type} (s : Surroundings σ κ) (config : Config) (backend : Backend τ) :
    Except StartFailure (Service τ) := do
  let registry ← (Registry.ofText config.registryUrl).mapError
    (⟨some "failed to initialise registry client", ·⟩)
  let validator ← (Validator.compile config.validator).mapError (⟨none, ·⟩)
  return {
    backend, validator
    lookup := registry.lookup s.send
    policy := config.filterPolicy
    currentYear := s.currentYear }

/-- Loads the settings, connects to the database, creates the record table, which is dropped before
when that is asked for, and builds the service. There is no result if it waits for a connection that
never comes. -/
def start? (s : Surroundings σ κ) (path : Option String) (resetDatabase : Bool) (state : σ) :
    Option (Except StartFailure (Running σ κ) × σ) :=
  match s.loadConfig path with
  | .error f => some (.error f, state)
  | .ok config =>
    (s.connect? config state).map fun
    | (.error e, state) => (.error ⟨some "failed to connect to the database", e⟩, state)
    | (.ok database, state) =>
      let backend := Pool.backend database.connector s.connection
      match (if resetDatabase then backend.reset else backend.pushSchema) (database.pool, state) with
      | (.error e, (_, state)) => (.error ⟨none, e⟩, state)
      | (.ok (), (pool, state)) =>
        ((s.serviceOver config backend).map (⟨config, ·, { database with pool }⟩), state)

end Surroundings

end VehicleRecords
