import VehicleRecords.CommandLine

/-!
The server's program. It stops where a database would have to be reached.
-/
namespace VehicleRecords

/-- What the system says of a file that cannot be read. -/
def fileMessage : IO.Error → String
  | .noFileOrDirectory .. => "No such file or directory (os error 2)"
  | .permissionDenied .. => "Permission denied (os error 13)"
  | e => toString e

def fileContent (path : String) : IO (Except String Bytes) :=
  try
    return .ok (← IO.FS.readBinFile path).toList
  catch e => return .error (fileMessage e)

/-- The value of each variable that holds a setting. -/
def readVariables : IO (List (String × String)) :=
  Config.variableNames.filterMapM fun name => do
    return (← IO.getEnv name).map (name, ·)

def serve (path : Option String) (resetDatabase : Bool) : IO UInt32 := do
  let content ← match path with
    | some path => fileContent path
    | none => pure (.ok [])
  let settings ← readVariables
  let surroundings : Surroundings Unit Unit := {
    file := fun _ => content
    lookup := fun name => List.lookup name settings
    defaultPoolSize := 8
    login := fun _ _ => throw unreachable
    connection := { exec := fun _ => throw unreachable }
    send := fun _ => .error unreachable
    currentYear := 2025 }
  match surroundings.start? path resetDatabase () with
  | some (.error failure, _) =>
    IO.eprintln failure.text
    return 1
  | _ => return 0
where
  unreachable : Error := .driver ⟨"error connecting to server", []⟩

def run (args : List String) : IO UInt32 := do
  match Command.parse args with
  | .help =>
    IO.println usage
    return 0
  | .version =>
    IO.println versionLine
    return 0
  | .serve path resetDatabase => serve path resetDatabase
  | .misuse =>
    IO.eprintln usage
    return 2

end VehicleRecords

def main (args : List String) : IO UInt32 := VehicleRecords.run args
