import SqlLayout.Command.Run

/-!
# The program

Reads what a command asks for, runs it, and writes what it leaves behind.
-/

namespace SqlLayout.Command

/-- The paths that a command reads or writes. -/
def paths : Command → List String
  | .format paths _ output _ _ _ => paths ++ output.toList
  | .check paths _ _ => paths
  | .showTree path _ => [path]
  | .help => []

/-- The variables that settings are taken from. -/
def settingNames : List String :=
  ["SQL_PRETTIFY_DIALECT", "SQL_PRETTIFY_TAB_WIDTH", "SQL_PRETTIFY_STRICT",
    "SQL_PRETTIFY_LOG_LEVEL"]

/-- Whether a folder stands at a place. -/
def standsFolder (place : Place) : IO Bool :=
  try
    let found ← IO.FS.realPath place.path
    found.isDir
  catch _ => return false

/-- What the bytes of the file at a place stand for. -/
def contentAt? (place : Place) : IO (Option (Except Text.DecodeFault String)) :=
  try
    return some (Text.decode (← IO.FS.readBinFile place.path).toList)
  catch _ => return none

/-- Adds the folders on the way to a path and the file there. -/
def explore (folder : Folder) (path : String) : IO Folder := do
  let place := placeOf path
  let onTheWay := (List.range (place.length + 1)).map fun count => place.take count
  let folders ← onTheWay.filterM standsFolder
  let folder := { folder with folders := folder.folders ++ folders }
  match folder.locate path with
  | .ok place =>
    if folder.hasFile place then return folder
    match ← contentAt? place with
    | some (.ok text) => return folder.put place text
    | some (.error fault) => return { folder with faults := folder.faults ++ [(place, fault)] }
    | none => return folder
  | .error _ => return folder

/-- Writes the files that a command has written. -/
def writeFiles (outcome : Outcome) : IO Unit :=
  outcome.written.forM fun path => do
    match outcome.folder.locate path, outcome.folder.read path with
    | .ok place, .ok (some text) => IO.FS.writeFile place.path text
    | _, _ => return ()

/-- Runs a command on the files of the computer. -/
def perform (command : Command) : IO UInt32 := do
  let folder ← (".env" :: command.paths).foldlM explore {}
  let env ← settingNames.filterMapM fun name => do
    return (← IO.getEnv name).map fun value => (name, value)
  let input ← if command.paths.contains inputPath then (← IO.getStdin).readToEnd else pure ""
  let outcome := run { env := env, folder := folder, input := input } command
  IO.print outcome.output
  IO.eprint outcome.errors
  writeFiles outcome
  return outcome.exitCode.toUInt32

end SqlLayout.Command

/-- Runs the command that the arguments ask for. -/
def main (args : List String) : IO UInt32 := do
  match SqlLayout.Command.ofArguments args with
  | .ok command => command.perform
  | .error usage =>
    IO.eprint (SqlLayout.Console.message ("Error: " ++ usage.message))
    return 2
