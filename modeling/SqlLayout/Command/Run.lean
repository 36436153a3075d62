import SqlLayout.Command.Arguments
import SqlLayout.Command.Session
import SqlLayout.Console.Table
import SqlLayout.Layout.Summary

/-!
# Running commands

Each command as a computation in a session, and the outcome of a list of arguments.
-/

namespace SqlLayout.Command

open Settings (Level)

/-- What a command formats by: the settings, the language they name, and the least level of the log
messages that are shown. -/
structure Job where
  settings : Settings
  language : Language
  threshold : Level

/-- The settings of a command: those of the environment and of the file `.env`, with the options of
the command before them. -/
def settingsOf (env : List (String × String)) (folder : Folder) (dialect : Option String)
    (strict : Option Bool) : Except Failure Settings := do
  let text ← (folder.read ".env").mapError (.unusable ".env")
  let dotEnv := (text.map fun text =>
    Settings.dotEnv env (String.ofList (lineFeeds text.toList))).getD []
  let settings ← (Settings.load { env := env, dotEnv := dotEnv }).mapError .settings
  return { settings with
    dialect := (dialect.filter (!·.isEmpty)).orElse fun _ => settings.dialect
    strict := strict.getD settings.strict }

/-- What a command formats by, with the settings it has. -/
def jobOf (settings : Settings) (verbose : Bool) : Except Failure Job := do
  let language ← (Language.named settings.dialect).mapError .layout
  return { settings := settings, language := language
           threshold := if verbose then .debug else settings.level }

/-- The layout of a source. -/
def Job.layout (job : Job) (source : String) : Run String :=
  Run.logging job.threshold (formatIn job.language job.settings source)

/-- Writes the layout of a file in place of its text, if they differ. -/
def Job.replace (job : Job) (path : String) : Run Unit := do
  let source ← Run.readSource path
  let formatted ← job.layout source
  if formatted != source then
    Run.writeFile path formatted
    Run.say ("[green]✓[/green] Formatted " ++ Console.escape path)
  else Run.say ("[blue]Unchanged " ++ Console.escape path ++ "[/blue]")

/-- The layout of the source at a path. -/
def Job.layoutAt (job : Job) (path : String) : Run String := do
  job.layout (← Run.readSource path)

/-- Whether the source at a path is not its layout. -/
def Job.differs (job : Job) (path : String) : Run Bool := do
  let source ← Run.readSource path
  return (← job.layout source) != source

/-- Prints the layouts of the sources, or writes them to a file. -/
def Job.emit (job : Job) (paths : List String) (output : Option String) : Run Unit := do
  let results ← paths.mapM job.layoutAt
  let text := "\n".intercalate results
  match output with
  | some path =>
    Run.writeFile path text
    Run.say ("[green]✓[/green] Formatted SQL written to " ++ Console.escape (placeOf path).path)
  | none => Run.print text

/-- Tells which sources are not their layouts; gives whether there are any. -/
def Job.compare (job : Job) (paths : List String) : Run Bool := do
  let differing ← paths.filterM job.differs
  if differing.isEmpty then
    Run.say ("[green]✓ " ++ toString paths.length ++ " file(s) already formatted[/green]")
    return false
  else
    differing.forM fun path => Run.say ("[yellow]Would reformat[/yellow] " ++ Console.escape path)
    Run.say ("[red]✗ " ++ toString differing.length ++ " of " ++ toString paths.length ++
      " file(s) need formatting[/red]")
    return true

/-- The table of the statements of a document. -/
def statementTable (path : String) (document : Document) : Console.Table :=
  { title := "Statements: " ++ Console.escape path
    columns := [{ head := "#", align := .right }, { head := "Kind" }, { head := "Summary" }]
    rows := document.statements.zipIdx.map fun (statement, index) =>
      [toString (index + 1), statement.kind, Console.escape (Layout.summary statement)] }

/-- Prints the statements of a source. -/
def Job.showTree (job : Job) (path : String) : Run Unit := do
  let source ← Run.readSource path
  let document ← Run.logging job.threshold (Document.parse job.language source.toList)
  Run.print (statementTable path document).render

/-- What a command reads besides its arguments. -/
structure Surroundings where
  env : List (String × String) := []
  folder : Folder := {}
  input : String := ""

/-- What a command leaves behind. -/
structure Outcome where
  exitCode : Nat
  output : String := ""
  errors : String := ""
  folder : Folder
  /-- The paths of the files that were written, in order. -/
  written : List String := []

/-- Runs a command; gives its exit code. -/
def execute (env : List (String × String)) : Command → Run Nat
  | .format paths write output dialect strict verbose => do
    let settings ← Run.ofExcept (settingsOf env (← get).folder dialect strict)
    if write && paths.contains inputPath then throw .writeToInput
    let job ← Run.ofExcept (jobOf settings verbose)
    if write then paths.forM job.replace else job.emit paths output
    return 0
  | .check paths dialect verbose => do
    let settings ← Run.ofExcept (settingsOf env (← get).folder dialect none)
    let job ← Run.ofExcept (jobOf settings verbose)
    let differing ← job.compare paths
    return if differing then 1 else 0
  | .showTree path dialect => do
    let settings ← Run.ofExcept (settingsOf env (← get).folder dialect none)
    let job ← Run.ofExcept (jobOf settings false)
    job.showTree path
    return 0
  | .help => do
    Run.print helpText
    return 0

/-- Runs a command in its surroundings. -/
def run (surroundings : Surroundings) (command : Command) : Outcome :=
  let session : Session := { folder := surroundings.folder, input := surroundings.input }
  match (execute surroundings.env command).run session with
  | (.ok code, session) =>
    { exitCode := code, output := session.output, errors := session.errors, folder := session.folder
      written := session.written }
  | (.error failure, session) =>
    { exitCode := 1, output := session.output
      errors := session.errors ++
        Console.message (Console.shown ("[red]Error:[/red] " ++ Console.escape failure.message))
      folder := session.folder
      written := session.written }

/-- Runs the command that arguments ask for.  Arguments that are not understood have their own exit
code. -/
def runArguments (surroundings : Surroundings) (args : List String) : Outcome :=
  match ofArguments args with
  | .ok command => run surroundings command
  | .error usage =>
    { exitCode := 2, errors := Console.message ("Error: " ++ usage.message),
      folder := surroundings.folder }

end SqlLayout.Command
