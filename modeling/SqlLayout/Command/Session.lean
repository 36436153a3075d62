import SqlLayout.Command.Folder
import SqlLayout.Console.Markup
import SqlLayout.Console.Wrap
import SqlLayout.Format

/-!
# Sessions

What a command has read, written and said so far, and the ways in which it can fail.  A failure
keeps what was done before it.
-/

namespace SqlLayout.Command

open Settings (Level Problem)

/-- Why a command fails. -/
inductive Failure where
  /-- Settings were refused. -/
  | settings (problems : List Problem)
  /-- Standard input has no file that could be written. -/
  | writeToInput
  /-- A path leads to no file. -/
  | fileNotFound (path : String)
  /-- A text has no layout. -/
  | layout (error : Error)
  /-- A file cannot be read or written. -/
  | unusable (path : String) (fault : PathFault)
  deriving DecidableEq, Repr

/-- The wording of a failure. -/
def Failure.message : Failure → String
  | .settings problems => Settings.report "FormatterConfig" problems
  | .writeToInput => "--write cannot be used with stdin"
  | .fileNotFound path => "File not found: " ++ path
  | .layout error => error.message
  | .unusable path fault => fault.message path

/-- What a command has read, written and said so far. -/
structure Session where
  folder : Folder := {}
  /-- What is left to read on standard input. -/
  input : String := ""
  output : String := ""
  errors : String := ""
  /-- The paths of the files that were written, in order. -/
  written : List String := []

/-- A computation in a session; a failure keeps what was done before it. -/
abbrev Run := ExceptT Failure (StateM Session)

/-- Ends of lines of every system, as line feeds. -/
def lineFeeds : List Char → List Char
  | [] => []
  | '\r' :: '\n' :: rest => '\n' :: lineFeeds rest
  | c :: rest => (if c == '\r' then '\n' else c) :: lineFeeds rest

/-- The path that stands for standard input. -/
def inputPath : String := "-"

namespace Run

/-- A result that does nothing. -/
def ofExcept (result : Except Failure α) : Run α :=
  ExceptT.mk (pure result)

/-- Says a message, which is a marked text. -/
def say (text : String) : Run Unit :=
  modify fun session => { session with errors := session.errors ++
                                         Console.message (Console.shown text) }

/-- Prints a text. -/
def print (text : String) : Run Unit :=
  modify fun session => { session with output := session.output ++ text }

/-- Says the events that are important enough. -/
def report (threshold : Level) (events : List Event) : Run Unit :=
  let shown := events.filter fun event => threshold.weight ≤ event.level.weight
  let lines := shown.map fun event => Console.logMessage event.level.name event.message
  modify fun session => { session with errors := session.errors ++ String.join lines }

/-- Runs a computation that logs. -/
def logging (threshold : Level) (action : Logged Error α) : Run α := do
  let (result, events) := action.events
  report threshold events
  ofExcept (result.mapError .layout)

/-- Reads a source: a file, or what is left on standard input. -/
def readSource (path : String) : Run String := do
  let session ← get
  if path == inputPath then
    set { session with input := "" }
    return String.ofList (lineFeeds session.input.toList)
  else match session.folder.read path with
    | .ok (some text) => return String.ofList (lineFeeds text.toList)
    | .ok none => throw (.fileNotFound path)
    | .error fault => throw (.unusable (placeOf path).path fault)

/-- Writes a file. -/
def writeFile (path text : String) : Run Unit := do
  let session ← get
  match session.folder.write path text with
  | .ok folder => set { session with folder := folder, written := session.written ++ [path] }
  | .error fault => throw (.unusable (placeOf path).path fault)

end Run

end SqlLayout.Command
