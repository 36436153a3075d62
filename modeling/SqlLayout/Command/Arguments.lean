/-!
# Command-line arguments

The commands with their options, and how they are read from a list of arguments.  Options may stand
between the paths; after two dashes everything is a path.
-/

namespace SqlLayout.Command

/-- The options of a command that were given. -/
structure Given where
  paths : List String := []
  write : Bool := false
  output : Option String := none
  dialect : Option String := none
  strict : Option Bool := none
  verbose : Bool := false
  help : Bool := false
  deriving DecidableEq, Repr

/-- What an option does with those given before it. -/
inductive Effect where
  | flag (set : Given → Given)
  | value (set : String → Given → Given)

/-- An option: the names it can be written by, and what it does. -/
structure Choice where
  names : List String
  effect : Effect

/-- Why arguments are not understood. -/
inductive Usage where
  | missingCommand
  | unknownCommand (name : String)
  | unknownOption (name : String)
  | missingValue (name : String)
  | unexpectedValue (name : String)
  | missingPath
  | extraPaths (paths : List String)
  deriving DecidableEq, Repr

/-- The wording of a misunderstanding. -/
def Usage.message : Usage → String
  | .missingCommand => "Missing command."
  | .unknownCommand name => "No such command '" ++ name ++ "'."
  | .unknownOption name => "No such option: " ++ name
  | .missingValue name => "Option '" ++ name ++ "' requires an argument."
  | .unexpectedValue name => "Option '" ++ name ++ "' does not take a value."
  | .missingPath => "Missing argument."
  | .extraPaths paths => "Got unexpected extra arguments (" ++ " ".intercalate paths ++ ")"

/-- The option that names the dialect. -/
def dialectChoice : Choice :=
  ⟨["--dialect", "-d"], .value fun value given => { given with dialect := some value }⟩

/-- The option that shows all log messages. -/
def verboseChoice : Choice :=
  ⟨["--verbose", "-v"], .flag fun given => { given with verbose := true }⟩

/-- The option that asks for help. -/
def helpChoice : Choice :=
  ⟨["--help"], .flag fun given => { given with help := true }⟩

/-- The options of formatting. -/
def formatChoices : List Choice :=
  [⟨["--write", "-w"], .flag fun given => { given with write := true }⟩,
   ⟨["--output", "-o"], .value fun value given => { given with output := some value }⟩,
   dialectChoice,
   ⟨["--strict"], .flag fun given => { given with strict := some true }⟩,
   ⟨["--no-strict"], .flag fun given => { given with strict := some false }⟩,
   verboseChoice, helpChoice]

/-- The options of checking. -/
def checkChoices : List Choice :=
  [dialectChoice, verboseChoice, helpChoice]

/-- The options of showing statements. -/
def showTreeChoices : List Choice :=
  [dialectChoice, helpChoice]

/-- How far the arguments were read. -/
structure Reading where
  given : Given := {}
  /-- The option that waits for its value. -/
  waiting : Option (String × (String → Given → Given)) := none
  /-- Whether everything that follows is a path. -/
  pathsOnly : Bool := false

/-- The effect of the option with a name. -/
def effect? (choices : List Choice) (name : String) : Option Effect :=
  (choices.find? (·.names.contains name)).map (·.effect)

/-- Reads the letters of an argument with one dash.  A letter that takes a value takes the rest of
the argument, or waits for the next one. -/
def readLetters (choices : List Choice) (reading : Reading) : List Char → Except Usage Reading
  | [] => .ok reading
  | letter :: rest =>
    let name := String.ofList ['-', letter]
    match effect? choices name with
    | none => .error (.unknownOption name)
    | some (.flag set) => readLetters choices { reading with given := set reading.given } rest
    | some (.value set) =>
      if rest.isEmpty then .ok { reading with waiting := some (name, set) }
      else .ok { reading with given := set (String.ofList rest) reading.given }

/-- Reads an argument that starts with two dashes, with the value after an equals sign. -/
def readName (choices : List Choice) (reading : Reading) (arg : List Char) : Except Usage Reading :=
  let name := String.ofList (arg.takeWhile (· != '='))
  let value? := if arg.contains '=' then some (String.ofList ((arg.dropWhile (· != '=')).drop 1))
    else none
  match effect? choices name, value? with
  | none, _ => .error (.unknownOption name)
  | some (.flag set), none => .ok { reading with given := set reading.given }
  | some (.flag _), some _ => .error (.unexpectedValue name)
  | some (.value set), none => .ok { reading with waiting := some (name, set) }
  | some (.value set), some value => .ok { reading with given := set value reading.given }

/-- Adds a path. -/
def Reading.addPath (reading : Reading) (path : String) : Reading :=
  { reading with given := { reading.given with paths := reading.given.paths ++ [path] } }

/-- Reads one argument. -/
def readArgument (choices : List Choice) (reading : Reading) (arg : String) :
    Except Usage Reading :=
  match reading.waiting with
  | some (_, set) => .ok { reading with given := set arg reading.given, waiting := none }
  | none =>
    if reading.pathsOnly then .ok (reading.addPath arg)
    else match arg.toList with
      | ['-', '-'] => .ok { reading with pathsOnly := true }
      | '-' :: '-' :: rest => readName choices reading ('-' :: '-' :: rest)
      | '-' :: letter :: rest => readLetters choices reading (letter :: rest)
      | _ => .ok (reading.addPath arg)

/-- Reads the arguments of a command. -/
def readArguments (choices : List Choice) (args : List String) : Except Usage Given := do
  let reading ← args.foldlM (readArgument choices) {}
  match reading.waiting with
  | some (name, _) => throw (.missingValue name)
  | none => return reading.given

end SqlLayout.Command

namespace SqlLayout

/-- What the program is asked to do. -/
inductive Command where
  /-- Prints the layouts of files, or writes them in their place. -/
  | format (paths : List String) (write : Bool) (output : Option String) (dialect : Option String)
      (strict : Option Bool) (verbose : Bool)
  /-- Tells which files are not in their layout. -/
  | check (paths : List String) (dialect : Option String) (verbose : Bool)
  /-- Lists the statements of a file. -/
  | showTree (path : String) (dialect : Option String)
  /-- Tells what the commands are. -/
  | help
  deriving DecidableEq, Repr

namespace Command

/-- The command that formats. -/
def formatOf (given : Given) : Except Usage Command :=
  if given.help then .ok .help
  else if given.paths.isEmpty then .error .missingPath
  else .ok (.format given.paths given.write given.output given.dialect given.strict given.verbose)

/-- The command that checks. -/
def checkOf (given : Given) : Except Usage Command :=
  if given.help then .ok .help
  else if given.paths.isEmpty then .error .missingPath
  else .ok (.check given.paths given.dialect given.verbose)

/-- The command that shows statements. -/
def showTreeOf (given : Given) : Except Usage Command :=
  if given.help then .ok .help
  else match given.paths with
    | [] => .error .missingPath
    | [path] => .ok (.showTree path given.dialect)
    | _ :: extra => .error (.extraPaths extra)

/-- The command with a name and its arguments. -/
def named (name : String) (args : List String) : Except Usage Command :=
  match name with
  | "format" => readArguments formatChoices args >>= formatOf
  | "check" => readArguments checkChoices args >>= checkOf
  | "show-tree" => readArguments showTreeChoices args >>= showTreeOf
  | name => .error (.unknownCommand name)

/-- The command that arguments ask for. -/
def ofArguments : List String → Except Usage Command
  | [] => .error .missingCommand
  | "--" :: name :: args => named name args
  | ["--"] => .error .missingCommand
  | "--help" :: _ => .ok .help
  | name :: args =>
    if name.startsWith "-" && name.length > 1 then .error (.unknownOption name) else named name args

/-- A short description of the commands. -/
def helpText : String :=
  "Usage: sql-prettify COMMAND [OPTIONS] PATHS\n\n" ++
  "  format PATHS [--write] [--output FILE] [--dialect NAME] [--strict/--no-strict] [--verbose]\n"
    ++
  "  check PATHS [--dialect NAME] [--verbose]\n" ++
  "  show-tree PATH [--dialect NAME]\n"

end Command

end SqlLayout
