import SqlLayout.Settings.Value
import SqlLayout.Settings.DotEnv
import SqlLayout.Grammar.Dialect

/-!
# Settings

The four settings of the formatter.  A setting is taken from the options, else from the environment,
else from the environment file, else from its default.
-/

namespace SqlLayout

open Settings

/-- The settings of the formatter. -/
structure Settings where
  dialect : Option String := none
  tabWidth : Nat := 4
  strict : Bool := false
  logLevel : String := "WARNING"
  deriving DecidableEq, Repr

namespace Settings

/-- Levels of log messages. -/
inductive Level where
  | debug
  | info
  | warning
  | error
  | critical
  deriving DecidableEq, Repr

/-- The name of a level. -/
def Level.name : Level → String
  | .debug => "DEBUG"
  | .info => "INFO"
  | .warning => "WARNING"
  | .error => "ERROR"
  | .critical => "CRITICAL"

/-- The weight of a level; heavier messages are shown first. -/
def Level.weight : Level → Nat
  | .debug => 10
  | .info => 20
  | .warning => 30
  | .error => 40
  | .critical => 50

/-- The level a name stands for, in any case. -/
def level? (name : String) : Option Level :=
  [Level.critical, .error, .warning, .info, .debug].find? (·.name == name.upperCase)

/-- The level from which on messages are shown; unknown names mean warnings. -/
def level (settings : Settings) : Level :=
  (level? settings.logLevel).getD .warning

/-- Where values come from, the strongest source first. -/
structure Sources where
  options : List (String × Value) := []
  env : List (String × String) := []
  dotEnv : List Binding := []

/-- The start of the names of the environment variables. -/
def envMark : String := "sql_prettify_"

/-- The value of a variable whose name is compared without case; the last one counts. -/
def boundValue? (field : String) (bindings : List Binding) : Option Value := do
  let binding ← bindings.reverse.find? fun binding => binding.name.lowerCase == envMark ++ field
  return .text (← binding.value)

/-- The value given for a field, if any source has one. -/
def Sources.value? (sources : Sources) (field : String) : Option Value :=
  let env := sources.env.map fun (name, value) => { name := name, value := some value }
  sources.options.lookup field <|> boundValue? field env <|> boundValue? field sources.dotEnv

/-- The text of a value; other values have none. -/
def Value.asText : Value → String
  | .text s => s
  | _ => ""

/-- Reads one field, or gives its default. -/
def Sources.field (sources : Sources) (name : String) (default : α)
    (read : Value → Except Refusal α) : Except (List Problem) α :=
  match sources.value? name with
  | none => .ok default
  | some value => (read value).mapError fun refusal =>
    [{ path := [.inl name], refusal := refusal, given := value.asText }]

/-- The problems of a field that was not read. -/
def problemsOf : Except (List Problem) α → List Problem
  | .error problems => problems
  | .ok _ => []

/-- Reads the settings; all refused fields are reported, in the order of the fields. -/
def load (sources : Sources) : Except (List Problem) Settings :=
  let dialect := sources.field "dialect" none Value.optionalText?
  let tabWidth := sources.field "tab_width" 4 (Value.atLeast? 1)
  let strict := sources.field "strict" false Value.bool?
  let logLevel := sources.field "log_level" "WARNING" Value.text?
  match dialect, tabWidth, strict, logLevel with
  | .ok dialect, .ok tabWidth, .ok strict, .ok logLevel =>
    .ok { dialect := dialect, tabWidth := tabWidth, strict := strict, logLevel := logLevel }
  | _, _, _, _ =>
    .error (problemsOf dialect ++ problemsOf tabWidth ++ problemsOf strict ++ problemsOf logLevel)

/-- Whether a dialect is named. -/
def hasDialect (settings : Settings) : Bool :=
  settings.dialect.any (!·.isEmpty)

/-- An optional text as messages show it. -/
def showOption : Option String → String
  | some text => text.shown
  | none => "None"

/-- A truth value as messages show it. -/
def showBool (b : Bool) : String :=
  if b then "True" else "False"

/-- The settings as messages show them. -/
def shown (settings : Settings) : String :=
  "FormatterConfig(dialect=" ++ showOption settings.dialect ++ ", tab_width=" ++
    toString settings.tabWidth ++ ", strict=" ++ showBool settings.strict ++ ", log_level=" ++
    settings.logLevel.shown ++ ")"

end Settings

end SqlLayout
