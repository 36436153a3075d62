import SqlLayout.Text.Quoted

/-!
# Refused values

Why a value is refused, and the report about the refused fields of a record.
-/

namespace SqlLayout.Settings

/-- Why a value is refused. -/
inductive Refusal where
  | missing
  | notInteger
  | notIntegerText
  /-- A number has too many digits. -/
  | integerSize
  | fraction
  | tooSmall
  | notTruth
  | notTruthValue
  | notText
  | notListed
  | notInstance
  | notModel
  | notList
  deriving DecidableEq, Repr

/-- The name of a refusal in reports. -/
def Refusal.name : Refusal → String
  | .missing => "missing"
  | .notInteger => "int_type"
  | .notIntegerText => "int_parsing"
  | .integerSize => "int_parsing_size"
  | .fraction => "int_from_float"
  | .tooSmall => "greater_than_equal"
  | .notTruth => "bool_type"
  | .notTruthValue => "bool_parsing"
  | .notText => "string_type"
  | .notListed => "literal_error"
  | .notInstance => "is_instance_of"
  | .notModel => "model_type"
  | .notList => "list_type"

/-- The wording of a refusal. -/
def Refusal.wording : Refusal → String
  | .missing => "Field required"
  | .notInteger => "Input should be a valid integer"
  | .notIntegerText => "Input should be a valid integer, unable to parse string as an integer"
  | .integerSize => "Unable to parse input string as an integer, exceeded maximum size"
  | .fraction => "Input should be a valid integer, got a number with a fractional part"
  | .tooSmall => "Input should be greater than or equal to 1"
  | .notTruth => "Input should be a valid boolean"
  | .notTruthValue => "Input should be a valid boolean, unable to interpret input"
  | .notText => "Input should be a valid string"
  | .notListed => "Input should be 'TABLE' or 'VIEW'"
  | .notInstance => "Input should be an instance of the class"
  | .notModel => "Input should be a valid dictionary or an instance of the class"
  | .notList => "Input should be a valid list"

/-- A refused field: where it is, why it is refused, and the text that was given.  Positions in
lists are numbers. -/
structure Problem where
  path : List (String ⊕ Nat)
  refusal : Refusal
  given : String := ""
  deriving DecidableEq, Repr

/-- Characters from the start of a text whose size in bytes stays within a bound. -/
def takeBytes : Nat → List Char → List Char
  | _, [] => []
  | bytes, c :: rest => if c.utf8Size ≤ bytes then c :: takeBytes (bytes - c.utf8Size) rest else []

/-- A text in quotes as reports show it: of a long one only both ends. -/
def shortened (text : String) : String :=
  let shown := text.shown
  if shown.utf8ByteSize ≤ 50 then shown
  else String.ofList (takeBytes 25 shown.toList) ++ "..." ++
    String.ofList (takeBytes 24 shown.toList.reverse).reverse

/-- Where reports say that more can be read about a refusal. -/
def Refusal.helpPage (refusal : Refusal) : String :=
  "https:" ++ "//errors.pydantic.dev/2.14/v/" ++ refusal.name

/-- The lines about a refused field. -/
def Problem.report (problem : Problem) : String :=
  let place := ".".intercalate (problem.path.map fun
    | .inl name => name
    | .inr index => toString index)
  place ++ "\n  " ++ problem.refusal.wording ++ " [type=" ++ problem.refusal.name ++
    ", input_value=" ++
    shortened problem.given ++ ", input_type=str]\n    For further information visit " ++
    problem.refusal.helpPage

/-- The report about the refused fields of a record. -/
def report (record : String) (problems : List Problem) : String :=
  let count := toString problems.length ++ " validation error" ++ if problems.length == 1 then ""
    else "s"
  "\n".intercalate ((count ++ " for " ++ record) :: problems.map Problem.report)

end SqlLayout.Settings
