import SqlLayout.Settings.Refusal
import SqlLayout.Text.Basic

/-!
# Placeholder records

Syntax that the grammar does not know is replaced by placeholders before parsing.  Each replacement
leaves a record with what is needed to undo it on the tree.
-/

namespace SqlLayout.Placeholder

/-- A column type replaced by a type that the grammar knows. -/
structure CustomType where
  column : String
  standIn : String
  keyword : String
  length : Option String := none
  scale : Option String := none
  deriving DecidableEq, Repr

/-- The kinds of object whose `OR REPLACE` is taken out. -/
inductive ReplacedKind where
  | table
  | view
  deriving DecidableEq, Repr

/-- The keyword of an object kind. -/
def ReplacedKind.keyword : ReplacedKind → String
  | .table => "TABLE"
  | .view => "VIEW"

/-- The refresh properties of a dynamic table, as written. -/
structure DynamicTable where
  name : String
  targetLag : Option String := none
  refreshMode : Option String := none
  initialMode : Option String := none
  warehouse : Option String := none
  deriving DecidableEq, Repr

/-- An index on the result of a call, folded into the name of the call. -/
structure ArrayAccess where
  token : String
  callText : String
  index : Nat
  deriving DecidableEq, Repr

/-- The name of the indexed function, as written. -/
def ArrayAccess.functionName (access : ArrayAccess) : String :=
  String.ofList (Text.strip (access.callText.toList.takeWhile (· != '(')))

/-- A pivot clause replaced by a table alias. -/
structure Pivot where
  token : String
  clause : String
  deriving DecidableEq, Repr

/-- A cast with `::` expanded to a marked call. -/
structure CastShorthand where
  token : String
  operand : String
  typeText : String
  deriving DecidableEq, Repr

/-- One replacement made in the text of a statement. -/
inductive Record where
  | customType (record : CustomType)
  | replaceMarker (kind : ReplacedKind)
  | dynamicTable (record : DynamicTable)
  | arrayAccess (record : ArrayAccess)
  | groupByAll (token : String)
  | pivot (record : Pivot)
  | castShorthand (record : CastShorthand)
  deriving DecidableEq, Repr

/-- The start of the token of an array access. -/
def arrayAccessMark : String := "__ARRAYACCESS__"

/-- The start of the token of a grouping by all columns. -/
def groupByAllMark : String := "__GROUP_BY_ALL_"

/-- The start of the token of a pivot clause. -/
def pivotMark : String := "__PIVOT_"

/-- The token of every expanded cast. -/
def castToken : String := "__CAST_SHORTHAND__"

/-- The field of a record as messages show it. -/
def showField (name : String) (value : Option String) : String :=
  name ++ "=" ++ match value with
    | some text => text.shown
    | none => "None"

/-- A record as messages show it. -/
def Record.shown : Record → String
  | .customType r =>
    "CustomTypeRecord(" ++ ", ".intercalate
      [showField "kind" "custom_type", showField "column_name" r.column,
       showField "placeholder_type_name" r.standIn, showField "original_type_keyword" r.keyword,
       showField "length" r.length, showField "scale" r.scale] ++ ")"
  | .replaceMarker kind =>
    "ReplaceMarkerRecord(" ++ ", ".intercalate
      [showField "kind" "replace_marker", showField "object_kind" kind.keyword] ++ ")"
  | .dynamicTable r =>
    "DynamicTableRecord(" ++ ", ".intercalate
      [showField "kind" "dynamic_table", showField "table_name" r.name,
       showField "target_lag" r.targetLag, showField "refresh_mode" r.refreshMode,
       showField "initialize" r.initialMode, showField "warehouse" r.warehouse] ++ ")"
  | .arrayAccess r =>
    "ArrayAccessRecord(" ++ ", ".intercalate
      [showField "kind" "array_access", showField "placeholder_token" r.token,
       showField "function_call_text" r.callText, "index=" ++ toString r.index] ++ ")"
  | .groupByAll token =>
    "GroupByAllRecord(" ++ ", ".intercalate
      [showField "kind" "group_by_all", showField "placeholder_token" token] ++ ")"
  | .pivot r =>
    "PivotRecord(" ++ ", ".intercalate
      [showField "kind" "pivot", showField "placeholder_token" r.token,
       showField "clause_text" r.clause] ++ ")"
  | .castShorthand r =>
    "CastShorthandRecord(" ++ ", ".intercalate
      [showField "kind" "cast_shorthand", showField "placeholder_token" r.token,
       showField "operand_text" r.operand, showField "type_text" r.typeText] ++ ")"

/-- Why a statement cannot be encoded: a keyword matched only because case was ignored, and its
upper-case form is not the keyword. -/
inductive Fault where
  | unknownObjectKind (keyword : String)
  | unknownTypeKeyword (keyword : String)
  deriving DecidableEq, Repr

/-- The wording of an encoding fault. -/
def Fault.message : Fault → String
  | .unknownObjectKind keyword =>
    Settings.report "ReplaceMarkerRecord"
      [{ path := [.inl "object_kind"], refusal := .notListed, given := keyword }]
  | .unknownTypeKeyword keyword => keyword.shown

/-- A text after a replacement step, with the records of the step. -/
structure Encoded where
  text : List Char
  records : List Record := []
  deriving Repr

end SqlLayout.Placeholder
