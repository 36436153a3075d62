import SqlLayout.Pattern.Search
import SqlLayout.Placeholder.Record

/-!
# Placeholders in CREATE statements

Dynamic tables are turned into views, `OR REPLACE` is taken out, and column types the grammar does
not know are replaced by types it knows.
-/

namespace SqlLayout.Placeholder

open Pattern (Match)

/-- The head of a dynamic table up to `AS`. -/
def dynamicTableHead : Pattern :=
  .all [.atStart, .blanks, .word "CREATE", .blanks1,
    .optional (.capture 1 (.all [.word "OR", .blanks1, .word "REPLACE", .blanks1])),
    .word "DYNAMIC", .blanks1, .word "TABLE", .blanks1,
    .capture 2 (.many1 (.one fun c => Text.isWord c || c == '.')),
    .capture 3 (.few (.one fun _ => true)),
    .wordEdge, .word "AS", .wordEdge]

/-- A property whose value is a quoted text. -/
def quotedProperty (keyword : String) : Pattern :=
  .all [.wordEdge, .word keyword, .blanks, .char '=', .blanks, .char '\x27',
    .capture 1 (.many (.one (· != '\x27'))), .char '\x27']

/-- A property whose value is a name. -/
def namedProperty (keyword : String) : Pattern :=
  .all [.wordEdge, .word keyword, .blanks, .char '=', .blanks, .capture 1 .name]

/-- The value of the first property of a form in a text. -/
def propertyValue (p : Pattern) (properties : List Char) : Option String :=
  (p.find? properties).map fun m => String.ofList (m.group properties 1)

/-- The record of a dynamic table with the given name and property text. -/
def readDynamicTable (name properties : List Char) : DynamicTable :=
  { name := String.ofList name
    targetLag := propertyValue (quotedProperty "TARGET_LAG") properties
    refreshMode := propertyValue (namedProperty "REFRESH_MODE") properties
    initialMode := propertyValue (namedProperty "INITIALIZE") properties
    warehouse := propertyValue (namedProperty "WAREHOUSE") properties }

/-- Turns a dynamic table into a view and keeps its refresh properties in a record. -/
def encodeDynamicTable (text : List Char) : Encoded :=
  match dynamicTableHead.findOutside text with
  | [] => { text := text }
  | m :: _ =>
    let name := m.group text 2
    let head := if (m.span? 1).isSome then "CREATE OR REPLACE VIEW " else "CREATE VIEW "
    { text := Pattern.splice text 0 [(m, head.toList ++ name ++ " AS".toList)]
      records := [.dynamicTable (readDynamicTable name (m.group text 3))] }

/-- The head of a replacing table or view. -/
def createOrReplace : Pattern :=
  .all [.wordEdge, .word "CREATE", .blanks1, .word "OR", .blanks1, .word "REPLACE", .blanks1,
    .capture 1 (.any [.word "TABLE", .word "VIEW"]), .wordEdge]

/-- The object kind that a keyword in upper case names. -/
def replacedKind? (keyword : List Char) : Option ReplacedKind :=
  if keyword == "TABLE".toList then some .table
  else if keyword == "VIEW".toList then some .view
  else none

/-- Takes `OR REPLACE` out of the first replacing table or view. -/
def encodeReplaceMarker (text : List Char) : Except Fault Encoded :=
  match createOrReplace.findOutside text with
  | [] => .ok { text := text }
  | m :: _ =>
    let keyword := Text.upper (m.group text 1)
    match replacedKind? keyword with
    | none => .error (.unknownObjectKind (String.ofList keyword))
    | some kind =>
      .ok
        { text := Pattern.splice text 0 [(m, "CREATE ".toList ++ keyword)]
          records := [.replaceMarker kind] }

/-- The column types that are replaced, each with its stand-in. -/
def standIns : List (String × String) :=
  [("ARRAY", "VARCHAR"), ("OBJECT", "VARCHAR"), ("VARIANT", "VARCHAR"), ("STRING", "VARCHAR"),
   ("REAL", "FLOAT"), ("NUMBER", "DECIMAL"), ("TIMESTAMP_NTZ", "TIMESTAMP")]

/-- The head of a statement that creates a table. -/
def createTableHead : Pattern :=
  .all [.atStart, .blanks, .word "CREATE", .blanks1, .few (.seq .name .blanks1), .word "TABLE",
    .wordEdge]

/-- A name followed by a column type that is replaced, with its parameters. -/
def customTypeColumn : Pattern :=
  .all [.wordEdge,
    .notAhead (.seq (.any [.word "TABLE", .word "EXISTS", .word "AS"]) .wordEdge),
    .capture 1 .name, .blanks1,
    .capture 2 (.any (standIns.map fun entry => .word entry.1)), .wordEdge,
    .optional (.all [.blanks, .char '(', .blanks, .capture 3 .digits, .blanks,
      .optional (.all [.char ',', .blanks, .capture 4 .digits, .blanks]), .char ')'])]

/-- The text of a group, if the group matched anything. -/
def groupText? (m : Match) (text : List Char) (group : Nat) : Option String :=
  let found := m.group text group
  if found.isEmpty then none else some (String.ofList found)

/-- The record of one column whose type is replaced. -/
def readCustomType (text : List Char) (m : Match) : Except Fault CustomType :=
  let keyword := String.ofList (Text.upper (m.group text 2))
  match standIns.lookup keyword with
  | none => .error (.unknownTypeKeyword keyword)
  | some standIn =>
    .ok
      { column := String.ofList (m.group text 1)
        standIn := standIn
        keyword := keyword
        length := groupText? m text 3
        scale := groupText? m text 4 }

/-- The column definition that takes the place of a replaced one. -/
def CustomType.standInText (record : CustomType) : List Char :=
  (record.column ++ " " ++ record.standIn ++
    match record.length, record.scale with
    | none, _ => ""
    | some length, none => "(" ++ length ++ ")"
    | some length, some scale => "(" ++ length ++ "," ++ scale ++ ")").toList

/-- Replaces the column types that the grammar does not know, in statements that create a table. -/
def encodeCustomTypes (text : List Char) : Except Fault Encoded := do
  if (createTableHead.matchStart (Source.mask text)).isNone then
    return { text := text }
  let found := customTypeColumn.findOutside text
  let records ← found.mapM (readCustomType text)
  let columns := records.map CustomType.standInText
  return { text := Pattern.splice text 0 (found.zip columns), records := records.map .customType }

end SqlLayout.Placeholder
