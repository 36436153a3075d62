import SqlLayout.Grammar.Parser.Create

/-!
# Changing rows

INSERT, UPDATE, DELETE and MERGE statements, each after its keyword.
-/

namespace SqlLayout.Grammar

open SqlLayout.Grammar.Parser

/-- The columns that a statement gives back, as text with a space before it. -/
def returningText (r : Rules) : Parser String := do
  unless ← word "RETURNING" do return ""
  let dialect ← dialect
  let terms ← commaList r.expression
  let into ← if ← word "INTO" then tablePart r false else pure none
  let target := match into with
    | some part => if dialect.isNamed "oracle" then " INTO " ++ part.ident.sql dialect else ""
    | none => ""
  return " RETURNING " ++ ", ".intercalate (termTexts dialect terms) ++ target

/-- What can happen to rows that are there already. -/
def conflictActions : List (List String) :=
  [["ABORT"], ["FAIL"], ["IGNORE"], ["REPLACE"], ["ROLLBACK"], ["UPDATE"], ["DO", "NOTHING"],
    ["DO", "UPDATE"]]

/-- What happens to rows that are there already, as text with a space before it. -/
def conflictText (r : Rules) : Parser String := do
  let dialect ← dialect
  let isConflict ← texts ["ON", "CONFLICT"]
  let isDuplicate ← texts ["ON", "DUPLICATE", "KEY"]
  unless isConflict || isDuplicate do return ""
  let target ← do
    if ← onlyIf isConflict (texts ["ON", "CONSTRAINT"]) then
      pure (" ON CONSTRAINT " ++ ((← anyName).map (·.sql dialect)).getD "" ++ " ")
    else if ← onlyIf isConflict (seesMark "(") then pure ((← wrappedNames) ++ " ")
    else pure " "
  let action ← need "action" (phraseOf conflictActions)
  let items ← if (← previous?).any (·.kind == .keyword "UPDATE") then
      discard (word "SET")
      commaList r.equality
    else pure []
  let assigned := if items.isEmpty then ""
    else " SET " ++ ", ".intercalate (termTexts dialect items)
  return (if isDuplicate then " ON DUPLICATE KEY" else " ON CONFLICT") ++ target ++
    action ++ assigned

/-! ## Inserting -/

/-- One target of an insertion into several tables, as text. -/
def insertBranch (r : Rules) : Parser (Option String) := do
  let dialect ← dialect
  let condition ← if ← word "WHEN" then
      let condition ← optionalTextOf (← disjunction r)
      discard (word "THEN")
      pure condition
    else pure ""
  let otherwise ← word "ELSE"
  unless ← word "INTO" do return none
  let target ← need "table" (r.table { schema := true })
  let columns := schemaText dialect (← schemaList r)
  let rows := ((← rowList r).map (·.text dialect)).getD ""
  return some (words [if condition.isEmpty then (if otherwise then "ELSE" else "")
      else "WHEN " ++ condition ++ " THEN", "INTO", target.sql dialect ++ columns, rows])

/-- An insertion into several tables, after the word for its kind, as text. -/
def insertMany (r : Rules) (kind : String) : Parser Parsed := do
  let branches ← many (insertBranch r)
  if branches.isEmpty then fail "INTO"
  let source ← need "query" (r.table {})
  return .other "MultitableInserts"
    (words (["INSERT", kind] ++ branches ++ [source.sql (← dialect)]))

/-- Where the rows of an insertion go: the table, if it is one, its columns, and the text. -/
structure InsertTarget where
  table : Option Table
  columns : List String
  text : String

/-- The files in a directory as the target of an insertion, after the keyword. -/
def directoryTarget (overwrite isLocal : Bool) : Parser InsertTarget := do
  let path ← wordOrString
  let format ← if ← word "ROW" then rowFormatText else pure none
  return { table := none, columns := []
           text := words [if overwrite then "OVERWRITE" else "INTO",
             if isLocal then "LOCAL" else "", "DIRECTORY", path, format.getD ""] }

/-- A table or a function as the target of an insertion, after the words before it. -/
def tableTarget (r : Rules) (overwrite : Bool) : Parser InsertTarget := do
  let dialect ← dialect
  let lead := if overwrite then "OVERWRITE TABLE" else "INTO"
  if ← word "FUNCTION" then
    let target ← need "function" (call r {})
    return { table := none, columns := [], text := words [lead, "FUNCTION", target.sql dialect] }
  let table ← plainTable r
  discard (texts ["*"])
  let part ← partitionText r
  let schema ← schemaList r
  return { table := some table, columns := (schema.getD []).map fun item =>
             item.ident.bareText dialect
           text := words [lead, table.sql dialect ++ part ++ schemaText dialect schema] }

/-- An INSERT statement after its keyword. -/
def insertStatement (r : Rules) : Parser Parsed := do
  let dialect ← dialect
  let hint ← hintComment
  let overwrite ← word "OVERWRITE"
  let ignore ← word "IGNORE"
  let isLocal ← texts ["LOCAL"]
  let directory ← texts ["DIRECTORY"]
  unless directory do
    if let some token ← anyWord ["FIRST", "ALL"] then return ← insertMany r token.upper
  let alternative ← if ← onlyIf (!directory) (word "OR") then
      anyText ["ABORT", "FAIL", "IGNORE", "REPLACE", "ROLLBACK"]
    else pure none
  let target ← do
    if directory then directoryTarget overwrite isLocal
    else
      discard (word "INTO")
      discard (word "TABLE")
      tableTarget r overwrite
  let early ← returningText r
  let stored ← do
    if ← texts ["STORED"] then
      pure ((← propertyAfter r "STORED" false (pure [])).map (·.text))
    else pure []
  let byName ← texts ["BY", "NAME"]
  let present ← ifExists
  let filter ← if ← pair (.keyword "REPLACE") (.keyword "WHERE") then
    optionalTextOf (← r.assignment)
    else pure ""
  let part ← do
    if ← word "PARTITION BY" then
      pure ((← propertyAfter r "PARTITION BY" false (pure [])).map (·.text))
    else pure []
  let settings ← do
    if ← texts ["SETTINGS"] then
      pure ((← propertyAfter r "SETTINGS" false (pure [])).map (·.text))
    else pure []
  let (body, bodyText) ← match ← rowList r with
    | some rows => pure (InsertBody.rows rows.rows, rows.text dialect)
    | none =>
      match ← bodyQuery r with
      | some query => pure (.query query, query.sql dialect)
      | none => pure (.nothing, "")
  let conflict ← conflictText r
  let late ← returningText r
  if ← word "TABLE" then discard (need "table" (r.table {}))
  let text := words (["INSERT", hint, (alternative.map ("OR " ++ ·.text)).getD "",
    if ignore then "IGNORE" else "", target.text] ++ stored ++ [if byName then "BY NAME" else "",
    if present then "IF EXISTS" else ""] ++ part ++
    settings ++ [if filter.isEmpty then "" else "REPLACE WHERE " ++ filter, bodyText]) ++
      conflict ++ early ++ late
  return .insert { target := target.table, columns := target.columns, overwrite := overwrite,
                   body := body
                   text := text }

/-! ## Updating and deleting -/

/-- The condition of a statement. -/
def filterOf (r : Rules) : Parser (Option Term) := do
  if ← word "WHERE" then return some (← need "condition" r.assignment) else return none

/-- The canonical text of a condition, with a space before it. -/
def filterText (dialect : Dialect) (filter : Option Term) : String :=
  optionalText "WHERE" (optionalTermText dialect filter)

/-- The canonical text of a limit, with a space before it. -/
def limitText (dialect : Dialect) (limit : Option LimitParts) : String :=
  (optionalLimitText dialect (limit.map fun parts => .count parts.count parts.tail)).getD ""

/-- An UPDATE statement after its keyword. -/
def updateStatement (r : Rules) : Parser Parsed := do
  let dialect ← dialect
  let target ← need "table" (r.table { joins := true, update := true })
  let items ← if ← word "SET" then commaList r.equality else pure []
  if items.isEmpty then fail "assignment"
  let early ← returningText r
  let source ← if ← word "FROM" then pure (some (← need "table" (r.table { joins := true })))
    else pure none
  let filter ← filterOf r
  let late ← returningText r
  let order ← orderClause r
  let limit ← limitClause r
  let text := "UPDATE " ++ target.sql dialect ++ " SET " ++
    ", ".intercalate (termTexts dialect items) ++
    optionalText "FROM" (optionalFromText dialect source) ++ filterText dialect filter ++
      early ++ late ++
    optionalText "ORDER BY" (optionalOrderText dialect order) ++ limitText dialect limit
  return .update { target := target, items := items, source := source, filter := filter,
                   text := text }

/-- A DELETE statement after its keyword. -/
def deleteStatement (r : Rules) : Parser Parsed := do
  let dialect ← dialect
  let tables ← if ← seesWord "FROM" then pure [] else commaList (r.table {})
  let early ← returningText r
  unless ← word "FROM" do fail "FROM"
  let target ← need "table" (r.table { joins := true })
  let source ← if ← word "USING" then pure (some (← need "table" (r.table { joins := true })))
    else pure none
  let cluster ← if ← word "ON" then
      pure ((← propertyAfter r "ON" false (pure [])).map (·.text))
    else pure []
  let filter ← filterOf r
  let late ← returningText r
  let limit ← limitClause r
  let text := words ["DELETE", ", ".intercalate (tables.map (·.sql dialect)), "FROM",
    target.sql dialect] ++
    optionalText "USING" (optionalFromText dialect source) ++ String.join (cluster.map spaced) ++
    filterText dialect filter ++ early ++ late ++ limitText dialect limit
  return .delete { target := target, source := source, filter := filter, text := text }

/-! ## Merging -/

/-- What a branch of a MERGE does, as text. -/
def mergeAction (r : Rules) : Parser String := do
  let dialect ← dialect
  if ← word "INSERT" then
    if ← mark "*" then return "INSERT " ++ (← textOf (← starTerm r))
    let columns ← do
      if ← texts ["ROW"] then pure "ROW" else pure (((← rowValues r).map (·.sql dialect)).getD "")
    let values ← if ← texts ["VALUES"] then rowValues r else pure none
    return words ["INSERT", columns, (values.map fun row => "VALUES " ++ row.sql dialect).getD ""]
  else if ← word "UPDATE" then
    if ← mark "*" then return "UPDATE " ++ (← textOf (← starTerm r))
    let items ← if ← word "SET" then commaList r.equality else pure []
    return "UPDATE SET " ++ ", ".intercalate (termTexts dialect items)
  else if let some token ← anyWord ["DELETE"] then return token.text
  else need "action" (phraseOf conflictActions)

/-- A branch of a MERGE, as text. -/
def mergeBranch (r : Rules) : Parser (Option String) := do
  unless ← word "WHEN" do return none
  let negated ← word "NOT"
  discard (texts ["MATCHED"])
  let bySource ← if ← texts ["BY", "TARGET"] then pure false else texts ["BY", "SOURCE"]
  let condition ← if ← word "AND" then optionalTextOf (← r.assignment) else pure ""
  discard (word "THEN")
  let action ← mergeAction r
  return some (withComments (words ["WHEN", if negated then "NOT MATCHED" else "MATCHED",
    if bySource then "BY SOURCE" else "", if condition.isEmpty then "" else "AND " ++ condition,
    "THEN", action]) (← claim))

/-- A MERGE statement after its keyword, as text. -/
def mergeStatement (r : Rules) : Parser Parsed := do
  let dialect ← dialect
  discard (word "INTO")
  let target ← need "table" (r.table {})
  discard (word "USING")
  let source ← need "table" (r.table {})
  discard (word "ON")
  let condition ← need "condition" r.assignment
  let branches ← many (mergeBranch r)
  if branches.isEmpty then fail "WHEN"
  let returning ← returningText r
  return .other "Merge" (words (["MERGE INTO", target.sql dialect, "USING",
    source.sql dialect, "ON", condition.sql dialect] ++ branches) ++ returning)

end SqlLayout.Grammar
