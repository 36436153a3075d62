import SqlLayout.Grammar.Parser.Rows

/-!
# Changing objects

DROP, ALTER, TRUNCATE and COMMENT statements, each after its keyword.  They are kept as their
canonical text.
-/

namespace SqlLayout.Grammar

open SqlLayout.Grammar.Parser

/-- A table with a list of columns behind it, as text. -/
def tableAndColumns (r : Rules) : Parser String := do
  let dialect ← dialect
  let source ← need "table" (r.table { schema := true })
  let columns ← schemaList r
  return withComments (source.sql dialect ++ schemaText dialect columns) (← claim)

/-- The servers that a statement runs on, as text with a space before it. -/
def clusterText (r : Rules) : Parser String := do
  if ← word "ON" then
    return String.join ((← propertyAfter r "ON" false (pure [])).map fun property =>
      spaced property.text)
  else return ""

/-! ## Dropping -/

/-- A DROP statement after its keyword, as text. -/
def dropStatement (r : Rules) (start : Token) : Parser Parsed := do
  let dialect ← dialect
  let temporary ← word "TEMPORARY"
  let materialized ← texts ["MATERIALIZED"]
  match ← anyWord creatableKinds with
  | none => asCommand start
  | some kind =>
    let concurrently ← texts ["CONCURRENTLY"]
    let present ← ifExists
    let target ← if kind.kind == .keyword "COLUMN" then optionalTextOf (← r.column)
      else pure ((← plainTable r).sql dialect)
    let cluster ← clusterText r
    let params ← if ← seesMark "(" then
        let types ← wrappedList (r.typeName {})
        pure (if types.isEmpty then "" else "(" ++ ", ".intercalate (types.map (·.sql dialect)) ++
          ")")
      else pure ""
    let cascade ← texts ["CASCADE"]
    let constraints ← texts ["CONSTRAINTS"]
    let purge ← texts ["PURGE"]
    return .other "Drop" (words ["DROP", if temporary then "TEMPORARY" else "",
      if materialized then "MATERIALIZED" else "", kind.upper,
      if concurrently then "CONCURRENTLY" else "", if present then "IF EXISTS" else "",
      target ++ cluster, params, if cascade then "CASCADE" else "",
      if constraints then "CONSTRAINTS" else "", if purge then "PURGE" else ""])

/-! ## Altering -/

/-- A column added by an ALTER statement: whether it is a definition, and its text. -/
def addedColumn (r : Rules) : Parser (Option (Bool × String)) := do
  unless ← texts ["ADD"] do return none
  discard (word "COLUMN")
  let absent ← ifNotExists
  match ← columnDef r with
  | none => return none
  | some item =>
    let place ← match ← anyText ["FIRST", "AFTER"] with
      | some token => pure (words [token.text, ← optionalTextOf (← r.column)])
      | none => pure ""
    let isDefinition := match item with
      | .column _ _ _ _ => true
      | _ => false
    let dialect ← dialect
    let text := match item with
      | .column ident type constraints comments =>
        withComments (words [SchemaItem.sql dialect (.column ident type constraints []), place])
          comments
      | item => item.sql dialect
    return some (isDefinition, words [if isDefinition && absent then "IF NOT EXISTS" else "", text])

/-- The columns or constraints that an ALTER statement adds, after its keyword, as texts. -/
def addActions (r : Rules) : Parser (List String) := do
  let dialect ← dialect
  let constraints := [Kind.keyword "CONSTRAINT", .keyword "FOREIGN KEY", .keyword "PRIMARY KEY",
    .keyword "UNIQUE", .keyword "INDEX", .keyword "KEY"]
  if (← peek?).any fun token => constraints.contains token.kind then
    let items ← commaList (constraintItem r (schemaList r))
    if items.isEmpty then fail "constraint"
    return ["ADD " ++ ", ".intercalate (items.map (·.sql dialect))]
  if ← texts ["COLUMNS"] then
    match ← schemaList r with
    | some items => return ["ADD COLUMNS" ++ schemaText dialect (some items)]
    | none => return []
  if dialect.isNamed "tsql" then
    let columns ← optionallyWrappedList (columnDef r)
    return if columns.isEmpty then []
      else ["ADD " ++ ", ".intercalate (columns.map (·.sql dialect))]
  goTo ((← position) - 1)
  let columns ← commaList (addedColumn r)
  let isDefinition := (columns.head?.map Prod.fst).getD false
  return columns.map fun (_, text) => if isDefinition then "ADD COLUMN " ++ text else text

/-- The words before the new type of a column. -/
def Dialect.retypeWords (dialect : Dialect) : String :=
  match dialect.name.getD "" with
  | "redshift" => "TYPE"
  | "tsql" => ""
  | _ => "SET DATA TYPE"

/-- A change of a column by an ALTER statement, as text. -/
def alteredColumn (r : Rules) : Parser String := do
  let dialect ← dialect
  discard (word "COLUMN")
  let ident ← need "column" (fieldIdentOf r true)
  let head := "ALTER COLUMN " ++ ident.sql dialect
  if ← pair (.keyword "DROP") (.keyword "DEFAULT") then return head ++ " DROP DEFAULT"
  if ← pair (.keyword "SET") (.keyword "DEFAULT") then
    return head ++ " SET DEFAULT " ++ (← optionalTextOf (← r.assignment))
  if ← word "COMMENT" then return head ++ " COMMENT " ++ (← optionalTextOf (← string))
  if ← texts ["DROP", "NOT", "NULL"] then return head ++ " DROP NOT NULL"
  if ← texts ["SET", "NOT", "NULL"] then return head ++ " SET NOT NULL"
  discard (texts ["SET", "DATA"])
  discard (texts ["TYPE"])
  let type ← r.typeName {}
  let collation ← if ← word "COLLATE" then
      pure (" COLLATE " ++ (← optionalTextOf (← r.additive)))
    else pure ""
  let using_ ← if ← word "USING" then pure (" USING " ++ (← optionalTextOf (← r.assignment)))
    else pure ""
  return match type with
    | some type =>
      if dialect.likeMysql then "MODIFY COLUMN " ++ ident.sql dialect ++ " " ++ type.sql dialect
      else words [head, dialect.retypeWords, type.sql dialect] ++ collation ++ using_
    | none => head ++ " DROP DEFAULT"

/-- The parts of an ALTER statement that makes settings, as texts. -/
structure SetTexts where
  items : String := ""
  option : String := ""
  location : String := ""
  accessMethod : String := ""
  tablespace : String := ""
  fileFormat : String := ""
  copyOptions : String := ""
  tags : String := ""
  serde : String := ""

/-- The settings of an ALTER statement as the dialect writes them; most write plain settings
only. -/
def SetTexts.text (dialect : Dialect) (found : SetTexts) : String :=
  let part (opening text closing : String) : String := if text.isEmpty then ""
    else opening ++ text ++ closing
  if dialect.isNamed "snowflake" then
    "SET" ++ spaced found.items ++ part " STAGE_FILE_FORMAT = (" found.fileFormat ")" ++
      part " STAGE_COPY_OPTIONS = (" found.copyOptions ")" ++ part " TAG " found.tags ""
  else if dialect.isNamed "redshift" then
    "SET" ++ part " TABLE PROPERTIES (" found.items ")" ++ part " LOCATION " found.location "" ++
      part " FILE FORMAT " found.fileFormat ""
  else if dialect.likePostgres then
    "SET " ++ part "(" found.items ")" ++ part "ACCESS METHOD " found.accessMethod "" ++
      part "TABLESPACE " found.tablespace "" ++ found.option
  else if dialect.likeHive then
    "SET" ++ part " SERDE '" found.serde "'" ++ spaced found.items ++
      part " LOCATION " found.location "" ++
      part " FILEFORMAT " found.fileFormat "" ++ part " TAGS " found.tags ""
  else "SET" ++ spaced found.items

/-- One option in the parentheses of a parameter, as text. -/
def wrappedOption (r : Rules) : Parser (Option String) := do
  if (← seesMark ")") || (← peek?).isNone then return none
  let text ← if ← texts ["FORMAT_NAME", "="] then
      match ← string with
      | some term => pure ("FORMAT_NAME=" ++ (← textOf term))
      | none => pure ("FORMAT_NAME=" ++ (← plainTable r).sql (← dialect))
    else pure (words ((← propertyStep r (wrappedProperties r)).map (·.text)))
  if text.isEmpty then fail "option"
  discard (mark ",")
  return some text

/-- The options of a parameter in parentheses, as texts. -/
def wrappedOptions (r : Rules) : Parser (List String) := do
  discard (mark "=")
  discard (mark "(")
  let found ← many (wrappedOption r)
  discard (mark ")")
  return found

/-- The settings that an ALTER statement makes, after its keyword, as text. -/
def setAction (r : Rules) : Parser SetTexts := do
  let dialect ← dialect
  let listed (terms : List Term) : String := ", ".intercalate (termTexts dialect terms)
  let wrapped ← do
    if ← seesMark "(" then pure true else texts ["TABLE", "PROPERTIES"]
  if wrapped then return { items := listed (← wrappedList r.assignment) }
  if ← seesTexts ["FILESTREAM_ON"] then return { items := ← optionalTextOf (← r.assignment) }
  if let some token ← anyText ["LOGGED", "UNLOGGED"] then return { option := token.upper }
  if ← texts ["WITHOUT"] then
    if let some token ← anyText ["CLUSTER", "OIDS"] then
      return { option := "WITHOUT " ++ token.upper }
  if ← texts ["LOCATION"] then return { location := (← fieldText r).getD "" }
  if ← texts ["ACCESS", "METHOD"] then return { accessMethod := (← fieldText r).getD "" }
  if ← texts ["TABLESPACE"] then return { tablespace := (← fieldText r).getD "" }
  let hasFormat ← do
    if ← texts ["FILE", "FORMAT"] then pure true else texts ["FILEFORMAT"]
  if hasFormat then return { fileFormat := (← fieldText r).getD "" }
  if ← texts ["STAGE_FILE_FORMAT"] then
    return { fileFormat := " ".intercalate (← wrappedOptions r) }
  if ← texts ["STAGE_COPY_OPTIONS"] then
    return { copyOptions := " ".intercalate (← wrappedOptions r) }
  if (← anyText ["TAG", "TAGS"]).isSome then return { tags := listed (← commaList r.assignment) }
  let serde ← if ← texts ["SERDE"] then pure ((← fieldText r).getD "") else pure ""
  let found ← properties r
  return { items := (schemaProperties dialect found).stripBlanks, serde := serde }

/-- How the rows of a table are spread, after the keyword, as text. -/
def spreadAction (r : Rules) : Parser String := do
  match ← anyText ["ALL", "EVEN", "AUTO"] with
  | some token => return "ALTER DISTSTYLE " ++ token.upper
  | none =>
    discard (texts ["KEY", "DISTKEY"])
    return "ALTER DISTSTYLE KEY DISTKEY " ++ (← optionalTextOf (← r.column))

/-- How the rows of a table are sorted, after the keyword, as text. -/
def sortingAction (compound : Bool) : Parser String := do
  let head := if compound then "ALTER COMPOUND SORTKEY " else "ALTER SORTKEY "
  if compound then discard (texts ["SORTKEY"])
  if ← seesMark "(" then
    let names ← wrappedList anyName
    return head ++ "(" ++ ", ".intercalate (names.map (·.sql (← dialect))) ++ ")"
  discard (anyText ["AUTO", "NONE"])
  return head ++ ((← previous?).map (·.text)).getD ""

/-- A change of a column or of the layout of a table, as text. -/
def alterAction (r : Rules) : Parser String := do
  match ← anyText ["DISTKEY", "DISTSTYLE", "SORTKEY", "COMPOUND"] with
  | some token =>
    match token.upper with
    | "SORTKEY" => sortingAction false
    | "COMPOUND" => sortingAction true
    | _ => spreadAction r
  | none => alteredColumn r

/-- The first words of the actions of an ALTER statement. -/
def Dialect.alterWords (dialect : Dialect) : List String :=
  ["ADD", "ALTER", "AS", "CLUSTER BY", "DELETE", "DROP", "RENAME", "SET", "SWAP"] ++
    (if dialect.isNamed "snowflake" then ["UNSET"] else []) ++ if dialect.likeMysql then ["MODIFY"]
      else []

/-- The new name of a table, as text; some dialects do not qualify it. -/
def newName (r : Rules) : Parser String := do
  let dialect ← dialect
  unless dialect.likePostgres || dialect.isOneOf ["bigquery",
    "duckdb"] do return ← tableAndColumns r
  let source ← match ← need "table" (r.table { schema := true }) with
    | .table table => pure (From.table { name := table.name })
    | source => pure source
  return withComments (source.sql dialect ++ schemaText dialect (← schemaList r)) (← claim)

/-- The actions of an ALTER statement after their first word, as texts; `none` when there are
none. -/
def alterActions (r : Rules) (first : Token) : Parser (Option String) := do
  let dialect ← dialect
  match first.upper with
  | "ADD" =>
    match ← addActions r with
    | [] => return none
    | actions => return some (", ".intercalate actions)
  | "RENAME" =>
    if ← word "COLUMN" then
      let present ← ifExists
      let old ← r.column
      let arrow ← texts ["TO"]
      let new ← r.column
      match old, arrow, new with
      | some old, true, some new =>
        return some (words ["RENAME COLUMN", if present then "IF EXISTS" else "",
          old.sql dialect, "TO", new.sql dialect])
      | _, _, _ => return none
    else
      discard (texts ["TO"])
      return some ("RENAME TO " ++ (← newName r))
  | "DROP" =>
    let start ← position
    let present ← ifExists
    if ← seesWord "PARTITION" then
      let parts ← commaList do
        let text ← partitionText r
        return if text.isEmpty then none else some text.stripBlanks
      return some (words ["DROP", if present then "IF EXISTS" else "", ", ".intercalate parts])
    goTo (start - 1)
    let drops ← commaList do
      match ← anyWord ["DROP"] with
      | some token => return some ((← dropStatement r token).asQuery.sql dialect)
      | none => return none
    return some (", ".intercalate drops)
  | "ALTER" | "MODIFY" => return some (← alterAction r)
  | "AS" => return (← r.query {}).map fun query => "AS " ++ query.sql dialect
  | "CLUSTER BY" =>
    let keys := ", ".intercalate (orderedTexts dialect (← wrappedList (orderedKey r)))
    return some (clusterKeysText dialect keys)
  | "DELETE" => return some ("DELETE" ++ filterText dialect (← filterOf r))
  | "SET" => return some ((← setAction r).text dialect)
  | "UNSET" =>
    let tag ← texts ["TAG"]
    let names ← commaList anyName
    return some (words ["UNSET", if tag then "TAG" else "",
      ", ".intercalate (names.map (·.sql dialect))])
  | "SWAP" =>
    let target ← if ← word "WITH" then tableAndColumns r else fail "WITH"
    return some ("SWAP WITH " ++ target)
  | _ => return none

/-- An ALTER statement after its keyword, as text. -/
def alterStatement (r : Rules) (start : Token) : Parser Parsed := do
  match ← anyWord ["TABLE", "VIEW"] with
  | none => asCommand start
  | some kind =>
    let present ← ifExists
    let only ← texts ["ONLY"]
    let target ← tableAndColumns r
    let cluster ← clusterText r
    if (← peekAt? 1).isNone then return ← asCommand start
    match ← takeIf fun _ => true with
    | none => asCommand start
    | some first =>
      unless (← dialect).alterWords.contains first.upper do return ← asCommand start
      let actions ← alterActions r first
      let invalid ← texts ["NOT", "VALID"]
      let options ← commaList do
        match ← propertyStep r (wrappedProperties r) with
        | [] => return none
        | found => return some (", ".intercalate (found.map (·.text)))
      match actions, ← peek? with
      | some actions, none =>
        return .other "Alter" (words ["ALTER", kind.upper, if present then "IF EXISTS" else "",
          if only then "ONLY" else "", target ++ cluster, actions,
          if invalid then "NOT VALID" else ""] ++
          String.join (options.map (", " ++ ·)))
      | _, _ => asCommand start

/-! ## Emptying and describing -/

/-- A TRUNCATE statement after its keyword, as text. -/
def truncateStatement (r : Rules) (start : Token) : Parser Parsed := do
  if ← seesMark "(" then
    goTo ((← position) - 1)
    match ← call r {} with
    | some term => return .other term.kindName (term.sql (← dialect))
    | none => fail "call"
  let isDatabase ← word "DATABASE"
  discard (word "TABLE")
  let present ← ifExists
  let targets ← commaList do return some (← tableAndColumns r)
  let cluster ← clusterText r
  let identity ← phraseOf [["RESTART", "IDENTITY"], ["CONTINUE", "IDENTITY"]]
  let option ← anyText ["CASCADE", "RESTRICT"]
  let part ← partitionText r
  if (← peek?).isSome then return ← asCommand start
  return .other "TruncateTable" (words ["TRUNCATE", if isDatabase then "DATABASE" else "TABLE",
    if present then "IF EXISTS" else "", ", ".intercalate targets ++ cluster, identity.getD "",
    (option.map (·.text)).getD ""] ++ part)

/-- A COMMENT statement after its keyword, as text. -/
def commentStatement (r : Rules) (start : Token) : Parser Parsed := do
  let dialect ← dialect
  let present ← ifExists
  discard (word "ON")
  let materialized ← texts ["MATERIALIZED"]
  match ← anyWord creatableKinds with
  | none => asCommand start
  | some kind =>
    let target ← match kind.kind with
      | .keyword "COLUMN" => optionalTextOf (← r.column)
      | .keyword "TABLE" => pure ((← plainTable r).sql dialect)
      | .keyword "FUNCTION" | .keyword "PROCEDURE" =>
        let target ← plainTable r
        let params ← if ← seesMark "(" then
            let items ← wrappedList (functionParam r)
            pure ("(" ++ ", ".intercalate (items.map (·.sql dialect)) ++ ")")
          else pure ""
        pure (target.sql dialect ++ params)
      | _ => pure (((← anyName).map (·.sql dialect)).getD "")
    discard (word "IS")
    let text ← need "comment" string
    return .other "Comment" (words ["COMMENT", if present then "IF EXISTS" else "", "ON",
      if materialized then "MATERIALIZED" else "", kind.text, target, "IS", text.sql dialect])

end SqlLayout.Grammar
