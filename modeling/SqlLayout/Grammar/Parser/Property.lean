import SqlLayout.Grammar.Parser.Schema

/-!
# Properties of created objects

A CREATE statement has properties before the kind of its object, around the list of columns and
after the query.  Where a property is written back depends on the property alone, not on where it
was read.
-/

namespace SqlLayout.Grammar

open SqlLayout.Grammar.Parser

/-- Where a property is written. -/
inductive PropertyPlace where
  /-- Before the kind of the object. -/
  | afterCreate
  /-- Between the name of the object and the list of columns. -/
  | afterName
  /-- After the list of columns. -/
  | afterSchema
  /-- In the parentheses of a WITH clause. -/
  | inWith
  /-- After the query. -/
  | afterBody
  /-- Nowhere. -/
  | hidden
  deriving DecidableEq

/-- A property with its canonical text. -/
structure PropertyText where
  property : Property := .other
  place : PropertyPlace
  text : String

instance : Noted PropertyText where
  noted comments property := { property with text := withComments property.text comments }

/-- The value behind the name of a property, with an optional sign between them. -/
def assignedText (r : Rules) : Parser String := do
  discard (mark "=")
  discard (word "AS")
  let ident ← need "value" (fieldIdentOf r false)
  if ident.shown.isNone && !ident.quoted then return ident.name else return ident.sql (← dialect)

/-! ## Sequences -/

/-- How a sequence counts, as texts by kind. -/
structure SequenceTexts where
  start : String := ""
  step : String := ""
  least : String := ""
  most : String := ""
  cache : String := ""
  options : List String := []
  owner : String := ""

/-- The options of a sequence that are plain words. -/
def sequenceOptions : List (List String) :=
  [["SCALE", "EXTEND"], ["SCALE", "NOEXTEND"], ["SHARD", "EXTEND"], ["SHARD", "NOEXTEND"],
    ["NO", "CACHE"],
   ["NO", "CYCLE"], ["NO", "MAXVALUE"], ["NO", "MINVALUE"], ["SESSION"], ["GLOBAL"], ["KEEP"],
   ["NOKEEP"], ["ORDER"], ["NOORDER"], ["NOCACHE"], ["CYCLE"], ["NOCYCLE"], ["NOMINVALUE"],
   ["NOMAXVALUE"], ["NOSCALE"],
   ["NOSHARD"]]

/-- One more clause about how a sequence counts.  A comma before it is consumed, even when nothing
follows. -/
def sequenceStep (r : Rules) (found : SequenceTexts) : Parser (Option SequenceTexts) := do
  if (← peek?).isNone then return none
  discard (mark ",")
  if ← texts ["INCREMENT"] then
    discard (texts ["BY"])
    discard (mark "=")
    return some { found with step := "INCREMENT BY " ++ (← optionalTextOf (← r.additive)) }
  if ← texts ["MINVALUE"] then
    return some { found with least := "MINVALUE " ++ (← optionalTextOf (← r.additive)) }
  if ← texts ["MAXVALUE"] then
    return some { found with most := "MAXVALUE " ++ (← optionalTextOf (← r.additive)) }
  let starts ← do
    if ← word "START WITH" then pure true else texts ["START"]
  if starts then
    discard (mark "=")
    return some { found with start := "START WITH " ++ (← optionalTextOf (← r.additive)) }
  if ← texts ["CACHE"] then return some { found with cache := words ["CACHE", ← numberText] }
  if ← texts ["OWNED", "BY"] then
    if ← texts ["NONE"] then return some found
    return some { found with owner := "OWNED BY " ++ (← optionalTextOf (← r.column)) }
  match ← phraseOf sequenceOptions with
  | some option => return some { found with options := found.options ++ [option] }
  | none => return none

/-- The clauses about how a sequence counts. -/
def sequenceProperty (r : Rules) : Parser (Option PropertyText) := do
  let start ← position
  let found ← iterate (sequenceStep r) {}
  if (← position) == start then return none
  return some { place := .afterBody,
                text := words ([found.start, found.step, found.least, found.most,
    found.cache] ++ found.options ++ [found.owner]) }

/-! ## Properties by their first word -/

/-- What a function returns, as text. -/
def returnsText (r : Rules) : Parser String := do
  let dialect ← dialect
  if ← word "TABLE" then return "RETURNS TABLE" ++ schemaText dialect (← schemaList r)
  else if ← texts ["NULL", "ON", "NULL", "INPUT"] then return "RETURNS NULL ON NULL INPUT"
  else
    let type ← r.typeName {}
    return words ["RETURNS", (type.map (·.sql dialect)).getD ""]

/-- Words that are properties by themselves, with their place. -/
def plainProperty? (dialect : Dialect) (keyword : String) : Option PropertyText :=
  match keyword with
  | "TEMP" | "TEMPORARY" => some { place := .afterCreate, text := "TEMPORARY" }
  | "TRANSIENT" | "DYNAMIC" | "MATERIALIZED" | "SECURE" | "EXTERNAL" | "UNLOGGED" | "ICEBERG" |
    "GLOBAL" |
    "STREAMING" => some { place := .afterCreate, text := keyword }
  | "SET" | "MULTISET" =>
    some { place := if dialect.isNamed "snowflake" then .hidden else .afterCreate, text := keyword }
  | "IMMUTABLE" | "DETERMINISTIC" => some { place := .afterSchema, text := "IMMUTABLE" }
  | "STABLE" | "STRICT" | "EMPTY" => some { place := .afterSchema, text := keyword }
  | "HEAP" => some { place := .inWith, text := keyword }
  | "LOG" | "FALLBACK" => some { place := .hidden, text := keyword }
  | _ => none

/-- How the rows of a table are kept in files, after the keyword, as text. -/
def rowFormatText : Parser (Option String) := do
  unless ← word "FORMAT" do return none
  let part (keywords : List String) : Parser String := do
    if ← texts keywords then return " ".intercalate keywords ++ " " ++ (← optionalTextOf (← string))
    else return ""
  if ← texts ["SERDE"] then return some ("ROW FORMAT SERDE " ++ (← optionalTextOf (← string)))
  discard (texts ["DELIMITED"])
  let fields ← part ["FIELDS", "TERMINATED", "BY"]
  let escaped ← if fields.isEmpty then pure "" else part ["ESCAPED", "BY"]
  let items ← part ["COLLECTION", "ITEMS", "TERMINATED", "BY"]
  let keys ← part ["MAP", "KEYS", "TERMINATED", "BY"]
  let lines ← part ["LINES", "TERMINATED", "BY"]
  let missing ← part ["NULL", "DEFINED", "AS"]
  return some (words ["ROW FORMAT DELIMITED", fields, escaped, items, keys, lines, missing])

/-- The buckets of a table after the keyword, as text. -/
def bucketsText (r : Rules) : Parser String := do
  let dialect ← dialect
  discard (texts ["BY"])
  let columns ← wrappedList r.column
  let sorted ← if ← texts ["SORTED", "BY"] then
      pure (" SORTED BY (" ++ ", ".intercalate
        (orderedTexts dialect (← wrappedList (orderedKey r))) ++ ")")
    else pure ""
  discard (word "INTO")
  let count ← numberText
  discard (texts ["BUCKETS"])
  return "CLUSTERED BY (" ++ ", ".intercalate (termTexts dialect columns) ++ ")" ++ sorted ++
    " INTO " ++ count ++
    " BUCKETS"

/-- The format of the files of a table, by its name. -/
def fileFormat (dialect : Dialect) (format : String) : PropertyText :=
  if dialect.isNamed "hive" then { place := .afterSchema, text := "STORED AS " ++ format.upperCase }
  else if dialect.likeHive then { place := .afterSchema, text := "USING " ++ format.upperCase }
  else { place := .inWith, text := "FORMAT=" ++ format }

/-- The parts of a table, by the text of their columns. -/
def partitionProperty (dialect : Dialect) (columns : String) : PropertyText :=
  if dialect.isOneOf ["bigquery", "clickhouse", "snowflake"] || dialect.likePostgres then
    { place := .afterSchema, text := "PARTITION BY " ++ columns }
  else if dialect.likeHive then { place := .afterSchema, text := "PARTITIONED BY " ++ columns }
  else { place := .inWith, text := "PARTITIONED_BY=" ++ columns }

/-- The property after WITH; `wrapped` reads a list in parentheses. -/
def withProperty (r : Rules) (wrapped : Parser (List PropertyText)) :
    Parser (List PropertyText) := do
  let start ← position
  if (← dialect).isNamed "snowflake" then
    return ((← policyClause r).map fun text => { place := .afterSchema, text := text }).toList
  if ← seesMark "(" then return ← wrapped
  if let some token ← anyText ["ENCRYPTION", "SCHEMABINDING", "VIEW_METADATA"] then
    return [{ place := .afterSchema, text := "WITH " ++ token.upper }]
  let data ← phraseOf [["DATA"], ["NO", "DATA"]]
  if let some data := data then
    let statistics ← phraseOf [["AND", "STATISTICS"], ["AND", "NO", "STATISTICS"]]
    return [{ place := .afterBody, text := words ["WITH", data, statistics.getD ""] }]
  if ← word "SCHEMA" then
    let binding ← need "binding"
      (phraseOf [["BINDING"], ["COMPENSATION"], ["EVOLUTION"], ["TYPE", "EVOLUTION"]])
    return [{ place := .afterSchema, text := "WITH SCHEMA " ++ binding }]
  if (← peekAt? 1).isSome then goTo (start - 1)
  return []

/-- What happens to rows after a time, as text. -/
def lifetimeAction (r : Rules) : Parser (Option String) := do
  match ← r.bitwise with
  | none => return none
  | some time =>
    let time := time.sql (← dialect)
    if ← texts ["DELETE"] then return some (time ++ " DELETE")
    if ← texts ["RECOMPRESS"] then
      return some (time ++ " RECOMPRESS " ++ (← optionalTextOf (← r.bitwise)))
    if ← texts ["TO", "DISK"] then
      return some (time ++ " TO DISK " ++ (← optionalTextOf (← string)))
    if ← texts ["TO", "VOLUME"] then
      return some (time ++ " TO VOLUME " ++ (← optionalTextOf (← string)))
    return some time

/-- How long the rows of a table live, after the keyword, as text. -/
def lifetimeText (r : Rules) : Parser String := do
  let dialect ← dialect
  let actions ← commaList (lifetimeAction r)
  let filter ← if ← word "WHERE" then
      pure (some ((← need "condition" r.assignment).sql dialect))
    else pure none
  let group ← groupClause r
  let sets ← if ← onlyIf group.isSome (word "SET") then
      pure (" SET " ++ ", ".intercalate (termTexts dialect (← commaList r.assignment)))
    else pure ""
  return "TTL " ++ ", ".intercalate actions ++ optionalText "WHERE" filter ++
    optionalText "GROUP BY" (optionalGroupText dialect group) ++ sets

/-- The servers that an object is on, after the word ON. -/
def clusterName : Parser (Option String) := attempt do
  unless ← texts ["CLUSTER"] do return none
  match ← string with
  | some term => return some (← textOf term)
  | none => return (← name).map (·.sql (← dialect))

/-- The properties that start with a word, after that word; `usually` says that the word DEFAULT
stands before it, and `wrapped` reads a list in parentheses. -/
def propertyAfter (r : Rules) (keyword : String) (usually : Bool)
    (wrapped : Parser (List PropertyText)) :
    Parser (List PropertyText) := do
  let dialect ← dialect
  let make (place : PropertyPlace) (text : String) : Parser (List PropertyText) := do
    return [{ place := place, text := withComments text (← claim) }]
  let stepBack : Parser (List PropertyText) := do
    goTo ((← position) - 1)
    return []
  if let some property := plainProperty? dialect keyword then
    return ← make property.place property.text
  match keyword with
  | "LIKE" =>
    let (source, text) ← likeClause r (schemaList r)
    return [{ property := .like source, place := .afterSchema,
              text := withComments text (← claim) }]
  | "VOLATILE" =>
    let before ← do
      match ← position with
      | pos + 2 => pure ((← read).tokens[pos]?)
      | _ => pure none
    if before.any fun token => [Kind.keyword "CREATE", .keyword "REPLACE",
      .keyword "UNIQUE"].contains token.kind
    then return [{ place := if dialect.isNamed "snowflake" then .hidden else .afterCreate,
                   text := keyword }]
    else make .afterSchema keyword
  | "ALGORITHM" => make .afterCreate ("ALGORITHM=" ++ (← assignedText r))
  | "DEFINER" =>
    discard (mark "=")
    let user ← anyName
    discard (mark "@")
    let host ← do
      match ← anyName with
      | some host => pure (some (host.sql dialect))
      | none => if ← mark "%" then pure (some "%") else pure none
    match user, host with
    | some user, some host => make .afterCreate ("DEFINER=" ++ user.sql dialect ++ "@" ++ host)
    | _, _ => return []
  | "COMMENT" =>
    let sign := if dialect.likeHive || dialect.likePresto || dialect.isNamed "clickhouse" then " "
      else "="
    make .afterSchema (keyword ++ sign ++ (← assignedText r))
  | "ENGINE" | "AUTO_INCREMENT" | "COLLATE" | "ROW_FORMAT" =>
    make .afterSchema (keyword ++ "=" ++ (← assignedText r))
  | "DISTSTYLE" =>
    make .afterSchema (keyword ++ (if dialect.isNamed "redshift" then " " else "=") ++
      (← assignedText r))
  | "LOCATION" =>
    if dialect.isNamed "snowflake" then
      discard (mark "=")
      make .afterSchema ("LOCATION=" ++ (← connectedText))
    else make .afterSchema ("LOCATION " ++ (← assignedText r))
  | "LANGUAGE" => make .afterSchema ("LANGUAGE " ++ (← assignedText r))
  | "EXECUTE" => make .afterSchema ("EXECUTE AS " ++ (← assignedText r))
  | "SHARING" => make .afterBody ("SHARING=" ++ (← assignedText r))
  | "PRIMARY KEY" =>
    let columns ← if dialect.isNamed "clickhouse" then optionallyWrappedList (fieldIdentOf r false)
      else wrappedList (fieldIdentOf r false)
    let options ← many keyOption
    make .afterSchema
      (words (("PRIMARY KEY (" ++ ", ".intercalate (columns.map (·.sql dialect)) ++ ")") ::
        options))
  | "INHERITS" =>
    let tables ← wrappedList (r.table {})
    make .afterSchema ("INHERITS (" ++ ", ".intercalate (tables.map (·.sql dialect)) ++ ")")
  | "DISTKEY" =>
    unless ← mark "(" do fail "("
    let column ← need "column" anyName
    close
    make .afterSchema (if dialect.isNamed "redshift" then "DISTKEY(" ++ column.sql dialect ++ ")"
      else "DISTKEY=" ++ column.sql dialect)
  | "SORTKEY" =>
    let columns ← wrappedList anyName
    make .afterSchema ("SORTKEY(" ++ ", ".intercalate (columns.map (·.sql dialect)) ++ ")")
  | "STORED" =>
    discard (word "AS")
    let input ← if ← texts ["INPUTFORMAT"] then string else pure none
    let output ← if ← texts ["OUTPUTFORMAT"] then string else pure none
    if input.isSome || output.isSome then
      let part (word : String) (term : Option Term) : String :=
        (term.map (word ++ " " ++ ·.sql dialect)).getD ""
      return [fileFormat dialect (words [part "INPUTFORMAT" input, part "OUTPUTFORMAT" output])]
    let format ← do
      let text ← wordOrString
      if text.isEmpty then fieldText r else pure (some text)
    return [fileFormat dialect (← need "format" (pure format))]
  | "FORMAT" | "USING" => return [fileFormat dialect (← assignedText r)]
  | "TBLPROPERTIES" => wrapped
  | "CHARSET" | "CHARACTER SET" =>
    discard (mark "=")
    make .afterSchema ((if usually then "DEFAULT " else "") ++ "CHARACTER SET=" ++ (← wordOrString))
  | "RETURNS" => make .afterSchema (← returnsText r)
  | "CLUSTER BY" =>
    let keys := ", ".intercalate (orderedTexts dialect (← commaList (orderedKey r)))
    make .afterSchema ("CLUSTER BY " ++ if dialect.isNamed "snowflake" then "(" ++ keys ++
      ")" else keys)
  | "ORDER BY" =>
    make .afterSchema ("ORDER BY " ++ ", ".intercalate (orderedTexts dialect (← orderKeys r)))
  | "CLUSTERED" => make .afterSchema (← bucketsText r)
  | "PARTITION BY" | "PARTITIONED BY" | "PARTITIONED_BY" =>
    discard (mark "=")
    let columns ← match ← schemaList r with
      | some items => pure (some (schemaText dialect (some items)).stripBlanks)
      | none =>
        let field := (← fieldIdentOf r false).map fun ident => Term.raw "Field" (ident.sql dialect)
        pure ((← brackets r field).map (·.sql dialect))
    return [partitionProperty dialect (← need "columns" (pure columns))]
  | "ALLOWED_VALUES" =>
    make .afterSchema ("ALLOWED_VALUES " ++
      ", ".intercalate (termTexts dialect (← commaList (primary r))))
  | "COPY" => if ← texts ["GRANTS"] then make .afterSchema "COPY GRANTS" else stepBack
  | "BACKUP" => make .afterSchema ("BACKUP " ++ (← plainWord true).getD "")
  | "CONTAINS" =>
    discard (texts ["SQL"])
    make .afterSchema "CONTAINS SQL"
  | "READS" | "MODIFIES" =>
    discard (texts ["SQL", "DATA"])
    make .afterSchema (keyword ++ " SQL DATA")
  | "NO" =>
    if ← texts ["PRIMARY", "INDEX"] then make .afterBody "NO PRIMARY INDEX"
    else if ← texts ["SQL"] then make .afterSchema "NO SQL"
    else return []
  | "SECURITY" =>
    match ← anyText ["NONE", "DEFINER", "INVOKER"] with
    | some token => make .afterSchema ("SECURITY " ++ token.upper)
    | none => return []
  | "ROW" =>
    match ← rowFormatText with
    | some text => make .afterSchema text
    | none => return []
  | "SAMPLE" =>
    let value ← if ← texts ["BY"] then r.bitwise else pure none
    make .afterSchema ("SAMPLE BY " ++ (← optionalTextOf value))
  | "SETTINGS" =>
    make .afterSchema ("SETTINGS " ++ ", ".intercalate
      (termTexts dialect (← commaList r.assignment)))
  | "TTL" => make .afterSchema (← lifetimeText r)
  | "TO" => make .afterSchema ("TO " ++ (← plainTable r).sql dialect)
  | "LOCK" =>
    if dialect.likeMysql then make .afterSchema ("LOCK=" ++ (← assignedText r)) else stepBack
  | "ON" =>
    if dialect.isNamed "clickhouse" then
      match ← clusterName with
      | some text => make .afterName ("ON CLUSTER " ++ text)
      | none => return []
    else if ← texts ["COMMIT", "PRESERVE", "ROWS"] then make .afterBody "ON COMMIT PRESERVE ROWS"
    else if ← texts ["COMMIT", "DELETE", "ROWS"] then make .afterBody "ON COMMIT DELETE ROWS"
    else
      let target ← anyName
      let columns := schemaText dialect (← schemaList r)
      let text := (target.map (·.sql dialect)).getD "" ++ columns
      if text.isEmpty then fail "name" else make .afterSchema ("ON " ++ text.stripBlanks)
  | "WITH" | "OPTIONS" => withProperty r wrapped
  | _ => stepBack

/-- The first words of properties. -/
def propertyKeywords : List String :=
  ["ALGORITHM", "ALLOWED_VALUES", "AUTO_INCREMENT", "BACKUP", "CHARACTER SET", "CHARSET",
    "CLUSTER BY",
   "CLUSTERED", "COLLATE", "COMMENT", "CONTAINS", "COPY", "DEFINER", "DETERMINISTIC", "DISTKEY",
   "DISTSTYLE", "DYNAMIC", "EMPTY",
   "ENGINE", "EXECUTE", "EXTERNAL", "FALLBACK", "FORMAT", "GLOBAL", "HEAP", "ICEBERG", "IMMUTABLE",
   "INHERITS", "LANGUAGE", "LIKE", "LOCATION", "LOCK", "LOG", "MATERIALIZED", "MODIFIES",
   "MULTISET", "NO", "ON",
   "ORDER BY", "PARTITION BY", "PARTITIONED BY", "PARTITIONED_BY", "PRIMARY KEY", "READS",
   "RETURNS", "ROW", "ROW_FORMAT", "SAMPLE", "SECURE", "SECURITY", "SET", "SETTINGS", "SHARING",
   "SORTKEY", "STABLE", "STORED",
   "STREAMING", "STRICT", "TBLPROPERTIES", "TEMP", "TEMPORARY", "TO", "TRANSIENT", "TTL",
   "UNLOGGED", "USING", "VOLATILE", "WITH"]

/-- The first words of properties in a dialect. -/
def Dialect.propertyWords (dialect : Dialect) : List String :=
  propertyKeywords ++ if dialect.isNamed "bigquery" then ["OPTIONS"] else []

/-- One property, or several in parentheses; `wrapped` reads those. -/
def propertyStep (r : Rules) (wrapped : Parser (List PropertyText)) :
    Parser (List PropertyText) := do
  let words := (← dialect).propertyWords
  if let some token ← anyText words then return ← propertyAfter r token.upper false wrapped
  if ← word "DEFAULT" then
    if let some token ← anyText words then return ← propertyAfter r token.upper true wrapped
  if ← texts ["COMPOUND", "SORTKEY"] then
    let found ← propertyAfter r "SORTKEY" false wrapped
    return found.map fun property => { property with text := "COMPOUND " ++ property.text }
  if ← texts ["SQL", "SECURITY"] then
    let definer ← texts ["DEFINER"]
    return [{ place := .afterCreate, text := "SQL SECURITY " ++ if definer then "DEFINER"
                else "INVOKER" }]
  match ← namedProperty r with
  | some text => return [{ place := .inWith, text := text }]
  | none => return (← sequenceProperty r).toList

/-- One property between the name of an object and its list of columns.  The words that can stand
before it are consumed in any case. -/
def earlyPropertyStep (r : Rules) (wrapped : Parser (List PropertyText)) :
    Parser (List PropertyText) := do
  discard (mark ",")
  discard (texts ["NO"])
  discard (texts ["DUAL"])
  discard (texts ["BEFORE"])
  let usually ← texts ["DEFAULT"]
  unless ← texts ["LOCAL"] do discard (texts ["NOT", "LOCAL"])
  discard (texts ["AFTER"])
  discard (anyText ["MIN", "MINIMUM"])
  discard (anyText ["MAX", "MAXIMUM"])
  match ← anyText (← dialect).propertyWords with
  | some token => propertyAfter r token.upper usually wrapped
  | none => return []

/-- A list of properties in parentheses. -/
def wrappedProperties (r : Rules) : Parser (List PropertyText) := do
  return (← wrappedList do
    match ← propertyStep r (pure []) with
    | [] => return none
    | properties => return some properties).flatten

/-- All properties in a row, each read by a step. -/
def propertiesBy (step : Parser (List PropertyText)) : Parser (List PropertyText) := do
  return (← many do
    match ← step with
    | [] => return none
    | found => return some found).flatten

/-- All properties in a row. -/
def properties (r : Rules) : Parser (List PropertyText) :=
  propertiesBy (propertyStep r (wrappedProperties r))

/-- All properties in a row between the name of an object and its list of columns. -/
def earlyProperties (r : Rules) : Parser (List PropertyText) :=
  propertiesBy (earlyPropertyStep r (wrappedProperties r))

/-- The texts of the properties at one place. -/
def placed (place : PropertyPlace) (found : List PropertyText) : List String :=
  (found.filter (·.place == place)).map (·.text)

/-- The canonical text of the properties behind the name of an object, with a space before it. -/
def nameProperties (found : List PropertyText) : String :=
  spaced (words (placed .afterName found))

/-- The keyword before the properties in parentheses. -/
def Dialect.propertiesKeyword (dialect : Dialect) : String :=
  if dialect.likeHive then "TBLPROPERTIES" else if dialect.isNamed "bigquery" then "OPTIONS"
  else "WITH"

/-- The canonical text of the properties after the list of columns, with a space before it. -/
def schemaProperties (dialect : Dialect) (found : List PropertyText) : String :=
  let inWith := placed .inWith found
  spaced (words (placed .afterSchema found ++
    if inWith.isEmpty then [] else if dialect.isNamed "snowflake" then inWith
    else [dialect.propertiesKeyword ++ " (" ++ ", ".intercalate inWith ++ ")"]))

end SqlLayout.Grammar
