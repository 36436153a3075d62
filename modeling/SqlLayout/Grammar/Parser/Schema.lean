import SqlLayout.Grammar.Parser.Query

/-!
# Column definitions

The list after the name of a created table: columns with their types and constraints, and
constraints of the table.
-/

namespace SqlLayout.Grammar

open SqlLayout.Grammar.Parser

/-- The words of an optional `IF EXISTS`.  A lone `IF` is consumed. -/
def ifExists : Parser Bool := do
  if ← texts ["IF"] then word "EXISTS" else return false

/-- The words of an optional `IF NOT EXISTS`.  A lone `IF` is consumed. -/
def ifNotExists : Parser Bool := do
  if ← texts ["IF"] then
    if ← word "NOT" then word "EXISTS" else return false
  else return false

/-- A word or a string, as text. -/
def wordOrString : Parser String := do
  match ← literal stringOf? with
  | some term => textOf term
  | none => return (← plainWord true).getD ""

/-- A literal, a call or a name, as a name with its text. -/
def fieldIdentOf (r : Rules) (any : Bool) : Parser (Option Ident) := do
  let dialect ← dialect
  let shown (term : Term) : Ident :=
    { name := spelledName term, shown := some (term.uncommented.sql dialect),
      comments := term.comments }
  if let some term ← primary r then return some (shown term)
  if let some term ← call r { anyWord := any } then
    return some { shown term with name := term.core.callName }
  nameOr any (·.roles.isName)

/-- A literal, a call or a name, as text. -/
def fieldText (r : Rules) : Parser (Option String) := do
  return (← fieldIdentOf r false).map (·.sql (← dialect))

/-- A property of any name with its value, as text; only the last part of a value with dots is
kept. -/
def namedProperty (r : Rules) : Parser (Option String) := do
  let dialect ← dialect
  let start ← position
  let key ← r.column
  unless ← mark "=" do
    goTo start
    return none
  let value ← match ← r.bitwise with
    | some (.column parts _) => pure ((parts.getLast?.map (·.name)).getD "")
    | some term => pure (term.sql dialect)
    | none => pure ((← plainWord true).getD "")
  let named (name : String) : String := if dialect.likeHive then "'" ++ name ++ "'" else name
  let label := match key with
    | some (.column [ident] _) => named ident.name
    | some (.column parts comments) => (Term.column parts comments).sql dialect
    | key => named ((key.map spelledName).getD "")
  return some (withComments (label ++ "=" ++ value) (← claim))

/-! ## Keys and references -/

/-- Options of a key constraint that are plain words. -/
def keyOptions : List (List String) :=
  [["NOT", "ENFORCED"], ["MATCH", "FULL"], ["MATCH", "PARTIAL"], ["MATCH", "SIMPLE"],
   ["INITIALLY", "DEFERRED"], ["INITIALLY", "IMMEDIATE"], ["USING", "BTREE"], ["USING", "HASH"],
   ["DEFERRABLE"], ["NORELY"], ["RELY"]]

/-- What happens to a reference when its target changes. -/
def referenceActions : List (List String) :=
  [["NO", "ACTION"], ["CASCADE"], ["RESTRICT"], ["SET", "NULL"], ["SET", "DEFAULT"]]

/-- One option of a key constraint, as text. -/
def keyOption : Parser (Option String) := do
  if ← word "ON" then
    let event ← need "event" (takeIf isAnyWord)
    let action ← need "action" (phraseOf referenceActions)
    return some ("ON " ++ event.text ++ " " ++ action)
  else phraseOf keyOptions

/-- A primary key behind its keyword: of a column, or of the columns in parentheses. -/
structure KeyClause where
  columns : Option (List Ident)
  text : String

/-- The rest of a primary key after its keyword. -/
def primaryKeyClause (r : Rules) : Parser KeyClause := do
  let dialect ← dialect
  let order ← anyWord ["ASC", "DESC"]
  if ← seesMark "(" then
    let columns ← wrappedList (fieldIdentOf r false)
    if columns.isEmpty then fail "column"
    let options ← many keyOption
    return { columns := some columns,
             text := words (("PRIMARY KEY (" ++ ", ".intercalate (columns.map (·.sql dialect)) ++
               ")") :: options) }
  else
    let options ← many keyOption
    return { columns := none, text := match order with
      | some token => "PRIMARY KEY " ++ token.upper
      | none => words ("PRIMARY KEY" :: options) }

/-- Names in parentheses, as text. -/
def wrappedNames : Parser String := do
  let dialect ← dialect
  let names ← wrappedList anyName
  return "(" ++ ", ".intercalate (names.map (·.sql dialect)) ++ ")"

/-! ## Counting columns -/

/-- Dialects that write a counting column with the word IDENTITY alone. -/
def Dialect.countsByIdentity (dialect : Dialect) : Bool :=
  dialect.isOneOf ["redshift", "tsql"]

/-- The numbers of a counting column behind the word IDENTITY; both are one when nothing is
written. -/
def identityText (dialect : Dialect) (start step : Option Term) : String :=
  let number (term : Option Term) : String := (term.map (·.sql dialect)).getD "1"
  "IDENTITY(" ++ number start ++ ", " ++ number step ++ ")"

/-- The numbers of a counting column, as text. -/
def autoIncrement (r : Rules) : Parser String := do
  let dialect ← dialect
  let (start, step) ← do
    if ← seesMark "(" then
      let values ← wrappedList r.bitwise
      pure (values[0]?, values[1]?)
    else if ← texts ["START"] then
      let start ← r.bitwise
      discard (texts ["INCREMENT"])
      let step ← r.bitwise
      pure (start, step)
    else pure (none, none)
  match start, step with
  | some start, some step =>
    if dialect.countsByIdentity then return identityText dialect (some start) (some step)
    else if dialect.isNamed "snowflake" then
      return "AUTOINCREMENT START " ++ start.sql dialect ++ " INCREMENT " ++ step.sql dialect
    else
      return "GENERATED AS IDENTITY (START WITH " ++ start.sql dialect ++ " INCREMENT BY " ++
        step.sql dialect ++ ")"
  | _, _ =>
    return if dialect.isOneOf ["snowflake", "sqlite"] then "AUTOINCREMENT"
      else if dialect.isNamed "tsql" then "IDENTITY"
      else "AUTO_INCREMENT"

/-- How a sequence counts. -/
structure SequenceNumbers where
  start : Option Term := none
  step : Option Term := none
  least : Option Term := none
  most : Option Term := none
  cycle : Option Bool := none

/-- The canonical text of how a sequence counts, in parentheses. -/
def SequenceNumbers.text (numbers : SequenceNumbers) (dialect : Dialect) : String :=
  let part (word : String) (term : Option Term) : String :=
    (term.map fun t => word ++ t.sql dialect).getD ""
  let cycle := match numbers.cycle with
    | none => ""
    | some true => "CYCLE"
    | some false => "NO CYCLE"
  if numbers.start.isNone && numbers.step.isNone && numbers.cycle.isNone then ""
  else "(" ++ words [part "START WITH " numbers.start, part "INCREMENT BY " numbers.step,
    part "MINVALUE " numbers.least, part "MAXVALUE " numbers.most, cycle] ++ ")"

/-- How a sequence counts, inside its parentheses. -/
def sequenceNumbers (r : Rules) : Parser SequenceNumbers := do
  let start ← if ← word "START WITH" then r.bitwise else pure none
  let step ← if ← texts ["INCREMENT", "BY"] then r.bitwise else pure none
  let least ← if ← texts ["MINVALUE"] then r.bitwise else pure none
  let most ← if ← texts ["MAXVALUE"] then r.bitwise else pure none
  let cycle ← do
    if ← texts ["CYCLE"] then pure (some true)
    else if ← texts ["NO", "CYCLE"] then pure (some false)
    else pure none
  return { start := start, step := step, least := least, most := most, cycle := cycle }

/-- A generated column after its keyword, as text. -/
def generatedColumn (r : Rules) : Parser String := do
  let dialect ← dialect
  let kind ← do
    if ← texts ["BY", "DEFAULT"] then
      let onNull ← pair (.keyword "ON") (.keyword "NULL")
      pure (if onNull then "BY DEFAULT ON NULL" else "BY DEFAULT")
    else
      discard (texts ["ALWAYS"])
      pure "ALWAYS"
  discard (word "AS")
  if ← texts ["ROW"] then
    let start ← texts ["START"]
    unless start do discard (word "END")
    let hidden ← texts ["HIDDEN"]
    return words ["GENERATED ALWAYS AS ROW", if start then "START" else "END",
      if hidden then "HIDDEN" else ""]
  let isIdentity ← texts ["IDENTITY"]
  let snowflakeText (numbers : SequenceNumbers) : String :=
    words ["AUTOINCREMENT", (numbers.start.map ("START " ++ ·.sql dialect)).getD "",
      (numbers.step.map ("INCREMENT " ++ ·.sql dialect)).getD ""]
  unless ← mark "(" do
    return if dialect.isNamed "snowflake" then snowflakeText {}
      else if dialect.countsByIdentity then identityText dialect none none
      else words ["GENERATED", kind, "AS", "IDENTITY"]
  let mut numbers ← sequenceNumbers r
  let expression ← if isIdentity then pure none else range r
  if ← onlyIf (isIdentity && numbers.start.isNone) (sees .number) then
    let values ← commaList r.bitwise
    numbers := { numbers with start := values[0]?, step := values[1]? }
  close
  if dialect.isNamed "snowflake" then return snowflakeText numbers
  if dialect.countsByIdentity then return identityText dialect numbers.start numbers.step
  let body := match expression with
    | some term => "(" ++ term.sql dialect ++ ")"
    | none => "IDENTITY"
  return words ["GENERATED", kind, "AS", body, numbers.text dialect]

/-! ## Indexes -/

/-- A key of an index with the class of operators it is compared by. -/
def indexKey (r : Rules) : Parser (Option String) := do
  let dialect ← dialect
  let key : Parser (Option Term) := do
    match ← r.assignment with
    | none => return none
    | some term =>
      if (← peek?).any (readsAs ["ASC", "DESC", "NULLS", "WITH"]) then return some term
      if (← seesMark ",") || (← seesMark ")") then return some term
      let class_ ← tableName r false
      return some (← madeRaw "Opclass" (term.sql dialect ++ " " ++ class_.table.sql dialect))
  match ← orderedKey { r with assignment := key } with
  | none => return none
  | some ordered =>
    let text := ", ".intercalate (orderedTexts dialect [ordered])
    if ← word "WITH" then
      match ← takeIf fun token => !isAnyWord token && token.kind != .symbol ")" with
      | some token => return some (text ++ " WITH " ++ token.text)
      | none => return some (words [text, "WITH", (← plainWord true).getD ""])
    else return some text

/-- What follows the name or the table of an index, as text. -/
def indexParams (r : Rules) : Parser String := do
  let dialect ← dialect
  let method ← if ← word "USING" then plainWord true else pure none
  let keys ← if ← seesMark "(" then
      pure ("(" ++ ", ".intercalate (← wrappedList (indexKey r)) ++ ")")
    else pure ""
  let included ← if ← texts ["INCLUDE"] then pure (" INCLUDE " ++ (← wrappedNames)) else pure ""
  let partition ← if ← word "PARTITION BY" then
      pure (" PARTITION BY " ++ ", ".intercalate (termTexts dialect (← commaList r.assignment)))
    else pure ""
  let storage ← if ← word "WITH" then
      pure (" WITH (" ++ ", ".intercalate (← wrappedList (namedProperty r)) ++ ")")
    else pure ""
  let space ← if ← texts ["USING", "INDEX", "TABLESPACE"] then
      pure (" USING INDEX TABLESPACE " ++ (← plainWord true).getD "")
    else pure ""
  let filter ← if ← word "WHERE" then
      pure (" WHERE " ++ (← textOf (← need "condition" r.assignment)))
    else pure ""
  let place ← if ← word "ON" then pure (" ON " ++ (← fieldText r).getD "") else pure ""
  return (method.map (" USING " ++ ·)).getD "" ++ keys ++ included ++ storage ++ space ++
    partition ++ filter ++ place

/-- An index among the columns of a table, after its keyword, as text. -/
def indexConstraint (r : Rules) (keyword : String) : Parser String := do
  let dialect ← dialect
  let kind := if ["FULLTEXT", "SPATIAL"].contains keyword then keyword else ""
  unless kind.isEmpty do discard (anyText ["INDEX", "KEY"])
  let label ← name
  let method ← if ← word "USING" then pure ((← takeIf isAnyWord).map (·.text)) else pure none
  let keys ← wrappedList (orderedKey r)
  return words [kind, "INDEX", (label.map (·.sql dialect)).getD "",
    (method.map ("USING " ++ ·)).getD "",
    "(" ++ ", ".intercalate (orderedTexts dialect keys) ++ ")"]

/-! ## Constraints -/

/-- A condition in parentheses, as text. -/
def checkClause (r : Rules) : Parser String := do
  unless ← mark "(" do fail "("
  let condition ← need "condition" r.assignment
  close
  let enforced ← texts ["ENFORCED"]
  return "CHECK (" ++ (← textOf condition) ++ ")" ++ if enforced then " ENFORCED" else ""

/-- What happens to a foreign key when its target changes, as text. -/
def foreignAction : Parser (Option String) := do
  unless ← word "ON" do return none
  let event ← need "event" (anyWord ["DELETE", "UPDATE"])
  let action ← do
    if ← texts ["NO", "ACTION"] then pure "NO ACTION"
    else if ← word "SET" then
      pure ("SET " ++ ((← anyWord ["NULL", "DEFAULT"]).map (·.upper)).getD "SET")
    else pure (((← takeIf fun _ => true).map (·.upper)).getD "")
  return some ("ON " ++ event.upper ++ " " ++ action)

/-- Ends the text of a constraint with the comments of its last token. -/
def constraintText (text : String) : Parser String := do
  return withComments text (← claim)

/-- The canonical text of a list of columns, with a space before it. -/
def schemaText (dialect : Dialect) (schema : Option (List SchemaItem)) : String :=
  match schema with
  | some [] | none => ""
  | some items => " (" ++ ", ".intercalate (items.map (·.sql dialect)) ++ ")"

/-- The name in an entry of a column list. -/
def SchemaItem.ident : SchemaItem → Ident
  | .column ident _ _ _ => { ident with quoted := false }
  | .name ident => ident
  | .primaryKey _ text | .other text => { name := "", shown := some text }

/-- A table in a place where the names of its columns can follow; `columns` reads their list. -/
def tableWithColumns (r : Rules) (columns : Parser (Option (List SchemaItem))) :
    Parser (Table × List Ident × String) := do
  let dialect ← dialect
  let source ← need "table" (r.table { schema := true })
  let table : Table := match source with
    | .table table => table
    | source =>
      { name := some { name := source.sql dialect, quoted := false,
                       shown := some (source.sql dialect) } }
  let items ← columns
  return (table, (items.getD []).map SchemaItem.ident,
    source.sql dialect ++ schemaText dialect items)

/-- A reference to another table after its keyword. -/
def referenceClause (r : Rules) (columns : Parser (Option (List SchemaItem))) :
    Parser (Constraint × String) := do
  let (table, columns, text) ← tableWithColumns r columns
  let options ← many keyOption
  return (.references table columns, words (["REFERENCES", text] ++ options))

/-- The columns of another table that are taken over, after the keyword, as text. -/
def likeClause (r : Rules) (columns : Parser (Option (List SchemaItem))) :
    Parser (From × String) := do
  let dialect ← dialect
  let source ← need "table" (r.table { schema := true })
  let items ← columns
  let source : From := match items with
    | some _ => .raw "Schema" (source.sql dialect ++ schemaText dialect items)
    | none => source
  let options ← many do
    match ← anyText ["INCLUDING", "EXCLUDING"] with
    | some token =>
      let option ← need "option" anyName
      return some (token.upper ++ " " ++ option.name.upperCase)
    | none => return none
  return (source, words (["LIKE", source.sql dialect] ++ options))

/-- A policy or a tag of a column, after the optional word before it, as text. -/
def policyClause (r : Rules) : Parser (Option String) := do
  if ← texts ["MASKING", "POLICY"] then
    let policy ← optionalTextOf (← r.column)
    let names ← if ← word "USING" then pure (" USING " ++ (← wrappedNames)) else pure ""
    return some ("MASKING POLICY " ++ policy ++ names)
  else if ← texts ["PROJECTION", "POLICY"] then
    return some ("PROJECTION POLICY " ++ (← optionalTextOf (← r.column)))
  else if ← word "TAG" then
    return some ("TAG (" ++ ", ".intercalate (← wrappedList (namedProperty r)) ++ ")")
  else return none

/-- An index over an expression that tells which rows can be skipped, after the keyword, as text. -/
def skippingIndex (r : Rules) : Parser String := do
  let dialect ← dialect
  let label ← name
  let value ← optionalTextOf (← r.assignment)
  let kind ← if ← texts ["TYPE"] then
      match ← call r {} with
      | some term => pure ("TYPE " ++ term.sql dialect)
      | none => pure ("TYPE " ++ (← plainWord).getD "")
    else pure ""
  let grain ← if ← texts ["GRANULARITY"] then pure ("GRANULARITY " ++
    (← optionalTextOf (← r.additive)))
    else pure ""
  return words ["INDEX", (label.map (·.sql dialect)).getD "", value, kind, grain]

/-- The constraints that a column can have, each after its first word; `columns` reads a list of
columns. -/
def constraintAfter (r : Rules) (columns : Parser (Option (List SchemaItem))) (keyword : String) :
    Parser (Option (Constraint × String)) := do
  let dialect ← dialect
  let other (text : String) : Parser (Option (Constraint × String)) := do
    return some (.other, ← constraintText text)
  match keyword with
  | "PRIMARY KEY" =>
    let key ← primaryKeyClause r
    return some (if key.columns.isNone then .primaryKey else .other, ← constraintText key.text)
  | "NOT" =>
    if ← texts ["NULL"] then return some (.notNull, ← constraintText "NOT NULL")
    else if ← texts ["CASESPECIFIC"] then other "NOT CASESPECIFIC"
    else if ← texts ["FOR", "REPLICATION"] then other "NOT FOR REPLICATION"
    else
      goTo ((← position) - 1)
      return none
  | "NULL" => other "NULL"
  | "DEFAULT" =>
    let value ← need "default" r.bitwise
    return some (.default value, ← constraintText ("DEFAULT " ++ value.sql dialect))
  | "COMMENT" =>
    let value ← need "comment" string
    return some (.comment (spelledName value), ← constraintText ("COMMENT " ++ value.sql dialect))
  | "REFERENCES" => return some (← referenceClause r columns)
  | "UNIQUE" =>
    discard (texts ["KEY"])
    let nulls ← texts ["NULLS", "NOT", "DISTINCT"]
    let label ← name
    let items ← columns
    let method ← if ← word "USING" then pure ((← takeIf isAnyWord).map (·.text)) else pure none
    other (words ["UNIQUE", if nulls then "NULLS NOT DISTINCT" else "",
      (label.map (·.sql dialect)).getD "", (schemaText dialect items).stripBlanks,
      (method.map ("USING " ++ ·)).getD ""])
  | "CHECK" => other (← checkClause r)
  | "COLLATE" =>
    let collation ← need "collation" r.column
    other ("COLLATE " ++ collation.sql dialect)
  | "AUTOINCREMENT" | "AUTO_INCREMENT" | "IDENTITY" => other (← autoIncrement r)
  | "GENERATED" => other (← generatedColumn r)
  | "CHARACTER SET" => other ("CHARACTER SET " ++ (← wordOrString))
  | "FOREIGN KEY" =>
    let names ← wrappedNames
    let reference ← if ← word "REFERENCES" then pure (← referenceClause r columns).2 else pure ""
    let actions ← many foreignAction
    let ordered := actions.filter (·.startsWith "ON DELETE") ++
      actions.filter (·.startsWith "ON UPDATE")
    other (words (["FOREIGN KEY " ++ names, reference] ++ ordered))
  | "ON" =>
    if ← word "UPDATE" then
      let value ← need "call" (call r {})
      other ("ON UPDATE " ++ value.sql dialect)
    else other ("ON " ++ (← need "name" anyName).sql dialect)
  | "CASESPECIFIC" | "UPPERCASE" => other keyword
  | "ENCODE" => other (words ["ENCODE", (← plainWord).getD ""])
  | "FORMAT" | "TITLE" => other (keyword ++ " " ++ (← wordOrString))
  | "PATH" => other ("PATH " ++ (← textOf (← need "path" string)))
  | "COMPRESS" | "CODEC" =>
    let wrapped ← seesMark "("
    let values ← if wrapped then wrappedList r.bitwise else pure (← r.bitwise).toList
    let text := ", ".intercalate (termTexts dialect values)
    if dialect.isNamed "clickhouse" then other ("CODEC(" ++ text ++ ")")
    else other ("COMPRESS " ++ if wrapped then "(" ++ text ++ ")" else text)
  | "INLINE" =>
    discard (texts ["LENGTH"])
    other ("INLINE LENGTH " ++ (← optionalTextOf (← r.bitwise)))
  | "CLUSTERED" | "NONCLUSTERED" =>
    let keys ← wrappedList (orderedKey r)
    other (keyword ++ " (" ++ ", ".intercalate (orderedTexts dialect keys) ++ ")")
  | "OPTIONS" => other ("OPTIONS (" ++ ", ".intercalate (← wrappedList (namedProperty r)) ++ ")")
  | "EPHEMERAL" => other (words ["EPHEMERAL", ← optionalTextOf (← r.bitwise)])
  | "TTL" => other ("TTL " ++ (← optionalTextOf (← r.bitwise)))
  | "EXCLUDE" => other ("EXCLUDE " ++ (← indexParams r).stripBlanks)
  | "LIKE" => other (← likeClause r columns).2
  | "PERIOD" =>
    if ← word "FOR TIMESTAMP" then
      match ← wrappedList anyName with
      | first :: second :: _ =>
        other ("PERIOD FOR SYSTEM_TIME (" ++ first.sql dialect ++ ", " ++ second.sql dialect ++ ")")
      | _ => fail "columns"
    else
      goTo ((← position) - 1)
      return none
  | "WITH" =>
    if dialect.isNamed "snowflake" then
      match ← policyClause r with
      | some text => other text
      | none => return none
    else other ("WITH (" ++ ", ".intercalate (← wrappedList (namedProperty r)) ++ ")")
  | "MASKING" | "PROJECTION" | "TAG" =>
    goTo ((← position) - 1)
    match ← policyClause r with
    | some text => other text
    | none => return none
  | "INDEX" | "KEY" | "FULLTEXT" | "SPATIAL" =>
    other (← if dialect.isNamed "clickhouse" then skippingIndex r else indexConstraint r keyword)
  | _ => return none

/-- The first words of column constraints. -/
def Dialect.constraintKeywords (dialect : Dialect) : List String :=
  ["PRIMARY KEY", "NOT", "NULL", "DEFAULT", "COMMENT", "REFERENCES", "UNIQUE", "CHECK", "COLLATE",
   "AUTOINCREMENT", "AUTO_INCREMENT", "IDENTITY", "GENERATED", "CHARACTER SET", "FOREIGN KEY", "ON",
   "CASESPECIFIC", "UPPERCASE", "ENCODE", "FORMAT", "TITLE", "PATH", "COMPRESS", "INLINE",
   "CLUSTERED", "NONCLUSTERED", "EPHEMERAL", "TTL", "EXCLUDE", "LIKE", "PERIOD", "WITH"] ++
    (if dialect.isNamed "clickhouse" then ["CODEC", "INDEX"] else []) ++
    (if dialect.isNamed "bigquery" then ["OPTIONS"] else []) ++
    (if dialect.isNamed "snowflake" then ["MASKING", "PROJECTION", "TAG"] else []) ++
    if dialect.likeMysql then ["INDEX", "KEY", "FULLTEXT", "SPATIAL"] else []

/-- The first words of table constraints. -/
def Dialect.tableConstraintKeywords (dialect : Dialect) : List String :=
  ["CHECK", "EXCLUDE", "FOREIGN KEY", "LIKE", "PERIOD", "PRIMARY KEY", "UNIQUE"] ++
    if dialect.likeMysql then ["INDEX", "KEY", "FULLTEXT", "SPATIAL"]
    else if dialect.isNamed "clickhouse" then ["INDEX"]
    else []

/-- One constraint of a column; a name of a constraint can stand alone. -/
def columnConstraint (r : Rules) (columns : Parser (Option (List SchemaItem))) :
    Parser (Option (Constraint × String)) := do
  let dialect ← dialect
  let label ← if ← word "CONSTRAINT" then anyName else pure none
  match ← anyText dialect.constraintKeywords with
  | none => return label.map fun label => (.other, label.sql dialect)
  | some token =>
    match ← constraintAfter r columns token.upper with
    | none => fail "constraint"
    | some (constraint, text) =>
      return some (constraint, match label with
        | some label => "CONSTRAINT " ++ label.sql dialect ++ " " ++ text
        | none => text)

/-- How a column is computed, as text. -/
def computedColumn (r : Rules) (hasType : Bool) : Parser (Option (Constraint × String)) := do
  let dialect ← dialect
  let lead ← if ← onlyIf (!hasType) (word "AS") then pure (some "AS")
    else pure ((← anyText ["ALIAS", "MATERIALIZED"]).map (·.upper))
  match lead with
  | some lead =>
    let value ← need "value" r.assignment
    let persisted ← if lead == "MATERIALIZED" then pure true else texts ["PERSISTED"]
    let required ← pair (.keyword "NOT") (.keyword "NULL")
    let text := value.sql dialect
    return some (.other, ← constraintText (
      if dialect.isNamed "clickhouse" then (if persisted then "MATERIALIZED " else "ALIAS ") ++ text
      else "AS " ++ text ++
        if required then " PERSISTED NOT NULL" else if persisted then " PERSISTED" else ""))
  | none =>
    if (← seesWord "AS") && (← seesAt 1 (.symbol "(")) && hasType then
      advance
      return some (.other, ← constraintText ("AS " ++ (← need "value" r.assignment).sql dialect))
    else return none

/-- The rest of a column definition after its name; a name alone stays a name. -/
def columnDefAfter (r : Rules) (columns : Parser (Option (List SchemaItem))) (computed : Bool)
    (ident : Ident) :
    Parser SchemaItem := do
  unless computed do discard (word "AS")
  let type ← r.typeName { schema := true }
  if ← texts ["FOR", "ORDINALITY"] then
    return .column ident type [(.other, "FOR ORDINALITY")] (← claim)
  let made ← computedColumn r type.isSome
  let constraints := made.toList ++ (← many (columnConstraint r columns))
  if type.isNone && constraints.isEmpty then return .name ident
  return .column ident type constraints (← claim)

/-- A constraint of a table that starts with one of several words. -/
def tableConstraint (r : Rules) (columns : Parser (Option (List SchemaItem)))
    (keywords : List String) :
    Parser (Option SchemaItem) := do
  if ← sees .quotedName then return none
  match ← anyText keywords with
  | none => return none
  | some token =>
    if token.upper == "PRIMARY KEY" then
      let key ← primaryKeyClause r
      let text ← constraintText key.text
      return some (match key.columns with
        | some columns => .primaryKey columns text
        | none => .other text)
    else return (← constraintAfter r columns token.upper).map fun (_, text) => .other text

/-- A constraint of a table, possibly with a name; `columns` reads a list of columns. -/
def constraintItem (r : Rules) (columns : Parser (Option (List SchemaItem))) :
    Parser (Option SchemaItem) := do
  let dialect ← dialect
  if ← word "CONSTRAINT" then
    let label ← need "name" anyName
    let parts ← many do
      match ← tableConstraint r columns dialect.constraintKeywords with
      | some item => return some (item.sql dialect)
      | none => return (← call r {}).map (·.sql dialect)
    if parts.isEmpty then fail "constraint"
    return some (.other (← constraintText
      ("CONSTRAINT " ++ label.sql dialect ++ " " ++ ", ".intercalate parts)))
  tableConstraint r columns dialect.tableConstraintKeywords

/-- An entry of a column list; `columns` reads a list inside it. -/
def schemaItemWith (r : Rules) (columns : Parser (Option (List SchemaItem))) :
    Parser (Option SchemaItem) := do
  match ← constraintItem r columns with
  | some item => return some item
  | none =>
    match ← fieldIdentOf r true with
    | none => return none
    | some ident => return some (← columnDefAfter r columns true ident)

/-- A list of columns in parentheses, with lists inside it up to a bound; what starts like a query
is none. -/
def schemaListTo (r : Rules) : Nat → Parser (Option (List SchemaItem))
  | 0 => return none
  | depth + 1 => do
    let start ← position
    unless ← mark "(" do return none
    if (← seesMark "(") || (← seesWord "WITH") || (← seesWord "SELECT") then
      goTo start
      return none
    let items ← commaList (schemaItemWith r (schemaListTo r depth))
    close
    return some items

/-- A list of columns in parentheses. -/
def schemaList (r : Rules) : Parser (Option (List SchemaItem)) := do
  schemaListTo r ((← read).tokens.size + 1)

/-- A column definition. -/
def columnDef (r : Rules) : Parser (Option SchemaItem) := do
  match ← fieldIdentOf r true with
  | none => return none
  | some ident => return some (← columnDefAfter r (schemaList r) true ident)

/-- The type and the constraints after the name of a parameter or of a column of a label. -/
def columnTail (r : Rules) (ident : Ident) : Parser SchemaItem :=
  columnDefAfter r (schemaList r) false ident

/-- A parameter of a function. -/
def functionParam (r : Rules) : Parser (Option SchemaItem) := do
  match ← anyName with
  | none => return none
  | some ident =>
    let item ← columnTail r ident
    let dialect ← dialect
    unless dialect.isNamed "tsql" do return some item
    let value ← if ← mark "=" then pure ("= " ++ (← optionalTextOf (← disjunction r))) else pure ""
    let direction := ((← anyText ["OUT", "OUTPUT", "READ_ONLY"]).map (·.text)).getD ""
    match item, words [value, direction] with
    | .column ident type constraints comments, text =>
      if text.isEmpty then return some item
      else return some (.column ident type (constraints ++ [(.other, text)]) comments)
    | .name ident, text =>
      return some (if text.isEmpty then item else .other (words [ident.sql dialect, text]))
    | item, _ => return some item

end SqlLayout.Grammar
