import SqlLayout.Grammar.Parser.Property

/-!
# Creating objects

Where the rest of a CREATE statement is not understood, the whole statement is kept as it is
written.
-/

namespace SqlLayout.Grammar

open SqlLayout.Grammar.Parser

/-- Keeps a statement as it is written, from a token on. -/
def asCommand (start : Token) : Parser Parsed := do
  return .other "Command" (← commandText start)

/-- What stands between CREATE and the name of the object. -/
structure CreateHead where
  /-- The text of the kind of index, if it is one by columns. -/
  columnStore : String
  replace : Bool
  /-- How the dialect says that the object may be there already. -/
  replaceWords : String
  refresh : Bool
  unique : Bool
  kind : String
  concurrently : Bool
  ifNotExists : Bool
  properties : List PropertyText

/-- The canonical text up to the name of the object, with all properties of the statement. -/
def CreateHead.text (head : CreateHead) (found : List PropertyText) : String :=
  words (["CREATE", head.columnStore, if head.replace then head.replaceWords else "",
    if head.refresh then "OR REFRESH" else "", if head.unique then "UNIQUE" else ""] ++
    placed .afterCreate found ++ [head.kind, if head.concurrently then "CONCURRENTLY" else "",
    if head.ifNotExists then "IF NOT EXISTS" else ""])

/-- A query in a place where it may stand in parentheses, with all that follows it. -/
def bodyQuery (r : Rules) : Parser (Option Query) := do
  match ← r.query { nested := true, label := false } with
  | some query => return some (← withClauses r (← withSetOps r query))
  | none => return none

/-! ## Functions -/

/-- Skips tokens until the given texts come; gives the last token before them. -/
def skipTo (wanted : List String) : Nat → Parser (Option Token)
  | 0 => fail "closing tag"
  | rounds + 1 => do
    if (← peek?).isNone then fail "closing tag"
    if ← seesTexts wanted then previous?
    else
      advance
      skipTo wanted rounds

/-- The body of a function between equal tags in dollar signs, as text. -/
def taggedBody : Parser (Option String) := do
  if (← dialect).taggedStrings then
    if let some token ← takeIf (·.kind == .rawString) then return some ("$$" ++ token.text ++ "$$")
  unless ← texts ["$"] do return none
  let connected : Parser Bool := do
    match ← previous?, ← peek? with
    | some before, some next => return before.stop == next.start
    | _, _ => return false
  unless ← connected do fail "closing tag"
  let tag ← need "tag" (takeIf fun _ => true)
  let name := if tag.text == "$" then "" else tag.upper
  unless name.isEmpty do
    unless ← connected do fail "closing tag"
    unless ← texts ["$"] do fail "closing tag"
  let tags := if name.isEmpty then ["$", "$"] else ["$", name, "$"]
  let first ← peek?
  let last ← skipTo tags ((← read).tokens.size + 1)
  advance tags.length
  let body ← match first, last with
    | some first, some last => sourceBetween first last
    | _, _ => pure ""
  return some ("$" ++ name ++ "$" ++ body ++ "$" ++ name ++ "$")

/-- The body of a function that is no tagged text: its text, and the properties after it. -/
def functionBody (r : Rules) : Parser (String × List PropertyText) := do
  let dialect ← dialect
  if let some token ← takeIf fun token => dialect.isCommandWord token.kind then
    return (← commandText token, [])
  let begins ← word "BEGIN"
  let returns ← texts ["RETURN"]
  let (body, after) ← do
    if ← sees .string then
      let text ← optionalTextOf (← string)
      pure (text, ← properties r)
    else if dialect.isNamed "clickhouse" then
      pure (← optionalTextOf (← argument r r.assignment), [])
    else pure (((← r.statement).map (·.asQuery.sql dialect)).getD "", [])
  let ends ← texts ["END"]
  let shown := if returns then words ["RETURN", body] else body
  let lead := if returns && dialect.isOneOf ["databricks", "spark", "spark2"] then "" else "AS"
  return (if shown.isEmpty then ""
    else words [lead, if begins then "BEGIN" else "", shown, if ends then "END" else ""], after)

/-- Whether the parameters of a procedure can start here without parentheses. -/
def seesOpenParams (isFunction : Bool) : Parser Bool := do
  return (← dialect).isNamed "tsql" && !isFunction && !(← seesWord "AS") && !(← seesWord "WITH")

/-- A function or procedure, after the words before its name, as text. -/
def createFunction (r : Rules) (head : CreateHead) (isFunction : Bool) : Parser String := do
  let dialect ← dialect
  let target ← plainTable r
  let params ← if ← seesMark "(" then
      let items ← wrappedList (functionParam r)
      pure ("(" ++ ", ".intercalate (items.map (·.sql dialect)) ++ ")")
    else if ← seesOpenParams isFunction then
      pure (spaced (", ".intercalate ((← commaList (functionParam r)).map (·.sql dialect))))
    else pure ""
  let before ← properties r
  let tagged ← if ← word "AS" then taggedBody else pure none
  let between ← properties r
  let (body, after) ← match tagged with
    | some text => pure ("AS " ++ text, [])
    | none => functionBody r
  let found := head.properties ++ before ++ between ++ after
  return words [head.text found, target.sql dialect ++ params ++ nameProperties found ++
    schemaProperties dialect found ++ spaced body] ++
    String.join ((placed .afterBody found).map spaced)

/-! ## Other objects -/

/-- An index, after the words before its name, as text; `none` when it has no name. -/
def createIndex (r : Rules) (head : CreateHead) : Parser (Option String) := do
  let dialect ← dialect
  let anonymous ← word "ON"
  let label ← if anonymous then pure none else anyName
  if !anonymous && label.isNone then return none
  discard (word "ON")
  discard (word "TABLE")
  let table ← plainTable r
  let params ← indexParams r
  return some (words [head.text head.properties, (label.map (·.sql dialect)).getD "", "ON",
    table.sql dialect ++ params])

/-- An index that is written after the columns of a table, as text. -/
def tableIndex (r : Rules) : Parser (Option String) := do
  let unique ← word "UNIQUE"
  let primary ← texts ["PRIMARY"]
  let amp ← texts ["AMP"]
  unless ← word "INDEX" do return none
  let label ← anyName
  let params ← indexParams r
  return some (words [if unique then "UNIQUE" else "", if primary then "PRIMARY" else "",
    if amp then "AMP" else "", "INDEX", (label.map (·.sql (← dialect))).getD ""] ++ " " ++ params)

/-- The indexes after the columns of a table, and the properties between them. -/
def tableIndexes (r : Rules) : Parser (List String × List PropertyText) := do
  let found ← many do
    match ← tableIndex r with
    | some text =>
      let after ← properties r
      discard (mark ",")
      return some (text, after)
    | none => return none
  let last ← properties r
  return (found.map Prod.fst, found.flatMap Prod.snd ++ last)

/-- Whether a query can start here. -/
def seesQuery : Parser Bool := do
  return (← seesWord "SELECT") || (← seesWord "WITH") || (← seesMark "(")

/-- The object that a new one is copied from, as text. -/
def cloneText (r : Rules) : Parser String := do
  let dialect ← dialect
  let shallow ← texts ["SHALLOW"]
  match ← anyText ["CLONE", "COPY"] with
  | some token =>
    let source ← need "table" (r.table { schema := true })
    let columns := schemaText dialect (← schemaList r)
    return words [if shallow then "SHALLOW" else "", token.upper, source.sql dialect ++ columns]
  | none => return ""

/-- An entry of a list of columns without what is inside its type. -/
def SchemaItem.flat : SchemaItem → SchemaItem
  | .column ident (some (.nested text filled)) constraints comments =>
    .column ident (some (.nested (String.ofList (text.toList.takeWhile (· != '('))) filled))
      constraints comments
  | item => item

/-- A list of columns as a created table has it: some dialects keep the types inside types only for
tables of a certain format. -/
def Dialect.keptSchema (dialect : Dialect) (found : List PropertyText)
    (schema : Option (List SchemaItem)) :
    Option (List SchemaItem) :=
  if dialect.isNamed "snowflake" && found.all (·.text != "ICEBERG") then
    schema.map (·.map SchemaItem.flat)
  else schema

/-- A table, a view, a schema or the like, after the words before its name. -/
def createObject (r : Rules) (head : CreateHead) : Parser CreateTerm := do
  let dialect ← dialect
  let name ← plainTable r
  let target :=
    if head.kind == "SCHEMA" then { name with name := none, db := name.name, catalog := name.db }
    else name
  discard (mark ",")
  let early ← earlyProperties r
  let schema ← schemaList r
  let schemaComments ← if schema.isSome then claim else pure []
  let middle ← properties r
  discard (word "AS")
  let late ← if ← seesQuery then pure [] else properties r
  let isSequence := head.kind == "SEQUENCE"
  let type ← if isSequence then r.typeName {} else pure none
  let afterType ← if isSequence then properties r else pure []
  let body ← if isSequence then pure none else bodyQuery r
  let afterBody ← if head.kind == "TABLE" then properties r else pure []
  let (indexes, last) ← if head.kind == "TABLE" then tableIndexes r else pure ([], [])
  let unbound ← onlyIf (head.kind == "VIEW") (texts ["WITH", "NO", "SCHEMA", "BINDING"])
  let clone ← cloneText r
  let isTemporary := (name.name.bind (·.shown)).any fun shown => shown.startsWith "#" &&
    !shown.startsWith "##"
  let temporary : List PropertyText := if isTemporary then [{ place := .hidden, text := "" }]
    else []
  let found := head.properties ++ early ++ middle ++ late ++ afterType ++ afterBody ++ last ++
    temporary
  let bodyText := match body, type with
    | some query, _ => " AS " ++ query.sql dialect
    | none, some type => " AS " ++ type.sql dialect
    | none, none => ""
  let properties := schemaProperties dialect found
  let text := words ([head.text found,
      withComments (target.sql dialect ++ nameProperties found ++
          schemaText dialect (dialect.keptSchema found schema)) schemaComments ++
        if isSequence then bodyText ++ properties else properties ++ bodyText] ++
    placed .afterBody found ++ indexes ++ [if unbound then "WITH NO SCHEMA BINDING" else "", clone])
  return { kind := head.kind, target := target, schema := schema,
           properties := found.map (·.property), replace := head.replace,
           ifNotExists := head.ifNotExists, body := body, text := text }

/-- A CREATE statement after its keyword. -/
def createStatement (r : Rules) (start : Token) : Parser Parsed := do
  let replace ← do
    if start.kind == .keyword "REPLACE" then pure true
    else if ← pair (.keyword "OR") (.keyword "REPLACE") then pure true
    else pair (.keyword "OR") (.keyword "ALTER")
  let refresh ← pair (.keyword "OR") (.keyword "REFRESH")
  let unique ← word "UNIQUE"
  let columnStore ← do
    if ← texts ["CLUSTERED", "COLUMNSTORE"] then pure "CLUSTERED COLUMNSTORE"
    else if ← texts ["NONCLUSTERED", "COLUMNSTORE"] then pure "NONCLUSTERED COLUMNSTORE"
    else if ← texts ["COLUMNSTORE"] then pure "NONCLUSTERED COLUMNSTORE"
    else pure ""
  if (← seesWord "TABLE") && (← seesAt 1 (.keyword "FUNCTION")) then advance
  let direct ← anyWord creatableKinds
  let early ← if direct.isSome then pure [] else properties r
  let kind ← if direct.isSome then pure direct
    else if early.isEmpty then pure none else anyWord creatableKinds
  match kind with
  | none => asCommand start
  | some token =>
    let concurrently ← texts ["CONCURRENTLY"]
    let absent ← ifNotExists
    let head : CreateHead :=
      { columnStore := columnStore, replace := replace
        replaceWords := if (← dialect).isNamed "tsql" then "OR ALTER" else "OR REPLACE"
        refresh := refresh, unique := unique, kind := token.upper, concurrently := concurrently
        ifNotExists := absent, properties := early }
    let made ← match token.kind with
      | .keyword "FUNCTION" | .keyword "PROCEDURE" =>
        let isFunction := token.kind == .keyword "FUNCTION"
        pure (some (Parsed.other "Create" (← createFunction r head isFunction)))
      | .keyword "INDEX" => pure ((← createIndex r head).map (Parsed.other "Create"))
      | .keyword "COLUMN" | .keyword "CONSTRAINT" | .keyword "FOREIGN KEY" => pure none
      | _ => pure (some (.create (← createObject r head)))
    match ← peek? with
    | some next =>
      unless next.kind == .symbol ")" || next.kind == .symbol "," do return ← asCommand start
      need "object" (pure made)
    | none => need "object" (pure made)

end SqlLayout.Grammar
