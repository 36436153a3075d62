import SqlLayout.Grammar.Parser.Objects

/-!
# Sessions

Transactions, settings, privileges, files and what else a session is controlled by.  These
statements are kept as their canonical text.
-/

namespace SqlLayout.Grammar

open SqlLayout.Grammar.Parser

/-! ## Transactions -/

/-- A transaction that can have a name, after BEGIN. -/
def namedBegin (start : Token) : Parser Parsed := do
  if (← anyText ["TRAN", "TRANSACTION"]).isNone then return ← asCommand start
  let label ← anyName
  let note ← if ← texts ["WITH", "MARK"] then pure ("WITH MARK " ++ (← optionalTextOf (← string)))
    else pure ""
  return .other "Transaction"
    (words ["BEGIN TRANSACTION", (label.map (·.sql (← dialect))).getD "", note])

/-- The end of a transaction that can have a name, after its keyword. -/
def namedEnd (rollback : Bool) : Parser Parsed := do
  discard (anyText ["TRAN", "TRANSACTION"])
  let label := ((← anyName).map (·.sql (← dialect))).getD ""
  if rollback then return .other "Rollback" (words ["ROLLBACK TRANSACTION", label])
  let durability ← if ← pair (.keyword "WITH") (.symbol "(") then
      discard (texts ["DELAYED_DURABILITY"])
      discard (mark "=")
      let isOff ← texts ["OFF"]
      unless isOff do discard (word "ON")
      close
      pure ("WITH (DELAYED_DURABILITY = " ++ (if isOff then "OFF)" else "ON)"))
    else pure ""
  return .other "Commit" (words ["COMMIT TRANSACTION", label, durability])

/-- The start of a transaction as the dialect writes it; few keep its kind or its modes. -/
def Dialect.beginText (dialect : Dialect) (kind : String) (modes : List String) : String :=
  if dialect.isNamed "bigquery" then "BEGIN TRANSACTION"
  else if dialect.isNamed "sqlite" then words ["BEGIN", kind, "TRANSACTION"]
  else if dialect.likePresto then words ["START TRANSACTION", ", ".intercalate modes]
  else "BEGIN"

/-- The modes of a transaction, each as text. -/
def transactionModes : Parser (List String) := do
  let (modes, _) ← iterate (fun ((modes, goesOn) : List String × Bool) => do
    unless goesOn do return none
    let mode := " ".intercalate ((← many (takeIf (·.kind == .name))).map (·.text))
    return some (if mode.isEmpty then modes else modes ++ [mode], ← mark ",")) (([],
      true) : List String × Bool)
  return modes

/-- A BEGIN statement after its keyword. -/
def beginStatement (start : Token) : Parser Parsed := do
  if (← dialect).isNamed "tsql" then return ← namedBegin start
  let kind ← anyText ["DEFERRED", "IMMEDIATE", "EXCLUSIVE"]
  discard (anyText ["TRANSACTION", "WORK"])
  let modes ← transactionModes
  return .other "Transaction" ((← dialect).beginText ((kind.map (·.text)).getD "") modes)

/-- A COMMIT or ROLLBACK statement after its keyword. -/
def endStatement (rollback : Bool) : Parser Parsed := do
  if (← dialect).isNamed "tsql" then return ← namedEnd rollback
  discard (anyText ["TRANSACTION", "WORK"])
  let savepoint ← if ← texts ["TO"] then
      discard (texts ["SAVEPOINT"])
      anyName
    else pure none
  let chain ← if ← word "AND" then
      let no ← texts ["NO"]
      discard (texts ["CHAIN"])
      pure (if no then "AND NO CHAIN" else "AND CHAIN")
    else pure ""
  if (← dialect).isNamed "bigquery" then
    return if rollback then .other "Rollback" "ROLLBACK TRANSACTION"
      else .other "Commit" "COMMIT TRANSACTION"
  if rollback then
    let shown := (savepoint.map (·.sql (← dialect))).getD ""
    return .other "Rollback" (words ["ROLLBACK", if savepoint.isSome then "TO " ++ shown else ""])
  else return .other "Commit" (words ["COMMIT", chain])

/-! ## Settings -/

/-- A USE statement after its keyword. -/
def useStatement (r : Rules) : Parser Parsed := do
  let kind ← anyText ["ROLE", "WAREHOUSE", "DATABASE", "SCHEMA", "CATALOG"]
  let target ← r.table {}
  return .other "Use" (words ["USE", (kind.map (·.upper)).getD "",
    (target.map (·.sql (← dialect))).getD ""])

/-- What can be said about a transaction before it starts. -/
def transactionOptions : List (List String) :=
  [["ISOLATION", "LEVEL", "REPEATABLE", "READ"], ["ISOLATION", "LEVEL", "READ", "COMMITTED"],
   ["ISOLATION", "LEVEL", "READ", "UNCOMITTED"], ["ISOLATION", "LEVEL", "SERIALIZABLE"],
   ["READ", "WRITE"], ["READ", "ONLY"]]

/-- The options of a transaction, as text. -/
def transactionText : Parser String := do
  discard (texts ["TRANSACTION"])
  let options ← commaList do
    if (← peek?).isNone then return none
    else return some (← need "option" (phraseOf transactionOptions))
  return words ["TRANSACTION", ", ".intercalate options]

/-- The value of an assignment; only the last part of a name with dots is kept. -/
def assignedValue (r : Rules) : Parser String := do
  let dialect ← dialect
  let start ← position
  match ← r.statement with
  | some (.query (.other "Column" text)) =>
    let stop ← position
    goTo start
    let term ← r.expression
    goTo stop
    return match term with
      | some (.column parts _) => (parts.getLast?.map (·.name)).getD text
      | _ => text
  | some statement => return statement.asQuery.sql dialect
  | none => return (← need "value" anyName).name

/-- A string or a name in a setting, as text. -/
def settingText (r : Rules) : Parser String := do
  match ← string with
  | some term => textOf term
  | none => return (← fieldText r).getD ""

/-- The characters that a session reads and writes, as text, where the dialect sets them. -/
def characterSetting (r : Rules) : Parser (Option String) := do
  unless (← dialect).likeMysql do return none
  if (← anyText ["CHARACTER SET", "CHARSET"]).isSome then
    return some ("CHARACTER SET " ++ (← settingText r))
  if ← texts ["NAMES"] then
    let names ← settingText r
    let order ← if ← texts ["COLLATE"] then pure (" COLLATE " ++ (← settingText r)) else pure ""
    return some ("NAMES " ++ names ++ order)
  return none

/-- How far a setting reaches. -/
def Dialect.settingScopes (dialect : Dialect) : List String :=
  ["GLOBAL", "LOCAL", "SESSION"] ++ if dialect.likeMysql then ["PERSIST", "PERSIST_ONLY"] else []

/-- Whether a sign is written between a setting and its value; some dialects have one only for
variables. -/
def Dialect.settingSign (dialect : Dialect) (setting : String) : Bool :=
  !dialect.isNamed "tsql" || setting.startsWith "@"

/-- One assignment of a SET statement, as text. -/
def setItem (r : Rules) : Parser (Option String) := do
  if ← texts ["TRANSACTION"] then return some (← transactionText)
  if let some text ← characterSetting r then return some text
  let start ← position
  let scope := ((← anyText (← dialect).settingScopes).map (·.upper)).getD ""
  if ← onlyIf (scope == "GLOBAL" || scope == "SESSION") (texts ["TRANSACTION"]) then
    return some (words [if scope == "GLOBAL" then scope else "", ← transactionText])
  let dialect ← dialect
  let left ← firstOf [primary r, r.column]
  let sign ← anyText ["=", ":=", "TO"]
  match left with
  | some left =>
    if sign.isNone && !dialect.isNamed "tsql" then
      goTo start
      return none
    let shown := left.sql dialect
    return some (words [scope, shown,
      if dialect.settingSign shown then "=" else "", ← assignedValue r])
  | none =>
    goTo start
    return none

/-- A SET statement after its keyword. -/
def setStatement (r : Rules) (start : Token) : Parser Parsed := do
  let items ← commaList (setItem r)
  if (← peek?).isSome then asCommand start
  else return .other "Set" (words ["SET", ", ".intercalate items])

/-- A variable of a DECLARE statement with its type and its first value, as text. -/
def declaredItem (r : Rules) : Parser (Option String) := do
  let dialect ← dialect
  match ← name with
  | none => return none
  | some ident =>
    discard (word "AS")
    let type ← do
      if ← word "TABLE" then pure ("TABLE" ++ schemaText dialect (← schemaList r))
      else pure (((← r.typeName {}).map (·.sql dialect)).getD "")
    let value ← if ← mark "=" then pure (" = " ++ (← optionalTextOf (← r.bitwise))) else pure ""
    return some (ident.sql dialect ++ " AS " ++ type ++ value)

/-- A DECLARE statement after its keyword. -/
def declareStatement (r : Rules) (start : Token) : Parser Parsed := do
  let items ← attempt do
    let items ← commaList (declaredItem r)
    return if items.isEmpty then none else some items
  match items, ← peek? with
  | some items, none => return .other "Declare" ("DECLARE " ++ ", ".intercalate items)
  | _, _ => asCommand start

/-! ## Files -/

/-- One parameter of a COPY statement, as text. -/
def copyParameter (r : Rules) : Parser (Option String) := do
  if ← seesMark ")" then return none
  match ← plainWord true with
  | none => return none
  | some option =>
    let dialect ← dialect
    let key := option.upperCase
    discard (mark "=")
    discard (word "AS")
    let listed := ["FILE_FORMAT", "COPY_OPTIONS", "FORMAT_OPTIONS", "CREDENTIAL"].contains key
    let text ← if ← onlyIf listed (seesMark "(") then
        let values := (if key == "FILE_FORMAT" then " " else ", ").intercalate (← wrappedOptions r)
        let sign := if key == "COPY_OPTIONS" || key == "FORMAT_OPTIONS" then " " else " = "
        pure (option ++ sign ++ "(" ++ values ++ ")")
      else
        let value := (← fieldText r).getD ""
        let sign := if dialect.isNamed "snowflake" then " = " else " "
        pure (if value.isEmpty then option else option ++ sign ++ value)
    unless dialect.isNamed "snowflake" do discard (mark ",")
    return some text

/-- How a COPY statement reaches its files, as text. -/
def copyCredentials (r : Rules) : Parser String := do
  let storage ← if ← texts ["STORAGE_INTEGRATION", "="] then
      pure ("STORAGE_INTEGRATION = " ++ ((← fieldText r).getD ""))
    else pure ""
  let credentials ← if ← texts ["CREDENTIALS"] then
      if ← seesMark "=" then pure ("CREDENTIALS = (" ++ " ".intercalate (← wrappedOptions r) ++ ")")
      else pure ("CREDENTIALS " ++ ((← fieldText r).getD ""))
    else pure ""
  let encryption ← if ← texts ["ENCRYPTION"] then
      pure (" ENCRYPTION = (" ++ " ".intercalate (← wrappedOptions r) ++ ")")
    else pure ""
  let role ← if ← texts ["IAM_ROLE"] then pure ("IAM_ROLE " ++ ((← fieldText r).getD ""))
    else pure ""
  let region ← if ← texts ["REGION"] then pure (" REGION " ++ ((← fieldText r).getD ""))
    else pure ""
  return credentials ++ storage ++ encryption ++ role ++ region

/-- The canonical text of the parameters of a COPY statement. -/
def copyParametersText (dialect : Dialect) (params : List String) : String :=
  if params.isEmpty then ""
  else if dialect.isOneOf ["snowflake", "redshift"] then " ".intercalate params
  else "WITH (" ++ ", ".intercalate params ++ ")"

/-- A place that files come from or go to, as text. -/
def fileText (r : Rules) : Parser (Option String) := do
  let dialect ← dialect
  unless dialect.isNamed "snowflake" do return ← fieldText r
  if ← seesMark "(" then return (← r.query { table := true, label := false }).map (·.sql dialect)
  return some ((← tableName r false).table.sql dialect)

/-- A COPY statement after its keyword. -/
def copyStatement (r : Rules) (start : Token) : Parser Parsed := do
  let dialect ← dialect
  discard (word "INTO")
  let target ← if ← seesMark "(" then
      pure (((← r.query { nested := true, label := false }).map (·.sql dialect)).getD "")
    else tableAndColumns r
  let isImport ← if ← word "FROM" then pure true else pure !(← texts ["TO"])
  let files ← if (← peek?).isNone then pure [] else commaList (fileText r)
  let credentials ← copyCredentials r
  discard (word "WITH")
  let wrapped ← mark "("
  let params ← many (copyParameter r)
  if wrapped then close
  if (← peek?).isSome then asCommand start
  else
    let into := dialect.isOneOf ["duckdb", "postgres", "redshift"]
    return .other "Copy" (words ["COPY", if into then "" else "INTO", target,
      if isImport then "FROM" else "TO", ", ".intercalate files, credentials,
      copyParametersText dialect params])

/-- The database of an ATTACH or DETACH statement with its label, as text. -/
def attachedDatabase (r : Rules) : Parser String := do
  let source ← match ← primary r with
    | some term => pure (some term)
    | none => pure ((← plainWord true).map fun shown => Term.raw "Var" shown)
  optionalTextOf (← withLabel source true)

/-- One option of an ATTACH statement, as text. -/
def attachOption (r : Rules) : Parser (Option String) := do
  match ← plainWord true with
  | some option => return some (words [option, (← fieldText r).getD ""])
  | none => return none

/-- An ATTACH statement after its keyword. -/
def attachStatement (r : Rules) : Parser Parsed := do
  discard (word "DATABASE")
  let absent ← ifNotExists
  let database ← attachedDatabase r
  let options ← if ← seesMark "(" then wrappedList (attachOption r) else pure []
  return .other "Attach" (words ["ATTACH", if absent then "IF NOT EXISTS" else "", database,
    if options.isEmpty then "" else "(" ++ ", ".intercalate options ++ ")"])

/-- A DETACH statement after its keyword. -/
def detachStatement (r : Rules) : Parser Parsed := do
  discard (word "DATABASE")
  let present ← ifExists
  return .other "Detach" (words ["DETACH",
    if present then "IF EXISTS" else "", ← attachedDatabase r])

/-- A LOAD statement after its keyword. -/
def loadStatement (r : Rules) (start : Token) : Parser Parsed := do
  unless ← texts ["DATA"] do return ← asCommand start
  let isLocal ← texts ["LOCAL"]
  discard (texts ["INPATH"])
  let path ← optionalTextOf (← string)
  let overwrite ← word "OVERWRITE"
  discard (pair (.keyword "INTO") (.keyword "TABLE"))
  let table ← tableAndColumns r
  let part ← partitionText r
  let option (keyword : String) : Parser String := do
    if ← texts [keyword] then return keyword ++ " " ++ (← optionalTextOf (← string)) else return ""
  let format ← option "INPUTFORMAT"
  let serde ← option "SERDE"
  return .other "LoadData" (words ["LOAD DATA", if isLocal then "LOCAL" else "", "INPATH", path,
    if overwrite then "OVERWRITE" else "", "INTO TABLE", table ++ part, format, serde])

/-! ## Privileges, caches and processes -/

/-- A GRANT statement after its keyword. -/
def grantStatement (r : Rules) (start : Token) : Parser Parsed := do
  let dialect ← dialect
  let privileges ← commaList do
    let found ← many (takeIf fun token => token.kind != .symbol "," && token.kind != .symbol "(" &&
      token.kind != .keyword "ON")
    if found.isEmpty then return none
    let columns ← if ← seesMark "(" then
        pure ("(" ++ ", ".intercalate ((← wrappedList r.column).map (·.sql dialect)) ++ ")")
      else pure ""
    return some (words [" ".intercalate (found.map (·.upper)), columns])
  discard (word "ON")
  let kind ← anyWord creatableKinds
  match ← attempt do return some (← tableName r false) with
  | none => asCommand start
  | some securable =>
    unless ← texts ["TO"] do return ← asCommand start
    let principals ← commaList do
      let role ← anyText ["ROLE", "GROUP"]
      return (← anyName).map fun ident => words [(role.map (·.upper)).getD "", ident.sql dialect]
    let option ← texts ["WITH", "GRANT", "OPTION"]
    if (← peek?).isSome then asCommand start
    else
      return .other "Grant" (words ["GRANT", ", ".intercalate privileges, "ON",
        (kind.map (·.upper)).getD "", securable.table.sql dialect, "TO",
        ", ".intercalate principals, if option then "WITH GRANT OPTION" else ""])

/-- A CACHE statement after its keyword. -/
def cacheStatement (r : Rules) : Parser Parsed := do
  let dialect ← dialect
  let isLazy ← texts ["LAZY"]
  discard (word "TABLE")
  let table ← tableAndColumns r
  let option ← if ← texts ["OPTIONS"] then
      unless ← mark "(" do fail "("
      let key ← optionalTextOf (← string)
      discard (mark "=")
      let value ← optionalTextOf (← string)
      close
      pure (" OPTIONS(" ++ key ++ " = " ++ value ++ ")")
    else pure ""
  discard (word "AS")
  let body ← r.query { nested := true }
  return .other "Cache" (words ["CACHE", if isLazy then "LAZY" else "", "TABLE", table ++ option] ++
    optionalText "AS" (body.map (·.sql dialect)))

/-- An UNCACHE statement after its keyword. -/
def uncacheStatement (r : Rules) : Parser Parsed := do
  unless ← word "TABLE" do fail "TABLE"
  let present ← ifExists
  return .other "Uncache" (words ["UNCACHE TABLE",
    if present then "IF EXISTS" else "", ← tableAndColumns r])

/-- A REFRESH statement after its keyword. -/
def refreshStatement (r : Rules) : Parser Parsed := do
  discard (word "TABLE")
  match ← string with
  | some term => return .other "Refresh" ("REFRESH " ++ (← textOf term))
  | none =>
    return .other "Refresh" ("REFRESH TABLE " ++ (← need "table" (r.table {})).sql (← dialect))

/-- A KILL statement after its keyword. -/
def killStatement (r : Rules) : Parser Parsed := do
  let kind ← anyText ["CONNECTION", "QUERY"]
  let target ← textOf (← need "target" (primary r))
  return .other "Kill" (words ["KILL", (kind.map (·.text)).getD "", target])

end SqlLayout.Grammar
