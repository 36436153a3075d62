import SqlLayout.Grammar.Parser.Session

/-!
# Listings

Statements that describe an object or list the objects of a kind.  These statements are kept as
their canonical text.  What can be listed, and what narrows a listing, depends on the dialect.
-/

namespace SqlLayout.Grammar

open SqlLayout.Grammar.Parser

/-! ## Descriptions -/

/-- The description of an object, as text. -/
def describeText (r : Rules) : Parser String := do
  let dialect ← dialect
  let kind ← anyWord creatableKinds
  let style ← match ← anyText ["EXTENDED", "FORMATTED", "HISTORY"] with
    | some token =>
      if ← seesMark "." then
        goTo ((← position) - 1)
        pure ""
      else pure token.upper
    | none => pure ""
  let target ← tableAndColumns r
  let found ← properties r
  let part ← partitionText r
  let text := if dialect.isNamed "snowflake" then
      words ["DESCRIBE", (kind.map (·.text)).getD "TABLE", target,
        ", ".intercalate (found.map (·.text))]
    else words ["DESCRIBE", style, target] ++ part
  return withComments text (← claim)

/-! ## Listings of a schema -/

/-- What can be listed, as the words for it. -/
def listedKinds : List (List String) :=
  [["SCHEMAS"], ["OBJECTS"], ["TABLES"], ["VIEWS"], ["PRIMARY", "KEYS"], ["IMPORTED", "KEYS"],
   ["UNIQUE", "KEYS"], ["SEQUENCES"], ["COLUMNS"], ["USERS"]]

/-- Listed things that belong to a schema; others belong to a table. -/
def schemaListings : List String :=
  ["OBJECTS", "TABLES", "VIEWS", "SEQUENCES", "UNIQUE KEYS", "IMPORTED KEYS"]

/-- Where the listed things are, as text. -/
def listingScope (r : Rules) (listed : String) : Parser String := do
  unless ← word "IN" do return ""
  let dialect ← dialect
  let place : Parser String := do
    if (← peek?).isNone then return "" else return (← tableName r false).table.sql dialect
  if ← texts ["ACCOUNT"] then return "IN ACCOUNT"
  let within := ["COLUMN", "CONSTRAINT", "FOREIGN KEY", "FUNCTION", "INDEX", "PROCEDURE"]
  match ← anyWord (creatableKinds.filter fun kind => !within.contains kind) with
  | some token => return words ["IN", token.upper, ← place]
  | none =>
    if (← peek?).isNone then return ""
    return words ["IN", if schemaListings.contains listed then "SCHEMA" else "TABLE", ← place]

/-- A clause behind its keyword, unless it is empty. -/
def clauseText (keyword text : String) : String :=
  if text.isEmpty then "" else keyword ++ " " ++ text

/-- A listing of the objects in a schema or an account, after its keyword. -/
def schemaListing (r : Rules) (start : Token) : Parser Parsed := do
  let dialect ← dialect
  let terse ← texts ["TERSE"]
  match ← phraseOf listedKinds with
  | none => asCommand start
  | some listed =>
    let isPlain := !listed.toList.contains ' '
    let history ← texts ["HISTORY"]
    let like ← if ← word "LIKE" then optionalTextOf (← string) else pure ""
    let scope ← listingScope r listed
    let first ← if ← texts ["STARTS", "WITH"] then optionalTextOf (← string) else pure ""
    let limit ← limitClause r
    let source ← if ← word "FROM" then optionalTextOf (← string) else pure ""
    return .other "Show" (words ["SHOW", if terse && isPlain then "TERSE" else "", listed,
      if history then "HISTORY" else "", clauseText "LIKE" like, scope,
      clauseText "STARTS WITH" first, (limitText dialect limit).stripBlanks,
      clauseText "FROM" source])

/-! ## Listings of a server -/

/-- What a listing of a server looks for beside the kind of its objects. -/
structure ServerListing where
  /-- The words for it. -/
  words : List String
  /-- How it is written, if not with these words. -/
  shown : Option String := none
  /-- The word before the name of the object it is about. -/
  target : Option String := none
  /-- Whether it is about an object. -/
  named : Bool := false
  /-- A word before it that is kept. -/
  scope : String := ""

/-- The listings of a server. -/
def serverListings : List ServerListing :=
  [{ words := ["BINARY", "LOGS"] }, { words := ["MASTER", "LOGS"], shown := some "BINARY LOGS" },
   { words := ["BINLOG", "EVENTS"] }, { words := ["CHARACTER SET"] },
   { words := ["CHARSET"], shown := some "CHARACTER SET" }, { words := ["COLLATION"] },
   { words := ["FULL", "COLUMNS"], shown := some "COLUMNS", target := some "FROM", named := true,
     scope := "FULL" },
   { words := ["COLUMNS"], target := some "FROM", named := true }] ++
  (["DATABASE", "EVENT", "FUNCTION", "PROCEDURE", "TABLE", "TRIGGER", "VIEW"].map fun kind =>
    { words := ["CREATE", kind], named := true }) ++
  [{ words := ["DATABASES"] }, { words := ["SCHEMAS"], shown := some "DATABASES" },
   { words := ["ENGINE"], named := true },
   { words := ["STORAGE", "ENGINES"], shown := some "ENGINES" },
   { words := ["ENGINES"] }, { words := ["ERRORS"] }, { words := ["EVENTS"] },
   { words := ["FUNCTION", "CODE"], named := true }, { words := ["FUNCTION", "STATUS"] },
   { words := ["GRANTS"], target := some "FOR", named := true },
   { words := ["INDEX"], target := some "FROM", named := true }, { words := ["MASTER", "STATUS"] },
   { words := ["OPEN", "TABLES"] }, { words := ["PLUGINS"] },
   { words := ["PROCEDURE", "CODE"], named := true },
   { words := ["PROCEDURE", "STATUS"] }, { words := ["PRIVILEGES"] },
   { words := ["FULL", "PROCESSLIST"], shown := some "PROCESSLIST", scope := "FULL" },
   { words := ["PROCESSLIST"] }, { words := ["PROFILE"] }, { words := ["PROFILES"] },
   { words := ["RELAYLOG", "EVENTS"] }, { words := ["REPLICAS"] },
   { words := ["SLAVE", "HOSTS"], shown := some "REPLICAS" }, { words := ["REPLICA", "STATUS"] },
   { words := ["SLAVE", "STATUS"], shown := some "REPLICA STATUS" },
   { words := ["GLOBAL", "STATUS"], shown := some "STATUS", scope := "GLOBAL" },
   { words := ["SESSION", "STATUS"], shown := some "STATUS" }, { words := ["STATUS"] },
   { words := ["TABLE", "STATUS"] },
   { words := ["FULL", "TABLES"], shown := some "TABLES", scope := "FULL" },
   { words := ["TABLES"] }, { words := ["TRIGGERS"] },
   { words := ["GLOBAL", "VARIABLES"], shown := some "VARIABLES", scope := "GLOBAL" },
   { words := ["SESSION", "VARIABLES"], shown := some "VARIABLES" }, { words := ["VARIABLES"] },
   { words := ["WARNINGS"] }]

/-- The kind of a listing as it is written. -/
def ServerListing.kind (listing : ServerListing) : String :=
  listing.shown.getD (" ".intercalate listing.words)

/-- The listing whose words come next. -/
def serverListing : Parser (Option ServerListing) :=
  firstOf (serverListings.map fun listing => do
    if ← texts listing.words then return some listing else return none)

/-- What a profile of a query can measure. -/
def profileMeasures : List (List String) :=
  [["ALL"], ["BLOCK", "IO"], ["CONTEXT", "SWITCHES"], ["CPU"], ["IPC"], ["MEMORY"],
    ["PAGE", "FAULTS"],
   ["SOURCE"], ["SWAPS"]]

/-- The number behind words that come next, as text with these words before it. -/
def numberAfter (keywords : List String) : Parser String := do
  if ← texts keywords then return clauseText (" ".intercalate keywords) (← numberText)
  else return ""

/-- The part of a profile that is shown: what is measured, and the query, the rows and their
start. -/
def profileText : Parser (String × String × String) := do
  let measures ← commaList do
    if (← peek?).isNone then return none
    else return some (← need "measure" (phraseOf profileMeasures))
  let query ← numberAfter ["FOR", "QUERY"]
  let offset ← numberAfter ["OFFSET"]
  return (", ".intercalate measures, query, words [offset, ← numberAfter ["LIMIT"]])

/-- A limit whose first number is the start when there are two. -/
def pairLimit : Parser String := do
  unless ← texts ["LIMIT"] do return ""
  let numbers ← commaList do return some (← numberText)
  return if numbers.length == 1 || numbers.length ==
    2 then clauseText "LIMIT" (", ".intercalate numbers) else ""

/-- A string behind a word, as text with the word before it. -/
def stringAfter (keyword : String) : Parser String := do
  if ← texts [keyword] then return clauseText keyword (← optionalTextOf (← string)) else return ""

/-- A listing of what a server holds, after its keyword. -/
def serverListingStatement (r : Rules) (start : Token) : Parser Parsed := do
  let dialect ← dialect
  match ← serverListing with
  | none => asCommand start
  | some listing =>
    let kind := listing.kind
    discard (texts listing.target.toList)
    let first ← if listing.named then anyName else pure none
    let log ← stringAfter "IN"
    let isLog := kind == "BINLOG EVENTS" || kind == "RELAYLOG EVENTS"
    let place ← if isLog then numberAfter ["FROM"] else pure ""
    let fromPlace ← onlyIf (!isLog) (word "FROM")
    let dotted ← onlyIf (!isLog && !fromPlace) (mark ".")
    let second ← if fromPlace || dotted then anyName else pure none
    let (target, db) := if dotted then (second, first) else (first, second)
    let shown (ident : Option Ident) : String := (ident.map (·.sql dialect)).getD ""
    let channel ← if ← texts ["FOR", "CHANNEL"] then
      pure (clauseText "FOR CHANNEL" (shown (← anyName))) else pure ""
    let like ← stringAfter "LIKE"
    let filter ← filterOf r
    let (measures, query, limit) ← if kind == "PROFILE" then profileText
      else pure ("", "", ← pairLimit)
    let isMutex ← texts ["MUTEX"]
    discard (texts ["STATUS"])
    let state := if kind != "ENGINE" then "" else if isMutex then "MUTEX" else "STATUS"
    let lead := if kind == "COLUMNS" || kind == "INDEX" then "FROM"
      else if kind == "GRANTS" then "FOR" else ""
    return .other "Show" (words ["SHOW", listing.scope, kind, lead, shown target, measures,
      clauseText "FROM" (shown db), query, log, place, channel, state, like,
      (filterText dialect filter).stripBlanks, limit])

/-- A SHOW statement after its keyword. -/
def showStatement (r : Rules) (start : Token) : Parser Parsed := do
  if (← dialect).likeMysql then serverListingStatement r start else schemaListing r start

end SqlLayout.Grammar
