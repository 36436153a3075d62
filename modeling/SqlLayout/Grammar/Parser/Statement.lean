import SqlLayout.Grammar.Parser.Listing

/-!
# Statements

A statement starts with a keyword of its own, or it is an expression or a query.
-/

namespace SqlLayout.Grammar

open SqlLayout.Grammar.Parser

/-- A statement that is a command word with the text behind it. -/
def commandStatement (keyword : Token) : Parser Parsed := do
  let tokens := (← read).tokens
  if let some first := tokens[0]? then
    if tokens.size > 1 then
      let shown := ((← sourceBetween first (tokens.back?.getD first)).toList).take 100
      warn ("'" ++ String.ofList shown ++
        "' contains unsupported syntax. Falling back to parsing as a 'Command'.")
  let body ← takeIf (·.kind == .string)
  return .other "Command" (keyword.upper ++ " " ++ ((body.map (·.text)).getD "").stripBlanks)

/-- A value whose rows become columns: a term, the values it can have, or a term with a label. -/
def spreadValue (r : Rules) : Parser (Option Term) := do
  match ← r.bitwise with
  | none => return none
  | some term =>
    if ← word "IN" then return some (← inPredicate r term)
    else if ← seesWord "AS" then withLabel term
    else return some term

/-- A statement that makes columns of the values of rows, after its keyword. -/
def pivotStatement (r : Rules) : Parser Parsed := do
  let dialect ← dialect
  let source := ((← r.table {}).map (·.sql dialect)).getD ""
  let values ← if ← word "ON" then commaList (spreadValue r) else pure []
  let results ← if ← word "USING" then commaList (do withLabel (← call r {})) else pure []
  let group ← groupClause r
  if values.isEmpty then return .other "Pivot" ("UNPIVOT " ++ source)
  let listed (keyword : String) (terms : List Term) : String :=
    if terms.isEmpty then "" else keyword ++ ", ".intercalate (termTexts dialect terms)
  return .other "Pivot" (words ["PIVOT", source, listed "ON " values, listed "USING " results] ++
    optionalText "GROUP BY" (optionalGroupText dialect group))

/-- The keywords that start a statement of their own. -/
def Dialect.statementKeywords (dialect : Dialect) : List String :=
  ["ALTER", "BEGIN", "CACHE", "COMMENT", "COMMIT", "COPY", "CREATE", "DELETE", "DESC",
    "DESCRIBE", "DROP",
   "GRANT", "INSERT", "KILL", "LOAD", "MERGE", "PIVOT", "PRAGMA", "REFRESH", "ROLLBACK", "SET",
   "TRUNCATE", "UNCACHE", "UPDATE", "USE"] ++
    (if dialect.isNamed "snowflake" || dialect.likeMysql then ["SHOW"] else []) ++
    (if dialect.isNamed "duckdb" then ["ATTACH", "DETACH"] else []) ++
    if dialect.isNamed "tsql" then ["DECLARE"] else []

/-- The statement that starts with a keyword, after that keyword. -/
def keywordStatement (r : Rules) (start : Token) (keyword : String) : Parser Parsed := do
  match keyword with
  | "ALTER" => alterStatement r start
  | "ATTACH" => attachStatement r
  | "BEGIN" => beginStatement start
  | "CACHE" => cacheStatement r
  | "COMMENT" => commentStatement r start
  | "COMMIT" => endStatement false
  | "COPY" => copyStatement r start
  | "CREATE" => createStatement r start
  | "DECLARE" => declareStatement r start
  | "DELETE" => deleteStatement r
  | "DETACH" => detachStatement r
  | "DROP" => dropStatement r start
  | "GRANT" => grantStatement r start
  | "INSERT" => insertStatement r
  | "KILL" => killStatement r
  | "LOAD" => loadStatement r start
  | "MERGE" => mergeStatement r
  | "PIVOT" => pivotStatement r
  | "PRAGMA" =>
    let term ← need "expression" r.expression
    return .other "Pragma" ("PRAGMA " ++ term.sql (← dialect))
  | "REFRESH" => refreshStatement r
  | "ROLLBACK" => endStatement true
  | "SET" => setStatement r start
  | "SHOW" => showStatement r start
  | "TRUNCATE" => truncateStatement r start
  | "UNCACHE" => uncacheStatement r
  | "UPDATE" => updateStatement r
  | "USE" => useStatement r
  | _ => return .other "Describe" (← describeText r)

/-- Kinds of statement whose comments stand before them. -/
def commentsFirst : List String :=
  ["Command", "Create", "Describe", "Delete", "Drop", "Insert", "MultitableInserts", "Update"]

/-- The text of a statement with the comments at its first word. -/
def commentedText (kind text : String) (comments : List String) : String :=
  if commentsFirst.contains kind then leadingComments comments ++ text
  else withComments text comments

/-- A statement with the comments at its first word. -/
def Parsed.withComments (comments : List String) : Parsed → Parsed
  | .query q => .query q
  | .create c => .create { c with text := commentedText "Create" c.text comments }
  | .insert i => .insert { i with text := commentedText "Insert" i.text comments }
  | .update u => .update { u with text := commentedText "Update" u.text comments }
  | .delete d => .delete { d with text := commentedText "Delete" d.text comments }
  | .other kind text => .other kind (commentedText kind text comments)

/-- Whether a statement is kept as it is written. -/
def Parsed.isCommand : Parsed → Bool
  | .other "Command" _ => true
  | _ => false

/-- A term in a place where a query is expected. -/
def Term.asQuery (dialect : Dialect) : Term → Query
  | .query q => q
  | term => .other term.kindName (term.sql dialect)

/-- An expression or a query as a statement. -/
def queryStatement (r : Rules) : Parser (Option Parsed) := do
  if let some statement ← statementWithNamed r then
    match statement with
    | .query q => return some (.query (← withClauses r q))
    | statement => return some statement
  let found ← match ← r.expression with
    | some term => pure (some (← withSetOps r (term.asQuery (← dialect))))
    | none => query r {}
  match found with
  | some q => return some (.query (← withClauses r q))
  | none => return none

/-- A statement. -/
def statement (r : Rules) : Parser (Option Parsed) := do
  let dialect ← dialect
  if let some token ← anyWord dialect.statementKeywords then
    match token.kind with
    | .keyword keyword =>
      let parsed ← keywordStatement r token keyword
      let own ← if parsed.isCommand then pure [] else claim
      return some (parsed.withComments (token.comments ++ own))
    | _ => return none
  if let some token ← takeIf (·.kind == .symbol ";") then
    return some (.other "Semicolon" (" ".intercalate (commentTexts token.comments)))
  if let some token ← takeIf fun token => dialect.isCommandWord token.kind then
    let parsed ← commandStatement token
    return some (parsed.withComments token.comments)
  queryStatement r

end SqlLayout.Grammar
