import SqlLayout.Grammar.Parser.Table

/-!
# Queries

A query is a SELECT, a query in parentheses, or several of them with set operations between them.
Set operations associate to the left, and the ordering and the limit written after the last operand
belong to the whole chain.
-/

namespace SqlLayout.Grammar

open SqlLayout.Grammar.Parser

/-! ## Grouping -/

/-- What a GROUP BY clause has shown so far. -/
structure GroupingParts where
  items : List Term := []
  sets : List String := []
  cubes : List String := []
  rollups : List String := []
  totals : Bool := false

/-- The text behind the items of a grouping. -/
def GroupingParts.extra (parts : GroupingParts) : String :=
  let groups := [parts.sets, parts.cubes, parts.rollups].filterMap fun texts =>
    if texts.isEmpty then none else some (", ".intercalate texts)
  let text := ", ".intercalate (groups ++ if parts.totals then ["WITH TOTALS"] else [])
  if parts.items.isEmpty || text.isEmpty then text
  else if text == "WITH CUBE" || text == "WITH ROLLUP" then " " ++ text
  else ", " ++ text

/-- One of several groupings at once: columns in parentheses or a single one. -/
def groupingSet (r : Rules) : Parser (Option String) := do
  let dialect ← dialect
  if ← mark "(" then
    let columns ← commaList r.column
    close
    return some ("(" ++ ", ".intercalate (termTexts dialect columns) ++ ")")
  else return (← r.column).map (·.sql dialect)

/-- The columns after CUBE or ROLLUP, as text. -/
def cubeOrRollup (r : Rules) (keyword : String) (afterWith : Bool) : Parser String := do
  if afterWith then return "WITH " ++ keyword
  let columns ← wrappedList r.column
  if columns.isEmpty then return "WITH " ++ keyword
  return keyword ++ " (" ++ ", ".intercalate (termTexts (← dialect) columns) ++ ")"

/-- One round of a GROUP BY clause: items, then CUBE, ROLLUP or grouping sets.  The flag says that
the clause has ended. -/
def groupingRound (r : Rules) (state : GroupingParts × Bool) :
    Parser (Option (GroupingParts × Bool)) := do
  let (parts, ended) := state
  if ended then return none
  let start ← position
  let items ← commaList do
    if (← seesWord "CUBE") || (← seesWord "ROLLUP") then return none else r.assignment
  let parts := { parts with items := parts.items ++ items }
  let before ← position
  let afterWith ← word "WITH"
  let parts ← do
    if ← word "ROLLUP" then
      pure { parts with rollups := parts.rollups ++ [← cubeOrRollup r "ROLLUP" afterWith] }
    else if ← word "CUBE" then
      pure { parts with cubes := parts.cubes ++ [← cubeOrRollup r "CUBE" afterWith] }
    else if ← word "GROUPING SETS" then
      let sets ← wrappedList (groupingSet r)
      pure { parts with sets := parts.sets ++ ["GROUPING SETS (" ++ ", ".intercalate sets ++ ")"] }
    else if ← texts ["TOTALS"] then pure { parts with totals := true }
    else pure parts
  let now ← position
  if now ≤ before + 1 then
    goTo before
    return some (parts, true)
  else return some (parts, now == start)

/-- A GROUP BY clause. -/
def groupClause (r : Rules) : Parser (Option Grouping) := do
  unless ← word "GROUP BY" do return none
  let byAll ← word "ALL"
  unless byAll do discard (word "DISTINCT")
  let (parts, _) ← iterate (groupingRound r) (({} : GroupingParts), false)
  return some (.mk parts.items byAll parts.extra)

/-! ## Clauses after the projection -/

/-- The named windows of a WINDOW clause, as text. -/
def windowClause (r : Rules) : Parser (Option String) := do
  unless ← word "WINDOW" do return none
  let dialect ← dialect
  let windows ← commaList do
    match ← anyName with
    | none => return none
    | some label =>
      discard (word "AS")
      if ← mark "(" then
        let spec ← windowSpec r
        return some (label.sql dialect ++ " AS " ++ (← spec.reference))
      else
        let other ← name
        return some (label.sql dialect ++ " AS " ++ (other.map (·.sql dialect)).getD "()")
  return some ("WINDOW " ++ ", ".intercalate windows)

/-- Dialects that write locks on rows. -/
def Dialect.writesLocks (dialect : Dialect) : Bool :=
  dialect.likeMysql || dialect.likePostgres || dialect.isNamed "oracle"

/-- A lock on the rows of a query, as text. -/
def lockClause (r : Rules) : Parser (Option String) := do
  let dialect ← dialect
  let updates ← texts ["FOR", "UPDATE"]
  let locks ← do
    if updates then pure true
    else if ← texts ["FOR", "SHARE"] then pure true
    else texts ["LOCK", "IN", "SHARE", "MODE"]
  unless locks do return none
  let tables ← if ← texts ["OF"] then commaList (r.table { schema := true }) else pure []
  let wait ← do
    if ← texts ["NOWAIT"] then pure "NOWAIT"
    else if ← texts ["WAIT"] then pure ("WAIT " ++ (← optionalTextOf (← primary r)))
    else if ← texts ["SKIP", "LOCKED"] then pure "SKIP LOCKED"
    else pure ""
  let shown := ", ".intercalate (tables.map (·.sql dialect))
  return some (words [if updates then "FOR UPDATE" else "FOR SHARE",
    if tables.isEmpty then "" else "OF " ++ shown, wait])

/-- The keys that the rows are gathered by, as the dialect writes them behind what stands before. -/
def clusterKeysText (dialect : Dialect) (keys : String) : String :=
  if dialect.isNamed "snowflake" then "CLUSTER BY (" ++ keys ++ ")" else " CLUSTER BY " ++ keys

/-- An ordering within parts of the result, with its keyword. -/
def sortClause (r : Rules) : Parser (Option (String × String)) := do
  match ← anyWord ["CLUSTER BY", "DISTRIBUTE BY", "SORT BY"] with
  | some { kind := .keyword keyword, .. } =>
    let dialect ← dialect
    let keys := ", ".intercalate (orderedTexts dialect (← orderKeys r))
    return some (keyword, if keyword == "CLUSTER BY" then clusterKeysText dialect keys
      else keyword ++ " " ++ keys)
  | _ => return none

/-- A condition of a hierarchy, in which PRIOR is an operator. -/
def hierarchyCondition (r : Rules) : Parser String := do
  modify fun progress => { progress with inHierarchy := true }
  let condition ← need "condition" r.assignment
  modify fun progress => { progress with inHierarchy := false }
  textOf condition

/-- A hierarchy among the rows, as text. -/
def hierarchyClause (r : Rules) : Parser (Option String) := do
  let startText : Parser String := do
    if ← word "START WITH" then
      return "START WITH " ++ (← textOf (← need "condition" r.assignment))
    else return ""
  unless (← seesWord "START WITH") || (← seesWord "CONNECT BY") do return none
  let start ← startText
  discard (word "CONNECT BY")
  let noCycle ← texts ["NOCYCLE"]
  let condition ← hierarchyCondition r
  let start ← if start.isEmpty then startText else pure start
  return some (words [start, "CONNECT BY", if noCycle then "NOCYCLE" else "", condition])

/-- Skips a pattern between parentheses, after the opening one; `depth` counts the open ones
inside. -/
def skipPattern : Nat → Nat → Parser Unit
  | 0, _ => fail ")"
  | rounds + 1, depth => do
    match ← takeIf fun _ => true with
    | none => fail ")"
    | some token =>
      match token.kind with
      | .symbol "(" => skipPattern rounds (depth + 1)
      | .symbol ")" => if depth == 0 then return () else skipPattern rounds (depth - 1)
      | _ => skipPattern rounds depth

/-- Sequences of rows that match a pattern. -/
def matchClause (r : Rules) : Parser Bool := do
  unless ← word "MATCH_RECOGNIZE" do return false
  unless ← mark "(" do fail "("
  if ← word "PARTITION BY" then discard (commaList r.assignment)
  discard (orderClause r)
  if ← texts ["MEASURES"] then
    discard (commaList do
      discard (anyText ["FINAL", "RUNNING"])
      r.expression)
  unless ← texts ["ONE", "ROW", "PER", "MATCH"] do
    if ← texts ["ALL", "ROWS", "PER", "MATCH"] then
      discard (firstOf ([["SHOW", "EMPTY", "MATCHES"], ["OMIT", "EMPTY", "MATCHES"],
        ["WITH", "UNMATCHED", "ROWS"]].map fun phrase => do
          if ← texts phrase then return some () else return none))
  if ← texts ["AFTER", "MATCH", "SKIP"] then
    unless ← texts ["PAST", "LAST", "ROW"] do
      unless ← texts ["TO", "NEXT", "ROW"] do
        if ← texts ["TO", "FIRST"] then discard (takeIf isAnyWord)
        else if ← texts ["TO", "LAST"] then discard (takeIf isAnyWord)
  if ← texts ["PATTERN"] then
    unless ← mark "(" do fail "("
    skipPattern ((← read).tokens.size + 1) 0
  if ← texts ["DEFINE"] then
    discard (commaList do
      match ← anyName with
      | none => return none
      | some ident =>
        discard (word "AS")
        discard r.assignment
        return some ident)
  close
  discard (sourceLabel r)
  return true

/-- What can be asked of the execution of a query. -/
def queryOptions : List (List String) :=
  [["DISABLE_OPTIMIZED_PLAN_FORCING"], ["FAST"], ["IGNORE_NONCLUSTERED_COLUMNSTORE_INDEX"],
    ["LABEL"],
   ["MAXDOP"], ["MAXRECURSION"], ["MAX_GRANT_PERCENT"], ["MIN_GRANT_PERCENT"],
   ["NO_PERFORMANCE_SPOOL"], ["QUERYTRACEON"], ["RECOMPILE"], ["CONCAT", "UNION"],
   ["DISABLE", "EXTERNALPUSHDOWN"],
   ["DISABLE", "SCALEOUTEXECUTION"], ["EXPAND", "VIEWS"], ["FORCE", "EXTERNALPUSHDOWN"],
   ["FORCE", "ORDER"], ["FORCE", "SCALEOUTEXECUTION"], ["HASH", "GROUP"], ["HASH", "JOIN"],
   ["HASH", "UNION"], ["KEEP", "PLAN"],
   ["KEEPFIXED", "PLAN"], ["LOOP", "JOIN"], ["MERGE", "JOIN"], ["MERGE", "UNION"],
   ["OPTIMIZE", "FOR", "UNKNOWN"], ["ORDER", "GROUP"], ["PARAMETERIZATION", "FORCED"],
   ["PARAMETERIZATION", "SIMPLE"], ["ROBUST", "PLAN"], ["USE", "PLAN"]]

/-- What is asked of the execution of a query, as text. -/
def optionClause (r : Rules) : Parser (Option String) := do
  unless ← word "OPTION" do return none
  let options ← wrappedList do
    if (← peek?).isNone then return none
    let option ← need "option" (phraseOf queryOptions)
    discard (mark "=")
    let value ← match ← primary r with
      | some term => textOf term
      | none => if ← seesMark ")" then pure "" else pure ((← plainWord true).getD "")
    let signed := ["MAX_GRANT_PERCENT", "MIN_GRANT_PERCENT", "LABEL"].contains option &&
      !value.isEmpty
    return some (words [option, if signed then "=" else "", value])
  return some ("OPTION (" ++ ", ".intercalate options ++ ")")

/-- What is asked of the server that runs a query, or the format of its result, as text. -/
def serverClause (r : Rules) : Parser (Option String) := do
  unless (← dialect).isNamed "clickhouse" do return none
  if ← word "SETTINGS" then
    return some ("SETTINGS " ++ ", ".intercalate (termTexts (← dialect) (← commaList r.assignment)))
  else if ← word "FORMAT" then
    return some ("FORMAT " ++ ((← name).map (·.sql (← dialect))).getD "")
  else return none

/-- One more clause of a query; a clause that is repeated replaces the earlier one. -/
def clause (r : Rules) (clauses : Clauses) : Parser (Option Clauses) := do
  if ← matchClause r then return some clauses
  if ← word "PREWHERE" then
    let comments ← pending
    let condition ← need "condition" r.assignment
    let text := leadingComments (← claimUnless comments) ++ "PREWHERE " ++ (← textOf condition)
    return some { clauses with prefilter := text }
  if ← word "WHERE" then
    let comments ← pending
    let condition ← need "condition" r.assignment
    return some { clauses with filter := some condition, filterComments := ← claimUnless comments }
  if let some grouping ← groupClause r then return some { clauses with grouping := some grouping }
  if ← word "HAVING" then
    return some { clauses with having := some (← made (← need "condition" r.assignment)) }
  if ← word "QUALIFY" then
    return some { clauses with qualify := some (← made (← need "condition" r.assignment)) }
  if let some keys ← orderClause r then return some { clauses with order := some keys }
  if let some limit ← limitClause r then
    let clauses := { clauses with limit := some (.count limit.count limit.tail) }
    return some (if limit.offset.isSome then
        { clauses with offset := limit.offset, offsetTail := limit.offsetTail }
      else clauses)
  if let some text ← fetchClause r then return some { clauses with limit := some (.fetch text) }
  if let some (count, tail) ← offsetClause r then
    return some { clauses with offset := some count, offsetTail := tail }
  if let some text ← windowClause r then return some { clauses with windows := text }
  if let some (keyword, text) ← sortClause r then
    return some (match keyword with
      | "CLUSTER BY" => { clauses with clustering := text }
      | "DISTRIBUTE BY" => { clauses with distribution := text }
      | _ => { clauses with sorting := text })
  if let some text ← hierarchyClause r then return some { clauses with hierarchy := text }
  if let some text ← sampleClause r true then
    return some { clauses with closing := clauses.closing ++ [text] }
  if let some text ← optionClause r then
    return some { clauses with closing := clauses.closing ++ [text] }
  if let some text ← serverClause r then
    return some { clauses with closing := clauses.closing ++ [text] }
  if let some text ← lockClause r then
    return some (if (← dialect).writesLocks then
      { clauses with closing := clauses.closing ++ [text] } else clauses)
  return none

/-- The clauses that follow a query, added to those it has. -/
def clausesAfter (r : Rules) (clauses : Clauses) : Parser Clauses := do
  let joins ← joins r
  let laterals ← many (lateralTable r)
  iterate (clause r)
    { clauses with joins := clauses.joins ++ joins,
                   laterals := clauses.laterals ++ laterals.map Prod.snd }

/-- Reads the clauses after a query.  A bare table takes only joins, and what is no query takes
none. -/
def withClauses (r : Rules) : Query → Parser Query
  | .select select => do
    return .select { select with clauses := ← clausesAfter r select.clauses }
  | .setOp op distinct byName left right withClause clauses => do
    return .setOp op distinct byName left right withClause (← clausesAfter r clauses)
  | .wrapped inner withClause label pivots clauses => do
    return .wrapped inner withClause label pivots (← clausesAfter r clauses)
  | .other "Table" text => do
    let clauses ← clausesAfter r {}
    let dialect ← dialect
    return .other "Table" (text ++ String.join (joinTexts dialect clauses.joins) ++
      String.join (clauses.laterals.map (" " ++ ·)))
  | query => return query

/-! ## Set operations -/

/-- The clauses of a query. -/
def Query.clauses : Query → Clauses
  | .select s => s.clauses
  | .setOp _ _ _ _ _ _ clauses => clauses
  | .wrapped _ _ _ _ clauses => clauses
  | .other _ _ => {}

/-- A query with other clauses. -/
def Query.withClausesOf (clauses : Clauses) : Query → Query
  | .select s => .select { s with clauses := clauses }
  | .setOp op distinct byName left right withClause _ =>
    .setOp op distinct byName left right withClause clauses
  | .wrapped inner withClause label pivots _ => .wrapped inner withClause label pivots clauses
  | query => query

/-- The ordering and the limits of the last operand of a set operation go to the operation. -/
def Query.hoistOrder : Query → Query
  | .setOp op distinct byName left right withClause clauses =>
    let last := right.clauses
    .setOp op distinct byName left
      (right.withClausesOf { last with order := none, limit := none, offset := none,
                                       offsetTail := "" })
      withClause
      { clauses with
        order := last.order.orElse fun _ => clauses.order
        limit := last.limit.orElse fun _ => clauses.limit
        offset := last.offset.orElse fun _ => clauses.offset
        offsetTail := if last.offset.isSome then last.offsetTail else clauses.offsetTail }
  | query => query

/-- Whether a set operation drops duplicates when nothing is said about them; `none` says that
something must be said. -/
def Dialect.dropsDuplicates? (dialect : Dialect) (op : SetOp) : Option Bool :=
  if dialect.isNamed "bigquery" then none
  else if dialect.isNamed "clickhouse" then (if op == .union then none else some false)
  else some true

/-- One more operand of a chain of set operations. -/
def setOperation (r : Rules) (left : Query) : Parser (Option Query) := do
  match ← anyWord ["UNION", "EXCEPT", "INTERSECT"] with
  | none => return none
  | some token =>
    let op := match token.kind with
      | .keyword "UNION" => SetOp.union
      | .keyword "EXCEPT" => .except
      | _ => .intersect
    let distinct ← do
      if ← word "DISTINCT" then pure true
      else if ← word "ALL" then pure false
      else need "DISTINCT or ALL" (pure ((← dialect).dropsDuplicates? op))
    let byName ← texts ["BY", "NAME"]
    let right ← need "query" (r.query { nested := true, setOps := false })
    return some (.setOp op distinct byName left right
      none { comments := ← claimUnless token.comments })

/-- Reads the set operations after a query. -/
def withSetOps (r : Rules) (query : Query) : Parser Query := do
  let chain ← iterate (setOperation r) query
  return if (← dialect).isNamed "clickhouse" then chain else chain.hoistOrder

/-! ## Named queries -/

/-- A statement in a place where a query is expected. -/
def Parsed.asQuery : Parsed → Query
  | .query q => q
  | .create c => .other "Create" c.text
  | .insert i => .other "Insert" i.text
  | .update u => .other "Update" u.text
  | .delete d => .other "Delete" d.text
  | .other kind text => .other kind text

/-- All rows of a source. -/
def selectAll (source : From) (comments : List String) : Query :=
  .select { items := [.star ""], source := some source, sourceComments := comments, clauses := {} }

/-- One query of a WITH clause behind its name. -/
def queryBehindName (r : Rules) : Parser (Option Cte) := do
  let start ← position
  match ← tableLabel r true (·.roles.isName) with
  | none => fail "name of a query"
  | some label =>
    if label.name.isNone then fail "name of a query"
    unless ← word "AS" do
      goTo start
      return none
    let comments ← pending
    let materialized ← do
      if ← texts ["NOT", "MATERIALIZED"] then pure "NOT MATERIALIZED"
      else if ← texts ["MATERIALIZED"] then pure "MATERIALIZED"
      else pure ""
    unless ← mark "(" do fail "("
    let statement ← need "statement" r.statement
    close
    return some (.mk label statement.asQuery materialized (← claimUnless comments))

/-- One named query of a WITH clause, or a value before its name where the dialect has them. -/
def namedQuery (r : Rules) : Parser (Option Cte) := do
  unless (← dialect).isNamed "clickhouse" do return ← queryBehindName r
  match ← attempt (queryBehindName r) with
  | some named => return some named
  | none =>
    let value ← need "value" r.assignment
    let label ← need "name of a value" (tableLabel r false (·.roles.isTableLabel))
    return some (.value label value (← claim))

/-- Adds comments to a named query. -/
def Cte.noted (more : List String) : Cte → Cte
  | .mk label body materialized comments => .mk label body materialized (comments ++ more)
  | .value label term comments => .value label term (comments ++ more)

/-- A WITH clause. -/
def withClause (r : Rules) : Parser (Option With) := do
  unless ← word "WITH" do return none
  let comments ← pending
  let recursive ← word "RECURSIVE"
  let first ← namedQuery r
  let ctes ← iterate (fun (found : List Cte) => do
    let comma ← mark ","
    let again ← word "WITH"
    if comma || again then
      let before ← pending
      return some (((← namedQuery r).map (·.noted before)).toList ++ found)
    else return none) first.toList
  if ctes.isEmpty then fail "named query"
  return some (.mk recursive ctes.reverse (← claimUnless comments))

/-- Puts a WITH clause before a query. -/
def Query.withNamed (withClause : With) : Query → Option Query
  | .select s => some (.select { s with withClause := some withClause })
  | .setOp op distinct byName left right _ clauses =>
    some (.setOp op distinct byName left right (some withClause) clauses)
  | .wrapped inner _ label pivots clauses =>
    some (.wrapped inner (some withClause) label pivots clauses)
  | .other _ _ => none

/-- Puts a WITH clause before a statement that can have one. -/
def Parsed.withNamed (dialect : Dialect) (withClause : With) : Parsed → Option Parsed
  | .query q => (q.withNamed withClause).map .query
  | .create c => some (.create { c with text := withText dialect (some withClause) ++ c.text })
  | .insert i => some (.insert { i with
      withClause := some withClause, text := withText dialect (some withClause) ++ i.text })
  | .update u => some (.update { u with text := withText dialect (some withClause) ++ u.text })
  | .delete d => some (.delete { d with text := withText dialect (some withClause) ++ d.text })
  | .other "Merge" text => some (.other "Merge" (withText dialect (some withClause) ++ text))
  | .other _ _ => none

/-- A statement with its WITH clause before it. -/
def statementWithNamed (r : Rules) : Parser (Option Parsed) := do
  match ← withClause r with
  | none => return none
  | some named =>
    let statement ← need "statement" r.statement
    match statement.withNamed (← dialect) named with
    | some statement => return some statement
    | none => fail "query"

/-! ## Queries -/

/-- The source of a query with the comments at its keyword. -/
def fromClause (r : Rules) : Parser (Option (From × List String)) := do
  unless ← word "FROM" do return none
  let comments ← pending
  let source ← need "table" (r.table {})
  return some (source, ← claimUnless comments)

/-- A hint after a keyword, as text. -/
def hintComment : Parser String := do
  match ← takeIf (·.kind == .symbol "/*+") with
  | none => return ""
  | some token =>
    let body := token.text.stripBlanks
    if body.isEmpty then fail "hint"
    return "/*+ " ++ body.upperCase ++ " */"

/-- The number of rows before the projection. -/
def topClause (r : Rules) : Parser (Option Limit) := do
  unless ← word "TOP" do return none
  let comments ← pending
  let first : Parser (Option Term) := do
    if ← mark "(" then
      let count ← r.additive
      close
      return count
    else firstOf [literal numeralOf?, placeholder]
  let parts ← limitAfter r comments first
  return some (.count parts.count parts.tail)

/-- A projection; some dialects write the label before the value. -/
def projection (r : Rules) : Parser (Option Term) := do
  let term ← r.expression
  unless (← dialect).isNamed "tsql" do return term
  match term with
  | some (.binary .eq (.column parts _) value comments) =>
    match parts.getLast? with
    | some label => return some (.labelled value label comments)
    | none => return term
  | term => return term

/-- The table that the rows of a query go to. -/
def intoClause (r : Rules) : Parser (Option (String × String)) := do
  unless ← word "INTO" do return none
  let temporary ← word "TEMPORARY"
  let unlogged ← texts ["UNLOGGED"]
  discard (word "TABLE")
  let target ← need "table" (r.table { schema := true })
  return some (if temporary then "TEMPORARY" else if unlogged then "UNLOGGED" else "",
    withComments (target.sql (← dialect)) (← claim))

/-- A SELECT after its keyword. -/
def selectBody (r : Rules) (leading : Option (From × List String)) : Parser Query := do
  let dialect ← dialect
  let comments ← pending
  let hint ← hintComment
  let marked := (← peekAt? 1).any (·.kind != .symbol ".")
  let all ← if marked then word "ALL" else pure false
  let isDistinct ← if marked then word "DISTINCT" else pure false
  let opening ← if ← word "AS" then
      match ← anyText ["STRUCT", "VALUE"] with
      | some token => pure ("AS " ++ token.upper)
      | none => pure ""
    else pure ""
  let distinct ← if isDistinct then
      if ← word "ON" then
        let row ← need "values" (rowValues r)
        pure (some (withComments (" ON " ++ row.sql dialect) (← claim)))
      else pure (some (trailingComments (← claim)))
    else pure none
  if all && isDistinct then fail "projection"
  let top ← topClause r
  let items ← commaList (projection r)
  discard claim
  let into ← intoClause r
  let source ← match leading with
    | some source => pure (some source)
    | none => fromClause r
  let clauses ← clausesAfter r { limit := top, comments := comments }
  return .select { hint := hint, opening := opening, distinct := distinct, items := items,
                   into := into, source := source.map Prod.fst,
                   sourceComments := (source.map Prod.snd).getD []
                   clauses := clauses }

/-- An entry of a FROM clause in a place where a query is expected. -/
def From.asQuery (dialect : Dialect) : From → Query
  | .table t => .other "Table" (t.sql dialect)
  | .query q => q
  | .raw "Values" text => .other (if text.startsWith "(" then "Table" else "Values") text
  | .raw kind text => .other kind text

/-- A query in parentheses, after the opening one. -/
def wrappedQuery (r : Rules) (mode : QueryMode) : Parser (Option Query) := do
  let dialect ← dialect
  let inner ← do
    if let some (source, comments) ← fromClause r then pure (some (selectAll source comments))
    else
      let found ← if mode.table then pure ((← r.table {}).map (·.asQuery dialect))
        else r.query { nested := true, setOps := false }
      match found with
      | some query => pure (some (← withClauses r (← withSetOps r query)))
      | none => pure none
  close
  match inner with
  | none => return none
  | some inner =>
    let pivots ← pivotClauses r
    let label ← if mode.label then sourceLabel r else pure none
    let sample ← sampleClause r
    return some (.wrapped inner none label pivots { closing := sample.toList, comments := ← claim })

/-- Words for the kinds of object that can be created. -/
def creatableKinds : List String :=
  ["COLUMN", "CONSTRAINT", "FOREIGN KEY", "FUNCTION", "INDEX", "PROCEDURE", "DATABASE", "SCHEMA",
    "SEQUENCE",
   "TABLE", "VIEW", "WAREHOUSE", "TAG", "MODEL", "DICTIONARY", "STORAGE INTEGRATION", "STREAMLIT"]

/-- A query. -/
def query (r : Rules) (mode : QueryMode) : Parser (Option Query) := do
  if let some statement ← statementWithNamed r then return some statement.asQuery
  let leading ← fromClause r
  let found ← do
    if ← word "SELECT" then pure (some (← selectBody r leading))
    else if ← onlyIf (mode.nested || mode.table) (mark "(") then return ← wrappedQuery r mode
    else if ← seesWord "VALUES" then
      match ← rowList r with
      | some rows => pure (some (.other "Values" (rows.text (← dialect))))
      | none => pure none
    else match leading with
      | some (source, comments) => pure (some (selectAll source comments))
      | none =>
        if ← word "SUMMARIZE" then
          let ofTable ← word "TABLE"
          let dialect ← dialect
          let body ← match ← r.query {} with
            | some query => pure (query.sql dialect)
            | none =>
              match ← string with
              | some term => textOf term
              | none => pure ((← need "table" (r.table {})).sql dialect)
          return some (.other "Summarize"
            (words ["SUMMARIZE", if ofTable then "TABLE" else "", body]))
        else if ← seesWord "DESCRIBE" then pure ((← r.statement).map Parsed.asQuery)
        else pure none
  match found with
  | some query => if mode.setOps then return some (← withSetOps r query) else return some query
  | none => return none

end SqlLayout.Grammar
