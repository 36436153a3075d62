import SqlLayout.Grammar.Parser.Expression

/-!
# Tables and joins

The entries of a FROM clause: tables, queries in parentheses, lists of rows, calls and the like.
-/

namespace SqlLayout.Grammar

open SqlLayout.Grammar.Parser

/-- A table label in a place where any word can be one after `AS`. -/
def sourceLabel (r : Rules) : Parser (Option TableLabel) :=
  tableLabel r true (·.roles.isTableLabel)

/-- The text of a label, with a space and `AS` before it. -/
def labelText (dialect : Dialect) (label : Option TableLabel) : String :=
  match label with
  | some label => " AS " ++ label.sql dialect
  | none => ""

/-! ## Names of tables -/

/-- A table by its name.  What is not named by plain names alone has texts in their places. -/
structure NamedTable where
  table : Table
  isPlain : Bool

/-- A named table as an entry of a FROM clause. -/
def NamedTable.source (dialect : Dialect) (named : NamedTable) : From :=
  if named.isPlain then .table named.table else .raw "Table" (named.table.sql dialect)

/-- A part of the name of a table. -/
structure TablePart where
  ident : Ident
  isPlain : Bool := true

/-- Consecutive tokens without blanks between them, up to a comma or a parenthesis. -/
def connectedText : Parser String := do
  let first ← takeIf fun _ => true
  let rest ← many do
    match ← previous?, ← peek? with
    | some before, some next =>
      if before.stop == next.start &&
        !([Kind.symbol ",", .symbol "(", .symbol ")"].contains next.kind) then
        takeIf fun _ => true
      else return none
    | _, _ => return none
  return String.join ((first.toList ++ rest).map (·.text))

/-- A name that goes on with dashes, where no blanks stand between them. -/
def dashedName (ident : Ident) : Parser Ident := do
  let text ← iterate (fun (text : String) => do
    unless ← seesMark "-" do return none
    let parts ← many do
      match ← previous?, ← peek? with
      | some before, some next =>
        if before.stop == next.start && next.kind != .symbol "." then takeIf fun _ => true
        else return none
      | _, _ => return none
    if parts.isEmpty then return none
    return some (text ++ String.join (parts.map (·.text)))) ident.name
  return { ident with name := text }

/-- One part of the name of a table: a call, a name, or a string in the place of one. -/
def tablePart (r : Rules) (schema : Bool) : Parser (Option TablePart) := do
  let dialect ← dialect
  if schema && dialect.isNamed "snowflake" then
    if ← texts ["IDENTIFIER", "("] then
      let shown ← match ← name with
        | some ident => pure (ident.bareText dialect)
        | none => textOf (← need "name" string)
      close
      return some { ident := { name := "IDENTIFIER",
                               shown := some ("IDENTIFIER(" ++ shown ++ ")") },
                    isPlain := false }
  unless schema do
    if let some term ← call r { bare := false } then
      return some { ident := { name := term.core.callName,
                               shown := some (term.uncommented.sql dialect)
                               comments := term.comments },
                    isPlain := false }
  match ← firstOf [name, stringAsName] with
  | some ident =>
    let ident ← if dialect.isNamed "bigquery" then dashedName ident else pure ident
    return some { ident := ident, isPlain := ident.shown.all (·.startsWith "#") }
  | none => return none

/-- The parts of the name of a table, outermost first. -/
def tableParts (r : Rules) (schema : Bool) : Parser (List TablePart) := do
  match ← tablePart r schema with
  | none => return []
  | some first =>
    let rest ← many do
      if ← mark "." then
        return some ((← tablePart r schema).getD { ident := { name := "" }, isPlain := false })
      else return none
    return first :: rest

/-- A part of a name without its comments. -/
def TablePart.bare (part : TablePart) : Ident :=
  { part.ident with comments := [] }

/-- The table that the parts of a name make.  The first two of more than three parts are its
qualifiers; the comments of the last part go to the table. -/
def tableOf (dialect : Dialect) (parts : List TablePart) : NamedTable :=
  let comments := (parts.getLast?.map (·.ident.comments)).getD []
  let isPlain := parts.length ≤ 3 && parts.getLast?.any (·.isPlain)
  let table : Table := match parts with
    | [] => { name := none }
    | [table] => { name := some table.bare }
    | [db, table] => { name := some table.bare, db := some db.ident }
    | catalog :: db :: rest =>
      let last := (rest.getLast?.map TablePart.bare).getD { name := "" }
      let before := String.join (rest.dropLast.map fun part => part.ident.sql dialect ++ ".")
      let named := if before.isEmpty then last
        else { last with shown := some (before ++ last.text dialect) }
      { name := some named, db := some db.ident, catalog := some catalog.ident }
  { table := { table with comments := comments }, isPlain := isPlain }

/-- A name in one pair of quotes that holds dots stands for several names. -/
def splitQuoted (named : NamedTable) : NamedTable :=
  match named.table with
  | { name := some ident, db := none, catalog := none, .. } =>
    if ident.quoted then
      match (Text.splitOn '.' ident.name.toList).map String.ofList with
      | [db, table] => { named with table := { named.table with
          name := some { ident with name := table }, db := some { name := db, quoted := true } } }
      | [catalog, db, table] => { named with table := { named.table with
          name := some { ident with name := table }, db := some { name := db, quoted := true }
          catalog := some { name := catalog, quoted := true } } }
      | _ => named
    else named
  | _ => named

/-! ## Pivots and moments -/

/-- A value in the list of a pivot clause, with its label. -/
def pivotValue (r : Rules) : Parser (Option String) := do
  match ← queryOr r r.expression with
  | none => return none
  | some value =>
    discard (word "AS")
    match ← r.bitwise with
    | some label => return some ((← textOf value) ++ " AS " ++ (← textOf label))
    | none => return some (← textOf value)

/-- A pivot clause, as text. -/
def pivotClause (r : Rules) : Parser (Option String) := do
  let start ← position
  match ← anyWord ["PIVOT", "UNPIVOT"] with
  | none => return none
  | some token =>
    let dialect ← dialect
    let isUnpivot := token.kind == .keyword "UNPIVOT"
    let nulls ← do
      if ← onlyIf isUnpivot (texts ["INCLUDE", "NULLS"]) then pure " INCLUDE NULLS "
      else if ← onlyIf isUnpivot (texts ["EXCLUDE", "NULLS"]) then pure " EXCLUDE NULLS "
      else pure ""
    unless ← mark "(" do
      goTo start
      return none
    let items ← if isUnpivot then commaList r.column else commaList do withLabel (← call r {})
    if items.isEmpty then fail "pivot"
    unless ← word "FOR" do fail "FOR"
    let column ← need "column" r.column
    unless ← pair (.keyword "IN") (.symbol "(") do fail "IN"
    let values ← if ← word "ANY" then
        let order ← orderClause r
        pure [words ["ANY",
          (optionalText "ORDER BY" (optionalOrderText dialect order)).stripBlanks]]
      else commaList (pivotValue r)
    close
    close
    let label ← if (← seesWord "PIVOT") || (← seesWord "UNPIVOT") then pure none else sourceLabel r
    return some ((if isUnpivot then "UNPIVOT" else "PIVOT") ++ nulls ++ "(" ++
      ", ".intercalate (termTexts dialect items) ++ " FOR " ++ column.sql dialect ++ " IN (" ++
      ", ".intercalate values ++ "))" ++ labelText dialect label)

/-- All pivot clauses in a row. -/
def pivotClauses (r : Rules) : Parser (List String) :=
  many (pivotClause r)

/-- A moment of a table, as text. -/
def momentClause (r : Rules) : Parser String := do
  let start ← position
  match ← anyText ["AT", "BEFORE", "END"] with
  | none => return ""
  | some place =>
    let opens ← mark "("
    let kind ← if opens then anyText ["TIMESTAMP", "OFFSET", "STATEMENT", "STREAM"] else pure none
    let value ← if ← mark "=>" then r.bitwise else pure none
    match value with
    | some value =>
      close
      return " " ++ place.upper ++ " (" ++ (kind.map (·.upper)).getD "" ++ " => " ++
        (← textOf value) ++ ")"
    | none =>
      goTo start
      return ""

/-- The changes of a table between moments, as text. -/
def changesClause (r : Rules) : Parser String := do
  if ← texts ["CHANGES", "(", "INFORMATION", "=>"] then
    let information ← plainWord true
    close
    let first ← momentClause r
    let last ← momentClause r
    return " CHANGES (INFORMATION => " ++ information.getD "" ++ ")" ++ first ++ last
  else return ""

/-! ## Names in the place of a table -/

/-- The name of a file as a table, with its format. -/
def stageTable (r : Rules) : Parser (Option NamedTable) := do
  let dialect ← dialect
  unless dialect.isNamed "snowflake" do return none
  let path ← do
    if ← sees .string then optionalTextOf (← string)
    else if ← seesMark "@" then connectedText
    else return none
  let opens ← mark "("
  let (format, file) ← if opens then
      iterate (fun ((format, file) : String × String) => do
        if ← texts ["FILE_FORMAT", "=>"] then
          let text ← match ← string with
            | some term => textOf term
            | none => pure ((tableOf dialect (← tableParts r false)).table.sql dialect)
          discard (mark ",")
          return some (text, file)
        else if ← texts ["PATTERN", "=>"] then
          let text ← optionalTextOf (← string)
          discard (mark ",")
          return some (format, text)
        else return none) ("", "")
    else pure ("", "")
  if opens then discard (mark ")")
  let shown := if format.isEmpty then ""
    else " (FILE_FORMAT => " ++ format ++ (if file.isEmpty then "" else ", PATTERN => " ++ file) ++
      ")"
  return some { table := { name := some { name := path, shown := some path }, beforeLabel := shown
                           comments := ← claim },
                isPlain := false }

/-- The name of a table in a place where a table must stand, with its moment and its pivots. -/
def tableName (r : Rules) (schema : Bool) : Parser NamedTable := do
  if let some stage ← stageTable r then return stage
  let dialect ← dialect
  let parts ← tableParts r schema
  match parts.getLast? with
  | none => fail "table"
  | some last =>
    if last.ident.name.isEmpty && last.ident.shown.isNone && !last.ident.quoted then fail "table"
    let named := tableOf dialect parts
    let named := if dialect.isNamed "bigquery" then splitQuoted named else named
    let comments ← claimUnless named.table.comments
    let changes ← changesClause r
    let moment ← momentClause r
    let pivots ← pivotClauses r
    return { named with table := { named.table with
      comments := comments, pivots := pivots, beforeLabel := moment ++ changes } }

/-- The table of a name in a place where only its name matters. -/
def plainTable (r : Rules) : Parser Table := do
  return (← tableName r true).table

/-! ## Samples -/

/-- A number, as text. -/
def numberText : Parser String := do
  match ← literal numeralOf? with
  | some term => textOf term
  | none => optionalTextOf (← placeholder)

/-- How the rows of a sample are chosen when nothing is written; `counted` says that its size is a
number of rows. -/
def Dialect.sampleMethod (dialect : Dialect) (counted : Bool) : String :=
  if dialect.isNamed "snowflake" then "BERNOULLI"
  else if dialect.isNamed "duckdb" then if counted then "RESERVOIR" else "SYSTEM"
  else ""

/-- The word before the seed of a sample. -/
def Dialect.seedWord (dialect : Dialect) : String :=
  if dialect.isOneOf ["duckdb", "databricks"] || dialect.likePostgres then "REPEATABLE" else "SEED"

/-- The words that start a sample when it is written; `asClause` says that it is of the whole
query. -/
def Dialect.sampleWords (dialect : Dialect) (asClause : Bool) : String :=
  if dialect.isNamed "oracle" then "SAMPLE"
  else if dialect.isNamed "duckdb" && asClause then "USING SAMPLE"
  else "TABLESAMPLE"

/-- A sample of the rows of a table, as text; `asClause` says that it can start with USING. -/
def sampleClause (r : Rules) (asClause : Bool := false) : Parser (Option String) := do
  let starts ← do
    if ← word "TABLE SAMPLE" then pure true else onlyIf asClause (texts ["USING", "SAMPLE"])
  unless starts do return none
  let dialect ← dialect
  let percents := dialect.isOneOf ["bigquery", "snowflake"] || dialect.likePostgres
  let method ← takeIf fun token => token.kind == .name || token.kind == .keyword "ROW"
  let opens ← mark "("
  let size ← optionalTextOf (← if ← sees .number then factor r else firstOf [primary r,
    placeholder])
  let (amount, counted) ← do
    if ← texts ["BUCKET"] then
      let part ← numberText
      discard (texts ["OUT", "OF"])
      let parts ← numberText
      discard (word "ON")
      let field ← optionalTextOf (← columnReference r)
      pure ("BUCKET " ++ part ++ " OUT OF " ++ parts ++
        (if field.isEmpty then "" else " ON " ++ field), false)
    else if (← word "PERCENT") || (← mark "%") then
      pure (if percents then size else size ++ " PERCENT", false)
    else if ← word "ROWS" then pure (size ++ " ROWS", true)
    else pure (if percents then size else size ++ " ROWS", !percents)
  if opens then close
  let (method, seed) ← do
    if ← mark "(" then
      let inner ← plainWord
      let seed ← if ← mark "," then numberText else pure ""
      close
      pure ((inner.map String.upperCase).getD "", seed)
    else if (← anyText ["SEED", "REPEATABLE"]).isSome then
      unless ← mark "(" do fail "("
      let seed ← numberText
      close
      pure ((method.map (·.upper)).getD "", seed)
    else pure ((method.map (·.upper)).getD "", "")
  let method := if method.isEmpty then dialect.sampleMethod counted else method
  return some (words [dialect.sampleWords asClause, method, "(" ++ amount ++ ")"] ++
    if seed.isEmpty then "" else " " ++ dialect.seedWord ++ " (" ++ seed ++ ")")

/-! ## Lists of rows -/

/-- One row of a list of rows. -/
def rowValues (r : Rules) : Parser (Option Row) := do
  if ← mark "(" then
    let values ← commaList r.expression
    close
    return some { values := values, comments := ← claim }
  else return (← r.expression).map fun term => { values := [term] }

/-- The canonical text of a row. -/
def Row.sql (dialect : Dialect) (row : Row) : String :=
  withComments ("(" ++ ", ".intercalate (termTexts dialect row.values) ++ ")") row.comments

/-- The rows after VALUES, with their label. -/
structure RowList where
  rows : List Row
  label : Option TableLabel
  comments : List String

/-- A list of rows, possibly in parentheses. -/
def rowList (r : Rules) : Parser (Option RowList) := do
  let wrapped ← pair (.symbol "(") (.keyword "VALUES")
  unless wrapped do
    unless ← texts ["VALUES"] do
      unless ← texts ["FORMAT", "VALUES"] do return none
  let rows ← commaList (rowValues r)
  if rows.isEmpty then fail "row"
  let label ← sourceLabel r
  if wrapped then close
  let label ← match label with
    | some label => pure (some label)
    | none => sourceLabel r
  return some { rows := rows, label := label, comments := ← claim }

/-- The canonical text of a list of rows; with a label it stands in parentheses. -/
def RowList.text (dialect : Dialect) (list : RowList) : String :=
  let body := "VALUES " ++ ", ".intercalate (list.rows.map (·.sql dialect))
  withComments (match list.label with
    | some label => "(" ++ body ++ ") AS " ++ label.sql dialect
    | none => body) list.comments

/-! ## Calls and queries as tables -/

/-- Rows made from lists as the dialect writes them. -/
def unnestText (dialect : Dialect) (lists : List String) (ordinality : Bool)
    (offset : Option String) (label : Option TableLabel) : String :=
  let list := "UNNEST(" ++ ", ".intercalate lists ++ ")"
  if dialect.isNamed "snowflake" then
    let label := label.getD { name := some { name := "_u" } }
    let value := label.columnTexts.headD "value"
    let columns := ["seq", "key", "path", offset.getD "index", value, "this"]
    "TABLE(FLATTEN(INPUT => " ++ lists.headD "" ++ ")) AS " ++
      ({ label with columnTexts := columns }.sql dialect)
  else if dialect.isNamed "bigquery" then
    list ++ labelText dialect label ++
      (match offset with
        | some offset => " WITH OFFSET AS " ++ offset
        | none => if ordinality then " WITH OFFSET" else "")
  else
    let label := label.map fun label =>
      { label with columnTexts := label.columnTexts ++ offset.toList }
    list ++ (if ordinality || offset.isSome then " WITH ORDINALITY" else "") ++
      labelText dialect label

/-- Rows made from a list, as text. -/
def unnestTable (r : Rules) : Parser (Option String) := do
  unless ← word "UNNEST" do return none
  let terms ← wrappedList r.equality
  if terms.isEmpty then fail "list"
  let dialect ← dialect
  let ordinality ← pair (.keyword "WITH") (.keyword "ORDINALITY")
  let label ← sourceLabel r
  let offset ← if ← onlyIf (!ordinality) (pair (.keyword "WITH") (.keyword "OFFSET")) then
      discard (word "AS")
      let label ← nameIf fun token => token.roles.isName && token.kind != .keyword "OFFSET"
      pure (some ((label.map (·.sql dialect)).getD "offset"))
    else pure none
  return some (withComments (unnestText dialect (termTexts dialect terms) ordinality offset label)
    (← claim))

/-- A call of several steps as a table, as text. -/
def callSteps (r : Rules) : Parser String := do
  let dialect ← dialect
  let step : Parser (Option String) := do
    match ← call r {} with
    | some term => return some (dotText dialect term)
    | none => return (← name).map (·.sql dialect)
  let first ← match ← call r {} with
    | some term => textOf term
    | none => pure ((← need "table" name).sql dialect)
  iterate (fun (text : String) => do
    if ← mark "." then return some (text ++ "." ++ (← step).getD "") else return none) first

/-- A table that may use the tables before it: whether it is applied to them, and its text. -/
def lateralTable (r : Rules) : Parser (Option (Bool × String)) := do
  let dialect ← dialect
  let crossApply ← pair (.keyword "CROSS") (.keyword "APPLY")
  let outerApply ← onlyIf (!crossApply) (pair (.keyword "OUTER") (.keyword "APPLY"))
  let isApply := outerApply || crossApply
  unless isApply do
    unless ← word "LATERAL" do return none
  let query ← r.query { table := true }
  let isView ← onlyIf (!isApply) (word "VIEW")
  let outer ← onlyIf isView (word "OUTER")
  let body ← match query with
    | some query => pure (query.sql dialect)
    | none =>
      match ← unnestTable r with
      | some text => pure text
      | none => callSteps r
  let applied (word joined : String) : String :=
    if dialect.isNamed "tsql" then word ++ " APPLY " else joined ++ " JOIN LATERAL "
  let head := if crossApply then applied "CROSS" "INNER"
    else if outerApply then applied "OUTER" "LEFT"
    else if isView then (if outer then "LATERAL VIEW OUTER " else "LATERAL VIEW ")
    else "LATERAL "
  if isView then
    let table ← name
    let columns ← if ← word "AS" then commaList anyName else pure []
    let names := if columns.isEmpty then ""
      else " AS " ++ ", ".intercalate (columns.map (·.sql dialect))
    return some (false, withComments (head ++ body ++ spaced ((table.map (·.name)).getD "") ++
      names) (← claim))
  let label ← sourceLabel r
  return some (isApply, withComments (head ++ body ++ labelText dialect label) (← claim))

/-! ## Joins -/

/-- The common columns of a join. -/
def sharedColumns (r : Rules) : Parser (List Ident) :=
  optionallyWrappedList do
    match ← r.column with
    | some (.column parts _) => return parts.getLast?
    | some term => return some { name := spelledName term, shown := some (← textOf term) }
    | none => return none

/-- Further texts behind an entry of a FROM clause. -/
def From.followedBy (text : String) : From → From
  | .table t => .table { t with afterLabel := t.afterLabel ++ text }
  | .raw kind own => .raw kind (own ++ text)
  | source => source

/-- The words between the method of a join and its table that say how it is carried out. -/
def Dialect.joinHints (dialect : Dialect) : List String :=
  if dialect.isNamed "tsql" then ["LOOP", "HASH", "MERGE", "REMOTE"] else []

/-- The words before JOIN: how the rows are matched, the side that is kept whole and the kind of
join.  Some dialects let the kind come before the side. -/
def joinWords : Parser (Option Token × Option Token × Option Token) := do
  let sides := ["LEFT", "RIGHT", "FULL"]
  let kinds := ["ANTI", "CROSS", "INNER", "OUTER", "SEMI", "STRAIGHT_JOIN"]
  if (← dialect).isNamed "clickhouse" then
    let kinds := kinds ++ ["ANY", "ARRAY", "ASOF"]
    let place ← anyWord ["GLOBAL"]
    match ← anyWord kinds with
    | some kind => return (place, ← anyWord sides, some kind)
    | none =>
      let side ← anyWord sides
      return (place, side, ← anyWord kinds)
  else
    let method ← anyWord ["ASOF", "NATURAL", "POSITIONAL"]
    let side ← anyWord sides
    return (method, side, ← anyWord kinds)

/-- The source of a join; a list is one where rows are joined with the items of lists. -/
def joinSource (r : Rules) (kind : Option Token) : Parser From := do
  let dialect ← dialect
  unless dialect.isNamed "clickhouse" do return ← need "table" (r.table {})
  if ← seesMark "[" then
    let items ← need "list" (brackets r none)
    let label ← sourceLabel r
    return .raw "Array" (items.sql dialect ++ labelText dialect label)
  match ← need "table" (r.table {}) with
  | .table table =>
    if kind.any (·.kind == .keyword "ARRAY") then return .raw "Column" (table.sql dialect)
    else return .table table
  | source => return source

/-- A join after a table; `deeper` reads the joins inside it. -/
def joinAfter (r : Rules) (deeper : Parser (List JoinTerm)) : Parser (Option JoinTerm) := do
  if ← mark "," then
    let source ← need "table" (r.table {})
    return some (.mk "" "" "" source none [] false (← claim))
  let start ← position
  let (method, side, kind) ← joinWords
  discard (anyText (← dialect).joinHints)
  let isStraight := kind.any (·.kind == .keyword "STRAIGHT_JOIN")
  let joins ← word "JOIN"
  unless joins || isStraight do
    goTo start
    let applies := ((← seesWord "OUTER") || (← seesWord "CROSS")) && (← seesAt 1 (.keyword "APPLY"))
    unless applies do return none
    let source ← need "table" (r.table {})
    if ← word "ON" then return some (.mk "" "" "" source (← r.assignment) [] false (← claim))
    else if ← word "USING" then
      return some (.mk "" "" "" source none (← sharedColumns r) true (← claim))
    else return some (.mk "" "" "" source none [] false (← claim))
  let shown (token : Option Token) := (token.map (·.upper)).getD ""
  let source ← joinSource r kind
  let own := [method, side, kind].flatMap fun token => (token.map (·.comments)).getD []
  let make (source : From) (condition : Option Term) (shared : List Ident) (hasShared : Bool) :
      Parser (Option JoinTerm) := do
    return some (.mk (shown method) (shown side) (shown kind) source condition shared hasShared
      (← claimUnless own))
  if ← word "MATCH_CONDITION" then
    unless ← mark "(" do fail "("
    discard (comparison r)
    close
  if ← word "ON" then make source (← r.assignment) [] false
  else if ← word "USING" then make source none (← sharedColumns r) true
  else
    let isUnnest := match source with
      | .raw "Unnest" _ => true
      | _ => false
    if isUnnest || kind.any (·.kind == .keyword "CROSS") then make source none [] false
    else
      let after ← position
      let inner ← deeper
      let nested := source.followedBy (String.join (joinTexts (← dialect) inner))
      if ← onlyIf (!inner.isEmpty) (word "ON") then make nested (← r.assignment) [] false
      else if ← onlyIf (!inner.isEmpty) (word "USING") then
        make nested none (← sharedColumns r) true
      else
        goTo after
        make source none [] false

/-- Joins after a table, with joins inside each other up to a bound. -/
def joinsTo (r : Rules) : Nat → Parser (List JoinTerm)
  | 0 => return []
  | depth + 1 => many (joinAfter r (joinsTo r depth))

/-- Joins after a table. -/
def joins (r : Rules) : Parser (List JoinTerm) := do
  joinsTo r ((← read).tokens.size + 1)

/-! ## Tables -/

/-- A point in time of a table, as text. -/
def versionClause (r : Rules) : Parser String := do
  match ← anyWord ["FOR VERSION", "FOR TIMESTAMP"] with
  | some { kind := .keyword keyword, .. } =>
    let dialect ← dialect
    if let some range ← anyWord ["FROM", "BETWEEN"] then
      let first ← optionalTextOf (← r.bitwise)
      discard (anyText ["TO", "AND"])
      let last ← optionalTextOf (← r.bitwise)
      return " " ++ keyword ++ " " ++ range.upper ++ " (" ++ first ++ ", " ++ last ++ ")"
    else if ← texts ["CONTAINED", "IN"] then
      let bounds ← wrappedList r.bitwise
      return " " ++ keyword ++ " CONTAINED IN (" ++ ", ".intercalate (termTexts dialect bounds) ++
        ")"
    else if ← word "ALL" then return " " ++ keyword ++ " ALL "
    else
      discard (texts ["AS", "OF"])
      return " " ++ keyword ++ " AS OF " ++ (← optionalTextOf (← r.typed))
  | _ => return ""

/-- The hints of a table, as text. -/
def hintClause (r : Rules) : Parser String := do
  let dialect ← dialect
  let hint : Parser (Option String) := do
    match ← call r {} with
    | some term => return some (term.sql dialect)
    | none => plainWord true
  if ← pair (.keyword "WITH") (.symbol "(") then
    let hints ← commaList hint
    close
    return " WITH (" ++ ", ".intercalate hints ++ ")"
  else
    let hints ← many do
      match ← anyWord ["FORCE", "IGNORE", "USE"] with
      | none => return none
      | some token =>
        discard (anyWord ["INDEX", "KEY"])
        let target ← if ← word "FOR" then
            pure (" FOR " ++ ((← takeIf isAnyWord).map (·.upper)).getD "")
          else pure ""
        let names ← wrappedList anyName
        return some (" " ++ token.upper ++ " INDEX" ++ target ++ " (" ++
          ", ".intercalate (names.map (·.sql dialect)) ++ ")")
    return String.join hints

/-- The part of a table that rows come from or go to, as text with a space before it. -/
def partitionText (r : Rules) : Parser String := do
  let dialect ← dialect
  if ← onlyIf (dialect.isNamed "clickhouse") (word "PARTITION") then
    if ← texts ["ID"] then return " PARTITION ID " ++ (← optionalTextOf (← string))
    return " PARTITION " ++ ", ".intercalate (termTexts dialect (← commaList r.expression))
  if ← word "PARTITION" then
    let values ← wrappedList r.assignment
    return " PARTITION(" ++ ", ".intercalate (termTexts dialect values) ++ ")"
  else return ""

/-- What follows the name of a table. -/
def tableTail (r : Rules) (mode : TableMode) (only : Bool) (named : NamedTable) : Parser From := do
  let dialect ← dialect
  if (← seesMark "[") || (← seesMark "\x7b") then
    match ← brackets r (some (.raw "Table" (named.table.nameText dialect))) with
    | some term =>
      discard (tableLabel r true (·.roles.isTableLabel))
      return .raw "Bracket" (← textOf term)
    | none => fail "table"
  discard (texts ["*"])
  let part ← if dialect.likeMysql then partitionText r else pure ""
  let version ← versionClause r
  let allowed (token : Token) : Bool :=
    token.roles.isTableLabel && !(mode.update && token.kind == .keyword "SET")
  let label ← tableLabel r true allowed
  if ← texts ["AT"] then
    let index := ((← anyName).map (·.sql dialect)).getD ""
    return .raw "AtIndex" (named.table.nameText dialect ++ " AT " ++ index)
  let hints ← hintClause r
  let hints := if dialect.isNamed "snowflake" || dialect.likePostgres then "" else hints
  let pivots ← if named.table.pivots.isEmpty then pivotClauses r else pure named.table.pivots
  let sample ← sampleClause r
  let inner ← if mode.joins then joins r else pure []
  let joinText := String.join (joinTexts dialect inner)
  let ordinality ← pair (.keyword "WITH") (.keyword "ORDINALITY")
  let label ← if ordinality then sourceLabel r else pure label
  let table := { named.table with
    label := label, pivots := pivots, only := only
    beforeLabel := named.table.beforeLabel ++ part ++ version ++
      if ordinality then " WITH ORDINALITY" else ""
    afterLabel := hints ++ (sample.map (" " ++ ·)).getD "" ++ joinText }
  if ← onlyIf (dialect.isNamed "clickhouse") (word "FINAL") then
    return .raw "Final" (table.sql dialect ++ " FINAL")
  return { named with table := table }.source dialect

/-- An entry of a FROM clause. -/
def tableSource (r : Rules) (mode : TableMode) : Parser (Option From) := do
  let dialect ← dialect
  if let some (applied, text) ← lateralTable r then
    return some (.raw (if applied then "Apply" else "Lateral") text)
  if let some text ← unnestTable r then return some (.raw "Unnest" text)
  if let some rows ← rowList r then return some (.raw "Values" (rows.text dialect))
  match ← r.query { table := true } with
  | some (.wrapped inner withClause label pivots clauses) =>
    let pivots ← if pivots.isEmpty then pivotClauses r else pure pivots
    return some (.query (.wrapped inner withClause label pivots clauses))
  | some query => return some (.query query)
  | none =>
    let rows ← if ← texts ["ROWS", "FROM"] then pure (some (← wrappedList (r.table {})))
      else pure none
    let only ← word "ONLY"
    let named ← match rows with
      | some rows =>
        let text := "ROWS FROM (" ++ ", ".intercalate (rows.map (·.sql dialect)) ++ ")"
        pure { table := { name := some { name := "", shown := some text } }, isPlain := false }
      | none => tableName r mode.schema
    if mode.schema then
      discard (texts ["*"])
      return some ({ named with table := { named.table with only := only } }.source dialect)
    return some (← tableTail r mode only named)

end SqlLayout.Grammar
