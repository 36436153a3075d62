import SqlLayout.Grammar.Parser.Function
import SqlLayout.Pattern.Search

/-!
# Expressions

Binary operators have levels and associate to the left: `OR`, `AND`, equality, comparison, range
predicates, bit operators, addition, multiplication.  A negation takes an equality.
-/

namespace SqlLayout.Grammar

open SqlLayout.Grammar.Parser

/-- An expression with an optional label. -/
def expression (r : Rules) : Parser (Option Term) := do
  withLabel (← r.assignment)

/-! ## Primary terms -/

/-- The columns left out of, replaced in or renamed in a star, as text. -/
def starClause (r : Rules) (keywords : List String) (shown : String) : Parser String := do
  match ← anyText keywords with
  | none => return ""
  | some _ =>
    let dialect ← dialect
    let terms ← if ← seesMark "(" then wrappedList r.expression
      else pure (← withLabel (← r.assignment) true).toList
    if terms.isEmpty then return ""
    return " " ++ shown ++ " (" ++ ", ".intercalate (termTexts dialect terms) ++ ")"

/-- A star with its exceptions, after the star itself. -/
def starTerm (r : Rules) : Parser Term := do
  let excludes := (← dialect).isOneOf ["duckdb", "redshift", "snowflake"]
  let except ← starClause r ["EXCEPT", "EXCLUDE"] (if excludes then "EXCLUDE" else "EXCEPT")
  let replace ← starClause r ["REPLACE"] "REPLACE"
  let rename ← starClause r ["RENAME"] "RENAME"
  made (.star (except ++ replace ++ rename))

/-- A string literal; several plain ones in a row are joined. -/
def stringTerm : Parser (Option Term) := do
  let isPlain ← sees .string
  match ← literal stringOf? with
  | none => return none
  | some first =>
    let rest ← if isPlain then many (takeIf (·.kind == .string)) else pure []
    if rest.isEmpty then return some first
    else
      let dialect ← dialect
      let texts := first.sql dialect :: rest.map fun token => literalText dialect token.text
      return some (← madeRaw "Concat" ("CONCAT(" ++ ", ".intercalate texts ++ ")"))

/-- A query in parentheses, after the opening parenthesis. -/
def wrapQuery (r : Rules) (query : Query) : Parser Term := do
  let query ← r.withClauses query
  match query with
  | .wrapped _ _ _ _ _ => made (.query (.wrapped (← r.withSetOps query) none none [] {}))
  | .other kind text => made (.paren (.query (.other kind text)))
  | query => made (.query (.wrapped query none none [] {}))

/-- A query, a list or an expression in parentheses. -/
def parenthesized (r : Rules) : Parser (Option Term) := do
  unless ← mark "(" do return none
  let comments ← pending
  let term ← match ← r.query {} with
    | some query => wrapQuery r query
    | none =>
      let terms ← commaList r.expression
      match terms with
      | .query query :: _ => wrapQuery r query
      | [] => if ← seesMark ")" then madeRaw "Tuple" "()" else fail "expression"
      | first :: rest =>
        let trailing := (← previous?).any (·.kind == .symbol ",")
        if rest.isEmpty && !trailing then made (.paren first)
        else madeRaw "Tuple" ("(" ++ ", ".intercalate (termTexts (← dialect) terms) ++ ")")
  return some (← closeTerm (term.noted comments))

/-- A literal, a star or something in parentheses. -/
def unmarkedPrimary (r : Rules) : Parser (Option Term) := do
  if let some term ← stringTerm then return some term
  if let some term ← literal numeralOf? then return some term
  if ← word "NULL" then return some (← made .null)
  if ← word "TRUE" then return some (← made (.boolean true))
  if ← word "FALSE" then return some (← made (.boolean false))
  if ← mark "*" then return some (← starTerm r)
  if (← seesMark ".") && (← seesAt 1 .number) then
    advance
    let token ← need "number" (takeIf (·.kind == .number))
    return some (.number ("0." ++ token.text) [])
  parenthesized r

/-- A column that is a single name; the comments of the name go to it. -/
def columnOf (ident : Ident) : Term :=
  .column [{ ident with comments := [] }] ident.comments

/-- A literal, possibly behind the set of its characters, a star or something in parentheses. -/
def primary (r : Rules) : Parser (Option Term) := do
  match ← takeIf (·.kind == .keyword "CHARACTERS") with
  | none => unmarkedPrimary r
  | some set =>
    match ← unmarkedPrimary r with
    | some literal => return some (← madeRaw "Introducer" (set.text ++ " " ++ (← textOf literal)))
    | none => return some (columnOf { name := set.text })

/-- A map between braces or from two lists, where the dialect has them; `record` reads what is in
braces. -/
def mapCall (r : Rules) (record : Parser (Option Term)) : Parser (Option Term) := do
  unless (← dialect).isNamed "duckdb" do return none
  match ← takeIf (readsAs ["MAP"]) with
  | none => return none
  | some _ =>
    if ← seesMark "\x7b" then
      let body ← need "record" record
      return some (← callTail r (← madeRaw "ToMap" ("MAP " ++ (← textOf body))))
    else
      let args ← wrappedList r.assignment
      let shown := ", ".intercalate (termTexts (← dialect) (args.take 2))
      return some (← callTail r (← madeRaw "Map" ("MAP(" ++ shown ++ ")")))

/-- A place in braces for a value of a type that is given later, where the dialect has them. -/
def typedPlace (r : Rules) : Parser (Option Term) := do
  unless (← dialect).isNamed "clickhouse" && (← seesMark "\x7b") do return none
  let start ← position
  advance
  let ident ← name
  discard (mark ":")
  let type ← match ← r.typeName { names := false } with
    | some type => pure (some (type.sql (← dialect)))
    | none => if ← texts ["IDENTIFIER"] then pure (some "Identifier") else pure none
  match type with
  | none =>
    goTo start
    return none
  | some type =>
    unless ← mark "\x7d" do fail "closing brace"
    return some (← madeRaw "Placeholder" ("\x7b" ++ (ident.map (·.name)).getD "" ++ ": " ++
      type ++ "\x7d"))

/-- A literal, a call or a column name; `record` reads a record in braces. -/
def referenceWith (r : Rules) (record : Parser (Option Term)) : Parser (Option Term) := do
  if let some term ← primary r then return some term
  if let some term ← mapCall r record then return some term
  if let some term ← call r {} then return some term
  if let some ident ← quotedName then return some (columnOf ident)
  if let some term ← placeholder then return some term
  if let some term ← typedPlace r then return some term
  if let some ident ← name then return some (columnOf ident)
  if (← seesWord "VALUES") && !(← seesAt 1 (.symbol "(")) then return (← anyName).map columnOf
  return none

/-! ## Brackets after a column -/

/-- An entry between brackets: a value with an optional label, or a range between two values. -/
def bracketItem (r : Rules) : Parser (Option Term) := do
  let first ← withLabel (← r.assignment) true
  if ← mark ":" then
    let last ← r.assignment
    return some (← madeRaw "Slice" ((← optionalTextOf first) ++ " : " ++ (← optionalTextOf last)))
  else return first

/-- A field of a record: its name, if it has one, and its value as text. -/
structure RecordField where
  name : Option String
  value : String

/-- A field of a record between braces. -/
def braceField (r : Rules) : Parser (Option RecordField) := do
  let key ← if (← dialect).isNamed "snowflake" then string else withLabel (← r.assignment) true
  if ← mark ":" then
    let value ← optionalTextOf (← r.assignment)
    return some { name := some ((key.map spelledName).getD ""), value := value }
  match key with
  | none => return none
  | some term =>
    match term.core with
    | .labelled inner label _ => return some { name := some label.name, value := ← textOf inner }
    | .binary .eq left right _ =>
      return some { name := some (spelledName left), value := ← textOf right }
    | _ => return some { name := none, value := ← textOf term }

/-- A record as the dialect writes it. -/
def recordText (dialect : Dialect) (fields : List RecordField) : String :=
  let join (texts : List String) : String := ", ".intercalate texts
  let ident (name : String) : String :=
    ({ name := name, quoted := !isPlainName name } : Ident).text dialect
  let write (field : RecordField) (named : String → String) : String :=
    (field.name.map named).getD field.value
  if dialect.isNamed "duckdb" then
    "\x7b" ++ join (fields.zipIdx.map fun (field, index) =>
      literalText dialect (field.name.getD ("_" ++ toString index)) ++ ": " ++ field.value) ++
        "\x7d"
  else if dialect.isNamed "snowflake" then
    "OBJECT_CONSTRUCT(" ++ join (fields.map fun field => write field fun name =>
      literalText dialect name ++ ", " ++ field.value) ++ ")"
  else if dialect.isNamed "clickhouse" then
    "map(" ++ join ((fields.takeWhile (·.name.isSome)).map fun field => write field fun name =>
      literalText dialect name ++ ", " ++ field.value) ++ ")"
  else if dialect.isNamed "bigquery" || dialect.likeHive then
    "STRUCT(" ++ join (fields.map fun field => write field fun name =>
      field.value ++ " AS " ++ ident name) ++ ")"
  else
    "STRUCT(" ++ join (fields.map fun field => write field fun name =>
      ident name ++ " := " ++ field.value) ++ ")"

/-- A list of values as the dialect writes it. -/
def arrayLiteral (dialect : Dialect) (values : String) : String :=
  if dialect.bracketArrays || dialect.isOneOf ["bigquery", "clickhouse"] then "[" ++ values ++ "]"
  else if dialect.likePresto || dialect.isOneOf ["postgres", "risingwave"] then "ARRAY[" ++
    values ++ "]"
  else "ARRAY(" ++ values ++ ")"

/-- The function that makes a point in time of a string, by the letters before the string. -/
def momentFunctions : List (String × String) :=
  [("d", "DATE"), ("t", "TIME"), ("ts", "TIMESTAMP")]

/-- A point in time between braces, after the opening brace. -/
def bracedMoment : Parser (Option Term) := do
  match ← peek? with
  | some { kind := .name, text, .. } =>
    match momentFunctions.lookup text.lowerCase with
    | none => return none
    | some function =>
      advance
      let value ← need "string" string
      let kind := match function with
        | "DATE" => "Date"
        | "TIME" => "Time"
        | _ => "Timestamp"
      let term ← madeRaw kind (function ++ "(" ++ (← textOf value) ++ ")")
      unless ← mark "\x7d" do fail "closing brace"
      return some term
  | _ => return none

/-- The index after a term, or a list on its own.  The flag says that another index can follow. -/
def bracketOnce (r : Rules) (term : Option Term) : Parser (Option (Term × Bool)) := do
  if ← mark "[" then
    let items ← commaList (bracketItem r)
    unless ← mark "]" do fail "]"
    let dialect ← dialect
    let texts := ", ".intercalate (termTexts dialect items)
    match term with
    | none => return some (← madeRaw "Array" (arrayLiteral dialect texts), true)
    | some term =>
      match (spelledName term).upperCase with
      | "ARRAY" => return some (.raw "Array" (arrayLiteral dialect texts), false)
      | "LIST" => return some (.raw "List" ("LIST(" ++ texts ++ ")"), false)
      | _ =>
        if items.isEmpty then fail "index"
        return some (← madeRaw "Bracket" (operandText dialect term (term.sql dialect) ++ "[" ++
          texts ++ "]"), true)
  else if ← mark "\x7b" then
    if let some moment ← bracedMoment then return some (moment, false)
    let fields ← commaList (braceField r)
    unless ← mark "\x7d" do fail "closing brace"
    return some (← madeRaw "Struct" (recordText (← dialect) fields), true)
  else return none

/-- All indexes after a term. -/
def brackets (r : Rules) (term : Option Term) : Parser (Option Term) := do
  let (found, _) ← iterate (fun ((term, goesOn) : Option Term × Bool) => do
    unless goesOn do return none
    match ← bracketOnce r term with
    | some (found, goesOn) => return some (some found, goesOn)
    | none => return none) (term, true)
  return found

/-- A literal, a call or a column name. -/
def columnReference (r : Rules) : Parser (Option Term) :=
  referenceWith r (brackets r none)

/-! ## Paths and casts after a column -/

/-- A term behind a dot: a qualified call keeps the case of its name. -/
def dotText (dialect : Dialect) (term : Term) : String :=
  match term.core with
  | .call name args =>
    name.bareText dialect ++ "(" ++ ", ".intercalate (termTexts dialect args) ++ ")"
  | term => term.sql dialect

/-- What stands for the name of a column behind a dot: a name, or anything else with its text. -/
def fieldIdent (dialect : Dialect) (term : Term) : Ident :=
  match term with
  | .column [ident] _ => ident
  | term => { name := spelledName term, shown := some (term.sql dialect) }

/-- The part after a dot. -/
def afterDot (r : Rules) (term : Term) : Parser Term := do
  let dialect ← dialect
  if let some field ← call r { anyWord := true, plain := true } then
    return .raw "Dot" (term.uncommented.sql dialect ++ "." ++ dotText dialect field)
  let field ← need "name" <|
    firstOf [primary r, do return (← firstOf [placeholderName, anyName]).map columnOf]
  match term with
  | .column parts comments =>
    if parts.length < 4 then
      let comments ← claimUnless comments
      match field.core with
      | .star tail => return (Term.columnStar parts tail).noted (comments ++ field.comments)
      | _ =>
        return .column (parts ++ [fieldIdent dialect field.uncommented])
          (comments ++ field.comments)
    else return .raw "Dot" (term.sql dialect ++ "." ++ dotText dialect field.uncommented)
  | term => return .raw "Dot" (term.sql dialect ++ "." ++ dotText dialect field.uncommented)

/-- The kind of an extraction by an arrow. -/
def arrowKind (arrow : String) : String :=
  match arrow with
  | "->" => "JSONExtract"
  | "->>" => "JSONExtractScalar"
  | "#>" => "JSONBExtract"
  | _ => "JSONBExtractScalar"

/-- The steps that a literal after an arrow spells. -/
def literalSteps? (field : Term) : Option (List PathStep) :=
  match field with
  | .string value _ => readPath? value
  | .number text _ => some [.index text]
  | _ => none

/-- The text of a term that a part is taken out of; a string has to be read as a document first. -/
def Term.documentText (dialect : Dialect) (term : Term) : String :=
  match term with
  | .string _ _ => "PARSE_JSON(" ++ term.sql dialect ++ ")"
  | term => term.sql dialect

/-- The extraction of a part of a document as the dialect writes it. -/
def extractText (dialect : Dialect) (arrow : String) (source : Term) (field : Term) : String :=
  let subject := source.sql dialect
  let shown := field.uncommented.sql dialect
  let call (name : String) (path : String) : String := name ++ "(" ++ subject ++ ", " ++ path ++ ")"
  let isScalar := arrow == "->>"
  let path := match literalSteps? field with
    | some steps => "'" ++ pathText steps ++ "'"
    | none => shown
  let bare := match literalSteps? field with
    | some steps => "'" ++ stepsText steps ++ "'"
    | none => shown
  if arrow == "#>" || arrow == "#>>" then
    if dialect.likePostgres then subject ++ " " ++ arrow ++ " " ++ shown
    else call (if arrow == "#>" then "JSONB_EXTRACT" else "JSONB_EXTRACT_SCALAR") shown
  else if dialect.likePostgres then
    let isIndex := (spelledName field).toInt?.isSome
    let key := if isIndex && !dialect.isNamed "redshift" then spelledName field
      else literalText dialect (spelledName field)
    match field with
    | .string _ _ | .number _ _ =>
      if dialect.isNamed "redshift" then call "JSON_EXTRACT_PATH_TEXT" key
      else subject ++ " " ++ arrow ++ " " ++ key
    | _ => call (if isScalar then "JSON_EXTRACT_PATH_TEXT" else "JSON_EXTRACT_PATH") shown
  else if dialect.isOneOf ["duckdb", "sqlite"] then
    (if source.core.kindName == arrowKind arrow then subject
      else operandText dialect source subject) ++
      " " ++ arrow ++ " " ++ path
  else if dialect.isNamed "snowflake" then
    if isScalar then call "JSON_EXTRACT_PATH_TEXT" bare
    else "GET_PATH(" ++ source.documentText dialect ++ ", " ++ bare ++ ")"
  else if dialect.isNamed "databricks" then
    subject ++ ":" ++ ((literalSteps? field).map stepsText).getD shown
  else if dialect.likeHive then call "GET_JSON_OBJECT" path
  else if dialect.isNamed "clickhouse" then call "JSONExtractString" bare
  else if dialect.isNamed "tsql" then
    "ISNULL(" ++ call "JSON_QUERY" path ++ ", " ++ call "JSON_VALUE" path ++ ")"
  else if dialect.likeMysql && isScalar then "JSON_UNQUOTE(" ++ call "JSON_EXTRACT" path ++ ")"
  else call (if isScalar then "JSON_EXTRACT_SCALAR" else "JSON_EXTRACT") path

/-- The extraction of a part of a document by an arrow, or the test for a key by a question mark. -/
def afterArrow (r : Rules) (term : Term) (arrow : String) : Parser Term := do
  let dialect ← dialect
  let field ← need "path" (do
    match ← columnReference r with
    | some field => return some field
    | none => brackets r none)
  let subject := term.sql dialect
  if arrow == "?" then
    let shown := field.uncommented.sql dialect
    madeRaw "JSONBContains" (if dialect.likePostgres then subject ++ " ? " ++ shown
      else "JSONB_CONTAINS(" ++ subject ++ ", " ++ shown ++ ")")
  else madeRaw (arrowKind arrow) (extractText dialect arrow term field)

/-- One operator after a column: a dot, a cast or an arrow. -/
def columnOperator (r : Rules) (term : Term) : Parser (Option Term) := do
  if ← mark "." then
    let term ← afterDot r term
    return ← brackets r (some term)
  if ← mark "::" then
    let type ← need "type" (r.typeName {})
    let mode := (← dialect).castMode
    return ← brackets r (some (← made (.cast term type mode)))
  let arrows := ["->", "->>", "#>", "#>>"] ++ if (← dialect).isNamed "clickhouse" then [] else ["?"]
  match ← anyMark arrows with
  | some arrow =>
    let term ← afterArrow r term arrow.text
    brackets r (some term)
  | none => return none

/-- A key of a path that colons lead into: its text, and the types it is cast to. -/
def colonKey (r : Rules) : Parser (Option (String × List TypeName)) := do
  unless ← mark ":" do return none
  let first ← peek?
  let start ← firstOf [primary r, call r { anyWord := true },
    do return (← nameOr true fun _ => true).map columnOf]
  match start, first with
  | some term, some first =>
    let operator (term : Term) : Parser (Option Term) := do
      if ← mark "." then
        let term ← afterDot r term
        brackets r (some term)
      else return none
    let term := (← brackets r (some term)).getD term
    discard (iterate operator term)
    let last := (← previous?).getD first
    let types ← many do
      if ← mark "::" then r.typeName {} else return none
    return some (← sourceBetween first last, types)
  | _, _ => return none

/-- The path that colons lead into, where the dialect has such paths. -/
def colonPath (r : Rules) (term : Term) : Parser Term := do
  unless (← dialect).colonPaths do return term
  let keys ← many (colonKey r)
  if keys.isEmpty then return term
  let dialect ← dialect
  let written := ".".intercalate (keys.map Prod.fst)
  let steps := (readPath? written).map stepsText
  let text := if dialect.isNamed "snowflake" then
      "GET_PATH(" ++ term.documentText dialect ++ ", " ++
        literalText dialect (steps.getD written) ++ ")"
    else term.sql dialect ++ ":" ++ steps.getD written
  let extracted ← madeRaw "JSONExtract" text
  return (keys.flatMap Prod.snd).foldl (fun term type => .cast term type .strict) extracted

/-- The operators after a column. -/
def columnOperators (r : Rules) (term : Term) : Parser Term := do
  let term := (← brackets r (some term)).getD term
  let term ← iterate (columnOperator r) term
  colonPath r term

/-- The mark of an outer join behind a column. -/
def markedOuter (term : Term) : Parser Term := do
  unless ← mark "(+)" do return term
  let dialect ← dialect
  match term with
  | .column parts comments =>
    let shown := match parts.getLast? with
      | some last => [{ last with shown := some (last.text dialect ++ " (+)") }]
      | none => []
    return .column (parts.dropLast ++ shown) comments
  | term => return term

/-- A column, a call or a literal, with the operators after it. -/
def column (r : Rules) : Parser (Option Term) := do
  match ← columnReference r with
  | some term => return some (← markedOuter (← columnOperators r term))
  | none => brackets r none

/-! ## Typed literals and intervals -/

/-- A decimal number with its exponent written out where that is short: digits without leading
zeros, a point among them if there are decimals, and scientific form for large and very small
numbers. -/
def decimalText (text : String) : String :=
  let lower := text.lowerCase.toList
  let mantissa := lower.takeWhile (· != 'e')
  let exponent :=
    (String.ofList (lower.dropWhile (· != 'e') |>.drop 1 |>.filter (· != '+'))).toInt?.getD 0
  let whole := mantissa.takeWhile (· != '.')
  let decimals := (mantissa.dropWhile (· != '.')).drop 1
  let digits := (toString (Text.digitsValue (whole ++ decimals))).toList
  let power := exponent - decimals.length
  let adjusted := power + digits.length - 1
  if power ≤ 0 && adjusted ≥ -6 then
    let places := power.natAbs
    let padded := List.replicate (places + 1 - digits.length) '0' ++ digits
    let front := padded.take (padded.length - places)
    let back := padded.drop (padded.length - places)
    String.ofList (if back.isEmpty then front else front ++ '.' :: back)
  else
    let back := digits.drop 1
    let shown := digits.take 1 ++ (if back.isEmpty then [] else '.' :: back)
    String.ofList shown ++ "E" ++ (if adjusted ≥ 0 then "+" else "") ++ toString adjusted

/-- The value of a number as text. -/
def plainDigits (text : String) : String :=
  if text.toList.all Text.isAsciiDigit then toString (Text.digitsValue text.toList)
  else decimalText text

/-- A number followed by a unit. -/
def amount : Pattern :=
  .all [.capture 1 (.many1 (.one Text.isAsciiDigit)), .blanks,
    .capture 2 (.many1 (.one Text.isAsciiLetter))]

/-- The numbers with their units that a string spells, such as `2 days`. -/
def intervalParts (text : String) : List (String × String) :=
  (amount.findAll text.toList).map fun m =>
    (String.ofList (m.group text.toList 1), String.ofList (m.group text.toList 2))

/-- Units of time by their abbreviations. -/
def unitNames : List (String × String) :=
  [("D", "DAY"), ("H", "HOUR"), ("M", "MINUTE"), ("MS", "MILLISECOND"), ("NS", "NANOSECOND"),
   ("Q", "QUARTER"), ("S", "SECOND"), ("US", "MICROSECOND"), ("W", "WEEK"), ("Y", "YEAR")]

/-- A unit of time written out, in upper case. -/
def unitName (unit : String) : String :=
  (unitNames.lookup unit.upperCase).getD unit.upperCase

/-- Dialects in which the units of an interval have no plural. -/
def Dialect.singularUnits (dialect : Dialect) : Bool :=
  dialect.likeMysql || dialect.likePresto || dialect.isNamed "bigquery"

/-- Units that have a plural. -/
def pluralUnits : List String :=
  ["MICROSECONDS", "SECONDS", "MINUTES", "HOURS", "DAYS", "WEEKS", "MONTHS", "QUARTERS", "YEARS"]

/-- The canonical text of an interval. -/
def intervalText (dialect : Dialect) (value : Term) (unit : String) : String :=
  let unit := if dialect.singularUnits && pluralUnits.contains unit then (unit.dropEnd 1).toString
    else unit
  if dialect.isNamed "snowflake" || dialect.likePostgres then
    match spelledName value with
    | "" => "INTERVAL" ++ spaced unit
    | name => "INTERVAL '" ++ name ++ spaced unit ++ "'"
  else match value.core with
    | .string _ _ | .column _ _ | .number _ _ | .negative _ | .paren _ =>
      "INTERVAL " ++ value.sql dialect ++ spaced unit
    | _ => "INTERVAL (" ++ value.sql dialect ++ ")" ++ spaced unit

/-- Whether a term is the unquoted name `is`. -/
def Term.isNamedIs : Term → Bool
  | .column [ident] _ => !ident.quoted && ident.name.upperCase == "IS"
  | _ => false

/-- The unit after the value of an interval: a call or a word. -/
def intervalUnit (r : Rules) : Parser String := do
  if let some term ← call r {} then return ← textOf term
  if ← seesWord "AS" then return ""
  match ← plainVariable true with
  | some ident => return withComments (ident.shown.getD (unitName ident.name)) ident.comments
  | none => return ""

/-- The value and the unit of one interval. -/
def intervalAmount (r : Rules) : Parser (Option Term) := do
  let value ← if ← sees .string then primary r else r.additive
  match value with
  | none => return none
  | some value =>
    if value.isNamedIs then return none
    let unit ← intervalUnit r
    let (value, unit) ← match value with
      | .number text _ => pure (Term.string (plainDigits text) [], unit)
      | .negative (.number text _) => pure (Term.string ("-" ++ plainDigits text) [], unit)
      | .string text comments => do
        let parts := intervalParts text
        unless unit.isEmpty || parts.isEmpty do goTo ((← position) - 1)
        match parts with
        | [] => pure (value, unit)
        | [(digits, inner)] => pure (Term.string digits [], unitName inner)
        | _ => pure (Term.string text comments, "")
      | value => pure (value, unit)
    let unit ← if ← texts ["TO"] then
        let last ← plainWord true
        pure (unit ++ " TO " ++ (last.map String.upperCase).getD "")
      else pure unit
    return some (← madeRaw "Interval" (intervalText (← dialect) value unit))

/-- A further summand of an interval: a value that follows directly or after a plus sign. -/
def intervalSummand (r : Rules) : Parser (Option Term) := do
  let start ← position
  discard (mark "+")
  if (← sees .string) || (← sees .number) then intervalAmount r
  else
    goTo start
    return none

/-- The sum of intervals, grouped to the right. -/
def intervalSum (first : Term) : List Term → Term
  | [] => first
  | second :: rest => .binary .add first (intervalSum second rest) []

/-- An interval. -/
def interval (r : Rules) : Parser (Option Term) := do
  let start ← position
  unless ← word "INTERVAL" do return none
  match ← intervalAmount r with
  | none =>
    goTo start
    return none
  | some first => return some (intervalSum first (← many (intervalSummand r)))

/-- A document from a string as the dialect writes it. -/
def parsedDocument (dialect : Dialect) (text : String) : String :=
  if dialect.likePostgres && !dialect.isNamed "redshift" then "CAST(" ++ text ++ " AS JSON)"
  else if dialect.likePresto || dialect.isNamed "redshift" then "JSON_PARSE(" ++ text ++ ")"
  else if dialect.isNamed "duckdb" then "JSON(" ++ text ++ ")"
  else if dialect.likeMysql || dialect.isNamed "tsql" then text
  else "PARSE_JSON(" ++ text ++ ")"

/-- A literal behind the name of its type. -/
def typedLiteral (r : Rules) : Parser (Option Term) := do
  let start ← position
  let dialect ← dialect
  match ← r.typeName { checkCall := true, names := false } with
  | none =>
    goTo start
    return none
  | some (.literal values type) =>
    let kind := if values.startsWith "STRUCT(" then "Struct" else "Array"
    return some (← columnOperators r (← made (.cast (.raw kind values) type .strict)))
  | some type =>
    let after ← position
    let cast (literal : Term) : Parser (Option Term) := do
      let literal ← columnOperators r literal
      match type with
      | .plain "JSON" _ =>
        return some (← madeRaw "ParseJSON" (parsedDocument dialect (literal.sql dialect)))
      | type => return some (← made (.cast literal type .strict))
    match ← primary r with
    | some (.string value comments) => cast (.string value comments)
    | some (.number text comments) => cast (.number text comments)
    | _ =>
      let hasParams := match type with
        | .plain _ params => !params.isEmpty
        | .nested _ filled => filled
        | .verbatim _ | .characters _ | .literal _ _ => false
      if hasParams && after - start > 1 then
        goTo after
        return some (← columnOperators r (.raw "DataType" (type.sql dialect)))
      else
        goTo start
        return none

/-- A value read as bytes: the type of bytes stands before it, where the dialect has that. -/
def binaryValue (r : Rules) : Parser (Option Term) := do
  unless ← onlyIf (← dialect).likeMysql (seesWord "BINARY") do return none
  match ← r.typeName { checkCall := true, names := false } with
  | none => return none
  | some type => return some (← made (.cast (← need "operand" (column r)) type .strict))

/-- An interval, a typed literal or a column. -/
def typed (r : Rules) : Parser (Option Term) := do
  if let some term ← binaryValue r then return some term
  if let some term ← interval r then return some term
  if let some term ← typedLiteral r then return some term
  match ← column r with
  | some term => return some (← columnOperators r term)
  | none => return none

/-! ## Operators -/

/-- A time in a zone as the dialect writes it. -/
def zonedText (dialect : Dialect) (time zone : String) : String :=
  if dialect.isNamed "bigquery" then "TIMESTAMP(DATETIME(" ++ time ++ ", " ++ zone ++ "))"
  else if dialect.isOneOf ["databricks", "spark", "spark2"] then
    "FROM_UTC_TIMESTAMP(" ++ time ++ ", " ++ zone ++ ")"
  else if dialect.isNamed "snowflake" then "CONVERT_TIMEZONE(" ++ zone ++ ", " ++ time ++ ")"
  else if dialect.likeMysql then time
  else time ++ " AT TIME ZONE " ++ zone

/-- The time zone after a term. -/
def timeZoneOf (r : Rules) (term : Term) : Parser (Option Term) := do
  if ← texts ["AT", "TIME", "ZONE"] then
    let zone ← need "time zone" r.unary
    let dialect ← dialect
    return some (← madeRaw "AtTimeZone" (zonedText dialect (term.sql dialect) (zone.sql dialect)))
  else return none

/-- The functions that signs before an operand stand for. -/
def rootSigns : List (String × String × String) :=
  [("|/", "Sqrt", "SQRT"), ("||/", "Cbrt", "CBRT")]

/-- An operand with the operators before it. -/
def unary (r : Rules) : Parser (Option Term) := do
  if ← mark "+" then r.unary
  else if ← mark "-" then return some (← made (.negative (← need "operand" r.unary)))
  else if ← mark "~" then
    let operand ← need "operand" r.unary
    return some (← madeRaw "BitwiseNot" ("~" ++ (← textOf operand)))
  else if ← word "NOT" then return some (← made (.negation (← need "operand" r.equality)))
  else
    match ← anyMark (rootSigns.map Prod.fst) with
    | some token =>
      let operand ← need "operand" r.unary
      let (kind, function) := (rootSigns.lookup token.text).getD ("Sqrt", "SQRT")
      return some (← madeRaw kind (function ++ "(" ++ (← textOf operand) ++ ")"))
    | none =>
      match ← typed r with
      | some term => return some (← iterate (timeZoneOf r) term)
      | none => return none

/-- Operands with operators between them, from left to right.  An operator needs an operand before
it. -/
def chain (operand : Parser (Option Term)) (step : Term → Parser (Option Term))
    (starts : Parser Bool) : Parser (Option Term) := do
  match ← operand with
  | some first => return some (← iterate step first)
  | none =>
    if ← starts then fail "operand"
    return none

/-- Whether the current token is one of several marks or keywords. -/
def seesAny (marks keywords : List String) : Parser Bool := do
  match ← peek? with
  | some { kind := .symbol text, .. } => return marks.contains text
  | some { kind := .keyword text, .. } => return keywords.contains text
  | _ => return false

/-- The right side of an operation whose operator has just been read, with the comments of the
operation. -/
def rightSide (operand : Parser (Option Term)) : Parser (Term × List String) := do
  let comments ← pending
  let right ← need "operand" operand
  return (right, ← claimUnless comments)

/-- The operation whose operator is one of several marks. -/
def markOperation (table : List (String × BinaryOp)) (operand : Parser (Option Term))
    (left : Term) :
    Parser (Option Term) := do
  match ← anyMark (table.map Prod.fst) with
  | some { kind := .symbol text, .. } =>
    match table.lookup text with
    | some op =>
      let (right, comments) ← rightSide operand
      return some (.binary op left right comments)
    | none => return none
  | _ => return none

/-- An operation that is kept as text, after its operator. -/
def rawOperation (kind : String) (operand : Parser (Option Term)) (left : Term)
    (write : String → String → String) : Parser Term := do
  let (right, _) ← rightSide operand
  let dialect ← dialect
  return .raw kind (write (operandText dialect left (← textOf left))
    (operandText dialect right (← textOf right)))

/-- An operator between two texts. -/
def between (symbol left right : String) : String :=
  left ++ " " ++ symbol ++ " " ++ right

/-- A function of two texts. -/
def appliedTo (function left right : String) : String :=
  function ++ "(" ++ left ++ ", " ++ right ++ ")"

/-- The signs for a power, where the dialect has them. -/
def Dialect.powerSigns (dialect : Dialect) : List String :=
  if dialect.likePostgres then ["^"] else if dialect.isNamed "duckdb" then ["^", "**"] else []

/-- Powers. -/
def power (r : Rules) : Parser (Option Term) := do
  let dialect ← dialect
  let signs := dialect.powerSigns
  chain (unary r) (fun left => do
    match ← anyMark signs with
    | some _ =>
      let write := if dialect.likePostgres then between "^" else appliedTo "POWER"
      return some (← rawOperation "Pow" (unary r) left write)
    | none => return none) (seesAny signs [])

/-- Dialects that divide whole numbers without a remainder. -/
def Dialect.typedDivision (dialect : Dialect) : Bool :=
  dialect.likePostgres || dialect.likePresto ||
    dialect.isOneOf ["drill", "sqlite", "teradata", "tsql"]

/-- The quotient without its remainder as the dialect writes it. -/
def quotientText (dialect : Dialect) (left right : String) : String :=
  if dialect.isNamed "duckdb" then between "//" left right
  else if dialect.likeHive then between "DIV" left right
  else if dialect.isNamed "bigquery" then appliedTo "DIV" left right
  else
    let left := if dialect.typedDivision then
        "CAST(" ++ left ++ " AS " ++ (TypeName.plain "DOUBLE" []).sql dialect ++ ")"
      else left
    "CAST(" ++ between "/" left right ++ " AS " ++ (TypeName.plain "INT" []).castText dialect ++ ")"

/-- Products. -/
def factor (r : Rules) : Parser (Option Term) := do
  let dialect ← dialect
  chain (power r) (fun left => do
    if let some term ← markOperation [("*", .mul), ("/", .div)] (power r) left then return some term
    let start ← position
    if let some token ← anyWord ["DIV"] then
      let comments ← pending
      match ← power r with
      | some right =>
        discard (claimUnless comments)
        return some (.raw "IntDiv" (quotientText dialect (left.sql dialect) (right.sql dialect)))
      | none =>
        if token.text == "//" then fail "operand"
        goTo start
        return none
    else if ← mark "<->" then
      return some (← rawOperation "Distance" (power r) left (between "<->"))
    else return none) (seesAny ["/", "<->"] [])

/-- Sums, remainders and collations. -/
def additive (r : Rules) : Parser (Option Term) :=
  chain (factor r) (fun left => do
    if let some term ← markOperation [("+", .add), ("-", .sub), ("%", .mod)] (factor r) left then
      return some term
    if ← word "COLLATE" then
      let isCall := (← dialect).isOneOf ["bigquery", "snowflake"]
      let text := if isCall then appliedTo "COLLATE" else between "COLLATE"
      return some (← rawOperation "Collate" (factor r) left text)
    else return none) (seesAny ["%"] [])

/-- Whether the current token is the sign of a bit operation or of a concatenation. -/
def seesBitSign : Parser Bool := do
  seesAny (["&", "|", "^", "||", "??"] ++ if (← dialect).likePostgres then ["#"] else []) []

/-- Bit operations, concatenation and shifts. -/
def bitwise (r : Rules) : Parser (Option Term) :=
  chain (additive r) (fun left => do
    let dialect ← dialect
    let table := [("&", BinaryOp.bitAnd), ("|", .bitOr), ("^", .bitXor)]
    let table := if dialect.symbolLogic then table else table ++ [("||", .concat)]
    let table := if dialect.likePostgres then table ++ [("#", .bitXor)] else table
    if let some term ← markOperation table (additive r) left then return some term
    if ← mark "??" then
      let right ← need "operand" (additive r)
      return some (← madeRaw "Coalesce" (appliedTo "COALESCE" (← textOf left) (← textOf right)))
    else if ← pair (.symbol "<") (.symbol "<") then
      return some (← rawOperation "BitwiseLeftShift" (additive r) left (between "<<"))
    else if ← pair (.symbol ">") (.symbol ">") then
      return some (← rawOperation "BitwiseRightShift" (additive r) left (between ">>"))
    else return none) seesBitSign

/-! ## Range predicates -/

/-- The escape character after a pattern. -/
def withEscape (term : Term) : Parser Term := do
  if ← word "ESCAPE" then
    let escape ← need "escape" <| firstOf [string, do
      if ← word "NULL" then return some (← made .null) else return none]
    madeRaw "Escape" ((← textOf term) ++ " ESCAPE " ++ (← textOf escape))
  else return term

/-- A predicate that is kept as text. -/
def rawPredicate (r : Rules) (kind : String) (left : Term) (write : String → String → String) :
    Parser Term := do
  let right ← need "operand" (bitwise r)
  withEscape (← madeRaw kind (write (← textOf left) (← textOf right)))

/-- A predicate with a node of its own. -/
def nodePredicate (r : Rules) (op : BinaryOp) (left : Term) : Parser Term := do
  let right ← need "pattern" (bitwise r)
  withEscape (← made (.binary op left right []))

/-- The set after IN. -/
def inPredicate (r : Rules) (left : Term) : Parser Term := do
  let dialect ← dialect
  if ← word "UNNEST" then
    let terms ← wrappedList r.equality
    let list := "UNNEST(" ++ ", ".intercalate (termTexts dialect terms) ++ ")"
    return ← madeRaw "In" (left.sql dialect ++ " IN " ++
      if dialect.isNamed "bigquery" then list else "(SELECT " ++ list ++ ")")
  if let some opening ← anyMark ["(", "["] then
    let values ← commaList (queryOr r r.assignment)
    let term ← match values with
      | [.query (.other kind text)] => made (.inList left [.query (.other kind text)])
      | [.query query] => made (.inQuery left query)
      | values => made (.inList left values)
    if opening.text == "(" then return ← closeTerm term
    unless ← mark "]" do fail "]"
    return term.noted (← claim)
  match ← column r with
  | some field => madeRaw "In" ((← textOf left) ++ " IN " ++ (← textOf field))
  | none => made (.inList left [])

/-- The kind of document after IS, after its keyword. -/
def documentKind : Parser Term := do
  let kind ← anyText ["VALUE", "SCALAR", "ARRAY", "OBJECT"]
  let keys ← do
    if ← texts ["WITH"] then pure "WITH"
    else if ← texts ["WITHOUT"] then pure "WITHOUT"
    else pure ""
  let unique ← word "UNIQUE"
  discard (texts ["KEYS"])
  madeRaw "JSON" (words ["JSON", (kind.map (·.upper)).getD "", keys,
    if unique then "UNIQUE KEYS" else ""])

/-- The test after IS; goes back when there is none. -/
def isPredicate (r : Rules) (left : Term) : Parser (Option Term) := do
  let start ← position
  let negated ← word "NOT"
  if ← texts ["DISTINCT", "FROM"] then
    let right ← need "operand" (bitwise r)
    if negated then return some (← made (.binary .nullSafeEq left right []))
    else return some (← madeRaw "NullSafeNEQ"
      (between "IS DISTINCT FROM" (← textOf left) (← textOf right)))
  let value ← do
    if ← word "JSON" then pure (some (← documentKind))
    else firstOf [primary r, placeholder]
  match value with
  | none =>
    goTo (start - 1)
    return none
  | some value =>
    let term ← made (.is left value)
    if negated then return some (← made (.negation term)) else return some term

/-- What is computed for each value of a list, after FOR; goes back when there is no list. -/
def comprehension (r : Rules) (left : Term) : Parser (Option Term) := do
  let start ← position
  let item ← column r
  unless ← word "IN" do
    goTo (start - 1)
    return none
  let list ← column r
  let condition ← if ← texts ["IF"] then r.assignment else pure none
  let dialect ← dialect
  return some (← madeRaw "Comprehension" ((← textOf left) ++ " FOR " ++ (← optionalTextOf item) ++
    " IN " ++ (← optionalTextOf list) ++ optionalText "IF" (optionalTermText dialect condition)))

/-- The keywords that start a range predicate. -/
def rangeKeywords : List String :=
  ["BETWEEN", "FOR", "GLOB", "GLOBAL", "ILIKE", "ILIKE ANY", "IN", "IRLIKE", "IS", "LIKE",
    "LIKE ANY",
   "MEMBER OF", "OPERATOR", "OVERLAPS", "RLIKE", "SIMILAR TO"]

/-- The marks that start a range predicate in a dialect. -/
def Dialect.rangeMarks (dialect : Dialect) : List String :=
  if dialect.likePostgres then ["@>", "<@", "&&", "@@"]
  else if dialect.isNamed "duckdb" then ["@>", "<@", "&&", "^@"]
  else []

/-- An operator that is named in parentheses, after its keyword. -/
def namedOperator (r : Rules) (left : Term) : Parser Term :=
  iterate (fun left => do
    let again := (← previous?).any (·.kind == .keyword "OPERATOR")
    unless again || (← word "OPERATOR") do return none
    unless ← mark "(" do return none
    let parts ← many (takeIf (·.kind != .symbol ")"))
    discard (mark ")")
    let operator := String.join (parts.map (·.text))
    return some (← rawOperation "Operator" (bitwise r) left
      (between ("OPERATOR(" ++ operator ++ ")")))) left

/-- The range predicate after its keyword. -/
def rangePredicate (r : Rules) (keyword : String) (left : Term) : Parser (Option Term) := do
  let dialect ← dialect
  match keyword with
  | "BETWEEN" =>
    let low ← need "bound" (bitwise r)
    discard (word "AND")
    let high ← need "bound" (bitwise r)
    return some (← made (.between left low high))
  | "IN" => return some (← inPredicate r left)
  | "GLOBAL" =>
    let negated ← word "NOT"
    unless ← word "IN" do fail "IN"
    let term ← inPredicate r left
    if negated then return some (← made (.negation term)) else return some term
  | "IS" => isPredicate r left
  | "FOR" => comprehension r left
  | "LIKE" => return some (← nodePredicate r .like left)
  | "ILIKE" => return some (← nodePredicate r .ilike left)
  | "LIKE ANY" => return some (← rawPredicate r "LikeAny" left (between keyword))
  | "ILIKE ANY" => return some (← rawPredicate r "ILikeAny" left (between keyword))
  | "GLOB" => return some (← rawPredicate r "Glob" left (between "GLOB"))
  | "OVERLAPS" => return some (← rawPredicate r "Overlaps" left (between "OVERLAPS"))
  | "SIMILAR TO" => return some (← rawPredicate r "SimilarTo" left (between "SIMILAR TO"))
  | "OPERATOR" => return some (← namedOperator r left)
  | "MEMBER OF" =>
    unless ← mark "(" do fail "("
    let list ← need "list" r.expression
    close
    return some (← madeRaw "JSONArrayContains"
      ((← textOf left) ++ " MEMBER OF(" ++ (← textOf list) ++ ")"))
  | "RLIKE" =>
    let write := if dialect.symbolLogic || dialect.likeHive then between "RLIKE"
      else if dialect.tildeMatches then between "~"
      else appliedTo "REGEXP_LIKE"
    return some (← rawPredicate r "RegexpLike" left write)
  | _ =>
    let write := if dialect.tildeMatches then between "~*" else appliedTo "REGEXP_ILIKE"
    return some (← rawPredicate r "RegexpILike" left write)

/-- The range predicate after its mark. -/
def markPredicate (r : Rules) (mark : String) (left : Term) : Parser Term := do
  match mark with
  | "@>" => rawPredicate r "ArrayContainsAll" left (between "@>")
  | "<@" => rawPredicate r "ArrayContainsAll" left (fun left right => between "@>" right left)
  | "&&" => rawPredicate r "ArrayOverlaps" left (between "&&")
  | "^@" => rawPredicate r "StartsWith" left (appliedTo "STARTS_WITH")
  | _ => rawPredicate r "MatchAgainst" left (between "@@")

/-- The negation of a predicate.  Some dialects take a value that is not in a query for one that
differs from all its rows. -/
def negated (term : Term) : Parser Term := do
  let dialect ← dialect
  match term.core with
  | .inQuery subject query =>
    if dialect.isNamed "snowflake" then
      made (.binary .neq subject (.raw "All" ("ALL (" ++ query.sql dialect ++ ")")) [])
    else made (.negation term)
  | _ => made (.negation term)

/-- The predicates after an operand, with a negation before the first of them; a test after IS that
cannot be read leaves nothing. -/
def rangeTail (r : Rules) (left : Term) : Parser (Option Term) := do
  let isNegated ← word "NOT"
  let marks := (← dialect).rangeMarks
  let found ← match ← anyWord rangeKeywords with
    | some { kind := .keyword keyword, .. } => rangePredicate r keyword left
    | _ =>
      match ← anyMark marks with
      | some { kind := .symbol text, .. } => pure (some (← markPredicate r text left))
      | _ => if ← word "ISNULL" then pure (some (← made (.is left .null))) else pure (some left)
  match found with
  | none => return some left
  | some term =>
    let term ← if ← word "NOTNULL" then made (.negation (← made (.is term .null))) else pure term
    let term ← if isNegated then negated term else pure term
    if ← word "IS" then isPredicate r term else return some term

/-- An operand with a range predicate. -/
def range (r : Rules) : Parser (Option Term) := do
  match ← bitwise r with
  | some left => rangeTail r left
  | none =>
    if ← seesAny (← dialect).rangeMarks (rangeKeywords ++ ["NOTNULL"]) then fail "operand"
    return none

/-- Comparisons by order. -/
def comparison (r : Rules) : Parser (Option Term) :=
  chain (range r) (markOperation [(">", .gt), (">=", .gte), ("<", .lt), ("<=", .lte)] (range r))
    (seesAny [">", ">=", "<", "<="] [])

/-- Comparisons for equality. -/
def equality (r : Rules) : Parser (Option Term) :=
  chain (comparison r)
    (markOperation [("=", .eq), ("<>", .neq), ("<=>", .nullSafeEq)] (comparison r))
    (seesAny ["=", "<>", "<=>"] [])

/-- The operation whose operator is a keyword. -/
def wordOperation (keyword : String) (op : BinaryOp) (operand : Parser (Option Term))
    (left : Term) :
    Parser (Option Term) := do
  if ← word keyword then
    let (right, comments) ← rightSide operand
    return some (.binary op left right comments)
  else return none

/-- Conjunctions. -/
def conjunction (r : Rules) : Parser (Option Term) :=
  chain (equality r) (fun left => do
    if (← dialect).symbolLogic then
      if let some term ← markOperation [("&&", .and)] (equality r) left then return some term
      if ← word "XOR" then return some (← rawOperation "Xor" (equality r) left (between "XOR"))
    wordOperation "AND" .and (equality r) left) (seesWord "AND")

/-- Disjunctions. -/
def disjunction (r : Rules) : Parser (Option Term) :=
  chain (conjunction r) (fun left => do
    if (← dialect).symbolLogic then
      if let some term ← markOperation [("||", .or)] (conjunction r) left then return some term
    wordOperation "OR" .or (conjunction r) left) (seesWord "OR")

/-- Assignments; any token can stand for the name before the sign. -/
def assignment (r : Rules) : Parser (Option Term) := do
  let first ← match ← disjunction r with
    | some term => pure (some term)
    | none =>
      if ← seesAt 1 (.symbol ":=") then
        match ← takeIf fun token => token.kind != .unknown with
        | some token => pure (some (Term.column [{ name := token.text }] []))
        | none => pure none
      else pure none
  match first with
  | some first =>
    let term ← iterate (fun left => do
      if ← mark ":=" then
        return some (← rawOperation "PropertyEQ" r.assignment left (between ":="))
      else return none) first
    if ← onlyIf ((← dialect).isNamed "clickhouse") (mark "?") then
      let yes ← need "result" r.assignment
      let no ← if ← mark ":" then r.assignment else pure none
      return some (← made (.conditional "IF" ([term, yes] ++ no.toList)))
    return some term
  | none =>
    if ← seesMark ":=" then fail "operand"
    return none

end SqlLayout.Grammar
