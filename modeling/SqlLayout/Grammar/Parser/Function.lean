import SqlLayout.Grammar.Aggregate
import SqlLayout.Grammar.DatePart
import SqlLayout.Grammar.Parser.Ordering
import SqlLayout.Grammar.Parser.Types
import SqlLayout.Grammar.Path

/-!
# Calls

A call is a name with arguments in parentheses.  A few names have a syntax of their own; of these
only casts and conditionals stay terms, the others are kept as text.
-/

namespace SqlLayout.Grammar

open SqlLayout.Grammar.Parser

/-- The canonical text of a term. -/
def textOf (term : Term) : Parser String := do
  return term.sql (← dialect)

/-- The canonical text of a term that may be missing. -/
def optionalTextOf (term : Option Term) : Parser String := do
  match term with
  | some term => textOf term
  | none => return ""

/-- A raw term with the comments of the last token. -/
def madeRaw (kind text : String) : Parser Term :=
  made (.raw kind text)

/-- A query or, if there is none, an expression with the set operations after it. -/
def queryOr (r : Rules) (other : Parser (Option Term)) : Parser (Option Term) := do
  match ← r.query {} with
  | some query => return some (.query query)
  | none =>
    match ← other with
    | some (.query query) => return some (.query (← r.withSetOps query))
    | found => return found

/-- The label after an expression, if there is one; `needsWord` says that it must follow `AS`.  The
comments of an expression go to its label. -/
def withLabel (term : Option Term) (needsWord : Bool := false) : Parser (Option Term) := do
  let explicit ← word "AS"
  let comments ← pending
  if needsWord && !explicit then return term
  let dialect ← dialect
  if ← mark "(" then
    let labels ← commaList (nameOr explicit (·.roles.isName))
    if labels.isEmpty then fail "label"
    let names := ", ".intercalate (labels.map (·.sql dialect))
    let labelled ← madeWith comments
      (.raw "Aliases" ((← optionalTextOf term) ++ " AS (" ++ names ++ ")"))
    return some (← closeTerm labelled)
  let stringLabels := dialect.isOneOf ["tsql", "duckdb"] || dialect.likeMysql
  let canLabel (token : Token) : Bool :=
    token.roles.isName && !(dialect.isNamed "clickhouse" && token.kind == .keyword "FORMAT")
  let label ← firstOf ([nameOr explicit canLabel] ++ if stringLabels then [stringAsName] else [])
  match label with
  | none => return term
  | some label =>
    match term with
    | some term =>
      let comments := comments ++ label.comments
      let comments ← claimUnless comments
      let label := { label with comments := [] }
      if comments.isEmpty then return some (.labelled term.uncommented label term.comments)
      else return some (.labelled term label comments)
    | none => fail "expression"

/-! ## Arguments -/

/-- A parameter of an anonymous function; some dialects allow a type behind it. -/
def lambdaParam (r : Rules) : Parser (Option (Ident × Option TypeName)) := do
  match ← anyName with
  | none => return none
  | some ident =>
    let type ← if (← dialect).isNamed "snowflake" then r.typeName {} else pure none
    return some (ident, type)

/-- The parameters of an anonymous function, if it is followed by its arrow. -/
def lambdaParams (r : Rules) : Parser (List (Ident × Option TypeName)) := do
  let start ← position
  if ← mark "(" then
    let params ← commaList (lambdaParam r)
    if ← mark ")" then return params
    goTo start
    return []
  else return (← lambdaParam r).toList

mutual

/-- Casts the columns of a term that are parameters with a type. -/
def castParams (types : List (String × TypeName)) : Term → Term
  | .column [ident] comments =>
    match types.lookup ident.name with
    | some type => .cast (.column [ident] []) type .strict
    | none => .column [ident] comments
  | .paren inner => .paren (castParams types inner)
  | .negative inner => .negative (castParams types inner)
  | .negation inner => .negation (castParams types inner)
  | .is subject value => .is (castParams types subject) (castParams types value)
  | .between subject low high =>
    .between (castParams types subject) (castParams types low) (castParams types high)
  | .inList subject values => .inList (castParams types subject) (castParamsAll types values)
  | .cast operand type mode => .cast (castParams types operand) type mode
  | .binary op left right comments =>
    .binary op (castParams types left) (castParams types right) comments
  | .call name args => .call name (castParamsAll types args)
  | .conditional name args => .conditional name (castParamsAll types args)
  | .commented inner comments => .commented (castParams types inner) comments
  | term => term

/-- Casts the columns of terms that are parameters with a type. -/
def castParamsAll (types : List (String × TypeName)) : List Term → List Term
  | [] => []
  | t :: rest => castParams types t :: castParamsAll types rest

end

/-- An anonymous function or a named argument. -/
def arrowArgument (r : Rules) : Parser (Option Term) := do
  let start ← position
  let params ← lambdaParams r
  let dialect ← dialect
  if ← mark "->" then
    let body ← need "lambda body" r.assignment
    let names := ", ".intercalate (params.map (·.1.sql dialect))
    let names := if names.contains ',' then "(" ++ names ++ ")" else names
    let types := params.filterMap fun (ident, type) => type.map (ident.name, ·)
    let body := if types.isEmpty then body else castParams types body
    return some (← madeRaw "Lambda" (names ++ " -> " ++ body.sql dialect))
  else if ← onlyIf (!params.isEmpty) (mark "=>") then
    let value ← need "argument" r.assignment
    let label := (params.head?.map (·.1.name)).getD ""
    return some (← madeRaw "Kwarg" (label ++ " => " ++ (← textOf value)))
  else
    goTo start
    return none

/-- The words about missing values after a call or an argument. -/
def nullTreatment : Parser (Option (Term → Term)) := do
  let dialect ← dialect
  let wrap (kind words : String) : Parser (Option (Term → Term)) := do
    let comments ← claim
    return some fun term => (Term.raw kind (term.sql dialect ++ words)).noted comments
  if ← texts ["IGNORE", "NULLS"] then wrap "IgnoreNulls" " IGNORE NULLS"
  else if ← texts ["RESPECT", "NULLS"] then wrap "RespectNulls" " RESPECT NULLS"
  else return none

/-- The clauses that can follow an argument. -/
def argumentTail (r : Rules) (term : Option Term) : Parser (Option Term) := do
  let dialect ← dialect
  let term ← match ← nullTreatment with
    | some wrap => pure (some (wrap (term.getD (.raw "" ""))))
    | none => pure term
  let term ← if ← word "HAVING" then
      let bound ← anyText ["MAX", "MIN"]
      let column ← need "column" r.column
      let bound := (bound.map (·.upper)).getD "MAX"
      pure (some (← madeRaw "HavingMax"
        ((← optionalTextOf term) ++ " HAVING " ++ bound ++ " " ++ (← textOf column))))
    else pure term
  let term ← match ← orderClause r with
    | some keys =>
      let order := "ORDER BY " ++ ", ".intercalate (orderedTexts dialect keys)
      pure (some (← madeRaw "Order" (words [← optionalTextOf term, order])))
    | none => pure term
  match ← limitClause r with
  | some limit =>
    let offset := (limit.offset.map fun term => term.sql dialect ++ ", ").getD ""
    return some (.raw "Limit" ((← optionalTextOf term) ++ " LIMIT " ++ offset ++
      (← textOf limit.count) ++ spaced limit.tail))
  | none => return term

/-- One argument of a call; `value` reads an expression. -/
def argument (r : Rules) (value : Parser (Option Term)) : Parser (Option Term) := do
  match ← arrowArgument r with
  | some term => return some term
  | none =>
    let term ← if ← word "DISTINCT" then
        pure (some (← made (.distinct (← commaList r.assignment))))
      else queryOr r value
    argumentTail r term

/-! ## Windows -/

/-- One side of a window frame. -/
def frameSide (r : Rules) : Parser String := do
  discard (word "BETWEEN")
  let value ← do
    if ← texts ["UNBOUNDED"] then pure "UNBOUNDED"
    else if ← texts ["CURRENT", "ROW"] then pure "CURRENT ROW"
    else optionalTextOf (← r.bitwise)
  let side ← anyText ["FOLLOWING", "PRECEDING"]
  return words [value, (side.map (·.text)).getD ""]

/-- A window frame, as text. -/
def frameClause (r : Rules) : Parser (Option String) := do
  match ← anyWord ["ROWS", "RANGE"] with
  | none => return none
  | some kind =>
    discard (word "BETWEEN")
    let first ← frameSide r
    discard (word "AND")
    let last ← frameSide r
    discard claim
    return some (kind.text ++ " BETWEEN " ++ first ++ " AND " ++
      if last.isEmpty then "CURRENT ROW" else last)

/-- The parts of a window between its parentheses. -/
structure WindowSpec where
  label : Option Ident
  edge : String
  partition : List Term
  order : List Ordered
  frame : Option String

/-- The canonical text of the parts of a window. -/
def WindowSpec.text (spec : WindowSpec) : Parser String := do
  let dialect ← dialect
  let partition := termTexts dialect spec.partition
  let order := orderedTexts dialect spec.order
  return words [(spec.label.map (·.sql dialect)).getD "", spec.edge,
    if partition.isEmpty then "" else "PARTITION BY " ++ ", ".intercalate partition,
    if order.isEmpty then "" else "ORDER BY " ++ ", ".intercalate order, spec.frame.getD ""]

/-- The canonical text of a window in the place of its name: a lone name needs no parentheses. -/
def WindowSpec.reference (spec : WindowSpec) : Parser String := do
  match spec with
  | { label := some label, partition := [], order := [], frame := none, .. } =>
    return label.sql (← dialect)
  | spec => return "(" ++ (← spec.text) ++ ")"

/-- The parts of a window after its opening parenthesis, up to the closing one. -/
def windowSpec (r : Rules) : Parser WindowSpec := do
  let label ← nameIf fun token => token.roles.isName && token.kind != .keyword "ROWS"
  let first ← word "FIRST"
  let last ← texts ["LAST"]
  let partition ← if ← word "PARTITION BY" then commaList r.assignment else pure []
  let order ← orderClause r
  let frame ← frameClause r
  close
  return { label := label, edge := if last then "LAST" else if first then "FIRST" else "",
           partition := partition, order := order.getD [], frame := frame }

/-- A filter on the rows of an aggregate. -/
def filterClause (r : Rules) : Parser (Option (Term → Term)) := do
  let dialect ← dialect
  unless ← pair (.keyword "FILTER") (.symbol "(") do return none
  discard (word "WHERE")
  let condition ← need "condition" r.assignment
  let comments ← claim
  close
  return some fun term =>
    (Term.raw "Filter" (term.sql dialect ++ " FILTER(WHERE " ++ condition.sql dialect ++ ")")).noted
      comments

/-- The order of the rows of an aggregate. -/
def withinGroup (r : Rules) : Parser (Option (Term → Term)) := do
  let dialect ← dialect
  unless ← texts ["WITHIN", "GROUP"] do return none
  unless ← mark "(" do fail "("
  let order ← orderClause r
  close
  let keys := match order with
    | some keys => "ORDER BY " ++ ", ".intercalate (orderedTexts dialect keys)
    | none => ""
  let comments ← claim
  return some fun term =>
    (Term.raw "WithinGroup" (term.sql dialect ++ " WITHIN GROUP (" ++ keys ++ ")")).noted comments

/-- The window after its keyword; it takes the comments of its function. -/
def windowAfter (r : Rules) (keyword : String) (comments : List String) (term : Term) :
    Parser Term := do
  let dialect ← dialect
  let isOver := keyword == "OVER"
  if ← mark "(" then
    let spec ← windowSpec r
    if spec.label.isNone && spec.edge.isEmpty && isOver then
      madeWith comments (.window term spec.partition spec.order spec.frame)
    else
      madeWith comments (.raw "Window" (term.sql dialect ++ " " ++ keyword ++ " " ++
        (← spec.reference)))
  else
    match ← name with
    | some label =>
      madeWith comments (.raw "Window" (term.sql dialect ++ " " ++ keyword ++ " " ++
        label.sql dialect))
    | none => madeWith comments (.window term [] [] none)

/-- The keyword of a window. -/
def windowWord : Parser (Option String) := do
  if ← word "OVER" then return some "OVER"
  else if ← onlyIf ((← dialect).isNamed "oracle") (word "KEEP") then return some "KEEP"
  else return none

/-- What can follow a call: a filter, an order, words about missing values and windows. -/
def callTail (r : Rules) (term : Term) : Parser Term := do
  let filter ← filterClause r
  let group ← withinGroup r
  let nulls ← nullTreatment
  let wrap (term : Term) : Term :=
    [filter, group, nulls].foldl (fun term wrap => (wrap.map (· term)).getD term) term
  match ← windowWord with
  | none => return wrap term
  | some keyword =>
    let window ← windowAfter r keyword term.comments (wrap term.uncommented)
    iterate (fun window => do
      match ← windowWord with
      | some keyword => return some (← windowAfter r keyword window.comments window.uncommented)
      | none => return none) window

/-! ## Calls with a syntax of their own -/

/-- Whether a term is an interval of the column `end`. -/
def Term.isIntervalOfEnd : Term → Bool
  | .raw "Interval" text =>
    let text := text.upperCase
    text == "INTERVAL END" || text.startsWith "INTERVAL END "
  | _ => false

/-- A case expression after its keyword. -/
def caseExpr (r : Rules) : Parser Term := do
  let comments ← pending
  let operand ← r.assignment
  let branches ← many do
    if ← word "WHEN" then
      let condition ← need "condition" r.assignment
      discard (word "THEN")
      let result ← need "result" r.assignment
      discard claim
      return some (CaseBranch.mk condition result)
    else return none
  let otherwise ← if ← word "ELSE" then r.assignment else pure none
  let otherwise ← if ← word "END" then pure otherwise
    else if otherwise.any Term.isIntervalOfEnd then
      pure (some (Term.column [{ name := "interval" }] []))
    else fail "END"
  if branches.isEmpty then fail "WHEN"
  madeWith comments (.caseOf operand branches otherwise)

/-- A conditional after its keyword: as a call, or as a statement-like form.  At the start of a text
the latter is kept as written. -/
def ifExpr (r : Rules) (token : Token) : Parser (Option Term) := do
  if ← mark "(" then
    let args ← commaList do withLabel (← r.assignment) true
    if args.length < 2 || args.length > 3 then fail "arguments"
    close
    return some (.conditional token.text args)
  else
    let start ← position
    if start == 1 && !(← dialect).isNamed "tsql" then
      return some (.raw "Command" (← commandText token))
    match ← r.assignment with
    | none =>
      goTo (start - 1)
      return none
    | some condition =>
      discard (word "THEN")
      let yes ← need "result" r.assignment
      let no ← if ← word "ELSE" then r.assignment else pure none
      discard (word "END")
      return some (← made (.conditional token.text ([condition, yes] ++ no.toList)))

/-- A comparison with any of several values, after its keyword. -/
def anyExpr (r : Rules) : Parser Term := do
  let operand ← need "operand" r.bitwise
  let text ← textOf operand
  match operand.core with
  | .paren _ => madeRaw "Any" ("ANY" ++ text)
  | _ => madeRaw "Any" ("ANY " ++ text)

/-- A cast after its opening parenthesis. -/
def castCall (r : Rules) (mode : CastMode) : Parser Term := do
  let dialect ← dialect
  let operand ← need "operand" r.assignment
  unless ← word "AS" do
    unless ← mark "," do fail "AS"
    let target ← need "type" string
    return ← madeRaw "CastToStrType"
      ((if dialect.isNamed "clickhouse" then "CAST(" else "CAST_TO_STR_TYPE(") ++
        operand.sql dialect ++ ", " ++ target.sql dialect ++ ")")
  let type ← r.typeName {}
  if ← word "FORMAT" then
    let form ← string
    let zone ← if ← texts ["AT", "TIME", "ZONE"] then r.unary else pure none
    match type with
    | some (.plain name params) =>
      if temporalTypes.contains name then
        let shown := literalText dialect ((form.map spelledName).getD "")
        let function := if name == "DATE" then "STR_TO_DATE" else "STR_TO_TIME"
        let zone := if name == "DATE" then "" else (zone.map (", " ++ ·.sql dialect)).getD ""
        return ← madeRaw (if name == "DATE" then "StrToDate" else "StrToTime")
          (function ++ "(" ++ operand.sql dialect ++ ", " ++ shown ++ zone ++ ")")
      return ← made (.cast operand (.plain name params) mode)
    | some type => return ← made (.cast operand type mode)
    | none => return ← made (.cast operand (.plain "UNKNOWN" []) mode)
  let type ← need "type" (pure type)
  let type ← match type with
    | .plain "CHAR" _ =>
      if ← word "CHARACTER SET" then
        let charset ← match ← string with
          | some term => textOf term
          | none => pure ((← plainWord true).getD "")
        pure (TypeName.characters charset)
      else pure type
    | _ => pure type
  made (.cast operand type mode)

/-- A conversion whose type comes before its operand, after the opening parenthesis of the
function. -/
def typedConversion (r : Rules) (function : String) : Parser Term := do
  let dialect ← dialect
  let type ← need "type" (r.typeName {})
  discard (mark ",")
  let args ← commaList r.assignment
  if args.isEmpty then fail "operand"
  madeRaw "Convert" (function ++ "(" ++
    ", ".intercalate (type.sql dialect :: termTexts dialect args) ++ ")")

/-- A conversion after its opening parenthesis. -/
def convertCall (r : Rules) (mode : CastMode) : Parser Term := do
  let operand ← need "operand" r.bitwise
  if ← word "USING" then
    let charset ← need "character set" plainWord
    made (.cast operand (.characters charset) mode)
  else if ← mark "," then
    let type ← need "type" (r.typeName {})
    made (.cast operand type mode)
  else fail "type"

/-- The extraction of a part of a date, after its opening parenthesis; `call` reads a part that is a
call. -/
def extractCall (r : Rules) (call : Parser (Option Term)) : Parser Term := do
  let dialect ← dialect
  let part ← match ← call with
    | some term => textOf term
    | none =>
      match ← string with
      | some term => textOf term
      | none =>
        let ident ← need "part" (plainVariable true)
        pure (withComments ident.name.upperCase ident.comments)
  unless ← word "FROM" do
    unless ← mark "," do fail "FROM"
  let operand ← need "operand" r.bitwise
  let text ← textOf operand
  if dialect.isNamed "snowflake" then
    madeRaw "Extract" ("DATE_PART(" ++ part ++ ", " ++ text ++ ")")
  else madeRaw "Extract" ("EXTRACT(" ++ part ++ " FROM " ++ text ++ ")")

/-- The time since the epoch in one of its units: seconds are extracted, and smaller units are
counted from them. -/
def sinceEpoch (part : String) (time : Term) : Parser Term := do
  let moment ← made (.cast time (.plain "TIMESTAMP" []) .strict)
  let seconds ← madeRaw "TimeToUnix" ("EXTRACT(epoch_second FROM " ++ (← textOf moment) ++ ")")
  match epochScale? part with
  | some scale => return .binary .mul seconds (.number scale []) []
  | none => return seconds

/-- A part of a date as a call, after its opening parenthesis; its name is written out. -/
def datePartCall (r : Rules) : Parser Term := do
  let (spelled, shown) ← match ← plainWord with
    | some part => pure (part, part)
    | none =>
      let term ← need "part" r.typed
      pure (spelledName term, ← textOf term)
  discard (mark ",")
  let operand ← need "operand" r.bitwise
  let (part, shown) := match datePartSpellings.lookup spelled.upperCase with
    | some part => (part, part)
    | none => (spelled.upperCase, shown)
  if part.startsWith "EPOCH" then sinceEpoch part operand
  else madeRaw "Extract" ("DATE_PART(" ++ shown ++ ", " ++ (← textOf operand) ++ ")")

/-- A part of a date as a call, where it is another spelling of an extraction. -/
def datePartExtract (r : Rules) : Parser Term := do
  let term ← need "part" r.typed
  let part ← match term.core with
    | .string value _ => pure value
    | _ => textOf term
  discard (mark ",")
  let operand ← need "operand" r.bitwise
  madeRaw "Extract" ("EXTRACT(" ++ part ++ " FROM " ++ (← textOf operand) ++ ")")

/-- Dialects that write the characters to trim before `FROM`. -/
def Dialect.trimsFrom (dialect : Dialect) : Bool :=
  dialect.symbolLogic || dialect.tildeMatches ||
    ["databricks", "oracle", "spark", "spark2"].any dialect.isNamed

/-- Trimming, after its opening parenthesis. -/
def trimCall (r : Rules) : Parser Term := do
  let place ← anyText ["LEADING", "TRAILING", "BOTH"]
  let first ← need "operand" r.bitwise
  let args ← do
    if ← word "FROM" then
      let text ← need "operand" r.bitwise
      pure [text, first]
    else if ← mark "," then
      let chars ← need "operand" r.bitwise
      pure [first, chars]
    else pure [first]
  if ← word "COLLATE" then discard r.bitwise
  let place := (place.map (·.upper)).getD ""
  let function := match place with
    | "LEADING" => "LTRIM"
    | "TRAILING" => "RTRIM"
    | _ => "TRIM"
  let dialect ← dialect
  match termTexts dialect args with
  | [text, chars] =>
    if dialect.trimsFrom then
      madeRaw "Trim" ("TRIM(" ++ words [place, chars, "FROM", text] ++ ")")
    else madeRaw "Trim" (function ++ "(" ++ text ++ ", " ++ chars ++ ")")
  | texts => madeRaw "Trim" (function ++ "(" ++ ", ".intercalate texts ++ ")")

/-- The arguments of a cut with FROM and FOR, after those with commas. -/
def substringBounds (r : Rules) : Parser (List Term) := do
  let bounds ← iterate (fun (bounds : Option Term × Option Term) => do
    if ← word "FROM" then return some (← r.bitwise, bounds.2)
    else if ← word "FOR" then
      let length ← r.bitwise
      return some (bounds.1.orElse (fun _ => some (.number "1" [])), length)
    else return none) (none, none)
  return bounds.1.toList ++ bounds.2.toList

/-- A cut of a text, after its opening parenthesis. -/
def substringCall (r : Rules) : Parser Term := do
  let args ← commaList r.bitwise
  let args := args ++ (← substringBounds r)
  if args.isEmpty || args.length > 3 then fail "arguments"
  let dialect ← dialect
  let texts := termTexts dialect args
  let shown := if dialect.tildeMatches then
      " ".intercalate ((["", "FROM ", "FOR "].zip texts).map fun (keyword, text) => keyword ++ text)
    else ", ".intercalate texts
  return .raw "Substring" ("SUBSTRING(" ++ shown ++ ")")

/-- The search for a text in another as the dialect writes it; what is looked for comes first. -/
def Dialect.searchText (dialect : Dialect) : List String → String
  | needle :: text :: rest =>
    let written (function : String) (args : List String) : String :=
      function ++ "(" ++ ", ".intercalate args ++ ")"
    if dialect.isNamed "snowflake" then written "POSITION" (needle :: text :: rest)
    else if dialect.symbolLogic || dialect.likeHive then written "LOCATE" (needle :: text :: rest)
    else if dialect.isNamed "tsql" then written "CHARINDEX" (needle :: text :: rest)
    else if dialect.isNamed "clickhouse" then written "position" (text :: needle :: rest)
    else if (dialect.tildeMatches || ["athena", "bigquery", "duckdb", "presto", "trino"].any
      dialect.isNamed) &&
        rest.isEmpty then written "STRPOS" [text, needle]
    else written "STR_POSITION" (text :: needle :: rest)
  | args => "STR_POSITION(" ++ ", ".intercalate args ++ ")"

/-- The search for a text, after its opening parenthesis.  In some dialects the text to search comes
before what is looked for. -/
def positionCall (r : Rules) : Parser Term := do
  let dialect ← dialect
  let args ← commaList r.bitwise
  let args ← if ← word "IN" then
      let text ← need "operand" r.bitwise
      pure (args.take 1 ++ [text])
    else match args with
      | text :: needle :: rest =>
        pure ((if dialect.isNamed "clickhouse" then [needle, text] else [text, needle]) ++
          rest.take 1)
      | args => pure args
  if args.length < 2 then fail "arguments"
  madeRaw "StrPosition" (dialect.searchText (termTexts dialect args))

/-- A normal form of a text, after its opening parenthesis. -/
def normalizeCall (r : Rules) : Parser Term := do
  let text ← textOf (← need "operand" r.bitwise)
  let form ← if ← mark "," then plainWord else pure none
  madeRaw "Normalize" ("NORMALIZE(" ++ text ++ (form.map (", " ++ ·)).getD "" ++ ")")

/-- The ways to search for a text in columns. -/
def searchModes : List (List String) :=
  [["IN", "NATURAL", "LANGUAGE", "MODE", "WITH", "QUERY", "EXPANSION"],
    ["IN", "NATURAL", "LANGUAGE", "MODE"],
   ["IN", "BOOLEAN", "MODE"], ["WITH", "QUERY", "EXPANSION"]]

/-- The search for a text in columns, after its opening parenthesis. -/
def matchCall (r : Rules) : Parser Term := do
  let columns ← commaList r.column
  discard (texts [")", "AGAINST", "("])
  let dialect ← dialect
  let wanted ← need "text" string
  let mode ← firstOf (searchModes.map fun mode => do
    if ← texts mode then return some (" " ++ " ".intercalate mode) else return none)
  madeRaw "MatchAgainst" ("MATCH(" ++ ", ".intercalate (termTexts dialect columns) ++
    ") AGAINST(" ++ wanted.sql dialect ++ mode.getD "" ++ ")")

/-- The replacement of a part of a text, after its opening parenthesis. -/
def overlayCall (r : Rules) : Parser Term := do
  let text ← need "operand" r.bitwise
  unless ← overlayWord "PLACING" do fail "PLACING"
  let placing ← need "replacement" r.bitwise
  unless ← overlayWord "FROM" do fail "FROM"
  let start ← need "start" r.bitwise
  let length ← if ← overlayWord "FOR" then
      pure (" FOR " ++ (← textOf (← need "length" r.bitwise)))
    else pure ""
  madeRaw "Overlay" ("OVERLAY(" ++ (← textOf text) ++ " PLACING " ++ (← textOf placing) ++
    " FROM " ++ (← textOf start) ++ length ++ ")")
where
  /-- A word between the parts, for which a comma can stand. -/
  overlayWord (text : String) : Parser Bool := do
    if ← mark "," then return true else texts [text]

/-! ## Documents -/

/-- A text with the words that say it is a document, if they follow. -/
def documentFormat (text : String) : Parser String := do
  if ← texts ["FORMAT", "JSON"] then return text ++ " FORMAT JSON" else return text

/-- What stands between a key and its value. -/
def Dialect.keySign (dialect : Dialect) : String :=
  match dialect.name.getD "" with
  | "snowflake" | "bigquery" | "redshift" => ","
  | "oracle" => " IS"
  | _ => ":"

/-- A key and a value of an object, as text. -/
def objectEntry (r : Rules) : Parser (Option String) := do
  discard (texts ["KEY"])
  let key ← r.column
  unless (← anyMark [":", ","]).isSome do discard (word "IS")
  discard (texts ["VALUE"])
  let value ← r.bitwise
  match key, value with
  | none, none => return none
  | some key, some value =>
    let text := (← textOf key) ++ (← dialect).keySign ++ " " ++ (← textOf value)
    let text := withComments text (← claim)
    return some (← documentFormat text)
  | _, _ => fail "value"

/-- What happens on an event, as text: one of several words, or a default. -/
def onEvent (r : Rules) (event : String) (values : List String) : Parser String := do
  let found ← firstOf (values.map fun value => do
    if ← texts [value, "ON", event] then return some (value ++ " ON " ++ event) else return none)
  match found with
  | some text => return text
  | none =>
    let start ← position
    if ← word "DEFAULT" then
      let value ← r.bitwise
      if ← texts ["ON", event] then return ← optionalTextOf value
      goTo start
    return ""

/-- An object, after its opening parenthesis. -/
def objectCall (r : Rules) (name : String) : Parser Term := do
  let dialect ← dialect
  let entries ← if ← mark "*" then pure [withComments "*" (← claim)] else commaList (objectEntry r)
  let nulls ← onEvent r "NULL" ["NULL", "ABSENT"]
  let unique ← do
    if ← texts ["WITH", "UNIQUE"] then pure " WITH UNIQUE KEYS"
    else if ← texts ["WITHOUT", "UNIQUE"] then pure " WITHOUT UNIQUE KEYS"
    else pure ""
  discard (texts ["KEYS"])
  let type ← if ← texts ["RETURNING"] then
      match ← r.typeName {} with
      | some type => pure (" RETURNING " ++ (← documentFormat (type.sql dialect)))
      | none => pure ""
    else pure ""
  let encoding ← if ← texts ["ENCODING"] then
      pure ((← plainWord).map (" ENCODING " ++ ·) |>.getD "")
    else pure ""
  let isPlain := name != "JSON_OBJECTAGG"
  let kind := if isPlain then "JSONObject" else "JSONObjectAgg"
  let shown := if !isPlain then "JSON_OBJECTAGG"
    else if dialect.isNamed "snowflake" then "OBJECT_CONSTRUCT_KEEP_NULL" else "JSON_OBJECT"
  let tail := if isPlain && dialect.isNamed "snowflake" then ""
    else spaced nulls ++ unique ++ type ++ encoding
  madeRaw kind (shown ++ "(" ++ ", ".intercalate entries ++ tail ++ ")")

/-- The columns of a table that is read from a document, as text; `depth` bounds the nesting. -/
def documentColumns (r : Rules) : Nat → Parser String
  | 0 => fail "nesting"
  | depth + 1 => do
    let dialect ← dialect
    discard (texts ["COLUMNS"])
    let path : Parser String := do
      if ← texts ["PATH"] then
        return " PATH " ++ (← optionalTextOf (← string))
      else return ""
    let columns ← optionallyWrappedList do
      if ← texts ["NESTED"] then
        let path ← path
        return some ("NESTED" ++ path ++ " " ++ (← documentColumns r depth))
      else
        match ← anyName with
        | none => return none
        | some ident =>
          let type ← r.typeName { names := false }
          return some (words [ident.sql dialect, (type.map (·.sql dialect)).getD ""] ++ (← path))
    return "COLUMNS(" ++ ", ".intercalate columns ++ ")"

/-- A table that is read from a document, after its opening parenthesis. -/
def documentTable (r : Rules) : Parser Term := do
  let source ← documentFormat (← optionalTextOf (← r.bitwise))
  let path ← if ← mark "," then pure (", " ++ (← optionalTextOf (← string))) else pure ""
  let onError ← onEvent r "ERROR" ["ERROR", "NULL"]
  let onEmpty ← onEvent r "EMPTY" ["ERROR", "NULL"]
  let columns ← documentColumns r ((← read).tokens.size + 1)
  return .raw "JSONTable" ("JSON_TABLE(" ++ source ++ path ++ spaced onError ++
    spaced onEmpty ++ " " ++ columns ++ ")")

/-- A column of an opened document, as text. -/
def openedColumn (r : Rules) : Parser (Option String) := do
  let dialect ← dialect
  match ← anyName with
  | none => return none
  | some ident =>
    let type ← r.typeName {}
    let path ← string
    let isDocument ← pair (.keyword "AS") (.keyword "JSON")
    return some (words [ident.sql dialect, (type.map (·.sql dialect)).getD "",
      (path.map (·.sql dialect)).getD "", if isDocument then "AS JSON" else ""])

/-- An opened document, after its opening parenthesis. -/
def openedDocument (r : Rules) : Parser Term := do
  let source ← optionalTextOf (← r.bitwise)
  let path ← if ← mark "," then pure (", " ++ (← optionalTextOf (← string))) else pure ""
  let columns ← if ← pair (.symbol ")") (.keyword "WITH") then
      unless ← mark "(" do fail "("
      pure (" WITH (" ++ ", ".intercalate (← commaList (openedColumn r)) ++ ")")
    else pure ""
  madeRaw "OpenJSON" ("OPENJSON(" ++ source ++ path ++ ")" ++ columns)

/-! ## Other calls -/

/-- A prediction by a model, after its opening parenthesis. -/
def predictCall (r : Rules) : Parser Term := do
  let dialect ← dialect
  discard (texts ["MODEL"])
  let model ← need "model" (r.table {})
  discard (mark ",")
  discard (texts ["TABLE"])
  let table ← need "table" (r.table {})
  let options ← if ← mark "," then pure (", " ++ (← optionalTextOf (← r.bitwise))) else pure ""
  madeRaw "Predict" ("PREDICT(MODEL " ++ model.sql dialect ++ ", TABLE " ++ table.sql dialect ++
    options ++ ")")

/-- A table without gaps, after its opening parenthesis. -/
def gapFillCall (r : Rules) : Parser Term := do
  let dialect ← dialect
  discard (word "TABLE")
  let table ← need "table" (r.table {})
  discard (mark ",")
  let args ← commaList (argument r r.assignment)
  if args.length < 2 then fail "arguments"
  return .raw "GapFill" ("GAP_FILL(" ++ ", ".intercalate (("TABLE " ++ table.sql dialect) ::
    termTexts dialect args) ++ ")")

/-- Joins the values of a group, after its opening parenthesis. -/
def groupConcatCall (r : Rules) (name : String) : Parser Term := do
  let arg ← if ← word "DISTINCT" then
      pure (Term.distinct (← commaList r.assignment))
    else do
      let args ← commaList r.assignment
      match args with
      | [] => fail "argument"
      | [arg] => pure arg
      | args =>
        pure (.raw "Concat" ("CONCAT(" ++ ", ".intercalate (termTexts (← dialect) args) ++ ")"))
  let order ← orderClause r
  let arg ← match order with
    | some keys =>
      pure (Term.raw "Order"
        ((← textOf arg) ++ " ORDER BY " ++ ", ".intercalate (orderedTexts (← dialect) keys)))
    | none => pure arg
  let separator ← if ← texts ["SEPARATOR"] then r.typed else pure none
  match separator with
  | none => return .aggregate name arg ("GROUP_CONCAT(" ++ (← textOf arg) ++ " SEPARATOR ',')")
  | some separator =>
    madeRaw "GroupConcat"
      ("GROUP_CONCAT(" ++ (← textOf arg) ++ " SEPARATOR " ++ (← textOf separator) ++ ")")

/-- The characters of codes, in a set of characters, after the opening parenthesis. -/
def charactersCall (r : Rules) : Parser Term := do
  let codes := ", ".intercalate (termTexts (← dialect) (← commaList r.assignment))
  let set ← if ← word "USING" then pure (" USING " ++ (← plainWord).getD "") else pure ""
  madeRaw "Chr" ("CHAR(" ++ codes ++ set ++ ")")

/-- The value that a column would get in an insertion, after the opening parenthesis. -/
def insertedValueCall : Parser Term := do
  let column ← need "column" anyName
  made (.call { name := "VALUES" } [.raw "Identifier" (column.sql (← dialect))])

/-- A column of the table that is made of a document. -/
def markupColumn (r : Rules) : Parser (Option String) := do
  match ← anyName with
  | some ident => return some ((← r.columnTail ident).sql (← dialect))
  | none => return none

/-- The table that is made of a document in markup, after the opening parenthesis. -/
def markupTable (r : Rules) : Parser Term := do
  let dialect ← dialect
  let path ← optionalTextOf (← string)
  let sources ← if ← texts ["PASSING"] then
      discard (texts ["BY", "VALUE"])
      commaList r.column
    else pure []
  let byReference ← texts ["RETURNING", "SEQUENCE", "BY", "REF"]
  let columns ← if ← texts ["COLUMNS"] then commaList (markupColumn r) else pure []
  let listed (keyword : String) (shown : List String) : String :=
    if shown.isEmpty then "" else keyword ++ ", ".intercalate shown
  madeRaw "XMLTable" ("XMLTABLE(" ++ words [path, listed "PASSING " (termTexts dialect sources),
    if byReference then "RETURNING SEQUENCE BY REF" else "", listed "COLUMNS " columns] ++ ")")

/-- A list of the rows of a query or, if there is none, of a single value, after the opening
parenthesis. -/
def listCall (r : Rules) : Parser Term := do
  let dialect ← dialect
  match ← queryOr r r.expression with
  | some (.query query) => madeRaw "Array" ("ARRAY(" ++ (Term.query query).sql dialect ++ ")")
  | term => madeRaw "Array" ("[" ++ (← optionalTextOf term) ++ "]")

/-- The arguments behind the parameters of an aggregate function, after the opening parenthesis. -/
def aggregateArguments (r : Rules) : Parser (List Term) :=
  commaList (argument r r.assignment)

/-- A quantile, after its opening parenthesis.  Its level, if it is written, has parentheses of its
own before those of the argument. -/
def quantileCall (r : Rules) : Parser Term := do
  let first ← need "argument" (argument r r.assignment)
  let args ← if ← pair (.symbol ")") (.symbol "(") then aggregateArguments r
    else if ← mark "(" then
      let args ← aggregateArguments r
      close
      pure args
    else pure []
  let first ← textOf first
  match args with
  | [] => madeRaw "Quantile" ("quantile(0.5)(" ++ first ++ ")")
  | arg :: _ => madeRaw "Quantile" ("quantile(" ++ first ++ ")(" ++ (← textOf arg) ++ ")")

/-- The rows that a list is unfolded into, after the opening parenthesis. -/
def unfoldCall (r : Rules) : Parser Term := do
  madeRaw "Explode" ("arrayJoin(" ++ (← textOf (← need "list" r.expression)) ++ ")")

/-- A call of an aggregate function under its exact name, or the window over one, with the arguments
that may follow its parameters. -/
def exactAggregate (r : Rules) (name : String) (term : Term) : Parser Term := do
  let dialect ← dialect
  let kind (afterParameters : Bool) : String :=
    (if aggregateNames.contains name then if afterParameters then "" else "Anonymous"
      else "Combined") ++
      if afterParameters then "ParameterizedAgg" else "AggFunc"
  match term.core with
  | .call .. =>
    let text := term.core.sql dialect
    if ← mark "(" then
      let args ← aggregateArguments r
      close
      callTail r (← madeRaw (kind true) (text ++ "(" ++ ", ".intercalate (termTexts dialect args) ++
        ")"))
    else madeRaw (kind false) text
  | .window function partition order frame =>
    match function.core with
    | .call .. =>
      made (.window (.raw (kind false) (function.core.sql dialect)) partition order frame)
    | _ => return term
  | _ => return term

/-- Whether the dialect reads a trimming with its own syntax. -/
def Dialect.readsTrim (dialect : Dialect) : Bool :=
  !dialect.isOneOf ["snowflake", "bigquery", "presto"]

/-- The calls with a syntax of their own, after the opening parenthesis; `call` reads a call. -/
def specialCall? (r : Rules) (dialect : Dialect) (call : Parser (Option Term))
    (name upper : String) :
    Option (Parser Term) :=
  match upper with
  | "CAST" => some (castCall r dialect.castMode)
  | "TRY_CAST" | "SAFE_CAST" => some (castCall r .safe)
  | "CONVERT" =>
    some (if dialect.isNamed "tsql" then typedConversion r upper
      else convertCall r dialect.castMode)
  | "TRY_CONVERT" =>
    some (if dialect.isNamed "tsql" then typedConversion r upper else convertCall r .safe)
  | "EXTRACT" => some (extractCall r call)
  | "TRIM" => if dialect.readsTrim then some (trimCall r) else none
  | "DATE_PART" =>
    if dialect.isNamed "snowflake" then some (datePartCall r)
    else if dialect.likePostgres then some (datePartExtract r)
    else none
  | "SUBSTRING" => some (substringCall r)
  | "POSITION" => some (positionCall r)
  | "NORMALIZE" => some (normalizeCall r)
  | "MATCH" => if dialect.isNamed "clickhouse" then none else some (matchCall r)
  | "OVERLAY" => some (overlayCall r)
  | "JSON_OBJECT" | "JSON_OBJECTAGG" => some (objectCall r upper)
  | "OBJECT_CONSTRUCT_KEEP_NULL" =>
    if dialect.isNamed "snowflake" then some (objectCall r upper) else none
  | "JSON_TABLE" => some (documentTable r)
  | "OPENJSON" => some (openedDocument r)
  | "PREDICT" => some (predictCall r)
  | "GAP_FILL" => some (gapFillCall r)
  | "GROUP_CONCAT" => if dialect.likeMysql then some (groupConcatCall r name) else none
  | "CHAR" => if dialect.likeMysql then some (charactersCall r) else none
  | "VALUES" => if dialect.likeMysql then some insertedValueCall else none
  | "XMLTABLE" => if dialect.isNamed "oracle" then some (markupTable r) else none
  | "ARRAY" => if dialect.isNamed "bigquery" then some (listCall r) else none
  | "ARRAYJOIN" => if dialect.isNamed "clickhouse" then some (unfoldCall r) else none
  | "QUANTILE" => if dialect.isNamed "clickhouse" then some (quantileCall r) else none
  | _ => none

/-- Keywords that stand for a call without parentheses. -/
def bareKeywords : List String :=
  ["CURRENT_DATE", "CURRENT_DATETIME", "CURRENT_TIME", "CURRENT_TIMESTAMP", "CURRENT_USER"]

/-- How a call is looked for. -/
structure CallMode where
  /-- Calls without parentheses are allowed. -/
  bare : Bool := true
  /-- Any word can be the name of the function. -/
  anyWord : Bool := false
  /-- Names with a syntax of their own are plain names. -/
  plain : Bool := false

/-- A call that starts with a keyword and needs no parentheses. -/
def keywordCall (r : Rules) (token : Token) : Parser (Option Term) := do
  match token.upper with
  | "CASE" =>
    advance
    return some (← callTail r (← caseExpr r))
  | "SYSDATE" =>
    unless (← dialect).isOneOf ["oracle", "redshift"] do return none
    advance
    return some (← callTail r (← made (.bare token.text "SYSDATE")))
  | "IF" =>
    advance
    match ← ifExpr r token with
    | some term => return some (← callTail r term)
    | none => return none
  | "ANY" =>
    if (← dialect).isNamed "clickhouse" then return none
    advance
    return some (← callTail r (← anyExpr r))
  | "NEXT" =>
    if (← peekAt? 1).any (readsAs ["VALUE"]) && (← peekAt? 2).any (readsAs ["FOR"]) then
      advance 3
      let column ← need "name" r.column
      let order ← if ← word "OVER" then
          unless ← mark "(" do fail "("
          let keys ← orderClause r
          close
          let shown := ", ".intercalate (orderedTexts (← dialect) (keys.getD []))
          pure (" OVER (ORDER BY " ++ shown ++ ")")
        else pure ""
      return some (← madeRaw "NextValueFor" ("NEXT VALUE FOR " ++ (← textOf column) ++ order))
    else return none
  | "PRIOR" =>
    unless (← get).inHierarchy do return none
    advance
    let operand ← need "operand" r.bitwise
    return some (← madeRaw "Prior" ("PRIOR " ++ (← textOf operand)))
  | "CONNECT_BY_ROOT" =>
    advance
    let column ← need "column" r.column
    return some (← madeRaw "ConnectByRoot" ("CONNECT_BY_ROOT " ++ (← textOf column)))
  | _ => return none

/-- The quantifier over a query that a keyword is. -/
def quantifiedQuery (r : Rules) (token : Token) : Parser (Option Term) := do
  match token.kind with
  | .keyword keyword =>
    unless ["ANY", "ALL", "EXISTS", "SOME"].contains keyword do return none
    unless (← seesWord "SELECT") || (← seesWord "WITH") do return none
    let query ← need "query" (r.query {})
    let text := query.sql (← dialect)
    let term := match keyword with
      | "EXISTS" => .existsIn query
      | "ALL" => .raw "All" ("ALL (" ++ text ++ ")")
      | _ => .raw "Any" ("ANY(" ++ text ++ ")")
    let term ← madeWith token.comments term
    close
    return some term
  | _ => return none

/-- The fields of a record among the arguments of a call: what has a label or is an equation is a
field with a name. -/
def recordField (dialect : Dialect) (term : Term) : Term :=
  let field (name value : String) : Term := .raw "PropertyEQ" (name ++ " := " ++ value)
  match term.core with
  | .labelled inner label _ => field (label.sql dialect) (inner.sql dialect)
  | .binary .eq left right _ =>
    let name := spelledName left
    field (({ name := name, quoted := !isPlainName name } : Ident).text dialect) (right.sql dialect)
  | _ => term

/-- Functions whose arguments can have labels. -/
def Dialect.labelsArguments (dialect : Dialect) (upper : String) : Bool :=
  upper == "STRUCT" || (upper == "STRUCT_PACK" && dialect.isNamed "duckdb") ||
    (upper == "TUPLE" && dialect.isNamed "clickhouse")

/-- A call by its name and its arguments, after the name. -/
def callAfter (r : Rules) (call : Parser (Option Term)) (mode : CallMode) (token : Token) :
    Parser (Option Term) := do
  let dialect ← dialect
  let upper := token.upper
  let special := if mode.plain then none else specialCall? r dialect call token.text upper
  match special with
  | some parse =>
    let term ← parse
    let term ← closeTerm (term.noted token.comments)
    return some (← callTail r term)
  | none =>
    if let some term ← quantifiedQuery r token then return some term
    let labels := dialect.labelsArguments upper
    let args ← commaList (argument r (if labels then r.expression else r.assignment))
    let args := if labels then args.map (recordField dialect) else args
    let name : Ident := { name := token.text, quoted := token.kind == .quotedName }
    let term ← made (.call name args)
    let term ← closeTerm (term.noted token.comments)
    let term ← callTail r term
    if dialect.isNamed "clickhouse" && !name.quoted && isAggregateName name.name then
      return some (← exactAggregate r name.name term)
    else return some term

/-- A call without braces around it; `inner` reads a call inside this one. -/
def callWith (r : Rules) (inner : Parser (Option Term)) (mode : CallMode) :
    Parser (Option Term) := do
  match ← peek? with
  | none => return none
  | some token =>
    let plainToken := token.kind == .quotedName || token.kind == .string
    let start ← position
    if mode.bare && !plainToken then
      if let some term ← keywordCall r token then return some term
      let anyIsWord := token.upper == "ANY" && !(← dialect).isNamed "clickhouse"
      if anyIsWord || ["IF", "NEXT"].contains token.upper then
        goTo start
        if token.upper != "NEXT" then return none
    unless ← seesAt 1 (.symbol "(") do
      match token.kind with
      | .keyword keyword =>
        if mode.bare && bareKeywords.contains keyword then
          advance
          return some (← made (.bare token.text keyword))
        else return none
      | _ => return none
    unless (if mode.anyWord then isAnyWord token else token.roles.isFunction) do return none
    advance 2
    callAfter r inner mode token

/-- Calls inside the syntax of a call, up to a bound. -/
def callTo (r : Rules) : Nat → CallMode → Parser (Option Term)
  | 0, _ => return none
  | depth + 1, mode => do
    if (← seesMark "\x7b") && (← peekAt? 1).any (·.upper == "FN") then
      advance 2
      let term ← callWith r (callTo r depth {}) mode
      discard (mark "\x7d")
      return term
    callWith r (callTo r depth {}) mode

/-- A call. -/
def call (r : Rules) (mode : CallMode) : Parser (Option Term) := do
  callTo r ((← read).tokens.size + 1) mode

end SqlLayout.Grammar
