import SqlLayout.Grammar.Parser.Basic

/-!
# Data types

A type is a keyword or an unknown name, with parameters in parentheses, inner types in angle
brackets, or brackets behind it.
-/

namespace SqlLayout.Grammar

open SqlLayout.Grammar.Parser

/-- Types that hold other types. -/
def nestedTypes : List String :=
  ["ARRAY", "LIST", "LOWCARDINALITY", "MAP", "NESTED", "NULLABLE", "RANGE", "OBJECT",
    "STRUCT", "UNION"]

/-- Types that hold named fields. -/
def structTypes : List String :=
  ["NESTED", "OBJECT", "STRUCT", "UNION"]

/-- Types that list their values. -/
def enumTypes : List String :=
  ["ENUM", "ENUM8", "ENUM16", "SET"]

/-- Types that can be followed by words about time zones. -/
def timeTypes : List String :=
  ["TIME", "TIMETZ", "TIMESTAMP", "TIMESTAMPTZ", "TIMESTAMPLTZ", "TIMESTAMPNTZ"]

/-- The unsigned variant of a number type. -/
def unsignedType? (name : String) : Option String :=
  match name with
  | "BIGINT" => some "UBIGINT"
  | "INT" => some "UINT"
  | "MEDIUMINT" => some "UMEDIUMINT"
  | "SMALLINT" => some "USMALLINT"
  | "TINYINT" => some "UTINYINT"
  | "DECIMAL" => some "UDECIMAL"
  | _ => none

/-- The parameters that a dialect gives to a decimal type without any. -/
def Dialect.decimalParams (dialect : Dialect) : List TypeParam :=
  if dialect.isNamed "snowflake" then [⟨"38", "38"⟩, ⟨"0", "0"⟩]
  else if dialect.isNamed "duckdb" then [⟨"18", "18"⟩, ⟨"3", "3"⟩]
  else []

/-- A type with the types inside it as the dialect writes it. -/
def nestedText (dialect : Dialect) (name : String) (inner : List String) : String :=
  let (first, last) :=
    if dialect.isOneOf ["snowflake", "clickhouse", "duckdb"] || dialect.likePresto then ("(", ")")
    else ("<", ">")
  let texts := ", ".intercalate inner
  writtenType dialect name ++ if inner.isEmpty then "" else first ++ texts ++ last

/-- An array type as the dialect writes it; `size` is the text between its brackets. -/
def arrayText (dialect : Dialect) (element size : String) : String :=
  if dialect.isNamed "duckdb" || dialect.likePostgres then element ++ "[" ++ size ++ "]"
  else nestedText dialect "ARRAY" [element] ++ if size.isEmpty then "" else "[" ++ size ++ "]"

/-- The name that a literal or a column spells. -/
def spelledName : Term → String
  | .string value _ => value
  | .number text _ => text
  | .column parts _ => (parts.getLast?.map (·.name)).getD ""
  | .null => "NULL"
  | .commented inner _ =>
    match inner with
    | .null => "NULL"
    | _ => ""
  | _ => ""

/-- A parameter of a type: a term, and a word behind it that only some dialects keep. -/
def typeParam (r : Rules) : Parser (Option TypeParam) := do
  match ← r.typed with
  | none => return none
  | some term =>
    let dialect ← dialect
    let specifier ← plainWord true
    let tail := if dialect.isNamed "oracle" then (specifier.map (" " ++ ·)).getD "" else ""
    let comments := trailingComments (← claim)
    match term with
    | .column [ident] _ =>
      let name := ident.name.upperCase
      return some ⟨name, name ++ tail ++ comments⟩
    | term => return some ⟨spelledName term, term.sql dialect ++ tail ++ comments⟩

/-- A field of a type with named fields, as text; `mark` stands behind its name. -/
def structField (r : Rules) (sign : String) : Parser (Option String) := do
  let dialect ← dialect
  let start ← position
  let both := (← peek?).any (·.roles.isType) && (← peekAt? 1).any (·.roles.isType)
  let type ← if both then pure none else r.typeName { checkCall := true, names := false }
  if let some (.plain name params) := type then
    if !params.isEmpty then return some ((TypeName.plain name params).sql dialect)
  if let some (.nested text true) := type then return some text
  goTo start
  match ← anyName with
  | none => return none
  | some ident =>
    discard (mark ":")
    if (← peek?).any (·.roles.isType) then
      match ← r.columnTail ident with
      | .column ident type constraints comments =>
        return some (withComments
          (words ([ident.sql dialect ++ sign, (type.map (·.sql dialect)).getD ""] ++
            constraints.map Prod.snd)) comments)
      | _ => return some (ident.sql dialect)
    else
      goTo start
      return (← r.typeName {}).map (·.sql dialect)

/-- The types or fields inside a nested type, as text. -/
def innerTypes (r : Rules) (mode : TypeMode) (name : String) : Parser (List String) := do
  let dialect ← dialect
  if structTypes.contains name then
    let marked := name == "STRUCT" && dialect.isOneOf ["databricks", "spark", "spark2"]
    commaList (structField r (if marked then ":" else ""))
  else commaList do
    return (← r.typeName mode).map (·.sql dialect)

/-- Brackets behind a type make it an array. -/
def arraySuffix (r : Rules) (mode : TypeMode) (type : TypeName) : Parser TypeName := do
  let dialect ← dialect
  let start ← position
  let arrayWord ← word "ARRAY"
  let step (state : TypeName × Bool) : Parser (Option (TypeName × Bool)) := do
    let (type, pending) := state
    let afterArray := (← previous?).any (·.kind == .keyword "ARRAY")
    let bracket ← mark "["
    if !bracket && !pending then return none
    let values ← commaList r.assignment
    if !values.isEmpty && !mode.schema && (!dialect.isNamed "duckdb" || afterArray) then
      goTo start
      return none
    discard (mark "]")
    let size := ", ".intercalate (values.map (·.sql dialect))
    return some (.nested (arrayText dialect (type.sql dialect) size) true, false)
  return (← iterate step (type, arrayWord)).1

/-- The words about time zones after a time type; gives the type they make. -/
def timeZone (name : String) : Parser (Option String) := do
  if ← texts ["WITH", "TIME", "ZONE"] then
    return some (if name == "TIME" || name == "TIMETZ" then "TIMETZ" else "TIMESTAMPTZ")
  else if ← texts ["WITH", "LOCAL", "TIME", "ZONE"] then return some "TIMESTAMPLTZ"
  else if ← texts ["WITHOUT", "TIME", "ZONE"] then return some name
  else return none

/-- A value of an enumeration as a parameter of its type. -/
def enumValue (dialect : Dialect) (term : Term) : TypeParam :=
  match term with
  | .string value _ => ⟨value, term.sql dialect⟩
  | .number text _ => ⟨text, term.sql dialect⟩
  | term => ⟨"", term.sql dialect⟩

/-- A map type with its key and its value between brackets. -/
def bracketMap (r : Rules) (mode : TypeMode) (start : Nat) : Parser (Option TypeName) := do
  let dialect ← dialect
  let key ← r.typeName mode
  let arrow ← mark "=>"
  let value ← if arrow then r.typeName mode else pure none
  match key, value with
  | some key, some value =>
    if ← mark "]" then
      return some (.nested (nestedText dialect "MAP" [key.sql dialect, value.sql dialect]) true)
    goTo start
    return none
  | _, _ =>
    goTo start
    return none

/-- The values behind a type, which they are cast to. -/
def typedValues (r : Rules) (isStruct : Bool) : Parser (Option String) := do
  let start ← position
  match ← anyMark ["[", "("] with
  | none => return none
  | some _ =>
    let values ← commaList r.assignment
    if values.isEmpty && isStruct then
      goTo start
      return none
    discard (anyMark ["]", ")"])
    let texts := ", ".intercalate (values.map (·.sql (← dialect)))
    let isList := (← dialect).bracketArrays || (← dialect).isNamed "bigquery"
    return some (if isStruct then "STRUCT(" ++ texts ++ ")"
      else if isList then "[" ++ texts ++ "]"
      else "ARRAY(" ++ texts ++ ")")

/-- A type that starts with a type keyword, which is already consumed. -/
def keywordType (r : Rules) (mode : TypeMode) (start : Nat) (name : String) :
    Parser (Option TypeName) := do
  let dialect ← dialect
  if ← onlyIf (name == "MAP") (mark "[") then return ← bracketMap r mode start
  let nested := nestedTypes.contains name
  let mut params : List TypeParam := []
  let mut inner : List String := []
  let mut maybeCall := false
  if ← mark "(" then
    if name == "NULLABLE" then
      let types ← commaList (r.typeName mode)
      if let [type] := types then
        close
        return some type
      inner := types.map (·.sql dialect)
    else if nested then inner ← innerTypes r mode name
    else if enumTypes.contains name then
      let values ← commaList r.equality
      params := values.map (enumValue dialect)
    else params ← commaList (typeParam r)
    if (params.isEmpty && inner.isEmpty) || !(← mark ")") then
      goTo start
      return none
    maybeCall := true
  let mut values : Option String := none
  if ← onlyIf nested (mark "<") then
    inner ← innerTypes r mode name
    unless ← mark ">" do fail ">"
    values ← typedValues r (structTypes.contains name)
  let mut type := name
  if timeTypes.contains name then
    if let some zoned ← timeZone name then
      type := zoned
      maybeCall := false
  else if name == "INTERVAL" then
    if let some unit ← plainWord then
      let last ← if ← texts ["TO"] then plainWord else pure none
      let span := words [unit.upperCase, (last.map ("TO " ++ ·.upperCase)).getD ""]
      return some (.verbatim ("INTERVAL " ++ span))
  if maybeCall && mode.checkCall then
    let after ← position
    let found ← string
    if found.isNone then
      goTo start
      return none
    goTo after
  if ← texts ["UNSIGNED"] then
    match unsignedType? type with
    | some unsigned => type := unsigned
    | none => fail "unsigned type"
  if params.isEmpty && type == "DECIMAL" then params := dialect.decimalParams
  let base : TypeName :=
    if nested then .nested (nestedText dialect type inner) (!inner.isEmpty)
    else if enumTypes.contains name && params.any (·.name.isEmpty) then
      .nested (writtenType dialect type ++ "(" ++ ", ".intercalate (params.map (·.text)) ++ ")")
        true
    else if dialect.likeHive && !mode.schema && ["CHAR", "VARCHAR"].contains type then
      .plain "TEXT" []
    else .plain type params
  let base := match values with
    | some values => .literal values base
    | none => base
  let listed ← iterate (fun type => do
    if ← word "LIST" then
      return some (TypeName.nested (nestedText dialect "LIST" [type.sql dialect]) true)
    else return none) base
  return some (← arraySuffix r mode listed)

/-- The type keyword that a name spells on its own. -/
def typeKeyword? (dialect : Dialect) (name : String) : Option String :=
  match tokenize dialect name.toList with
  | .ok [{ kind := .keyword word, .. }] => if typeKeywords.contains word then some word else none
  | _ => none

/-- Dialects without types of other names. -/
def Dialect.closedTypes (dialect : Dialect) : Bool :=
  dialect.isOneOf ["bigquery", "clickhouse", "drill", "snowflake"] || dialect.likeMysql ||
    dialect.likeHive || dialect.likePresto

/-- A data type. -/
def typeName (r : Rules) (mode : TypeMode) : Parser (Option TypeName) := do
  let start ← position
  match ← takeIf (·.roles.isType) with
  | some { kind := .keyword name, .. } => keywordType r mode start name
  | _ =>
    unless mode.names do return none
    let dialect ← dialect
    match ← takeIf fun token => token.kind == .name || token.kind == .quotedName with
    | none => return none
    | some token =>
      discard claim
      if let some name := typeKeyword? dialect token.text then
        return ← keywordType r mode start name
      if dialect.closedTypes then
        goTo start
        return none
      let rest ← many do
        if ← mark "." then
          return (← takeIf isAnyWord).map (·.text)
        else return none
      let written := ".".intercalate (token.text :: rest)
      if ← mark "(" then
        let params ← commaList (typeParam r)
        if params.isEmpty || !(← mark ")") then
          goTo start
          return none
        if ← onlyIf mode.checkCall (do return (← peek?).all (·.kind != .string)) then
          goTo start
          return none
        let type := TypeName.verbatim (written ++ "(" ++ ", ".intercalate (params.map (·.text)) ++
          ")")
        return some (← arraySuffix r mode type)
      else return some (← arraySuffix r mode (.verbatim written))

end SqlLayout.Grammar
