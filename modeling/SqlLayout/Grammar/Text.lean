import SqlLayout.Grammar.Term

/-!
# Canonical text

The text of parsed terms in one canonical spelling: function names and keywords in upper case,
single spaces, and the quotes of the dialect.
-/

namespace SqlLayout.Grammar

open SqlLayout.Tree (NullsPlace)

/-- A comment as it is written back, with blanks at both ends. -/
def commentText (comment : String) : String :=
  let chars := comment.toList
  let front := if chars.head?.all Text.isBlank then "" else " "
  let back := if chars.getLast?.all Text.isBlank then "" else " "
  "/*" ++ front ++ comment ++ back ++ "*/"

/-- The texts of comments; empty ones are not written. -/
def commentTexts (comments : List String) : List String :=
  (comments.filter (!·.isEmpty)).map commentText

/-- A text with comments behind it. -/
def withComments (text : String) (comments : List String) : String :=
  " ".intercalate (text :: commentTexts comments)

/-- Comments with a space behind them. -/
def leadingComments (comments : List String) : String :=
  String.join ((commentTexts comments).map (· ++ " "))

/-- Comments with a space before them. -/
def trailingComments (comments : List String) : String :=
  String.join ((commentTexts comments).map (" " ++ ·))

/-- Texts that are not empty, with spaces between them. -/
def words (texts : List String) : String :=
  " ".intercalate (texts.filter (!·.isEmpty))

/-- A text with a space before it, unless it is empty. -/
def spaced (text : String) : String :=
  if text.isEmpty then "" else " " ++ text

/-- A text between the quotes of names. -/
def nameInQuotes (dialect : Dialect) (name : String) : String :=
  let (first, last) := dialect.identifierQuotes
  String.ofList (first :: name.toList.flatMap (fun c => if c == last then [c, c] else [c]) ++
    [last])

/-- A name in the quotes of the dialect, if it is quoted. -/
def Ident.bareText (dialect : Dialect) (ident : Ident) : String :=
  if ident.quoted then nameInQuotes dialect ident.name else ident.name

/-- The canonical text of a name without its comments.  A name that starts with a digit is quoted
where such names must be. -/
def Ident.text (dialect : Dialect) (ident : Ident) : String :=
  match ident.shown with
  | some shown => shown
  | none =>
    if !ident.quoted && !dialect.digitNames && ident.name.toList.head?.any Text.isNumeral then
      nameInQuotes dialect ident.name
    else ident.bareText dialect

/-- The canonical text of a name with its comments. -/
def Ident.sql (dialect : Dialect) (ident : Ident) : String :=
  withComments (ident.text dialect) ident.comments

/-- The letter that stands behind a backslash for a character. -/
def escapeLetter? (c : Char) : Option Char :=
  match c with
  | '\x07' => some 'a'
  | '\x08' => some 'b'
  | '\x0c' => some 'f'
  | '\n' => some 'n'
  | '\r' => some 'r'
  | '\t' => some 't'
  | '\x0b' => some 'v'
  | _ => none

/-- One character of a string literal as the dialect writes it. -/
def literalChar (dialect : Dialect) (c : Char) : List Char :=
  if c == '\x27' then [dialect.stringEscapes.headD c, c]
  else if dialect.backslashEscapes then
    if c == '\\' then [c, c]
    else match escapeLetter? c with
      | some letter => ['\\', letter]
      | none => [c]
  else [c]

/-- A string literal as the dialect writes it. -/
def literalText (dialect : Dialect) (value : String) : String :=
  "'" ++ String.ofList (value.toList.flatMap (literalChar dialect)) ++ "'"

/-! ## Types -/

/-- Types that every dialect writes under another name. -/
def commonTypeTexts : List (String × String) :=
  [("NCHAR", "CHAR"), ("NVARCHAR", "VARCHAR"), ("MEDIUMTEXT", "TEXT"), ("LONGTEXT", "TEXT"),
   ("TINYTEXT", "TEXT"), ("MEDIUMBLOB", "BLOB"), ("LONGBLOB", "BLOB"), ("TINYBLOB", "BLOB"),
   ("ROWVERSION", "VARBINARY"), ("SMALLDATETIME", "TIMESTAMP")]

/-- Types that a dialect writes under another name. -/
def Dialect.typeTexts (dialect : Dialect) : List (String × String) :=
  match dialect.name.getD "" with
  | "postgres" | "materialize" | "risingwave" =>
    [("TINYINT", "SMALLINT"), ("FLOAT", "REAL"), ("DOUBLE", "DOUBLE PRECISION"),
      ("BINARY", "BYTEA"),
     ("VARBINARY", "BYTEA"), ("ROWVERSION", "BYTEA"), ("DATETIME", "TIMESTAMP"),
     ("TIMESTAMPNTZ", "TIMESTAMP")]
  | "redshift" =>
    [("TINYINT", "SMALLINT"), ("FLOAT", "REAL"), ("DOUBLE", "DOUBLE PRECISION"),
      ("BINARY", "VARBYTE"),
     ("VARBINARY", "VARBYTE"), ("ROWVERSION", "VARBYTE"), ("INT", "INTEGER"), ("TIMETZ", "TIME"),
     ("TIMESTAMPTZ", "TIMESTAMP"), ("DATETIME", "TIMESTAMP"), ("TIMESTAMPNTZ", "TIMESTAMP")]
  | "mysql" | "doris" | "starrocks" =>
    [("NCHAR", "NCHAR"), ("NVARCHAR", "NVARCHAR"), ("MEDIUMTEXT", "MEDIUMTEXT"),
      ("LONGTEXT", "LONGTEXT"),
     ("TINYTEXT", "TINYTEXT"), ("MEDIUMBLOB", "MEDIUMBLOB"), ("LONGBLOB", "LONGBLOB"),
     ("TINYBLOB", "TINYBLOB"), ("DATETIME2", "DATETIME"), ("SMALLDATETIME", "DATETIME"),
     ("TIMESTAMP", "DATETIME"),
     ("TIMESTAMPNTZ", "DATETIME"), ("TIMESTAMPTZ", "TIMESTAMP"), ("TIMESTAMPLTZ", "TIMESTAMP"),
     ("UBIGINT", "BIGINT UNSIGNED"), ("UINT", "INT UNSIGNED"), ("UMEDIUMINT", "MEDIUMINT UNSIGNED"),
     ("USMALLINT", "SMALLINT UNSIGNED"), ("UTINYINT", "TINYINT UNSIGNED"),
     ("UDECIMAL", "DECIMAL UNSIGNED")]
  | "snowflake" => [("STRUCT", "OBJECT"), ("NESTED", "OBJECT"), ("BIGDECIMAL", "DOUBLE")]
  | "bigquery" =>
    [("BIGDECIMAL", "BIGNUMERIC"), ("BIGINT", "INT64"), ("BINARY", "BYTES"), ("BOOLEAN", "BOOL"),
     ("CHAR", "STRING"), ("DECIMAL", "NUMERIC"), ("DOUBLE", "FLOAT64"), ("FLOAT", "FLOAT64"),
     ("INT", "INT64"), ("NCHAR", "STRING"), ("NVARCHAR", "STRING"), ("SMALLINT", "INT64"),
     ("TEXT", "STRING"),
     ("TIMESTAMP", "DATETIME"), ("TIMESTAMPNTZ", "DATETIME"), ("TIMESTAMPTZ", "TIMESTAMP"),
     ("TIMESTAMPLTZ", "TIMESTAMP"), ("TINYINT", "INT64"), ("ROWVERSION", "BYTES"),
     ("UUID", "STRING"), ("VARBINARY", "BYTES"), ("VARCHAR", "STRING"), ("VARIANT", "ANY TYPE")]
  | "duckdb" =>
    [("BINARY", "BLOB"), ("BPCHAR", "TEXT"), ("CHAR", "TEXT"), ("DATETIME", "TIMESTAMP"),
      ("FLOAT", "REAL"),
     ("NCHAR", "TEXT"), ("NVARCHAR", "TEXT"), ("UINT", "UINTEGER"), ("VARBINARY", "BLOB"),
     ("ROWVERSION", "BLOB"), ("VARCHAR", "TEXT"), ("TIMESTAMPNTZ", "TIMESTAMP")]
  | "tsql" =>
    [("BOOLEAN", "BIT"), ("DECIMAL", "NUMERIC"), ("DOUBLE", "FLOAT"), ("INT", "INTEGER"),
     ("ROWVERSION", "ROWVERSION"), ("TEXT", "VARCHAR(MAX)"), ("TIMESTAMP", "DATETIME2"),
     ("TIMESTAMPNTZ", "DATETIME2"), ("TIMESTAMPTZ", "DATETIMEOFFSET"),
     ("SMALLDATETIME", "SMALLDATETIME"), ("UTINYINT", "TINYINT"), ("VARIANT", "SQL_VARIANT"),
     ("UUID", "UNIQUEIDENTIFIER"),
     ("NCHAR", "NCHAR"), ("NVARCHAR", "NVARCHAR")]
  | "oracle" =>
    [("TINYINT", "NUMBER"), ("SMALLINT", "NUMBER"), ("INT", "NUMBER"), ("BIGINT", "NUMBER"),
     ("DECIMAL", "NUMBER"), ("DOUBLE", "DOUBLE PRECISION"), ("VARCHAR", "VARCHAR2"),
     ("NVARCHAR", "NVARCHAR2"), ("NCHAR", "NCHAR"), ("TEXT", "CLOB"), ("TIMETZ", "TIME"),
     ("TIMESTAMPNTZ", "TIMESTAMP"),
     ("TIMESTAMPTZ", "TIMESTAMP"), ("BINARY", "BLOB"), ("VARBINARY", "BLOB"),
     ("ROWVERSION", "BLOB")]
  | "clickhouse" =>
    [("BOOLEAN", "Bool"), ("TEXT", "String"), ("CHAR", "String"), ("VARCHAR", "String"),
      ("NCHAR", "String"),
     ("NVARCHAR", "String"), ("VARBINARY", "String"), ("BINARY", "String"), ("ARRAY", "Array"),
     ("BIGINT", "Int64"), ("DATE32", "Date32"), ("DATETIME", "DateTime"),
     ("DATETIME64", "DateTime64"), ("DECIMAL", "Decimal"), ("DOUBLE", "Float64"), ("ENUM", "Enum"),
     ("ENUM8", "Enum8"), ("ENUM16", "Enum16"),
     ("FIXEDSTRING", "FixedString"), ("FLOAT", "Float32"), ("INT", "Int32"), ("INT128", "Int128"),
     ("INT256", "Int256"), ("LOWCARDINALITY", "LowCardinality"), ("MAP", "Map"),
     ("NESTED", "Nested"), ("NULLABLE", "Nullable"), ("SMALLINT", "Int16"), ("STRUCT", "Tuple"),
     ("TINYINT", "Int8"),
     ("UBIGINT", "UInt64"), ("UINT", "UInt32"), ("UINT128", "UInt128"), ("UINT256", "UInt256"),
     ("USMALLINT", "UInt16"), ("UTINYINT", "UInt8"), ("IPV4", "IPv4"), ("IPV6", "IPv6"),
     ("TIMESTAMP", "DateTime"), ("TIMESTAMPTZ", "DateTime")]
  | "hive" | "spark2" => ("TIMESTAMPNTZ", "TIMESTAMP") :: hiveTexts
  | "spark" | "databricks" =>
    [("MONEY", "DECIMAL(15, 4)"), ("SMALLMONEY", "DECIMAL(6, 4)"),
      ("TIMESTAMPLTZ", "TIMESTAMP_LTZ"),
     ("TIMESTAMPNTZ", "TIMESTAMP_NTZ"), ("UUID", "STRING")] ++ hiveTexts
  | "presto" | "trino" | "athena" =>
    [("BINARY", "VARBINARY"), ("BIT", "BOOLEAN"), ("DATETIME", "TIMESTAMP"), ("FLOAT", "REAL"),
     ("HLLSKETCH", "HYPERLOGLOG"), ("INT", "INTEGER"), ("STRUCT", "ROW"), ("TEXT", "VARCHAR"),
     ("TIMESTAMPNTZ", "TIMESTAMP"), ("TIMESTAMPTZ", "TIMESTAMP"), ("TIMETZ", "TIME")]
  | "sqlite" =>
    [("BOOLEAN", "INTEGER"), ("TINYINT", "INTEGER"), ("SMALLINT", "INTEGER"), ("INT", "INTEGER"),
     ("BIGINT", "INTEGER"), ("FLOAT", "REAL"), ("DOUBLE", "REAL"), ("DECIMAL", "REAL"),
     ("CHAR", "TEXT"), ("NCHAR", "TEXT"), ("VARCHAR", "TEXT"), ("NVARCHAR", "TEXT"),
     ("BINARY", "BLOB"), ("VARBINARY", "BLOB")]
  | _ => []
where
  /-- The types that dialects close to Hive share. -/
  hiveTexts : List (String × String) :=
    [("BIT", "BOOLEAN"), ("DATETIME", "TIMESTAMP"), ("ROWVERSION", "BINARY"), ("TEXT", "STRING"),
     ("TIME", "TIMESTAMP"), ("TIMESTAMPTZ", "TIMESTAMP"), ("UTINYINT", "SMALLINT"),
     ("VARBINARY", "BINARY")]

/-- A type as the dialect writes it. -/
def writtenType (dialect : Dialect) (name : String) : String :=
  match dialect.typeTexts.lookup name with
  | some text => text
  | none => (commonTypeTexts.lookup name).getD name

/-- Dialects that write the zone of a time type behind it. -/
def Dialect.zonesBehind (dialect : Dialect) : Bool :=
  dialect.likePresto || dialect.isNamed "oracle"

/-- Types of points in time. -/
def temporalTypes : List String :=
  ["DATE", "DATE32", "DATETIME", "DATETIME2", "DATETIME64", "SMALLDATETIME", "TIME", "TIMESTAMP",
    "TIMESTAMPNTZ",
   "TIMESTAMPLTZ", "TIMESTAMPTZ", "TIMESTAMP_MS", "TIMESTAMP_NS", "TIMESTAMP_S", "TIMETZ"]

/-- A plain type as the dialect has it: some have texts of a limited length under a name of their
own, and no limits for points in time and fractions. -/
def Dialect.plainType (dialect : Dialect) (name : String) (params : List TypeParam) :
    String × List TypeParam :=
  if !dialect.likeHive then (name, params)
  else if ["VARCHAR", "NVARCHAR"].contains name && params.isEmpty then ("TEXT", [])
  else if name == "TEXT" && !params.isEmpty then ("VARCHAR", params)
  else if temporalTypes.contains name then (name, [])
  else match name, params.head?.bind (·.name.toNat?) with
    | "FLOAT", some size => (if size ≤ 32 then "FLOAT" else "DOUBLE", [])
    | _, _ => (name, params)

/-- The canonical text of a type. -/
def TypeName.sql (dialect : Dialect) : TypeName → String
  | .plain name params =>
    let (name, params) := dialect.plainType name params
    let params := if params.isEmpty then ""
      else "(" ++ ", ".intercalate (params.map (·.text)) ++ ")"
    let zone := if dialect.zonesBehind &&
      ["TIMETZ", "TIMESTAMPTZ"].contains name then " WITH TIME ZONE" else ""
    writtenType dialect name ++ params ++ zone
  | .nested text _ | .verbatim text => text
  | .characters set => "CHARACTER SET=" ++ set
  | .literal values type => "CAST(" ++ values ++ " AS " ++ type.sql dialect ++ ")"

/-- A type as the target of a cast; some dialects have fewer names there. -/
def TypeName.castText (dialect : Dialect) (type : TypeName) : String :=
  match type with
  | .characters set => "CHAR CHARACTER SET " ++ set
  | .plain name params =>
    if !dialect.likeMysql then type.sql dialect
    else if ["BIGINT", "BOOLEAN", "INT", "MEDIUMINT", "SMALLINT", "TINYINT"].contains name then
      "SIGNED"
    else if ["UBIGINT", "UINT", "UMEDIUMINT", "USMALLINT", "UTINYINT"].contains name then "UNSIGNED"
    else if ["LONGTEXT", "MEDIUMTEXT", "TEXT", "TINYTEXT", "VARCHAR"].contains name then
      (TypeName.plain "CHAR" params).sql dialect
    else type.sql dialect
  | type => type.sql dialect

/-- The function that stands for a cast to a type, where the dialect has one. -/
def Dialect.conversion? (dialect : Dialect) (type : TypeName) : Option String :=
  match dialect.name.getD "", type with
  | "snowflake", .plain "GEOGRAPHY" _ => some "TO_GEOGRAPHY"
  | "snowflake", .plain "GEOMETRY" _ => some "TO_GEOMETRY"
  | "mysql", .plain name _ | "doris", .plain name _ | "starrocks", .plain name _ =>
    if name == "TIMESTAMPTZ" || name == "TIMESTAMPLTZ" then some "TIMESTAMP" else none
  | _, _ => none

/-- Whether the value of a term is known not to be a text. -/
def Term.isNoText : Term → Bool
  | .number _ _ | .boolean _ | .null | .inList _ _ | .inQuery _ _ | .is _ _ | .between _ _
    _ | .existsIn _ |
    .negation _ => true
  | .paren inner | .negative inner | .commented inner _ => inner.isNoText
  | .cast _ (.plain name _) _ =>
    ! ["CHAR", "NCHAR", "VARCHAR", "NVARCHAR", "TEXT", "NAME"].contains name
  | .binary op left right _ =>
    match op with
    | .add | .sub | .mul | .div | .mod => left.isNoText && right.isNoText
    | .concat | .bitAnd | .bitOr | .bitXor => false
    | _ => true
  | _ => false

/-- The word before the parenthesis of a cast.  Some dialects have no safe casts, or none of what is
no text. -/
def castWord (dialect : Dialect) (operand : Term) (mode : CastMode) : String :=
  match mode, dialect.name.getD "" with
  | .strict, _ | .lenient, _ => "CAST"
  | .safe, "bigquery" => "SAFE_CAST"
  | .safe, "teradata" => "TRYCAST"
  | .safe, "snowflake" => if operand.isNoText then "CAST" else "TRY_CAST"
  | .safe, name =>
    if dialect.likeMysql || dialect.likePostgres ||
      ["drill", "hive", "spark2", "sqlite"].contains name then "CAST"
    else "TRY_CAST"

/-! ## Operations -/

/-- The function that a dialect writes an operation with, where it has no sign for it. -/
def Dialect.operationFunction? (dialect : Dialect) (op : BinaryOp) : Option String :=
  match op with
  | .bitAnd => if dialect.likePresto then some "BITWISE_AND" else none
  | .bitOr => if dialect.likePresto then some "BITWISE_OR" else none
  | .bitXor =>
    if dialect.isNamed "snowflake" then some "BITXOR"
    else if dialect.likePresto then some "BITWISE_XOR"
    else none
  | .mod => if dialect.isNamed "bigquery" then some "MOD" else none
  | _ => none

/-- The sign of an operation as the dialect writes it. -/
def Dialect.operationSign (dialect : Dialect) (op : BinaryOp) : String :=
  match op with
  | .nullSafeEq => if dialect.likeMysql then op.symbol else "IS NOT DISTINCT FROM"
  | .bitXor => if dialect.likePostgres then "#" else op.symbol
  | .mod => if dialect.isNamed "teradata" then "MOD" else op.symbol
  | op => op.symbol

/-- Whether the dialect compares texts without their case only in lower case. -/
def Dialect.lowersCase (dialect : Dialect) : Bool :=
  dialect.likeMysql || dialect.likePresto ||
    dialect.isOneOf ["bigquery", "hive", "spark2", "sqlite", "teradata"]

/-- An operation between two texts, with notes behind its sign. -/
def operationText (dialect : Dialect) (op : BinaryOp) (notes left right : String) : String :=
  match dialect.operationFunction? op with
  | some function => function ++ "(" ++ left ++ ", " ++ right ++ ")"
  | none =>
    if op == .ilike && dialect.lowersCase then "LOWER(" ++ left ++ ") LIKE " ++ right
    else left ++ " " ++ dialect.operationSign op ++ notes ++ " " ++ right

/-- The label of a table. -/
def TableLabel.sql (dialect : Dialect) (label : TableLabel) : String :=
  withComments ((label.name.map (·.sql dialect)).getD "" ++
    if label.columnTexts.isEmpty then ""
    else "(" ++ ", ".intercalate label.columnTexts ++ ")") label.comments

/-- The dotted name of a table. -/
def Table.nameText (dialect : Dialect) (table : Table) : String :=
  ".".intercalate ([table.catalog, table.db, table.name].filterMap fun part =>
    part.map (·.sql dialect))

/-- A table with its clauses and its label. -/
def Table.sql (dialect : Dialect) (table : Table) : String :=
  withComments ((if table.only then "ONLY " else "") ++ table.nameText dialect ++
    table.beforeLabel ++ (match table.label with
      | some label => " AS " ++ label.sql dialect
      | none => "") ++
    String.join (table.pivots.map (" " ++ ·)) ++ table.afterLabel) table.comments

/-- What is written about missing values in an ordering: only what differs from the habit of the
dialect. -/
def nullsText (dialect : Dialect) (descending nullsFirst : Bool) : String :=
  match dialect.nullOrdering, nullsFirst with
  | .small, true => if descending then " NULLS FIRST" else ""
  | .small, false => if descending then "" else " NULLS LAST"
  | .large, true => if descending then "" else " NULLS FIRST"
  | .large, false => if descending then " NULLS LAST" else ""
  | .last, true => " NULLS FIRST"
  | .last, false => ""

/-- Calls without arguments that are written with parentheses. -/
def bareText (dialect : Dialect) (keyword : String) : String :=
  match keyword, dialect.name.getD "" with
  | "SYSDATE", _ => keyword
  | "CURRENT_DATE", "tsql" => "CAST(GETDATE() AS DATE)"
  | "CURRENT_DATE", "clickhouse" => "CURRENT_DATE()"
  | "CURRENT_DATE", _ => keyword
  | "CURRENT_TIMESTAMP", "tsql" | "CURRENT_TIMESTAMP", "redshift" => "GETDATE()"
  | "CURRENT_TIMESTAMP", "doris" => "NOW()"
  | "CURRENT_TIMESTAMP", "oracle" | "CURRENT_TIMESTAMP", "drill" => keyword
  | _, _ =>
    if dialect.likePostgres || dialect.likePresto || dialect.isOneOf ["duckdb", "sqlite"] then
      keyword
    else keyword ++ "()"

/-- Dialects that can send the rows of a query to a table. -/
def Dialect.selectsInto (dialect : Dialect) : Bool :=
  dialect.likePostgres || dialect.isNamed "tsql"

/-- A SELECT with its parts. -/
def selectText (hint : String) (distinct : Option String) (opening : String) (items : List String)
    (into : String) (source : Option String) (sourceComments : List String) : String :=
  words ["SELECT", hint, (distinct.map ("DISTINCT" ++ ·)).getD "", opening,
    ", ".intercalate items, into] ++
    match source with
    | some source => trailingComments sourceComments ++ " FROM " ++ source
    | none => ""

/-- A conditional as the dialect writes it. -/
def conditionalText (dialect : Dialect) (args : List String) : String :=
  let call (name : String) (args : List String) : String :=
    name ++ "(" ++ ", ".intercalate args ++ ")"
  let missing := if args.length == 2 then ["NULL"] else []
  match dialect.name.getD "" with
  | "snowflake" => call "IFF" (args ++ missing)
  | "bigquery" => call "IF" (args ++ missing)
  | "tsql" | "sqlite" => call "IIF" args
  | "hive" | "spark" | "spark2" | "databricks" | "presto" | "trino" | "athena" | "drill" =>
    call "IF" args
  | _ =>
    match args with
    | [condition, yes] => "CASE WHEN " ++ condition ++ " THEN " ++ yes ++ " END"
    | [condition, yes, no] =>
      "CASE WHEN " ++ condition ++ " THEN " ++ yes ++ " ELSE " ++ no ++ " END"
    | args => call "IF" args

/-- The name of a function as the dialect writes it; most write it in upper case. -/
def functionText (dialect : Dialect) (name : Ident) : String :=
  let text := name.bareText dialect
  if dialect.isOneOf ["bigquery", "clickhouse"] then text else text.upperCase

/-- A clause after a space, if it is there. -/
def optionalText (keyword : String) (body : Option String) : String :=
  match body with
  | some text => " " ++ keyword ++ " " ++ text
  | none => ""

/-- The text of an operand as its operation has it: some dialects keep an extraction by an arrow in
parentheses. -/
def operandText (dialect : Dialect) (operand : Term) (text : String) : String :=
  match operand.core with
  | .raw "JSONExtract" _ | .raw "JSONExtractScalar" _ =>
    if dialect.isNamed "duckdb" then "(" ++ text ++ ")" else text
  | _ => text

mutual

/-- The canonical text of a term. -/
def Term.sql (dialect : Dialect) : Term → String
  | .column parts comments =>
    withComments (".".intercalate (parts.map (·.sql dialect))) comments
  | .columnStar qualifiers tail => ".".intercalate (qualifiers.map (·.sql dialect) ++ ["*"]) ++ tail
  | .star tail => "*" ++ tail
  | .number text comments => withComments text comments
  | .string value comments => withComments (literalText dialect value) comments
  | .boolean value => if value then "TRUE" else "FALSE"
  | .null => "NULL"
  | .paren inner => "(" ++ inner.sql dialect ++ ")"
  | .labelled inner label comments =>
    withComments (inner.sql dialect ++ " AS " ++ label.sql dialect) comments
  | .negative inner =>
    let text := inner.sql dialect
    if text.startsWith "-" then "- " ++ text else "-" ++ text
  | .negation inner => "NOT " ++ inner.sql dialect
  | .inList subject values =>
    operandText dialect subject (subject.sql dialect) ++ " IN (" ++
      ", ".intercalate (termTexts dialect values) ++ ")"
  | .inQuery subject query =>
    operandText dialect subject (subject.sql dialect) ++ " IN (" ++ query.sql dialect ++ ")"
  | .is subject value =>
    operandText dialect subject (subject.sql dialect) ++ " IS " ++ value.sql dialect
  | .between subject low high =>
    subject.sql dialect ++ " BETWEEN " ++ low.sql dialect ++ " AND " ++ high.sql dialect
  | .existsIn query => "EXISTS(" ++ query.sql dialect ++ ")"
  | .caseOf operand branches otherwise =>
    "CASE" ++ ((optionalTermText dialect operand).map (" " ++ ·)).getD "" ++
      String.join (caseTexts dialect branches) ++
      optionalText "ELSE" (optionalTermText dialect otherwise) ++ " END"
  | .cast operand type mode =>
    let text := operand.sql dialect
    match dialect.conversion? type with
    | some function => function ++ "(" ++ text ++ ")"
    | none => castWord dialect operand mode ++ "(" ++ text ++ " AS " ++ type.castText dialect ++ ")"
  | .window function partition order frame =>
    let keys := termTexts dialect partition
    let order := orderedTexts dialect order
    function.sql dialect ++ " OVER (" ++
      words [if keys.isEmpty then "" else "PARTITION BY " ++ ", ".intercalate keys,
        if order.isEmpty then "" else "ORDER BY " ++ ", ".intercalate order, frame.getD ""] ++ ")"
  | .query query => query.sql dialect
  | .binary op left right comments =>
    let notes := match op with
      | .and | .or => trailingComments comments
      | _ => ""
    operationText dialect op notes (operandText dialect left (left.sql dialect))
      (operandText dialect right (right.sql dialect))
  | .call name args =>
    functionText dialect name ++ "(" ++ ", ".intercalate (termTexts dialect args) ++ ")"
  | .distinct args => words ["DISTINCT", ", ".intercalate (termTexts dialect args)]
  | .bare _ keyword => bareText dialect keyword
  | .conditional _ args => conditionalText dialect (termTexts dialect args)
  | .aggregate _ _ text => text
  | .commented inner comments => withComments (inner.sql dialect) comments
  | .raw _ text => text

/-- The texts of terms. -/
def termTexts (dialect : Dialect) : List Term → List String
  | [] => []
  | t :: rest => t.sql dialect :: termTexts dialect rest

/-- The text of a term that may be missing. -/
def optionalTermText (dialect : Dialect) : Option Term → Option String
  | none => none
  | some t => some (t.sql dialect)

/-- The texts of the branches of a case expression. -/
def caseTexts (dialect : Dialect) : List CaseBranch → List String
  | [] => []
  | .mk condition result :: rest =>
    (" WHEN " ++ condition.sql dialect ++ " THEN " ++ result.sql dialect) :: caseTexts dialect rest

/-- The texts of ordering keys. -/
def orderedTexts (dialect : Dialect) : List Ordered → List String
  | [] => []
  | .mk key descending nullsFirst _ fill comments :: rest =>
    withComments (key.sql dialect ++
      (match descending with
        | some true => " DESC"
        | some false => " ASC"
        | none => "") ++
      nullsText dialect (descending == some true) nullsFirst ++ spaced fill) comments
      :: orderedTexts dialect rest

/-- The text of an ordering that may be missing. -/
def optionalOrderText (dialect : Dialect) : Option (List Ordered) → Option String
  | none => none
  | some keys => some (", ".intercalate (orderedTexts dialect keys))

/-- The text of a grouping that may be missing. -/
def optionalGroupText (dialect : Dialect) : Option Grouping → Option String
  | none => none
  | some (.mk items byAll extra) =>
    some (words [if byAll then "ALL" else "", ", ".intercalate (termTexts dialect items) ++ extra])

/-- The text of a limit that may be missing, with its keyword. -/
def optionalLimitText (dialect : Dialect) : Option Limit → Option String
  | none => none
  | some (.count count tail) => some (" LIMIT " ++ count.sql dialect ++ spaced tail)
  | some (.fetch text) => some (" " ++ text)

/-- The text of an entry of a FROM clause. -/
def From.sql (dialect : Dialect) : From → String
  | .table table => table.sql dialect
  | .query query => query.sql dialect
  | .raw _ text => text

/-- The text of an entry of a FROM clause that may be missing; a plain list of rows stands in
parentheses. -/
def optionalFromText (dialect : Dialect) : Option From → Option String
  | none => none
  | some (.raw "Values" text) =>
    some (if text.startsWith "VALUES" then "(" ++ text ++ ")" else text)
  | some source => some (source.sql dialect)

/-- The texts of joins, each with what stands before it. -/
def joinTexts (dialect : Dialect) : List JoinTerm → List String
  | [] => []
  | .mk method side kind source condition shared hasShared comments :: rest =>
    let operator := words [method, side, kind]
    let tail :=
      match optionalTermText dialect condition with
      | some text => " ON " ++ text
      | none =>
        if hasShared then " USING (" ++ ", ".intercalate (shared.map (·.sql dialect)) ++ ")" else ""
    let applies := match source with
      | .raw "Apply" _ => true
      | _ => false
    (if operator.isEmpty && tail.isEmpty then
        if applies then " " ++ source.sql dialect else ", " ++ source.sql dialect
      else trailingComments comments ++ " " ++
        (if operator == "STRAIGHT_JOIN" then operator else words [operator, "JOIN"]) ++ " " ++
        source.sql dialect ++ tail)
      :: joinTexts dialect rest

/-- The texts of named queries. -/
def cteTexts (dialect : Dialect) : List Cte → List String
  | [] => []
  | .mk label body materialized comments :: rest =>
    withComments (words [label.sql dialect, "AS", materialized, "(" ++ body.sql dialect ++ ")"])
      comments
      :: cteTexts dialect rest
  | .value label value comments :: rest =>
    withComments (words [value.sql dialect, "AS", label.sql dialect]) comments ::
      cteTexts dialect rest

/-- The text of a WITH clause that may be missing, with a space behind it. -/
def withText (dialect : Dialect) : Option With → String
  | none => ""
  | some (.mk recursive ctes comments) =>
    leadingComments comments ++ (if recursive then "WITH RECURSIVE " else "WITH ") ++
      ", ".intercalate (cteTexts dialect ctes) ++ " "

/-- The text of the clauses of a query; `bounded` says that an offset needs a limit before it. -/
def Clauses.sql (dialect : Dialect) (bounded : Bool) : Clauses → String
  | { joins, laterals, prefilter, filter, filterComments, hierarchy, grouping, having, clustering,
      distribution, sorting, windows, qualify, order, limit, offset, offsetTail, closing,
      comments := _ } =>
    let unlimited := if bounded && offset.isSome then " LIMIT NULL" else ""
    let limitText := (optionalLimitText dialect limit).getD unlimited
    let offsetText := optionalText "OFFSET" (optionalTermText dialect offset) ++ spaced offsetTail
    let isFetch := match limit with
      | some (.fetch _) => true
      | _ => false
    String.join (joinTexts dialect joins) ++ String.join (laterals.map (" " ++ ·)) ++
      spaced prefilter ++
      trailingComments filterComments ++ optionalText "WHERE" (optionalTermText dialect filter) ++
      spaced hierarchy ++
      optionalText "GROUP BY" (optionalGroupText dialect grouping) ++
      optionalText "HAVING" (optionalTermText dialect having) ++
      clustering ++ String.join ([distribution, sorting, windows].map spaced) ++
      optionalText "QUALIFY" (optionalTermText dialect qualify) ++
      optionalText "ORDER BY" (optionalOrderText dialect order) ++
      (if isFetch then offsetText ++ limitText else limitText ++ offsetText) ++
      String.join (closing.map (" " ++ ·))

/-- The text of a SELECT. -/
def Select.sql (dialect : Dialect) : Select → String
  | { withClause, hint, distinct, opening, items, into, source, sourceComments, clauses } =>
    let shownInto := match into with
      | some (kind, target) => if dialect.selectsInto then words ["INTO", kind, target] else ""
      | none => ""
    let lead := match into with
      | some (kind, target) =>
        if dialect.selectsInto then ""
        else words ["CREATE", if kind == "TEMPORARY" then kind else "", "TABLE", target, "AS "]
      | none => ""
    leadingComments (if withClause.isNone then clauses.comments else []) ++ lead ++
      withText dialect withClause ++
      leadingComments (if withClause.isSome then clauses.comments else []) ++
      selectText hint distinct opening (termTexts dialect items) shownInto
        (optionalFromText dialect source)
        sourceComments ++
      clauses.sql dialect (dialect.isNamed "snowflake")

/-- The canonical text of a query. -/
def Query.sql (dialect : Dialect) : Query → String
  | .select select => select.sql dialect
  | .setOp op distinct byName left right withClause clauses =>
    withText dialect withClause ++ left.sql dialect ++ " " ++
      leadingComments clauses.comments ++
      words [op.keyword, if distinct then "" else "ALL", if byName then "BY NAME" else "",
        right.sql dialect] ++ clauses.sql dialect false
  | .wrapped inner withClause label pivots clauses =>
    withText dialect withClause ++ "(" ++ inner.sql dialect ++ ")" ++
      (match label with
        | some label => " AS " ++ label.sql dialect
        | none => "") ++
      String.join (pivots.map (" " ++ ·)) ++ clauses.sql dialect false ++
      trailingComments clauses.comments
  | .other _ text => text

end

/-- The canonical text of an entry of a column list. -/
def SchemaItem.sql (dialect : Dialect) : SchemaItem → String
  | .column ident type constraints comments =>
    withComments (words ([ident.sql dialect, (type.map (·.sql dialect)).getD ""] ++
      constraints.map Prod.snd))
      comments
  | .primaryKey _ text => text
  | .name ident => ident.sql dialect
  | .other text => text

/-- The name of the kind of a query. -/
def Query.kindName : Query → String
  | .select _ => "Select"
  | .setOp op _ _ _ _ _ _ => op.kindName
  | .wrapped _ _ _ _ _ => "Subquery"
  | .other kind _ => kind

/-- The name of the kind of a keyword function. -/
def bareKindName (keyword : String) : String :=
  match keyword with
  | "CURRENT_DATE" => "CurrentDate"
  | "CURRENT_TIME" => "CurrentTime"
  | "CURRENT_TIMESTAMP" | "SYSDATE" => "CurrentTimestamp"
  | "CURRENT_USER" => "CurrentUser"
  | _ => "Anonymous"

/-- The name of a call as it is written; empty for other terms. -/
def Term.callName : Term → String
  | .call name _ => name.name
  | .conditional name _ | .bare name _ => name
  | _ => ""

/-- The name of the kind of a term. -/
def Term.kindName : Term → String
  | .column _ _ | .columnStar _ _ => "Column"
  | .star _ => "Star"
  | .number _ _ | .string _ _ => "Literal"
  | .boolean _ => "Boolean"
  | .null => "Null"
  | .paren _ => "Paren"
  | .labelled _ _ _ => "Alias"
  | .negative _ => "Neg"
  | .negation _ => "Not"
  | .inList _ _ | .inQuery _ _ => "In"
  | .is _ _ => "Is"
  | .between _ _ _ => "Between"
  | .existsIn _ => "Exists"
  | .caseOf _ _ _ => "Case"
  | .cast _ _ mode => if mode.isSafe then "TryCast" else "Cast"
  | .window _ _ _ _ => "Window"
  | .query q => q.kindName
  | .binary op _ _ _ => op.kindName
  | .call _ _ => "Anonymous"
  | .distinct _ => "Distinct"
  | .bare _ keyword => bareKindName keyword
  | .conditional _ _ => "If"
  | .aggregate _ _ _ => "GroupConcat"
  | .commented inner _ => inner.kindName
  | .raw kind _ => kind

end SqlLayout.Grammar
