import SqlLayout.Grammar.Dialect

/-!
# Tokens

The words of a statement.  A keyword token carries its canonical keyword, so that all spellings of a
type or an operator are one kind of token.
-/

namespace SqlLayout.Grammar

/-- The kinds of token. -/
inductive Kind where
  /-- A plain name. -/
  | name
  /-- A quoted name. -/
  | quotedName
  | number
  | string
  /-- A string literal in the national character set. -/
  | nationalString
  /-- A string literal without escapes. -/
  | rawString
  /-- The digits of a number in base sixteen. -/
  | hexString
  /-- The digits of a number in base two. -/
  | bitString
  /-- A string literal of bytes. -/
  | byteString
  /-- A string literal with numbered characters. -/
  | unicodeString
  /-- A punctuation mark or an operator. -/
  | symbol (mark : String)
  /-- A keyword in its canonical spelling. -/
  | keyword (word : String)
  /-- A character that starts no token. -/
  | unknown
  deriving DecidableEq, Repr

/-- What a keyword can stand for besides itself. -/
structure Roles where
  /-- Can be a name. -/
  isName : Bool := false
  /-- Can name a table in a FROM list. -/
  isTableLabel : Bool := false
  /-- Is the name of a data type. -/
  isType : Bool := false
  /-- Can name a function. -/
  isFunction : Bool := false
  deriving Repr

/-- A token with its text as written and in upper case, the comments around it and its span in the
source. -/
structure Token where
  kind : Kind
  text : String
  upper : String
  roles : Roles := {}
  comments : List String := []
  start : Nat := 0
  stop : Nat := 0
  deriving Repr

/-- Keywords whose canonical spelling is the word itself. -/
def plainKeywords : List String :=
  ["ALL", "ALWAYS", "AND", "ANTI", "ANY", "ASC", "AS", "ASOF", "BEGIN", "BETWEEN", "CACHE",
    "UNCACHE",
   "CASE", "COLLATE", "COLUMN", "COMMIT", "CONSTRAINT", "COPY", "CREATE", "CROSS", "CUBE",
   "CURRENT_DATE", "CURRENT_TIME", "CURRENT_TIMESTAMP", "CURRENT_USER", "DATABASE", "DEFAULT",
   "DELETE", "DESC", "DESCRIBE", "DISTINCT", "DIV", "DROP", "ELSE", "END", "ENUM", "ESCAPE",
   "EXCEPT", "EXECUTE", "EXISTS", "FALSE", "FETCH", "FILTER", "FIRST", "FULL", "FUNCTION", "FOR",
   "FORMAT",
   "FROM", "GEOGRAPHY", "GEOMETRY", "GLOB", "HAVING", "ILIKE", "IN", "INDEX", "INET", "INNER",
   "INSERT", "INTERVAL", "INTERSECT", "INTO", "IS", "ISNULL", "JOIN", "KEEP", "KILL", "LATERAL",
   "LEFT", "LIKE", "LIMIT", "LOAD", "LOCK", "MERGE", "NATURAL", "NEXT", "NOT", "NOTNULL", "NULL",
   "OBJECT", "OFFSET", "ON", "OR", "XOR", "ORDINALITY", "OUTER", "OVER", "OVERLAPS", "OVERWRITE",
   "PARTITION", "PERCENT", "PIVOT", "PRAGMA", "PROCEDURE", "QUALIFY", "RANGE", "RECURSIVE",
   "RENAME", "REPLACE", "RETURNING", "REFERENCES", "RIGHT", "RLIKE", "ROLLBACK", "ROLLUP",
   "ROW", "ROWS",
   "SCHEMA", "SELECT", "SEMI", "SET", "SETTINGS", "SHOW", "SOME", "STRAIGHT_JOIN", "TABLE",
   "TEMPORARY", "THEN", "TRUE", "TRUNCATE", "UNION", "UNKNOWN", "UNNEST", "UNPIVOT",
   "UPDATE", "USE", "USING", "UUID", "VALUES", "VIEW", "VOLATILE", "WHEN", "WHERE", "WINDOW",
   "WITH", "APPLY", "ARRAY",
   "BIT", "BOOLEAN", "MEDIUMINT", "TINYINT", "SMALLINT", "INT", "INT128", "INT256",
   "BIGINT", "UINT", "UINT128", "UINT256", "DECIMAL", "DECIMAL32", "DECIMAL64", "DECIMAL128",
   "BIGDECIMAL", "LIST",
   "MAP", "NULLABLE", "FLOAT", "DOUBLE", "JSON", "JSONB", "CHAR", "NCHAR", "VARCHAR", "NVARCHAR",
   "BPCHAR", "TEXT", "LONGTEXT", "MEDIUMTEXT", "TINYTEXT", "BINARY", "LONGBLOB", "MEDIUMBLOB",
   "TINYBLOB", "VARBINARY", "TIME", "TIMETZ", "TIMESTAMP", "TIMESTAMPTZ", "TIMESTAMPLTZ",
   "TIMESTAMPNTZ", "DATE", "DATETIME", "INT4RANGE", "INT4MULTIRANGE", "INT8RANGE", "INT8MULTIRANGE",
   "NUMRANGE", "NUMMULTIRANGE", "TSRANGE", "TSMULTIRANGE", "TSTZRANGE", "TSTZMULTIRANGE",
   "DATERANGE", "DATEMULTIRANGE", "UNIQUE", "VECTOR", "STRUCT", "SEQUENCE", "VARIANT", "ALTER",
   "COMMENT", "GRANT"]

/-- Words that stand for another keyword. -/
def keywordSpellings : List (String × String) :=
  [("AUTOINCREMENT", "AUTO_INCREMENT"), ("AUTO_INCREMENT", "AUTO_INCREMENT"),
   ("PARTITIONED_BY", "PARTITION BY"), ("REGEXP", "RLIKE"), ("TABLESAMPLE", "TABLE SAMPLE"),
   ("TEMP", "TEMPORARY"), ("BOOL", "BOOLEAN"), ("BYTE", "TINYINT"), ("INT1", "TINYINT"),
   ("INT16", "SMALLINT"), ("SHORT", "SMALLINT"), ("HUGEINT", "INT128"), ("UHUGEINT", "UINT128"),
   ("INT2", "SMALLINT"), ("INTEGER", "INT"), ("INT4", "INT"), ("INT32", "INT"), ("INT64", "BIGINT"),
   ("LONG", "BIGINT"), ("INT8", "TINYINT"), ("DEC", "DECIMAL"), ("BIGNUMERIC", "BIGDECIMAL"),
   ("NUMBER", "DECIMAL"), ("NUMERIC", "DECIMAL"), ("FIXED", "DECIMAL"), ("REAL", "FLOAT"),
   ("FLOAT4", "FLOAT"), ("FLOAT8", "DOUBLE"), ("CHARACTER", "CHAR"), ("VARCHAR2", "VARCHAR"),
   ("NVARCHAR2", "NVARCHAR"), ("STR", "TEXT"), ("STRING", "TEXT"), ("CLOB", "TEXT"),
   ("LONGVARCHAR", "TEXT"), ("BLOB", "VARBINARY"), ("BYTEA", "VARBINARY"),
   ("TIMESTAMP_LTZ", "TIMESTAMPLTZ"), ("TIMESTAMP_NTZ", "TIMESTAMPNTZ"), ("ANALYZE", "COMMAND"),
   ("CALL", "COMMAND"), ("EXPLAIN", "COMMAND"), ("OPTIMIZE", "COMMAND"), ("PREPARE", "COMMAND"),
   ("VACUUM", "COMMAND")]

/-- Keywords of several words. -/
def phraseKeywords : List (String × String) :=
  [("CHARACTER SET", "CHARACTER SET"), ("CLUSTER BY", "CLUSTER BY"), ("CONNECT BY", "CONNECT BY"),
   ("DISTRIBUTE BY", "DISTRIBUTE BY"), ("FOREIGN KEY", "FOREIGN KEY"), ("GROUP BY", "GROUP BY"),
   ("GROUPING SETS", "GROUPING SETS"), ("ORDER BY", "ORDER BY"), ("PARTITION BY", "PARTITION BY"),
   ("PARTITIONED BY", "PARTITION BY"), ("PRIMARY KEY", "PRIMARY KEY"), ("SIMILAR TO", "SIMILAR TO"),
   ("SORT BY", "SORT BY"), ("START WITH", "START WITH"), ("DOUBLE PRECISION", "DOUBLE"),
   ("FOR VERSION", "FOR VERSION"), ("FOR TIMESTAMP", "FOR TIMESTAMP")]

/-- Operators of several characters, each with the keyword or the mark it stands for. -/
def operators : List (String × Kind) :=
  [("->>", .symbol "->>"), ("#>>", .symbol "#>>"), ("<=>", .symbol "<=>"), ("<->", .symbol "<->"),
   ("~~~", .keyword "GLOB"), ("~~*", .keyword "ILIKE"), ("==", .symbol "="), ("::", .symbol "::"),
   ("||", .symbol "||"), (">=", .symbol ">="), ("<=", .symbol "<="), ("<>", .symbol "<>"),
   ("!=", .symbol "<>"), (":=", .symbol ":="), ("->", .symbol "->"), ("=>", .symbol "=>"),
   ("#>", .symbol "#>"), ("&&", .symbol "&&"), ("??", .symbol "??"), ("~~", .keyword "LIKE"),
   ("~*", .keyword "IRLIKE"), ("\x7b%", .unknown), ("%\x7d", .unknown), ("+%\x7d", .unknown),
   ("-%\x7d", .unknown), ("\x7b\x7b+", .unknown), ("\x7b\x7b-", .unknown), ("+\x7d\x7d", .unknown),
   ("-\x7d\x7d", .unknown)]

/-- The characters that are tokens on their own. -/
def punctuation : List Char :=
  "()[]\x7b\x7d&^:,-.=><%!|+;/\\*~?@#".toList

/-- Whether a character is a token on its own in the dialect. -/
def Dialect.isPunctuation (dialect : Dialect) (c : Char) : Bool :=
  match c with
  | '%' => !dialect.isNamed "teradata"
  | '#' => !dialect.isNamed "redshift"
  | '$' =>
    dialect.nameMarks.contains '$' && !dialect.isOneOf ["oracle", "tsql"] ||
      dialect.taggedStrings ||
      dialect.likeHive
  | c => punctuation.contains c

/-- The kind of a token of one punctuation character. -/
def Dialect.markKind (dialect : Dialect) (c : Char) : Kind :=
  if c == '!' then .keyword "NOT"
  else if c == '~' && dialect.tildeMatches then .keyword "RLIKE"
  else if c == '$' then .symbol "@"
  else .symbol (String.singleton c)

/-- Keywords that name data types. -/
def typeKeywords : List String :=
  ["BIT", "BOOLEAN", "TINYINT", "UTINYINT", "SMALLINT", "USMALLINT", "INT", "UINT", "BIGINT",
    "UBIGINT",
   "INT128", "UINT128", "INT256", "UINT256", "MEDIUMINT", "UMEDIUMINT", "FLOAT", "DOUBLE", "CHAR",
   "NCHAR", "VARCHAR", "NVARCHAR", "BPCHAR", "TEXT", "MEDIUMTEXT", "LONGTEXT", "MEDIUMBLOB",
   "LONGBLOB", "BINARY", "VARBINARY", "JSON", "JSONB", "INTERVAL", "TINYBLOB", "TINYTEXT", "TIME",
   "TIMETZ", "TIMESTAMP", "TIMESTAMPTZ", "TIMESTAMPLTZ", "TIMESTAMPNTZ", "DATETIME", "DATE",
   "INT4RANGE", "INT4MULTIRANGE", "INT8RANGE", "INT8MULTIRANGE", "NUMRANGE", "NUMMULTIRANGE",
   "TSRANGE", "TSMULTIRANGE", "TSTZRANGE", "TSTZMULTIRANGE", "DATERANGE", "DATEMULTIRANGE",
   "DECIMAL", "DECIMAL32", "DECIMAL64", "DECIMAL128", "BIGDECIMAL", "UUID", "GEOGRAPHY", "GEOMETRY",
   "VARIANT",
   "VECTOR", "OBJECT", "INET", "UNKNOWN", "NULL", "ENUM", "ARRAY", "LIST", "MAP",
   "NULLABLE", "RANGE", "STRUCT", "UNION", "NESTED", "LOWCARDINALITY", "FIXEDSTRING", "ENUM8",
   "ENUM16", "DATE32", "DATETIME64",
   "DATETIME2", "SMALLDATETIME", "IPV4", "IPV6", "IPADDRESS", "IPPREFIX", "TDIGEST",
   "HLLSKETCH", "SUPER", "MONEY", "SMALLMONEY", "IMAGE", "ROWVERSION", "XML", "HSTORE", "NAME",
   "SERIAL", "SMALLSERIAL",
   "BIGSERIAL", "YEAR", "UDECIMAL", "UNIQUEIDENTIFIER", "TIMESTAMP_S", "TIMESTAMP_MS",
   "TIMESTAMP_NS"]

/-- Keywords, besides data types, that can be names. -/
def nameKeywords : List String :=
  ["ALL", "ANTI", "APPLY", "ASC", "ASOF", "AUTO_INCREMENT", "BEGIN", "CACHE", "CASE", "COLLATE",
   "COMMAND", "COMMENT", "COMMIT", "CONSTRAINT", "COPY", "CUBE", "DEFAULT", "DELETE", "DESC",
   "DESCRIBE", "DIV", "END", "EXECUTE", "ESCAPE", "FALSE", "FIRST", "FILTER", "FORMAT",
   "FULL", "IS", "ISNULL", "KEEP", "KILL", "LEFT", "LOAD", "MERGE", "NATURAL", "NEXT", "OFFSET",
   "ORDINALITY", "OVERLAPS", "OVERWRITE", "PARTITION", "PERCENT", "PIVOT", "PRAGMA", "RECURSIVE",
   "REFERENCES", "RENAME", "REPLACE", "RIGHT", "ROLLUP", "ROW", "ROWS", "SEMI", "SET", "SETTINGS",
   "SHOW", "TEMPORARY", "TOP", "TRUE", "TRUNCATE", "UNIQUE", "UNNEST", "UNPIVOT", "UPDATE", "USE",
   "VOLATILE", "WINDOW", "COLUMN", "FOREIGN KEY", "FUNCTION", "INDEX", "PROCEDURE", "DATABASE",
   "SCHEMA", "SEQUENCE", "TABLE", "VIEW", "WAREHOUSE", "STREAMLIT", "STORAGE INTEGRATION",
   "TAG", "MODEL", "DICTIONARY", "FINAL", "OPERATOR", "REFRESH", "MATCH_CONDITION", "DECLARE",
   "POSITIONAL",
   "FORCE", "IGNORE", "KEY", "ATTACH", "DETACH", "CURRENT_DATETIME", "ANY", "EXISTS", "SOME",
   "CURRENT_DATE", "CURRENT_TIME", "CURRENT_TIMESTAMP", "CURRENT_USER"]

/-- Keywords that can be names but not the label of a table. -/
def nonLabelKeywords : List String :=
  ["ANTI", "APPLY", "ARRAY", "ASOF", "FULL", "LEFT", "LOCK", "NATURAL", "OFFSET", "RIGHT", "SEMI",
    "WINDOW",
   "MATCH_CONDITION", "FINAL", "POSITIONAL", "FORCE", "IGNORE"]

/-- Keywords, besides data types, that can name a function. -/
def functionKeywords : List String :=
  ["COLLATE", "COMMAND", "CURRENT_DATE", "CURRENT_DATETIME", "CURRENT_TIMESTAMP", "CURRENT_TIME",
   "CURRENT_USER", "FILTER", "FINAL", "FIRST", "FORMAT", "GLOB", "INDEX", "ISNULL", "ILIKE",
   "INSERT", "LIKE", "MERGE", "NEXT", "OFFSET",
   "PRIMARY KEY", "REPLACE", "RLIKE", "ROW", "UNNEST", "LEFT", "RIGHT", "SEQUENCE", "TABLE",
   "TRUNCATE", "WINDOW", "XOR", "ANY", "ALL", "EXISTS", "SOME"]

/-- The roles of a kind of token. -/
def Kind.roles : Kind → Roles
  | .name => { isName := true, isTableLabel := true, isFunction := true }
  | .quotedName => { isFunction := true }
  | .keyword word =>
    let isType := typeKeywords.contains word
    let isName := (isType && word != "UNION") || nameKeywords.contains word
    { isName := isName
      isTableLabel := isName && !nonLabelKeywords.contains word
      isType := isType
      isFunction := isType || functionKeywords.contains word }
  | _ => {}

/-- The roles of a kind of token in a dialect. -/
def Dialect.roles (dialect : Dialect) (kind : Kind) : Roles :=
  let roles := kind.roles
  match kind with
  | .keyword "WINDOW" => { roles with isTableLabel := dialect.isNamed "snowflake" }
  | .keyword "USE" => { roles with isTableLabel := !dialect.likeMysql }
  | .keyword "ANY" | .keyword "FORMAT" | .keyword "SETTINGS" =>
    { roles with isTableLabel := roles.isTableLabel && !dialect.isNamed "clickhouse" }
  | .keyword "SET" => { roles with isType := dialect.likeMysql }
  | .keyword "DATABASE" | .keyword "SCHEMA" | .keyword "VALUES" =>
    { roles with isFunction := dialect.likeMysql }
  | .keyword "ANTI" | .keyword "SEMI" =>
    { roles with isTableLabel :=
        dialect.isOneOf ["bigquery", "snowflake", "sqlite", "teradata", "tsql"] ||
          dialect.likeMysql ||
          dialect.likePresto }
  | _ => roles

/-! ## Words of single dialects -/

/-- The sets of characters that the name of one before a string literal tells it is in. -/
def literalCharacterSets : List String :=
  ["ARMSCII8", "ASCII", "BIG5", "BINARY", "CP1250", "CP1251", "CP1256", "CP1257", "CP850",
    "CP852", "CP866",
   "CP932", "DEC8", "EUCJPMS", "EUCKR", "GB18030", "GB2312", "GBK", "GEOSTD8", "GREEK",
   "HEBREW", "HP8", "KEYBCS2", "KOI8R", "KOI8U", "LATIN1", "LATIN2", "LATIN5", "LATIN7", "MACCE",
   "MACROMAN", "SJIS", "SWE7",
   "TIS620", "UCS2", "UJIS", "UTF16", "UTF16LE", "UTF32", "UTF8", "UTF8MB3", "UTF8MB4"]

/-- Words that are keywords of a dialect, each with the keyword that it stands for. -/
def Dialect.ownKeywords (dialect : Dialect) : List (String × String) :=
  match dialect.name.getD "" with
  | "snowflake" =>
    [("MINUS", "EXCEPT"), ("EXCLUDE", "EXCEPT"), ("SAMPLE", "TABLE SAMPLE"), ("RENAME", "REPLACE"),
     ("TOP", "TOP"), ("WAREHOUSE", "WAREHOUSE"), ("TAG", "TAG"), ("STREAMLIT", "STREAMLIT"),
     ("BYTEINT", "INT"), ("TIMESTAMP_TZ", "TIMESTAMPTZ"), ("SQL_DOUBLE", "DOUBLE"),
     ("SQL_VARCHAR", "VARCHAR"),
     ("PUT", "COMMAND"), ("REMOVE", "COMMAND"), ("RM", "COMMAND"),
     ("MATCH_CONDITION", "MATCH_CONDITION"), ("MATCH_RECOGNIZE", "MATCH_RECOGNIZE")]
  | "tsql" =>
    [("TOP", "TOP"), ("DATETIME2", "DATETIME2"), ("DATETIMEOFFSET", "TIMESTAMPTZ"),
      ("DECLARE", "DECLARE"),
     ("IMAGE", "IMAGE"), ("MONEY", "MONEY"), ("NTEXT", "TEXT"), ("OPTION", "OPTION"),
     ("OUTPUT", "RETURNING"), ("PRINT", "COMMAND"), ("PROC", "PROCEDURE"),
     ("ROWVERSION", "ROWVERSION"), ("SMALLDATETIME", "SMALLDATETIME"), ("SMALLMONEY", "SMALLMONEY"),
     ("SQL_VARIANT", "VARIANT"),
     ("SYSTEM_USER", "CURRENT_USER"), ("TIMESTAMP", "ROWVERSION"), ("TINYINT", "UTINYINT"),
     ("UNIQUEIDENTIFIER", "UNIQUEIDENTIFIER"), ("XML", "XML")]
  | "teradata" =>
    [("TOP", "TOP"), ("MINUS", "EXCEPT"), ("SAMPLE", "TABLE SAMPLE"), ("SEL", "SELECT"),
      ("DEL", "DELETE"),
     ("INS", "INSERT"), ("UPD", "UPDATE"), ("BYTEINT", "SMALLINT"), ("COLLECT", "COMMAND"),
     ("HELP", "COMMAND"), ("ST_GEOMETRY", "GEOMETRY")]
  | "redshift" =>
    postgresWords ++ [("TOP", "TOP"), ("MINUS", "EXCEPT"), ("SUPER", "SUPER"),
      ("UNLOAD", "COMMAND"), ("VARBYTE", "VARBINARY"), ("HLLSKETCH", "HLLSKETCH")]
  | "postgres" | "materialize" | "risingwave" => postgresWords
  | "mysql" | "doris" | "starrocks" =>
    [("CHARSET", "CHARACTER SET"), ("EXPLAIN", "DESCRIBE"), ("FORCE", "FORCE"),
      ("IGNORE", "IGNORE"),
     ("KEY", "KEY"), ("SIGNED", "BIGINT"), ("UNSIGNED", "UBIGINT"), ("YEAR", "YEAR"),
     ("DISTINCTROW", "DISTINCT"), ("SEPARATOR", "SEPARATOR"), ("SERIAL", "SERIAL"),
     ("START", "BEGIN"),
     ("TIMESTAMP", "TIMESTAMPTZ")] ++ literalCharacterSets.map fun set => ("_" ++ set, "CHARACTERS")
  | "bigquery" =>
    [("BEGIN", "COMMAND"), ("BYTEINT", "INT"), ("BYTES", "BINARY"),
      ("CURRENT_DATETIME", "CURRENT_DATETIME"),
     ("DATETIME", "TIMESTAMP"), ("DECLARE", "COMMAND"), ("ELSEIF", "COMMAND"),
     ("EXCEPTION", "COMMAND"), ("FLOAT64", "DOUBLE"), ("MODEL", "MODEL"), ("RECORD", "STRUCT"),
     ("TIMESTAMP", "TIMESTAMPTZ")]
  | "duckdb" =>
    [("VARCHAR", "TEXT"), ("CHAR", "TEXT"), ("BPCHAR", "TEXT"), ("STRING", "TEXT"),
      ("BINARY", "VARBINARY"),
     ("BITSTRING", "BIT"), ("EXCLUDE", "EXCEPT"), ("LOGICAL", "BOOLEAN"), ("PIVOT_WIDER", "PIVOT"),
     ("SIGNED", "INT"), ("UINTEGER", "UINT"), ("UBIGINT", "UBIGINT"), ("USMALLINT", "USMALLINT"),
     ("UTINYINT", "UTINYINT"), ("ATTACH", "ATTACH"), ("DETACH", "DETACH"), ("RESET", "COMMAND"),
     ("DATETIME", "TIMESTAMPNTZ"), ("TIMESTAMP", "TIMESTAMPNTZ"), ("ONLY", "ONLY"),
     ("POSITIONAL", "POSITIONAL"), ("SUMMARIZE", "SUMMARIZE"), ("TIMESTAMP_S", "TIMESTAMP_S"),
     ("TIMESTAMP_MS", "TIMESTAMP_MS"), ("TIMESTAMP_NS", "TIMESTAMP_NS"),
     ("TIMESTAMP_US", "TIMESTAMP")]
  | "oracle" =>
    [("MINUS", "EXCEPT"), ("BINARY_DOUBLE", "DOUBLE"), ("BINARY_FLOAT", "FLOAT"),
      ("COLUMNS", "COLUMN"),
     ("MATCH_RECOGNIZE", "MATCH_RECOGNIZE"), ("SAMPLE", "TABLE SAMPLE"), ("START", "BEGIN"),
     ("TOP", "TOP")]
  | "clickhouse" =>
    [("ATTACH", "COMMAND"), ("DATE32", "DATE32"), ("DATETIME64", "DATETIME64"),
      ("DICTIONARY", "DICTIONARY"),
     ("ENUM8", "ENUM8"), ("ENUM16", "ENUM16"), ("FINAL", "FINAL"), ("FIXEDSTRING", "FIXEDSTRING"),
     ("FLOAT32", "FLOAT"), ("FLOAT64", "DOUBLE"), ("GLOBAL", "GLOBAL"), ("IPV4", "IPV4"),
     ("IPV6", "IPV6"), ("LOWCARDINALITY", "LOWCARDINALITY"), ("NESTED", "NESTED"),
     ("PREWHERE", "PREWHERE"),
     ("SAMPLE", "TABLE SAMPLE"), ("SYSTEM", "COMMAND"), ("TUPLE", "STRUCT"), ("UINT8", "UTINYINT"),
     ("UINT16", "USMALLINT"), ("UINT32", "UINT"), ("UINT64", "UBIGINT")]
  | "hive" | "spark" | "spark2" | "databricks" => [("MINUS", "EXCEPT"), ("REFRESH", "REFRESH")]
  | "presto" | "trino" | "athena" =>
    [("START", "BEGIN"), ("MATCH_RECOGNIZE", "MATCH_RECOGNIZE"), ("ROW", "STRUCT"),
      ("IPADDRESS", "IPADDRESS"),
     ("IPPREFIX", "IPPREFIX"), ("TDIGEST", "TDIGEST"), ("HYPERLOGLOG", "HLLSKETCH")]
  | _ => []
where
  /-- The words that dialects close to Postgres share. -/
  postgresWords : List (String × String) :=
    [("BEGIN", "COMMAND"), ("BIGSERIAL", "BIGSERIAL"), ("DECLARE", "COMMAND"), ("DO", "COMMAND"),
     ("EXEC", "COMMAND"), ("HSTORE", "HSTORE"), ("INT8", "BIGINT"), ("MONEY", "MONEY"),
     ("NAME", "NAME"), ("ONLY", "ONLY"), ("OPERATOR", "OPERATOR"), ("REFRESH", "COMMAND"),
     ("REINDEX", "COMMAND"),
     ("RESET", "COMMAND"), ("REVOKE", "COMMAND"), ("SERIAL", "SERIAL"),
     ("SMALLSERIAL", "SMALLSERIAL"), ("FLOAT", "DOUBLE"), ("XML", "XML")]

/-- Words that are keywords elsewhere and plain names in a dialect. -/
def Dialect.freeWords (dialect : Dialect) : List String :=
  if dialect.likePostgres then
    if dialect.isNamed "redshift" then ["DIV", "VALUES"] else ["DIV"]
  else if dialect.isNamed "bigquery" then ["DIV", "VALUES"]
  else if dialect.likePresto then ["QUALIFY"]
  else []

/-- Words that stand for operators in a dialect. -/
def Dialect.operatorWords (dialect : Dialect) : List (String × String) :=
  if dialect.isNamed "teradata" then
    [("EQ", "="), ("NE", "<>"), ("GT", ">"), ("GE", ">="), ("LT", "<"), ("LE", "<="), ("MOD", "%")]
  else []

/-- Keywords of several words that only a dialect has. -/
def Dialect.ownPhrases (dialect : Dialect) : List (String × String) :=
  match dialect.name.getD "" with
  | "snowflake" =>
    [("CHAR VARYING", "VARCHAR"), ("CHARACTER VARYING", "VARCHAR"), ("NCHAR VARYING", "VARCHAR"),
     ("ILIKE ANY", "ILIKE ANY"), ("LIKE ANY", "LIKE ANY"),
     ("STORAGE INTEGRATION", "STORAGE INTEGRATION")]
  | "postgres" | "materialize" | "risingwave" | "redshift" =>
    [("BEGIN TRANSACTION", "BEGIN"), ("CONSTRAINT TRIGGER", "COMMAND")]
  | "bigquery" =>
    [("BEGIN TRANSACTION", "BEGIN"), ("FOR SYSTEM_TIME", "FOR TIMESTAMP"),
      ("NOT DETERMINISTIC", "VOLATILE"),
     ("ANY TYPE", "VARIANT")]
  | "mysql" | "doris" | "starrocks" =>
    [("SIGNED INTEGER", "BIGINT"), ("UNSIGNED INTEGER", "UBIGINT"), ("LOCK TABLES", "COMMAND"),
     ("UNLOCK TABLES", "COMMAND"), ("MEMBER OF", "MEMBER OF")]
  | "tsql" =>
    [("CLUSTERED INDEX", "INDEX"), ("NONCLUSTERED INDEX", "INDEX"),
      ("UPDATE STATISTICS", "COMMAND"),
     ("FOR SYSTEM_TIME", "FOR TIMESTAMP")]
  | "hive" | "spark" | "spark2" | "databricks" =>
    [("ADD ARCHIVE", "COMMAND"), ("ADD ARCHIVES", "COMMAND"), ("ADD FILE", "COMMAND"),
      ("ADD FILES", "COMMAND"),
     ("ADD JAR", "COMMAND"), ("ADD JARS", "COMMAND"), ("MSCK REPAIR", "COMMAND"),
     ("TIMESTAMP AS OF", "FOR TIMESTAMP"), ("VERSION AS OF", "FOR VERSION")]
  | _ => []

/-- Operators that only a dialect has. -/
def Dialect.ownOperators (dialect : Dialect) : List (String × Kind) :=
  if dialect.likePostgres then
    [("||/", .symbol "||/"), ("|/", .symbol "|/"), ("@>", .symbol "@>"), ("<@", .symbol "<@"),
     ("@@", .symbol "@@")] ++ if dialect.isNamed "redshift" then [("(+)", .symbol "(+)")] else []
  else match dialect.name.getD "" with
    | "duckdb" =>
      [("//", .keyword "DIV"), ("**", .symbol "**"), ("^@", .symbol "^@"), ("@>", .symbol "@>"),
       ("<@", .symbol "<@")]
    | "oracle" => [("(+)", .symbol "(+)")]
    | "teradata" => [("NOT=", .symbol "<>"), ("^=", .symbol "<>")]
    | "mysql" | "doris" | "starrocks" => [("@@", .symbol "@@")]
    | _ => []

/-- The kind of a word: a keyword, an operator or a plain name. -/
def Dialect.wordKind (dialect : Dialect) (word : String) : Kind :=
  match dialect.ownKeywords.lookup word with
  | some keyword => .keyword keyword
  | none =>
    match dialect.operatorWords.lookup word with
    | some mark => .symbol mark
    | none =>
      if dialect.freeWords.contains word then .name
      else if plainKeywords.contains word then .keyword word
      else match keywordSpellings.lookup word with
        | some keyword => .keyword keyword
        | none => .name

end SqlLayout.Grammar
