import SqlLayout.Text.Basic
import SqlLayout.Text.Quoted

/-!
# Dialects

The dialects that statements can be written in, with the few traits in which their lexical rules and
their canonical text differ.
-/

namespace SqlLayout.Grammar

/-- How a dialect orders missing values when nothing is written. -/
inductive NullOrdering where
  | small
  | large
  | last
  deriving DecidableEq, Repr

/-- How the dialect writes numbers in another base: what stands before and after the digits. -/
structure DigitMarks where
  opening : String
  closing : String
  deriving DecidableEq, Repr

/-- The traits of a dialect. -/
structure Dialect where
  /-- The name; the generic dialect has none. -/
  name : Option String := none
  /-- The characters around a quoted identifier when it is written. -/
  identifierQuotes : Char × Char := ('\x22', '\x22')
  /-- Further pairs of characters around a quoted identifier when it is read. -/
  extraIdentifierQuotes : List (Char × Char) := []
  /-- The characters around a string literal. -/
  stringQuotes : List Char := ['\x27']
  /-- The characters that escape the next one in a string literal; the first of them is written. -/
  stringEscapes : List Char := ['\x27']
  /-- The punctuation that can be inside a name. -/
  nameMarks : List Char := []
  /-- Whether strings can stand between pairs of dollar signs, as they are. -/
  dollarStrings : Bool := false
  /-- Whether strings can stand between equal tags in dollar signs. -/
  taggedStrings : Bool := false
  /-- Whether `#` starts a comment. -/
  hashComments : Bool := false
  /-- Whether `//` starts a comment. -/
  slashComments : Bool := false
  /-- Whether `/* */` comments nest. -/
  nestedComments : Bool := true
  /-- Whether `/*+` after the keyword of a statement starts a hint. -/
  hints : Bool := true
  /-- Whether names can start with a digit. -/
  digitNames : Bool := false
  /-- The marks around numbers in base sixteen, where the dialect has them. -/
  hexMarks : Option DigitMarks := none
  /-- The marks around numbers in base two, where the dialect has them. -/
  bitMarks : Option DigitMarks := none
  /-- Whether a colon after a column starts a path. -/
  colonPaths : Bool := false
  /-- Whether a plain cast means a cast that gives no error. -/
  lenientCasts : Bool := false
  /-- Whether array literals are written in brackets. -/
  bracketArrays : Bool := false
  /-- Whether `&&` and `||` stand for AND and OR. -/
  symbolLogic : Bool := false
  /-- Whether `~` matches a text with a pattern. -/
  tildeMatches : Bool := false
  /-- How missing values are ordered. -/
  nullOrdering : NullOrdering := .small
  deriving Repr

/-- Whether the dialect has the given name. -/
def Dialect.isNamed (dialect : Dialect) (name : String) : Bool :=
  dialect.name == some name

/-- Whether the dialect has one of the given names. -/
def Dialect.isOneOf (dialect : Dialect) (names : List String) : Bool :=
  names.any dialect.isNamed

/-- Whether a backslash escapes the next character of a string literal. -/
def Dialect.backslashEscapes (dialect : Dialect) : Bool :=
  dialect.stringEscapes.contains '\\'

/-- The quotes of dialects that quote identifiers with backticks. -/
def backticks : Char × Char := ('\x60', '\x60')

/-- Numbers in base sixteen as strings behind an `x`. -/
def hexStrings : DigitMarks := ⟨"x'", "'"⟩

/-- Numbers in base sixteen behind `0x`. -/
def hexNumbers : DigitMarks := ⟨"0x", ""⟩

/-- Numbers in base two as strings behind a `b`. -/
def bitStrings : DigitMarks := ⟨"b'", "'"⟩

/-- The traits that dialects close to MySQL share. -/
def mysqlTraits : Dialect :=
  { identifierQuotes := backticks, stringQuotes := ['\x27', '\x22'],
    stringEscapes := ['\x27', '\x22', '\\'], hashComments := true, nestedComments := false,
    digitNames := true, hexMarks := some hexStrings, bitMarks := some bitStrings,
    symbolLogic := true }

/-- The traits that dialects close to Hive share. -/
def hiveTraits : Dialect :=
  { identifierQuotes := backticks, stringQuotes := ['\x27', '\x22'], stringEscapes := ['\\'],
    digitNames := true, lenientCasts := true }

/-- The traits that dialects close to Postgres share. -/
def postgresTraits : Dialect :=
  { nameMarks := ['$'], taggedStrings := true, hints := false, hexMarks := some hexStrings,
    bitMarks := some bitStrings, tildeMatches := true, nullOrdering := .large }

/-- The traits that dialects close to Presto share. -/
def prestoTraits : Dialect :=
  { nestedComments := false, hints := false, hexMarks := some hexStrings, nullOrdering := .last }

/-- Dialects by name. -/
def dialects : List Dialect :=
  [{ prestoTraits with name := some "athena" },
   { name := some "bigquery", identifierQuotes := backticks, stringQuotes := ['\x27', '\x22'],
     stringEscapes := ['\\'], hashComments := true, nestedComments := false, hints := false,
     hexMarks := some hexNumbers },
   { name := some "clickhouse", extraIdentifierQuotes := [backticks],
     stringEscapes := ['\x27', '\\'], taggedStrings := true, hashComments := true, hints := false,
     hexMarks := some hexNumbers,
     bitMarks := some ⟨"0b", ""⟩, nullOrdering := .last },
   { hiveTraits with name := some "databricks", lenientCasts := false, hexMarks := some hexStrings
                     colonPaths := true },
   { mysqlTraits with name := some "doris" },
   { name := some "drill", identifierQuotes := backticks, stringEscapes := ['\\'],
     lenientCasts := true, nullOrdering := .last },
   { name := some "duckdb", taggedStrings := true, hints := false, bracketArrays := true,
     nullOrdering := .last },
   { hiveTraits with name := some "hive" },
   { postgresTraits with name := some "materialize", bracketArrays := true },
   { mysqlTraits with name := some "mysql" },
   { name := some "oracle", nameMarks := ['@', '$', '#'], nestedComments := false,
     nullOrdering := .large },
   { postgresTraits with name := some "postgres" },
   { prestoTraits with name := some "presto" },
   { name := some "prql" },
   { postgresTraits with name := some "redshift", stringEscapes := ['\\', '\x27'] },
   { postgresTraits with name := some "risingwave" },
   { name := some "snowflake", stringEscapes := ['\\', '\x27'], nameMarks := ['$'],
     dollarStrings := true, slashComments := true, nestedComments := false, hints := false,
     hexMarks := some hexStrings, colonPaths := true, bracketArrays := true,
     nullOrdering := .large },
   { hiveTraits with name := some "spark", hexMarks := some hexStrings },
   { hiveTraits with name := some "spark2", hexMarks := some hexStrings },
   { name := some "sqlite", extraIdentifierQuotes := [('[', ']'), backticks],
     nestedComments := false, hints := false, hexMarks := some hexStrings },
   { mysqlTraits with name := some "starrocks" },
   { name := some "tableau", identifierQuotes := ('[', ']'), stringQuotes := ['\x27', '\x22'] },
   { name := some "teradata", hints := false, hexMarks := some hexStrings },
   { prestoTraits with name := some "trino" },
   { name := some "tsql", identifierQuotes := ('[', ']'),
     extraIdentifierQuotes := [('\x22', '\x22')], nameMarks := ['@', '$', '#'], hints := false,
     hexMarks := some hexNumbers }]

/-- Whether the dialect is one of those close to MySQL. -/
def Dialect.likeMysql (dialect : Dialect) : Bool :=
  dialect.isOneOf ["doris", "mysql", "starrocks"]

/-- Whether the dialect is one of those close to Postgres. -/
def Dialect.likePostgres (dialect : Dialect) : Bool :=
  dialect.isOneOf ["materialize", "postgres", "redshift", "risingwave"]

/-- Whether the dialect is one of those close to Hive. -/
def Dialect.likeHive (dialect : Dialect) : Bool :=
  dialect.isOneOf ["databricks", "hive", "spark", "spark2"]

/-- Whether the dialect is one of those close to Presto. -/
def Dialect.likePresto (dialect : Dialect) : Bool :=
  dialect.isOneOf ["athena", "presto", "trino"]

/-- The ways in which names can be compared. -/
def nameComparisons : List String :=
  ["LOWERCASE", "UPPERCASE", "CASE_SENSITIVE", "CASE_INSENSITIVE"]

/-- Whether a trait written after the name of a dialect is allowed: names are compared in one of the
known ways, and other traits are not looked at. -/
def isAllowedTrait (written : List Char) : Bool :=
  match (Text.splitOn '=' written).map (String.ofList ∘ Text.strip) with
  | [key, value] => key != "normalization_strategy" || nameComparisons.contains value.upperCase
  | _ => true

/-- The dialect a name stands for: the part before the first comma, without blanks, and the generic
dialect when nothing is left.  Traits may follow the comma. -/
def Dialect.named? (name : String) : Option Dialect :=
  match Text.splitOn ',' name.toList with
  | [] => none
  | first :: traits =>
    let key := String.ofList (Text.strip first)
    if !traits.all isAllowedTrait then none
    else if key.isEmpty then some {} else dialects.find? (·.isNamed key)

/-- The dialect of an optional name; no name and the empty name are the generic dialect. -/
def Dialect.select? : Option String → Option Dialect
  | none => some {}
  | some name => Dialect.named? name

/-- Whether a dialect name is known. -/
def isKnownDialect (name : Option String) : Bool :=
  (Dialect.select? name).isSome

end SqlLayout.Grammar
