import SqlLayout.Grammar.Token
import SqlLayout.Tree.Basic

/-!
# Parsed statements

What the parser makes of the tokens.  Only the shapes that the statement tree distinguishes have
constructors; everything else is kept as its canonical text with the name of its kind.
-/

namespace SqlLayout.Grammar

open SqlLayout.Tree (NullsPlace)

/-- A name with the comments written at it. -/
structure Ident where
  name : String
  quoted : Bool := false
  /-- The canonical text of something that is no name and stands for one, such as a parameter. -/
  shown : Option String := none
  comments : List String := []
  deriving DecidableEq, Repr

/-- Binary operators with a node of their own. -/
inductive BinaryOp where
  | and | or | eq | neq | gt | gte | lt | lte | nullSafeEq | add | sub | mul | div | mod |
    concat | like
  | ilike | bitAnd | bitOr | bitXor
  deriving DecidableEq, Repr

/-- How an operator is written. -/
def BinaryOp.symbol : BinaryOp → String
  | .and => "AND"
  | .or => "OR"
  | .eq => "="
  | .neq => "<>"
  | .gt => ">"
  | .gte => ">="
  | .lt => "<"
  | .lte => "<="
  | .nullSafeEq => "<=>"
  | .add => "+"
  | .sub => "-"
  | .mul => "*"
  | .div => "/"
  | .mod => "%"
  | .concat => "||"
  | .like => "LIKE"
  | .ilike => "ILIKE"
  | .bitAnd => "&"
  | .bitOr => "|"
  | .bitXor => "^"

/-- The name of the kind of an operation. -/
def BinaryOp.kindName : BinaryOp → String
  | .and => "And"
  | .or => "Or"
  | .eq => "EQ"
  | .neq => "NEQ"
  | .gt => "GT"
  | .gte => "GTE"
  | .lt => "LT"
  | .lte => "LTE"
  | .nullSafeEq => "NullSafeEQ"
  | .add => "Add"
  | .sub => "Sub"
  | .mul => "Mul"
  | .div => "Div"
  | .mod => "Mod"
  | .concat => "DPipe"
  | .like => "Like"
  | .ilike => "ILike"
  | .bitAnd => "BitwiseAnd"
  | .bitOr => "BitwiseOr"
  | .bitXor => "BitwiseXor"

/-- A parameter of a data type: its name and its canonical text. -/
structure TypeParam where
  name : String
  text : String
  deriving DecidableEq, Repr

/-- A data type. -/
inductive TypeName where
  /-- A named type with plain parameters. -/
  | plain (name : String) (params : List TypeParam)
  /-- A type that holds other types, as text; `filled` says that they are written. -/
  | nested (text : String) (filled : Bool)
  /-- A type that has no keyword, as text. -/
  | verbatim (text : String)
  /-- Texts in a set of characters. -/
  | characters (set : String)
  /-- Values behind a type that they are cast to. -/
  | literal (values : String) (type : TypeName)
  deriving DecidableEq, Repr

/-- What a cast gives for a value that its type cannot hold. -/
inductive CastMode where
  /-- An error. -/
  | strict
  /-- A missing value, as in every cast of the dialect. -/
  | lenient
  /-- A missing value, as the statement asks. -/
  | safe
  deriving DecidableEq, Repr

/-- What a plain cast of the dialect does. -/
def Dialect.castMode (dialect : Dialect) : CastMode :=
  if dialect.lenientCasts then .lenient else .strict

/-- Whether a cast gives a missing value and no error. -/
def CastMode.isSafe (mode : CastMode) : Bool :=
  mode != .strict

/-- The set operations. -/
inductive SetOp where
  | union
  | intersect
  | except
  deriving DecidableEq, Repr

/-- The keyword of a set operation. -/
def SetOp.keyword : SetOp → String
  | .union => "UNION"
  | .intersect => "INTERSECT"
  | .except => "EXCEPT"

/-- The name of the kind of a set operation. -/
def SetOp.kindName : SetOp → String
  | .union => "Union"
  | .intersect => "Intersect"
  | .except => "Except"

/-- The label of a table with the names of its columns. -/
structure TableLabel where
  name : Option Ident
  columns : List Ident := []
  /-- The text of the columns when they are more than names. -/
  columnTexts : List String := []
  comments : List String := []
  deriving DecidableEq, Repr

/-- A table with its qualifiers and what follows it. -/
structure Table where
  name : Option Ident
  db : Option Ident := none
  catalog : Option Ident := none
  label : Option TableLabel := none
  /-- Whether the tables that inherit from it are left out. -/
  only : Bool := false
  pivots : List String := []
  /-- The text of clauses between the name and the label. -/
  beforeLabel : String := ""
  /-- The text of clauses after the label. -/
  afterLabel : String := ""
  comments : List String := []
  deriving DecidableEq, Repr

mutual

/-- A parsed expression. -/
inductive Term where
  /-- A column with its qualifiers, outermost first. -/
  | column (parts : List Ident) (comments : List String)
  /-- All columns of a table, with the text of exceptions to it. -/
  | columnStar (qualifiers : List Ident) (tail : String)
  /-- All columns, with the text of exceptions to it. -/
  | star (tail : String)
  | number (text : String) (comments : List String)
  | string (value : String) (comments : List String)
  | boolean (value : Bool)
  | null
  | paren (inner : Term)
  /-- An expression with a name of its own. -/
  | labelled (inner : Term) (label : Ident) (comments : List String)
  | negative (inner : Term)
  | negation (inner : Term)
  | inList (subject : Term) (values : List Term)
  | inQuery (subject : Term) (query : Query)
  | is (subject value : Term)
  | between (subject low high : Term)
  | existsIn (query : Query)
  | caseOf (operand : Option Term) (branches : List CaseBranch) (otherwise : Option Term)
  | cast (operand : Term) (type : TypeName) (mode : CastMode)
  | window (function : Term) (partition : List Term) (order : List Ordered)
      (frame : Option String)
  | query (query : Query)
  /-- An operation with the comments at its operator. -/
  | binary (op : BinaryOp) (left right : Term) (comments : List String)
  | call (name : Ident) (args : List Term)
  /-- The marked arguments of an aggregate over distinct values. -/
  | distinct (args : List Term)
  /-- A keyword that stands for a call without arguments. -/
  | bare (name keyword : String)
  /-- A conditional call with two or three arguments. -/
  | conditional (name : String) (args : List Term)
  /-- An aggregate with syntax of its own and a single argument, with its text. -/
  | aggregate (name : String) (argument : Term) (text : String)
  /-- A term with comments behind it. -/
  | commented (inner : Term) (comments : List String)
  /-- Anything else. -/
  | raw (kind text : String)

/-- A branch of a case expression. -/
inductive CaseBranch where
  | mk (condition result : Term)

/-- A key of an ordering; `fill` is the text about missing keys. -/
inductive Ordered where
  | mk (key : Term) (descending : Option Bool) (nullsFirst : Bool) (nulls : Option NullsPlace)
      (fill : String) (comments : List String)

/-- The grouping of a query; `extra` is the text behind the items, of grouping sets and the like. -/
inductive Grouping where
  | mk (items : List Term) (byAll : Bool) (extra : String)

/-- A limit: a count with the text behind it, or the text of a FETCH clause. -/
inductive Limit where
  | count (count : Term) (tail : String)
  | fetch (text : String)

/-- A named query of a WITH clause. -/
inductive Cte where
  | mk (label : TableLabel) (body : Query) (materialized : String) (comments : List String)
  /-- A named value. -/
  | value (label : TableLabel) (value : Term) (comments : List String)

/-- A WITH clause. -/
inductive With where
  | mk (recursive : Bool) (ctes : List Cte) (comments : List String)

/-- An entry of a FROM clause. -/
inductive From where
  | table (table : Table)
  | query (query : Query)
  /-- Rows from elsewhere: the name of their kind and their text. -/
  | raw (kind text : String)

/-- A join. -/
inductive JoinTerm where
  | mk (method side kind : String) (source : From) (condition : Option Term) (shared : List Ident)
      (hasShared : Bool) (comments : List String)

/-- The clauses of a query after its projection, with the comments of the query. -/
structure Clauses where
  joins : List JoinTerm := []
  laterals : List String := []
  prefilter : String := ""
  filter : Option Term := none
  filterComments : List String := []
  /-- The text of a hierarchy. -/
  hierarchy : String := ""
  grouping : Option Grouping := none
  having : Option Term := none
  clustering : String := ""
  distribution : String := ""
  sorting : String := ""
  windows : String := ""
  qualify : Option Term := none
  order : Option (List Ordered) := none
  limit : Option Limit := none
  offset : Option Term := none
  /-- The text behind the offset. -/
  offsetTail : String := ""
  /-- The text of clauses at the end. -/
  closing : List String := []
  comments : List String := []

/-- A SELECT with its clauses. -/
structure Select where
  withClause : Option With := none
  /-- The text of a hint after SELECT. -/
  hint : String := ""
  distinct : Option String := none
  /-- The text between DISTINCT and the projection. -/
  opening : String := ""
  items : List Term := []
  /-- The table that the rows go to, after the word for its kind. -/
  into : Option (String × String) := none
  source : Option From := none
  sourceComments : List String := []
  clauses : Clauses

/-- A parsed query. -/
inductive Query where
  | select (select : Select)
  | setOp (op : SetOp) (distinct : Bool) (byName : Bool) (left right : Query)
      (withClause : Option With) (clauses : Clauses)
  /-- A query in parentheses. -/
  | wrapped (inner : Query) (withClause : Option With) (label : Option TableLabel)
      (pivots : List String) (clauses : Clauses)
  /-- Something that is no query, in the place of one. -/
  | other (kind text : String)

end

/-- A term without the comments behind it. -/
def Term.core : Term → Term
  | .commented inner _ => inner
  | term => term

/-- Kinds of raw term that are operations; comments at them are not written. -/
def operationKinds : List String :=
  ["ArrayContainsAll", "ArrayContainedBy", "ArrayOverlaps", "BitwiseLeftShift", "BitwiseRightShift",
    "Collate",
   "Distance", "Dot", "Escape", "Glob", "ILikeAny", "IntDiv", "Is", "JSONBContains", "JSONBExtract",
   "JSONBExtractScalar", "JSONExtract", "JSONExtractScalar", "Kwarg", "LikeAny", "NullSafeNEQ",
   "Operator", "Overlaps", "Pow", "PropertyEQ", "RegexpILike", "RegexpLike", "SimilarTo",
   "Slice", "Xor"]

/-- A query with further comments. -/
def Query.noted (comments : List String) : Query → Query
  | .select s =>
    .select { s with clauses := { s.clauses with comments := s.clauses.comments ++ comments } }
  | .setOp op distinct byName left right withClause clauses =>
    .setOp op distinct byName left right withClause
      { clauses with comments := clauses.comments ++ comments }
  | .wrapped inner withClause label pivots clauses =>
    .wrapped inner withClause label pivots { clauses with comments := clauses.comments ++ comments }
  | .other kind text => .other kind text

/-- A term with further comments. -/
def Term.noted (comments : List String) (term : Term) : Term :=
  if comments.isEmpty then term
  else match term with
    | .column parts own => .column parts (own ++ comments)
    | .number text own => .number text (own ++ comments)
    | .string value own => .string value (own ++ comments)
    | .labelled inner label own => .labelled inner label (own ++ comments)
    | .binary op left right own => .binary op left right (own ++ comments)
    | .commented inner own => .commented inner (own ++ comments)
    | .query q => .query (q.noted comments)
    | .raw kind text =>
      if operationKinds.contains kind then .raw kind text else .commented (.raw kind text) comments
    | term => .commented term comments

/-- The comments of a term. -/
def Term.comments : Term → List String
  | .column _ comments | .number _ comments | .string _ comments | .labelled _ _ comments
  | .binary _ _ _ comments | .commented _ comments => comments
  | _ => []

/-- A term without comments of its own. -/
def Term.uncommented : Term → Term
  | .column parts _ => .column parts []
  | .number text _ => .number text []
  | .string value _ => .string value []
  | .labelled inner label _ => .labelled inner label []
  | .binary op left right _ => .binary op left right []
  | .commented inner _ => inner
  | term => term

/-- What a column definition asks of its column. -/
inductive Constraint where
  | primaryKey
  | notNull
  | default (value : Term)
  | comment (text : String)
  | references (table : Table) (columns : List Ident)
  | other

/-- An entry of the list after the name of a created table. -/
inductive SchemaItem where
  | column (name : Ident) (type : Option TypeName) (constraints : List (Constraint × String))
      (comments : List String)
  | primaryKey (columns : List Ident) (text : String)
  | name (name : Ident)
  | other (text : String)

/-- A property of a created object. -/
inductive Property where
  | like (source : From)
  | other

/-- The creation of an object, with its canonical text. -/
structure CreateTerm where
  kind : String
  target : Table
  schema : Option (List SchemaItem) := none
  properties : List Property := []
  replace : Bool := false
  ifNotExists : Bool := false
  body : Option Query := none
  text : String

/-- A row of values. -/
structure Row where
  values : List Term
  comments : List String := []

/-- The rows that an insertion takes, or the query. -/
inductive InsertBody where
  | rows (rows : List Row)
  | query (query : Query)
  | nothing

/-- An insertion, with its canonical text. -/
structure InsertTerm where
  target : Option Table
  columns : List String := []
  overwrite : Bool := false
  body : InsertBody
  withClause : Option With := none
  text : String

/-- An update, with its canonical text. -/
structure UpdateTerm where
  target : From
  items : List Term
  source : Option From := none
  filter : Option Term := none
  text : String

/-- A deletion, with its canonical text. -/
structure DeleteTerm where
  target : From
  source : Option From := none
  filter : Option Term := none
  text : String

/-- A parsed statement. -/
inductive Parsed where
  | query (query : Query)
  | create (create : CreateTerm)
  | insert (insert : InsertTerm)
  | update (update : UpdateTerm)
  | delete (delete : DeleteTerm)
  /-- Any other statement: the name of its kind and its canonical text. -/
  | other (kind text : String)

end SqlLayout.Grammar
