import SqlLayout.Placeholder.Record

/-!
# Statement trees

The trees that the printer lays out: expressions, queries, table sources, joins and statements.
What has no node of its own is carried as text.

## Implementation notes

Expressions, queries, table sources and joins refer to each other, so they are declared together.  A
query is the head of a chain of set operations: the operator and the next operand stand in the query
before them.
-/

namespace SqlLayout.Tree

open Placeholder (ArrayAccess CustomType DynamicTable)

/-- The kinds of literal. -/
inductive LiteralKind where
  | number
  | string
  | boolean
  | null
  deriving DecidableEq, Repr

/-- Where an ordering puts missing values, when that is written out. -/
inductive NullsPlace where
  | first
  | last
  deriving DecidableEq, Repr

/-- A declared data type with optional length and scale. -/
structure DataType where
  name : String
  length : Option String := none
  scale : Option String := none
  deriving DecidableEq, Repr

/-- A table name with its qualifiers; quoted parts keep their quotes. -/
structure TableRef where
  label : Option String := none
  pivot : Option String := none
  name : String
  schemaName : Option String := none
  catalog : Option String := none
  quoted : Bool := false
  deriving DecidableEq, Repr

/-- The dotted name of a table, without missing or empty parts. -/
def TableRef.qualifiedName (table : TableRef) : String :=
  ".".intercalate <| [table.catalog, table.schemaName, some table.name].filterMap fun part =>
    match part with
    | some text => if text.isEmpty then none else some text
    | none => none

mutual

/-- A value expression. -/
inductive Expr where
  /-- A column, with the quotes of a quoted name. -/
  | column (name : String) (qualifier : Option String) (quoted : Bool)
  /-- A literal without its quotes. -/
  | literal (value : String) (kind : LiteralKind)
  /-- All columns, of one table if qualified. -/
  | star (qualifier : Option String)
  /-- A call; a bare call is a keyword without parentheses. -/
  | call (name : String) (args : List Expr) (bare : Bool)
  /-- An aggregate with a single argument. -/
  | aggregate (name : String) (argument : Option Expr) (distinct : Bool)
  /-- An index on the result of a call. -/
  | index (base : Expr) (index : Nat)
  /-- Two operands with an operator between them. -/
  | binary (operator : String) (left right : Expr)
  /-- An operator before its operand. -/
  | unary (operator : String) (operand : Expr)
  /-- An expression in parentheses. -/
  | paren (inner : Expr)
  | between (subject low high : Expr) (negated : Bool)
  | inList (subject : Expr) (values : List Expr) (negated : Bool)
  | inQuery (subject : Expr) (query : Query) (negated : Bool)
  | isNull (subject : Expr) (negated : Bool)
  | existsIn (query : Query) (negated : Bool)
  | caseOf (operand : Option Expr) (branches : List Branch) (otherwise : Option Expr)
  | cast (operand : Expr) (type : DataType) (shorthand safe : Bool)
  | window (function : Expr) (partition : List Expr) (order : List OrderItem)
      (frame : Option String)
  /-- A query used as a value. -/
  | subquery (query : Query)
  /-- An expression without a node of its own, as text. -/
  | raw (sql : String)

/-- One branch of a case expression. -/
inductive Branch where
  | mk (condition result : Expr)

/-- One key of an ordering; the direction is missing when it is not written. -/
inductive OrderItem where
  | mk (key : Expr) (descending : Option Bool) (nulls : Option NullsPlace)

/-- A projected expression with its label (the name after `AS`). -/
inductive SelectItem where
  | mk (value : Expr) (label : Option String)

/-- An entry of a FROM list. -/
inductive Source where
  | table (table : TableRef)
  | derived (label pivot : Option String) (query : Query)

/-- A join with its condition or its common columns. -/
inductive Join where
  | mk (keyword : String) (source : Source) (condition : Option Expr) (shared : List String)

/-- A named query of a WITH block. -/
inductive Cte where
  | mk (name : String) (columns : List String) (query : Query)

/-- A query, possibly followed by a set operation and its next operand. -/
structure Query where
  arrayAccesses : List ArrayAccess := []
  ctes : List Cte := []
  distinct : Bool := false
  columns : List SelectItem := []
  sources : List Source := []
  joins : List Join := []
  filter : Option Expr := none
  groupBy : List Expr := []
  groupByAll : Bool := false
  having : Option Expr := none
  qualify : Option Expr := none
  orderBy : List OrderItem := []
  limit : Option Expr := none
  offset : Option Expr := none
  setOperator : Option String := none
  next : Option Query := none

end

/-- The referenced table and columns of a column definition. -/
structure Reference where
  table : String
  columns : List String := []
  deriving DecidableEq, Repr

/-- A column of a created table. -/
structure ColumnDef where
  name : String
  type : Option DataType := none
  primaryKey : Bool := false
  notNull : Bool := false
  default : Option Expr := none
  comment : Option String := none
  references : Option Reference := none
  extraConstraints : List String := []

/-- The kinds of created object. -/
inductive ObjectKind where
  | table
  | view
  | dynamicTable
  | schema
  deriving DecidableEq, Repr

/-- The keyword of an object kind. -/
def ObjectKind.keyword : ObjectKind → String
  | .table => "TABLE"
  | .view => "VIEW"
  | .dynamicTable => "DYNAMIC TABLE"
  | .schema => "SCHEMA"

/-- The creation of a table, view, dynamic table or schema. -/
structure Create where
  arrayAccesses : List ArrayAccess := []
  kind : ObjectKind
  target : TableRef
  replace : Bool := false
  ifNotExists : Bool := false
  columns : List ColumnDef := []
  primaryKey : List String := []
  like : Option TableRef := none
  query : Option Query := none
  customTypes : List CustomType := []
  dynamicOptions : Option DynamicTable := none

/-- The insertion of rows or of the result of a query. -/
structure Insert where
  arrayAccesses : List ArrayAccess := []
  target : TableRef
  columns : List String := []
  query : Option Query := none
  rows : List (List Expr) := []
  overwrite : Bool := false

/-- The column that an assignment sets. -/
structure ColumnName where
  name : String
  qualifier : Option String := none
  quoted : Bool := false
  deriving DecidableEq, Repr

/-- A column name as an expression. -/
def ColumnName.expr (column : ColumnName) : Expr :=
  .column column.name column.qualifier column.quoted

/-- One assignment of an update. -/
structure Assignment where
  column : ColumnName
  value : Expr

/-- An update of a table. -/
structure Update where
  arrayAccesses : List ArrayAccess := []
  target : TableRef
  assignments : List Assignment := []
  sources : List Source := []
  filter : Option Expr := none

/-- A deletion from a table. -/
structure Delete where
  arrayAccesses : List ArrayAccess := []
  target : TableRef
  sources : List Source := []
  filter : Option Expr := none

/-- A grant: either its parts, or the whole text when it has another shape. -/
structure Grant where
  arrayAccesses : List ArrayAccess := []
  privilege : Option String := none
  onType : Option String := none
  onName : Option String := none
  inType : Option String := none
  inName : Option String := none
  toType : Option String := none
  toName : Option String := none
  verbatim : Option String := none
  deriving DecidableEq, Repr

/-- Comment lines in front of a statement. -/
structure Comment where
  arrayAccesses : List ArrayAccess := []
  text : String
  deriving DecidableEq, Repr

/-- A statement that the printer does not lay out. -/
structure Unrendered where
  arrayAccesses : List ArrayAccess := []
  kind : String
  sql : String := ""
  deriving DecidableEq, Repr

/-- A statement. -/
inductive Statement where
  | select (query : Query)
  | create (create : Create)
  | insert (insert : Insert)
  | update (update : Update)
  | delete (delete : Delete)
  | grant (grant : Grant)
  | comment (comment : Comment)
  | unrendered (statement : Unrendered)

/-- The kind of a statement as logs and summaries name it. -/
def Statement.kind : Statement → String
  | .select _ => "SELECT"
  | .create c => "CREATE " ++ c.kind.keyword
  | .insert _ => "INSERT"
  | .update _ => "UPDATE"
  | .delete _ => "DELETE"
  | .grant _ => "GRANT"
  | .comment _ => "COMMENT"
  | .unrendered u => u.kind.upperCase

end SqlLayout.Tree
