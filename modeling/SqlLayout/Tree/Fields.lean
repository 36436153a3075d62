import SqlLayout.Tree.Walk

/-!
# Parts by their fields

A part of a tree is a kind together with the values of its fields in order.  A field holds plain
data, the record of a replacement, a part, or a list of values.  Both ways through a tree see no
more of a part than that: the children of a part are found in its fields, and a tree is rewritten
bottom-up through the fields of its parts.

## Implementation notes

The children of a part are looked for in its fields, in the lists there and in the lists in these,
and no deeper.  Rewriting goes through lists of any depth.  Neither goes into a record.
-/

namespace SqlLayout.Tree

/-- The kinds of parts: nodes first, then clauses. -/
inductive Kind where
  | column | literal | star | call | aggregate | index | binary | unary | paren | between | inList
    | inQuery
  | isNull | existsIn | caseOf | cast | window | subquery | raw
  | table | derived | join
  | select | create | insert | update | delete | grant | comment | unrendered
  | item | branch | order | cte | columnDef | assignment | dataType | reference
  deriving DecidableEq, Repr

/-- Whether the parts of a kind are nodes. -/
def Kind.isNode : Kind → Bool
  | .item | .branch | .order | .cte | .columnDef | .assignment | .dataType | .reference => false
  | _ => true

/-- Whether the parts of a kind are expressions. -/
def Kind.isExpr : Kind → Bool
  | .column | .literal | .star | .call | .aggregate | .index | .binary | .unary | .paren | .between
    | .inList
  | .inQuery | .isNull | .existsIn | .caseOf | .cast | .window | .subquery | .raw => true
  | _ => false

/-- Plain data in a field. -/
inductive Datum where
  | missing
  | text (text : String)
  | flag (flag : Bool)
  | number (number : Nat)
  | literalKind (kind : LiteralKind)
  | nullsPlace (place : NullsPlace)
  | objectKind (kind : ObjectKind)
  deriving DecidableEq, Repr

/-- What a field holds. -/
inductive Value where
  | datum (datum : Datum)
  | record (record : Placeholder.Record)
  | list (items : List Value)
  | part (kind : Kind) (fields : List Value)

namespace Value

/-- A text in a field. -/
abbrev text (s : String) : Value :=
  .datum (.text s)

/-- A list of texts in a field. -/
abbrev texts (ss : List String) : Value :=
  .list (ss.map text)

/-- A flag in a field. -/
abbrev flag (b : Bool) : Value :=
  .datum (.flag b)

/-- What a field holds that may be empty. -/
def optional {α : Type} (value : α → Value) : Option α → Value
  | none => .datum .missing
  | some x => value x

/-- A text in a field that may be empty. -/
abbrev text? : Option String → Value :=
  optional text

/-- The array accesses that a statement carries. -/
abbrev accesses (records : List Placeholder.ArrayAccess) : Value :=
  .list (records.map fun r => .record (.arrayAccess r))

end Value

/-! ## The fields of parts -/

/-- A data type by its fields. -/
def DataType.value (t : DataType) : Value :=
  .part .dataType [.text t.name, .text? t.length, .text? t.scale]

/-- A table by its fields. -/
def TableRef.value (t : TableRef) : Value :=
  .part .table [.text? t.label, .text? t.pivot, .text t.name, .text? t.schemaName, .text? t.catalog,
    .flag t.quoted]

mutual

/-- An expression by its fields. -/
def exprValue : Expr → Value
  | .column name qualifier quoted => .part .column [.text name, .text? qualifier, .flag quoted]
  | .literal value kind => .part .literal [.text value, .datum (.literalKind kind)]
  | .star qualifier => .part .star [.text? qualifier]
  | .call name args bare => .part .call [.text name, .list (exprValues args), .flag bare]
  | .aggregate name argument distinct =>
    .part .aggregate [.text name, optionalValue argument, .flag distinct]
  | .index base index => .part .index [exprValue base, .datum (.number index)]
  | .binary operator left right => .part .binary [.text operator, exprValue left, exprValue right]
  | .unary operator operand => .part .unary [.text operator, exprValue operand]
  | .paren inner => .part .paren [exprValue inner]
  | .between subject low high negated =>
    .part .between [exprValue subject, exprValue low, exprValue high, .flag negated]
  | .inList subject values negated =>
    .part .inList [exprValue subject, .list (exprValues values), .flag negated]
  | .inQuery subject query negated =>
    .part .inQuery [exprValue subject, queryValue query, .flag negated]
  | .isNull subject negated => .part .isNull [exprValue subject, .flag negated]
  | .existsIn query negated => .part .existsIn [queryValue query, .flag negated]
  | .caseOf operand branches otherwise =>
    .part .caseOf [optionalValue operand, .list (branchValues branches), optionalValue otherwise]
  | .cast operand type shorthand safe =>
    .part .cast [exprValue operand, type.value, .flag shorthand, .flag safe]
  | .window function partition order frame =>
    .part .window [exprValue function, .list (exprValues partition), .list (orderValues order),
      .text? frame]
  | .subquery query => .part .subquery [queryValue query]
  | .raw sql => .part .raw [.text sql]

/-- Expressions by their fields. -/
def exprValues : List Expr → List Value
  | [] => []
  | e :: rest => exprValue e :: exprValues rest

/-- An expression that may be missing. -/
def optionalValue : Option Expr → Value
  | none => .datum .missing
  | some e => exprValue e

/-- A branch by its fields. -/
def branchValue : Branch → Value
  | .mk condition result => .part .branch [exprValue condition, exprValue result]

/-- Branches by their fields. -/
def branchValues : List Branch → List Value
  | [] => []
  | b :: rest => branchValue b :: branchValues rest

/-- An ordering key by its fields. -/
def orderValue : OrderItem → Value
  | .mk key descending nulls =>
    .part .order [exprValue key, .optional .flag descending,
      .optional (fun n => .datum (.nullsPlace n)) nulls]

/-- Ordering keys by their fields. -/
def orderValues : List OrderItem → List Value
  | [] => []
  | o :: rest => orderValue o :: orderValues rest

/-- A projected column by its fields. -/
def itemValue : SelectItem → Value
  | .mk value label => .part .item [exprValue value, .text? label]

/-- Projected columns by their fields. -/
def itemValues : List SelectItem → List Value
  | [] => []
  | i :: rest => itemValue i :: itemValues rest

/-- A table source by its fields. -/
def sourceValue : Source → Value
  | .table table => table.value
  | .derived label pivot query => .part .derived [.text? label, .text? pivot, queryValue query]

/-- Table sources by their fields. -/
def sourceValues : List Source → List Value
  | [] => []
  | s :: rest => sourceValue s :: sourceValues rest

/-- A join by its fields. -/
def joinValue : Join → Value
  | .mk keyword source condition shared =>
    .part .join [.text keyword, sourceValue source, optionalValue condition, .texts shared]

/-- Joins by their fields. -/
def joinValues : List Join → List Value
  | [] => []
  | j :: rest => joinValue j :: joinValues rest

/-- A named query by its fields. -/
def cteValue : Cte → Value
  | .mk name columns query => .part .cte [.text name, .texts columns, queryValue query]

/-- Named queries by their fields. -/
def cteValues : List Cte → List Value
  | [] => []
  | c :: rest => cteValue c :: cteValues rest

/-- A query by its fields. -/
def queryValue : Query → Value
  | { arrayAccesses, ctes, distinct, columns, sources, joins, filter, groupBy, groupByAll, having,
      qualify, orderBy, limit, offset, setOperator, next } =>
    .part .select [.accesses arrayAccesses, .list (cteValues ctes), .flag distinct,
      .list (itemValues columns), .list (sourceValues sources), .list (joinValues joins),
      optionalValue filter, .list (exprValues groupBy),
      .flag groupByAll, optionalValue having, optionalValue qualify, .list (orderValues orderBy),
      optionalValue limit, optionalValue offset, .text? setOperator, optionalQueryValue next]

/-- A query that may be missing. -/
def optionalQueryValue : Option Query → Value
  | none => .datum .missing
  | some query => queryValue query

end

/-- The reference of a column definition by its fields. -/
def Reference.value (r : Reference) : Value :=
  .part .reference [.text r.table, .texts r.columns]

/-- A column definition by its fields. -/
def ColumnDef.value (c : ColumnDef) : Value :=
  .part .columnDef [.text c.name, .optional DataType.value c.type, .flag c.primaryKey,
    .flag c.notNull, optionalValue c.default, .text? c.comment,
    .optional Reference.value c.references, .texts c.extraConstraints]

/-- An assignment by its fields. -/
def Assignment.asValue (a : Assignment) : Value :=
  .part .assignment [exprValue a.column.expr, exprValue a.value]

/-- A part by its fields. -/
def Part.value : Part → Value
  | .expr e => exprValue e
  | .query q => queryValue q
  | .source s => sourceValue s
  | .join j => joinValue j
  | .create s =>
    .part .create [.accesses s.arrayAccesses, .datum (.objectKind s.kind), s.target.value,
      .flag s.replace, .flag s.ifNotExists, .list (s.columns.map ColumnDef.value),
      .texts s.primaryKey, .optional TableRef.value s.like,
      optionalQueryValue s.query, .list (s.customTypes.map fun r => .record (.customType r)),
      .optional (fun r => .record (.dynamicTable r)) s.dynamicOptions]
  | .insert s =>
    .part .insert [.accesses s.arrayAccesses, s.target.value, .texts s.columns,
      optionalQueryValue s.query, .list (s.rows.map fun row => .list (exprValues row)),
      .flag s.overwrite]
  | .update s =>
    .part .update [.accesses s.arrayAccesses, s.target.value,
      .list (s.assignments.map Assignment.asValue), .list (sourceValues s.sources),
      optionalValue s.filter]
  | .delete s =>
    .part .delete [.accesses s.arrayAccesses, s.target.value, .list (sourceValues s.sources),
      optionalValue s.filter]
  | .grant s =>
    .part .grant [.accesses s.arrayAccesses, .text? s.privilege, .text? s.onType, .text? s.onName,
      .text? s.inType, .text? s.inName, .text? s.toType, .text? s.toName, .text? s.verbatim]
  | .comment s => .part .comment [.accesses s.arrayAccesses, .text s.text]
  | .unrendered s => .part .unrendered [.accesses s.arrayAccesses, .text s.kind, .text s.sql]
  | .item i => itemValue i
  | .branch b => branchValue b
  | .order o => orderValue o
  | .cte c => cteValue c
  | .columnDef c => c.value
  | .assignment a => a.asValue
  | .dataType t => t.value
  | .reference r => r.value

/-! ## Children -/

namespace Value

/-- The items of a list, and any other value as it is. -/
def items : Value → List Value
  | .list values => values
  | value => [value]

/-- Whether a value is a part; records are none. -/
def isPart : Value → Bool
  | .part _ _ => true
  | _ => false

/-- The parts in a field. -/
def parts (value : Value) : List Value :=
  (value.items.flatMap items).filter isPart

/-- The children of a part: the parts in its fields, in the order of the fields. -/
def children : Value → List Value
  | .part _ fields => fields.flatMap parts
  | _ => []

/-! ## Rewriting -/

section

variable {m : Type → Type} [Monad m] (replace : Value → m Value)

mutual

/-- Rewrites a value bottom-up: the fields of a part come first, in order, and then a node is
replaced. -/
def transform : Value → m Value
  | .datum d => pure (.datum d)
  | .record r => pure (.record r)
  | .list values => do
    let values ← transformAll values
    pure (.list values)
  | .part kind fields => do
    let fields ← transformAll fields
    if kind.isNode then replace (.part kind fields) else pure (.part kind fields)

/-- Rewrites values one after the other. -/
def transformAll : List Value → m (List Value)
  | [] => pure []
  | value :: rest => do
    let value ← value.transform
    let rest ← transformAll rest
    pure (value :: rest)

end

end

end Value

end SqlLayout.Tree
