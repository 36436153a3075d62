import SqlLayout.Grammar.Parser

/-!
# Trees from parsed statements

What the parser tells apart becomes a node of the statement tree; the rest becomes raw text or an
unrendered statement.  Where a query is expected and something else stands there, the whole
statement is refused.

## Implementation notes

A query in the tree is the head of a chain of operands.  A chain is built as a list of its operands,
and linked in the end.
-/

namespace SqlLayout.Tree

open Grammar (Dialect Term Ident BinaryOp)

/-- Something that stands in the place of a query: the name of its kind and its text. -/
structure Unsupported where
  kind : String
  sql : String
  deriving DecidableEq, Repr

/-- The texts that are not empty, with dots between them. -/
def dotted (parts : List String) : Option String :=
  match parts.filter (!·.isEmpty) with
  | [] => none
  | shown => some (".".intercalate shown)

/-- A data type; at most two plain parameters are kept apart. -/
def DataType.ofName (dialect : Dialect) (type : Grammar.TypeName) : DataType :=
  match type with
  | .plain name [] => { name := name }
  | .plain name [length] => { name := name, length := some length.name }
  | .plain name [length, scale] =>
    { name := name, length := some length.name, scale := some scale.name }
  | .characters set => { name := ((Grammar.TypeName.characters set).sql dialect).upperCase }
  | type => { name := type.sql dialect }

/-- The text of an optional name; a missing one is empty. -/
def optionalName (dialect : Dialect) (ident : Option Ident) : String :=
  (ident.map (·.bareText dialect)).getD ""

/-- A text, unless it is empty. -/
def nonEmpty? (text : String) : Option String :=
  if text.isEmpty then none else some text

/-- The name of a table label. -/
def labelName (label : Option Grammar.TableLabel) : Option String :=
  (label.bind (·.name)).bind fun ident => nonEmpty? ident.name

/-- The text of pivot clauses, if there are any. -/
def pivotText (pivots : List String) : Option String :=
  if pivots.isEmpty then none else some (" ".intercalate pivots)

/-- A table with its qualifiers, its label and its pivot clauses. -/
def TableRef.ofTable (dialect : Dialect) (table : Grammar.Table) : TableRef :=
  { label := labelName table.label
    pivot := pivotText table.pivots
    name := optionalName dialect table.name
    schemaName := nonEmpty? (optionalName dialect table.db)
    catalog := nonEmpty? (optionalName dialect table.catalog)
    quoted := [table.name, table.db, table.catalog].any (·.any (·.quoted)) }

/-- The name of a created schema. -/
def TableRef.ofSchema (dialect : Dialect) (table : Grammar.Table) : TableRef :=
  { name := optionalName dialect table.db
    schemaName := nonEmpty? (optionalName dialect table.catalog) }

/-- Rows that have no table name, as text. -/
def TableRef.ofText (sql : String) : TableRef :=
  { name := sql, quoted := true }

/-- The target of a statement. -/
def TableRef.ofFrom (dialect : Dialect) : Grammar.From → TableRef
  | .table t => .ofTable dialect t
  | source => .ofText (source.sql dialect)

/-- A column with its qualifiers, outermost first. -/
def columnExpr (dialect : Dialect) (parts : List Ident) : Expr :=
  let texts := parts.map (·.bareText dialect)
  .column ((texts.getLast?).getD "") (dotted texts.dropLast)
    ((parts.getLast?.map (·.quoted)).getD false)

/-- The negation of an expression: predicates that have a negated spelling take it. -/
def negate (term : Term) (inner : Expr) : Expr :=
  match inner with
  | .inList subject values negated => .inList subject values !negated
  | .inQuery subject query negated => .inQuery subject query !negated
  | .isNull subject negated => .isNull subject !negated
  | .between subject low high negated => .between subject low high !negated
  | .existsIn query negated => .existsIn query !negated
  | .binary operator left right =>
    match term.core with
    | .binary .like _ _ _ => .binary "NOT LIKE" left right
    | .binary .ilike _ _ _ => .binary "NOT ILIKE" left right
    | _ => .unary "NOT" (.binary operator left right)
  | inner => .unary "NOT" inner

/-- The word for how the rows of a join are matched; one that says where they are matched is not
kept. -/
def joinMethod (method : String) : String :=
  if method == "GLOBAL" then "" else method

/-- The keyword of a join; `INNER` is not written. -/
def joinKeyword (method side kind : String) : String :=
  Grammar.words ([method, side, if kind == "INNER" then "" else kind] ++ ["JOIN"])

/-- Links the operands of a chain of set operations. -/
def link : List Query → Query
  | [] => {}
  | [q] => q
  | q :: rest => { q with next := some (link rest) }

/-- Changes the last operand of a chain. -/
def mapLast (f : Query → Query) : List Query → List Query
  | [] => []
  | [q] => [f q]
  | q :: rest => q :: mapLast f rest

/-- Changes the first operand of a chain. -/
def mapHead (f : Query → Query) : List Query → List Query
  | [] => []
  | q :: rest => f q :: rest

/-- A statement that is kept as its text, without blanks at the ends. -/
def asText (kind sql : String) : Statement :=
  .unrendered { kind := kind, sql := sql.stripBlanks }

/-- The operator between two operands. -/
def setOperator (op : Grammar.SetOp) (distinct : Bool) : String :=
  if distinct then op.keyword else op.keyword ++ " ALL"

section

variable (dialect : Dialect)

mutual

/-- The expression of a term. -/
def exprOf : Term → Except Unsupported Expr
  | .paren inner => do return .paren (← exprOf inner)
  | .labelled inner _ _ => exprOf inner
  | .commented inner _ => exprOf inner
  | .column parts _ => return columnExpr dialect parts
  | .columnStar qualifiers _ => return .star (dotted (qualifiers.map (·.bareText dialect)))
  | .star _ => return .star none
  | .number text _ => return .literal text .number
  | .string value _ => return .literal value .string
  | .boolean value => return .literal (if value then "TRUE" else "FALSE") .boolean
  | .null => return .literal "NULL" .null
  | .negative inner => do return .unary "-" (← exprOf inner)
  | .negation inner => do return negate inner (← exprOf inner)
  | .inList subject values => do
    let subject ← exprOf subject
    return .inList subject (← exprsOf values) false
  | .inQuery subject query => do
    let subject ← exprOf subject
    return .inQuery subject (link (← chainOf query)) false
  | .is subject value => do
    let subject ← exprOf subject
    match ← exprOf value with
    | .literal "NULL" .null => return .isNull subject false
    | value => return .binary "IS" subject value
  | .between subject low high => do
    let subject ← exprOf subject
    let low ← exprOf low
    return .between subject low (← exprOf high) false
  | .existsIn query => do return .existsIn (link (← chainOf query)) false
  | .caseOf operand branches otherwise => do
    let operand ← optionalExprOf operand
    let branches ← branchesOf branches
    return .caseOf operand branches (← optionalExprOf otherwise)
  | .cast operand type mode => do
    return .cast (← exprOf operand) (.ofName dialect type) false mode.isSafe
  | .window function partition order frame => do
    let function ← exprOf function
    let partition ← exprsOf partition
    return .window function partition (← ordersOf order) frame
  | .query (.other _ text) => return .raw text
  | .query query => do return .subquery (link (← chainOf query))
  | .binary op left right _ => do
    let left ← exprOf left
    return .binary op.symbol left (← exprOf right)
  | .call name [.distinct [argument]] => do
    return .aggregate name.name (some (← exprOf argument)) true
  | .call name [.distinct args] => return .raw ((Term.call name [.distinct args]).sql dialect)
  | .call name args => do return .call name.name (← exprsOf args) false
  | .distinct args => return .raw ((Term.distinct args).sql dialect)
  | .bare name _ => return .call name [] true
  | .conditional name args => do return .call name (← exprsOf args) false
  | .aggregate name (.distinct [argument]) _ => do
    return .aggregate name (some (← exprOf argument)) true
  | .aggregate _ (.distinct _) text => return .raw text
  | .aggregate name argument _ => do return .aggregate name (some (← exprOf argument)) false
  | .raw _ text => return .raw text

/-- The expressions of terms. -/
def exprsOf : List Term → Except Unsupported (List Expr)
  | [] => return []
  | t :: rest => do
    let e ← exprOf t
    return e :: (← exprsOf rest)

/-- The expression of a term that may be missing. -/
def optionalExprOf : Option Term → Except Unsupported (Option Expr)
  | none => return none
  | some t => do return some (← exprOf t)

/-- The branches of a case expression. -/
def branchesOf : List Grammar.CaseBranch → Except Unsupported (List Branch)
  | [] => return []
  | .mk condition result :: rest => do
    let condition ← exprOf condition
    let result ← exprOf result
    return .mk condition result :: (← branchesOf rest)

/-- The keys of an ordering. -/
def ordersOf : List Grammar.Ordered → Except Unsupported (List OrderItem)
  | [] => return []
  | .mk key descending _ nulls _ _ :: rest => do
    let key ← exprOf key
    return .mk key descending nulls :: (← ordersOf rest)

/-- The keys of an ordering that may be missing. -/
def optionalOrdersOf : Option (List Grammar.Ordered) → Except Unsupported (Option (List OrderItem))
  | none => return none
  | some keys => do return some (← ordersOf keys)

/-- The count of a limit that may be missing. -/
def limitOf : Option Grammar.Limit → Except Unsupported (Option Expr)
  | none => return none
  | some (.count count _) => do return some (← exprOf count)
  | some (.fetch _) => return none

/-- Puts a grouping into a query. -/
def groupingOf (q : Query) : Option Grammar.Grouping → Except Unsupported Query
  | none => return q
  | some (.mk items byAll _) => do return { q with groupBy := ← exprsOf items, groupByAll := byAll }

/-- Projected columns with their labels. -/
def itemsOf : List Term → Except Unsupported (List SelectItem)
  | [] => return []
  | .labelled inner label _ :: rest => do
    let value ← exprOf inner
    return .mk value (some (label.bareText dialect)) :: (← itemsOf rest)
  | t :: rest => do
    let value ← exprOf t
    return .mk value none :: (← itemsOf rest)

/-- Named queries. -/
def ctesOf : List Grammar.Cte → Except Unsupported (List Cte)
  | [] => return []
  | .mk label body _ _ :: rest => do
    let query := link (← chainOf body)
    return .mk ((label.name.map (·.name)).getD "") (label.columns.map (·.bareText dialect)) query
      :: (← ctesOf rest)
  | .value label value _ :: rest => do
    let query := link (← valueChainOf value)
    return .mk ((label.name.map (·.name)).getD "") (label.columns.map (·.bareText dialect)) query
      :: (← ctesOf rest)

/-- The operands of the query that a named value is; no other value has a place in the tree. -/
def valueChainOf : Term → Except Unsupported (List Query)
  | .query query => chainOf query
  | .commented inner _ => valueChainOf inner
  | value => throw ⟨value.kindName, value.sql dialect⟩

/-- The named queries of a WITH clause that may be missing. -/
def withOf : Option Grammar.With → Except Unsupported (List Cte)
  | none => return []
  | some (.mk _ ctes _) => ctesOf ctes

/-- A table source. -/
def sourceOf : Grammar.From → Except Unsupported Source
  | .table table => return .table (.ofTable dialect table)
  | .query (.wrapped inner _ label pivots _) => do
    let query := link (← chainOf inner)
    return .derived (labelName label) (pivotText pivots) query
  | .query query => return .table (.ofText (query.sql dialect))
  | .raw _ text => return .table (.ofText text)

/-- A table source that may be missing. -/
def optionalSourceOf : Option Grammar.From → Except Unsupported (List Source)
  | none => return []
  | some source => do return [← sourceOf source]

/-- Puts joins into a query.  A join without keywords and without a condition is one more source. -/
def joinsOf (q : Query) : List Grammar.JoinTerm → Except Unsupported Query
  | [] => return q
  | .mk method side kind source condition shared _ _ :: rest => do
    let method := joinMethod method
    let source ← sourceOf source
    let condition ← optionalExprOf condition
    if condition.isNone && shared.isEmpty && method.isEmpty && side.isEmpty && kind.isEmpty then
      joinsOf { q with sources := q.sources ++ [source] } rest
    else
      let join := .mk (joinKeyword method side kind) source condition
        (shared.map (·.bareText dialect))
      joinsOf { q with joins := q.joins ++ [join] } rest

/-- Puts the clauses after the projection into a query. -/
def clausesOf (q : Query) : Grammar.Clauses → Except Unsupported Query
  | { joins, laterals := _, prefilter := _, filter, filterComments := _, hierarchy := _,
      grouping, having, clustering := _, distribution := _, sorting := _, windows := _, qualify,
      order, limit, offset,
      offsetTail := _, closing := _, comments := _ } => do
    let q ← joinsOf q joins
    let filter ← optionalExprOf filter
    let q ← groupingOf q grouping
    let having ← optionalExprOf having
    let qualify ← optionalExprOf qualify
    let order ← optionalOrdersOf order
    let limit ← limitOf limit
    let offset ← optionalExprOf offset
    return { q with filter := filter, having := having, qualify := qualify,
                    orderBy := order.getD [], limit := limit, offset := offset }

/-- Puts the ordering and the limits of a set operation into its last operand. -/
def endingOf (chain : List Query) : Grammar.Clauses → Except Unsupported (List Query)
  | { joins := _, laterals := _, prefilter := _, filter := _, filterComments := _, hierarchy := _,
      grouping := _, having := _, clustering := _, distribution := _, sorting := _, windows := _,
      qualify := _,
      order, limit, offset, offsetTail := _, closing := _, comments := _ } => do
    let keys ← optionalOrdersOf order
    let count ← limitOf limit
    let start ← optionalExprOf offset
    return chain |> mapLast fun q =>
      { q with orderBy := keys.getD q.orderBy
               limit := if limit.isSome then count else q.limit
               offset := if offset.isSome then start else q.offset }

/-- A SELECT without set operations. -/
def selectOf : Grammar.Select → Except Unsupported Query
  | { withClause, hint := _, distinct, opening := _, items, into := _, source, sourceComments := _,
      clauses } => do
    let ctes ← withOf withClause
    let columns ← itemsOf items
    let sources ← optionalSourceOf source
    clausesOf { ctes := ctes, distinct := distinct.isSome, columns := columns, sources := sources }
      clauses

/-- The operands of a chain of set operations, from left to right. -/
def chainOf : Grammar.Query → Except Unsupported (List Query)
  | .select select => do return [← selectOf select]
  | .setOp op distinct _ left right withClause clauses => do
    let left ← chainOf left
    let right ← chainOf right
    let ctes ← withOf withClause
    let chain := mapLast (fun q => { q with setOperator := some (setOperator op distinct) }) left ++
      right
    endingOf (mapHead (fun q => { q with ctes := ctes ++ q.ctes }) chain) clauses
  | .wrapped inner _ _ _ _ => chainOf inner
  | .other kind text => throw ⟨kind, text⟩

end

/-- A query as the head of its chain. -/
def queryOf (query : Grammar.Query) : Except Unsupported Query := do
  return link (← chainOf dialect query)

/-! ## Statements -/

/-- Adds a constraint to a column definition. -/
def ColumnDef.add (column : ColumnDef) (constraint : Grammar.Constraint × String) :
    Except Unsupported ColumnDef := do
  match constraint with
  | (.primaryKey, _) => return { column with primaryKey := true }
  | (.notNull, _) => return { column with notNull := true }
  | (.default value, _) => return { column with default := some (← exprOf dialect value) }
  | (.comment text, _) => return { column with comment := some text }
  | (.references table columns, _) =>
    let reference : Reference :=
      { table := (TableRef.ofTable dialect table).qualifiedName
        columns := columns.map (·.bareText dialect) }
    return { column with references := some reference }
  | (.other, text) => return { column with extraConstraints := column.extraConstraints ++ [text] }

/-- The columns and the primary key of a created table; `none` when there is anything else. -/
def schemaOf : List Grammar.SchemaItem → Except Unsupported (Option (List ColumnDef × List String))
  | [] => return some ([], [])
  | .column ident type constraints _ :: rest => do
    let start : ColumnDef := { name := ident.bareText dialect, type := type.map (.ofName dialect) }
    let column ← constraints.foldlM (ColumnDef.add dialect) start
    return (← schemaOf rest).map fun (columns, key) => (column :: columns, key)
  | .primaryKey names _ :: rest => do
    return (← schemaOf rest).map fun (columns, key) =>
      (columns, if key.isEmpty then names.map (·.bareText dialect) else key)
  | .name _ :: _ | .other _ :: _ => return none

/-- The table that a created table is like; `none` when there are other properties. -/
def likeOf : List Grammar.Property → Option (Option TableRef)
  | [] => some none
  | .like source :: rest => (likeOf rest).map fun last =>
    some (last.getD (TableRef.ofFrom dialect source))
  | .other :: _ => none

/-- The kinds of object whose creation has a node. -/
def objectKind? (kind : String) : Option ObjectKind :=
  match kind with
  | "TABLE" => some .table
  | "VIEW" => some .view
  | "SCHEMA" => some .schema
  | _ => none

/-- A CREATE statement. -/
def createOf (create : Grammar.CreateTerm) : Except Unsupported Statement := do
  let unrendered := asText "Create" create.text
  match objectKind? create.kind with
  | none => return unrendered
  | some kind =>
    match ← schemaOf dialect (create.schema.getD []), likeOf dialect create.properties with
    | some (columns, key), some like =>
      let query ← create.body.mapM (queryOf dialect)
      return .create
        { kind := kind
          target := if kind == .schema then .ofSchema dialect create.target
            else .ofTable dialect create.target
          replace := create.replace, ifNotExists := create.ifNotExists, columns := columns,
          primaryKey := key, like := like, query := query }
    | _, _ => return unrendered

/-- An INSERT statement. -/
def insertOf (insert : Grammar.InsertTerm) : Except Unsupported Statement := do
  match insert.target with
  | none => return asText "Insert" insert.text
  | some target =>
    let start : Insert :=
      { target := .ofTable dialect target, columns := insert.columns,
        overwrite := insert.overwrite }
    match insert.body with
    | .rows rows =>
      return .insert { start with rows := ← rows.mapM fun row => exprsOf dialect row.values }
    | .query query =>
      let query ← queryOf dialect query
      let ctes ← withOf dialect insert.withClause
      return .insert { start with query := some { query with ctes := ctes ++ query.ctes } }
    | .nothing => return .insert start

/-- The assignments of an update; `none` when an item sets something else than a column. -/
def assignmentsOf : List Term → Except Unsupported (Option (List Assignment))
  | [] => return some []
  | .binary .eq (.column parts _) value _ :: rest => do
    let value ← exprOf dialect value
    match columnExpr dialect parts with
    | .column name qualifier quoted =>
      return (← assignmentsOf rest).map fun items =>
        { column := { name := name, qualifier := qualifier, quoted := quoted }, value := value } ::
          items
    | _ => return none
  | _ => return none

/-- An UPDATE statement. -/
def updateOf (update : Grammar.UpdateTerm) : Except Unsupported Statement := do
  match ← assignmentsOf dialect update.items with
  | none => return asText "Update" update.text
  | some assignments =>
    let sources ← optionalSourceOf dialect update.source
    let filter ← optionalExprOf dialect update.filter
    return .update { target := .ofFrom dialect update.target, assignments := assignments,
                     sources := sources, filter := filter }

/-- A DELETE statement. -/
def deleteOf (delete : Grammar.DeleteTerm) : Except Unsupported Statement := do
  let sources ← optionalSourceOf dialect delete.source
  let filter ← optionalExprOf dialect delete.filter
  return .delete { target := .ofFrom dialect delete.target, sources := sources, filter := filter }

/-- The tree of a parsed statement. -/
def statementOf : Grammar.Parsed → Except Unsupported Statement
  | .query (.other kind text) => return asText kind text
  | .query query => do return .select (← queryOf dialect query)
  | .create create => createOf dialect create
  | .insert insert => insertOf dialect insert
  | .update update => updateOf dialect update
  | .delete delete => deleteOf dialect delete
  | .other kind text => return asText kind text

end

end SqlLayout.Tree
