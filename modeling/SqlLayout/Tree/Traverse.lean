import SqlLayout.Tree.Basic

/-!
# Traversing trees

One traversal that every pass over a tree shares.  A pass can replace expressions, after their
children, change the label and the pivot clause of table sources, and clear the grouping of queries,
before their children.
-/

namespace SqlLayout.Tree

/-- The label and the pivot clause of a table source. -/
structure TableMarks where
  label : Option String
  pivot : Option String
  deriving DecidableEq, Repr

/-- What a pass does at the parts of a tree. -/
structure Pass (m : Type → Type) where
  /-- Replaces an expression whose children are already replaced. -/
  expr : Expr → m Expr
  /-- Changes the label and the pivot clause of a table source. -/
  marks : TableMarks → m TableMarks
  /-- Decides whether the grouping of a query becomes a grouping by all columns. -/
  clears : Query → m Bool

/-- The pass that changes nothing. -/
def Pass.keep (m : Type → Type) [Monad m] : Pass m where
  expr := pure
  marks := pure
  clears _ := pure false

section

variable {m : Type → Type} [Monad m] (pass : Pass m)

mutual

/-- Traverses an expression. -/
def exprTraverse : Expr → m Expr
  | .column name qualifier quoted => pass.expr (.column name qualifier quoted)
  | .literal value kind => pass.expr (.literal value kind)
  | .star qualifier => pass.expr (.star qualifier)
  | .raw sql => pass.expr (.raw sql)
  | .call name args bare => do
    let args ← exprsTraverse args
    pass.expr (.call name args bare)
  | .aggregate name argument distinct => do
    let argument ← optionalTraverse argument
    pass.expr (.aggregate name argument distinct)
  | .index base index => do
    let base ← exprTraverse base
    pass.expr (.index base index)
  | .binary operator left right => do
    let left ← exprTraverse left
    let right ← exprTraverse right
    pass.expr (.binary operator left right)
  | .unary operator operand => do
    let operand ← exprTraverse operand
    pass.expr (.unary operator operand)
  | .paren inner => do
    let inner ← exprTraverse inner
    pass.expr (.paren inner)
  | .between subject low high negated => do
    let subject ← exprTraverse subject
    let low ← exprTraverse low
    let high ← exprTraverse high
    pass.expr (.between subject low high negated)
  | .inList subject values negated => do
    let subject ← exprTraverse subject
    let values ← exprsTraverse values
    pass.expr (.inList subject values negated)
  | .inQuery subject query negated => do
    let subject ← exprTraverse subject
    let query ← queryTraverse query
    pass.expr (.inQuery subject query negated)
  | .isNull subject negated => do
    let subject ← exprTraverse subject
    pass.expr (.isNull subject negated)
  | .existsIn query negated => do
    let query ← queryTraverse query
    pass.expr (.existsIn query negated)
  | .caseOf operand branches otherwise => do
    let operand ← optionalTraverse operand
    let branches ← branchesTraverse branches
    let otherwise ← optionalTraverse otherwise
    pass.expr (.caseOf operand branches otherwise)
  | .cast operand type shorthand safe => do
    let operand ← exprTraverse operand
    pass.expr (.cast operand type shorthand safe)
  | .window function partition order frame => do
    let function ← exprTraverse function
    let partition ← exprsTraverse partition
    let order ← ordersTraverse order
    pass.expr (.window function partition order frame)
  | .subquery query => do
    let query ← queryTraverse query
    pass.expr (.subquery query)

/-- Traverses expressions one after the other. -/
def exprsTraverse : List Expr → m (List Expr)
  | [] => pure []
  | e :: rest => do
    let e ← exprTraverse e
    let rest ← exprsTraverse rest
    pure (e :: rest)

/-- Traverses an expression that may be missing. -/
def optionalTraverse : Option Expr → m (Option Expr)
  | none => pure none
  | some e => do
    let e ← exprTraverse e
    pure (some e)

/-- Traverses the branches of a case expression. -/
def branchesTraverse : List Branch → m (List Branch)
  | [] => pure []
  | .mk condition result :: rest => do
    let condition ← exprTraverse condition
    let result ← exprTraverse result
    let rest ← branchesTraverse rest
    pure (.mk condition result :: rest)

/-- Traverses the keys of an ordering. -/
def ordersTraverse : List OrderItem → m (List OrderItem)
  | [] => pure []
  | .mk key descending nulls :: rest => do
    let key ← exprTraverse key
    let rest ← ordersTraverse rest
    pure (.mk key descending nulls :: rest)

/-- Traverses projected columns. -/
def itemsTraverse : List SelectItem → m (List SelectItem)
  | [] => pure []
  | .mk value label :: rest => do
    let value ← exprTraverse value
    let rest ← itemsTraverse rest
    pure (.mk value label :: rest)

/-- Traverses a table source. -/
def sourceTraverse : Source → m Source
  | .table table => do
    let marks ← pass.marks ⟨table.label, table.pivot⟩
    pure (.table { table with label := marks.label, pivot := marks.pivot })
  | .derived label pivot query => do
    let marks ← pass.marks ⟨label, pivot⟩
    let query ← queryTraverse query
    pure (.derived marks.label marks.pivot query)

/-- Traverses table sources. -/
def sourcesTraverse : List Source → m (List Source)
  | [] => pure []
  | source :: rest => do
    let source ← sourceTraverse source
    let rest ← sourcesTraverse rest
    pure (source :: rest)

/-- Traverses joins. -/
def joinsTraverse : List Join → m (List Join)
  | [] => pure []
  | .mk keyword source condition shared :: rest => do
    let source ← sourceTraverse source
    let condition ← optionalTraverse condition
    let rest ← joinsTraverse rest
    pure (.mk keyword source condition shared :: rest)

/-- Traverses named queries. -/
def ctesTraverse : List Cte → m (List Cte)
  | [] => pure []
  | .mk name columns query :: rest => do
    let query ← queryTraverse query
    let rest ← ctesTraverse rest
    pure (.mk name columns query :: rest)

/-- Traverses a query. -/
def queryTraverse : Query → m Query
  | q@{ arrayAccesses, ctes, distinct, columns, sources, joins, filter, groupBy, groupByAll, having,
        qualify, orderBy, limit, offset, setOperator, next } => do
    let clears ← pass.clears q
    let ctes ← ctesTraverse ctes
    let columns ← itemsTraverse columns
    let sources ← sourcesTraverse sources
    let joins ← joinsTraverse joins
    let filter ← optionalTraverse filter
    let groupBy ← exprsTraverse groupBy
    let having ← optionalTraverse having
    let qualify ← optionalTraverse qualify
    let orderBy ← ordersTraverse orderBy
    let limit ← optionalTraverse limit
    let offset ← optionalTraverse offset
    let next ← optionalQueryTraverse next
    pure { arrayAccesses, ctes, distinct, columns, sources, joins, filter,
           groupBy := if clears then [] else groupBy, groupByAll := clears || groupByAll, having,
           qualify, orderBy, limit, offset, setOperator, next }

/-- Traverses a query that may be missing. -/
def optionalQueryTraverse : Option Query → m (Option Query)
  | none => pure none
  | some query => do
    let query ← queryTraverse query
    pure (some query)

end

/-- Traverses a table that is the target of a statement. -/
def tableTraverse (table : TableRef) : m TableRef := do
  let marks ← pass.marks ⟨table.label, table.pivot⟩
  pure { table with label := marks.label, pivot := marks.pivot }

/-- Traverses a column definition. -/
def columnDefTraverse (column : ColumnDef) : m ColumnDef := do
  let default ← optionalTraverse pass column.default
  pure { column with default := default }

/-- Traverses an assignment; its column stays a column. -/
def assignmentTraverse (assignment : Assignment) : m Assignment := do
  let column ← pass.expr assignment.column.expr
  let value ← exprTraverse pass assignment.value
  match column with
  | .column name qualifier quoted =>
    pure { column := { name := name, qualifier := qualifier, quoted := quoted }, value := value }
  | _ => pure { assignment with value := value }

/-- Traverses a statement. -/
def statementTraverse : Statement → m Statement
  | .select query => do
    let query ← queryTraverse pass query
    pure (.select query)
  | .create s => do
    let target ← tableTraverse pass s.target
    let columns ← s.columns.mapM (columnDefTraverse pass)
    let like ← s.like.mapM (tableTraverse pass)
    let query ← optionalQueryTraverse pass s.query
    pure (.create { s with target := target, columns := columns, like := like, query := query })
  | .insert s => do
    let target ← tableTraverse pass s.target
    let query ← optionalQueryTraverse pass s.query
    let rows ← s.rows.mapM (exprsTraverse pass)
    pure (.insert { s with target := target, query := query, rows := rows })
  | .update s => do
    let target ← tableTraverse pass s.target
    let assignments ← s.assignments.mapM (assignmentTraverse pass)
    let sources ← sourcesTraverse pass s.sources
    let filter ← optionalTraverse pass s.filter
    pure (.update { s with target := target, assignments := assignments, sources := sources,
                           filter := filter })
  | .delete s => do
    let target ← tableTraverse pass s.target
    let sources ← sourcesTraverse pass s.sources
    let filter ← optionalTraverse pass s.filter
    pure (.delete { s with target := target, sources := sources, filter := filter })
  | .grant s => pure (.grant s)
  | .comment s => pure (.comment s)
  | .unrendered s => pure (.unrendered s)

end

/-- Replaces expressions everywhere in a statement, children first. -/
def Statement.mapExprs (f : Expr → Expr) (s : Statement) : Statement :=
  Id.run (statementTraverse { Pass.keep Id with expr := f } s)

/-- Changes the label and the pivot clause of every table source of a statement. -/
def Statement.mapMarks (f : TableMarks → TableMarks) (s : Statement) : Statement :=
  Id.run (statementTraverse { Pass.keep Id with marks := f } s)

end SqlLayout.Tree
