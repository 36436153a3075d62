import SqlLayout.Tree.Basic

/-!
# Walking trees

Two walks over the parts of a tree, parents first and children in the order of their fields: one by
recursion on the tree, and one with an explicit stack of parts that are still to be visited.

## Implementation notes

Clause parts (projected columns, branches, ordering keys, named queries, column definitions,
assignments, types and references) are walked through but are no nodes of their own.
-/

namespace SqlLayout.Tree

/-- A part of a tree. -/
inductive Part where
  | expr (e : Expr)
  | query (q : Query)
  | source (s : Source)
  | join (j : Join)
  | create (s : Create)
  | insert (s : Insert)
  | update (s : Update)
  | delete (s : Delete)
  | grant (s : Grant)
  | comment (s : Comment)
  | unrendered (s : Unrendered)
  | item (i : SelectItem)
  | branch (b : Branch)
  | order (o : OrderItem)
  | cte (c : Cte)
  | columnDef (c : ColumnDef)
  | assignment (a : Assignment)
  | dataType (t : DataType)
  | reference (r : Reference)

/-- Whether a part is a node; the others are clauses. -/
def Part.isNode : Part → Bool
  | .item _ | .branch _ | .order _ | .cte _ | .columnDef _ | .assignment _ | .dataType _
  | .reference _ => false
  | _ => true

/-- The part that a statement is. -/
def Statement.part : Statement → Part
  | .select q => .query q
  | .create s => .create s
  | .insert s => .insert s
  | .update s => .update s
  | .delete s => .delete s
  | .grant s => .grant s
  | .comment s => .comment s
  | .unrendered s => .unrendered s

/-! ## Children -/

/-- The expression parts of a list. -/
def exprParts (es : List Expr) : List Part :=
  es.map .expr

/-- The part of an expression that may be missing. -/
def optionalPart (e : Option Expr) : List Part :=
  exprParts e.toList

/-- The children of an expression. -/
def Expr.children : Expr → List Part
  | .column _ _ _ | .literal _ _ | .star _ | .raw _ => []
  | .call _ args _ => exprParts args
  | .aggregate _ argument _ => optionalPart argument
  | .index base _ => [.expr base]
  | .binary _ left right => [.expr left, .expr right]
  | .unary _ operand => [.expr operand]
  | .paren inner => [.expr inner]
  | .between subject low high _ => [.expr subject, .expr low, .expr high]
  | .inList subject values _ => .expr subject :: exprParts values
  | .inQuery subject query _ => [.expr subject, .query query]
  | .isNull subject _ => [.expr subject]
  | .existsIn query _ => [.query query]
  | .caseOf operand branches otherwise =>
    optionalPart operand ++ branches.map .branch ++ optionalPart otherwise
  | .cast operand type _ _ => [.expr operand, .dataType type]
  | .window function partition order _ =>
    .expr function :: exprParts partition ++ order.map .order
  | .subquery query => [.query query]

/-- The children of a query. -/
def Query.children (q : Query) : List Part :=
  q.ctes.map .cte ++ q.columns.map .item ++ q.sources.map .source ++ q.joins.map .join ++
    optionalPart q.filter ++ exprParts q.groupBy ++ optionalPart q.having ++
    optionalPart q.qualify ++ q.orderBy.map .order ++ optionalPart q.limit ++
    optionalPart q.offset ++ q.next.toList.map .query

/-- The children of a part, in the order of its fields. -/
def Part.children : Part → List Part
  | .expr e => e.children
  | .query q => q.children
  | .source (.table _) => []
  | .source (.derived _ _ q) => [.query q]
  | .join (.mk _ s condition _) => .source s :: optionalPart condition
  | .create s =>
    .source (.table s.target) :: s.columns.map .columnDef ++
      s.like.toList.map (fun t => .source (.table t)) ++ s.query.toList.map .query
  | .insert s =>
    .source (.table s.target) :: s.query.toList.map .query ++ s.rows.flatMap exprParts
  | .update s =>
    .source (.table s.target) :: s.assignments.map .assignment ++ s.sources.map .source ++
      optionalPart s.filter
  | .delete s => .source (.table s.target) :: s.sources.map .source ++ optionalPart s.filter
  | .grant _ | .comment _ | .unrendered _ | .dataType _ | .reference _ => []
  | .item (.mk value _) => [.expr value]
  | .branch (.mk condition result) => [.expr condition, .expr result]
  | .order (.mk key _ _) => [.expr key]
  | .cte (.mk _ _ q) => [.query q]
  | .columnDef c =>
    c.type.toList.map .dataType ++ optionalPart c.default ++ c.references.toList.map .reference
  | .assignment a => [.expr a.column.expr, .expr a.value]

/-! ## The recursive walk -/

mutual

/-- An expression and all parts below it. -/
def exprWalk : Expr → List Part
  | e@(.column _ _ _) | e@(.literal _ _) | e@(.star _) | e@(.raw _) => [.expr e]
  | e@(.call _ args _) => .expr e :: exprsWalk args
  | e@(.aggregate _ argument _) => .expr e :: optionalWalk argument
  | e@(.index base _) => .expr e :: exprWalk base
  | e@(.binary _ left right) => .expr e :: exprWalk left ++ exprWalk right
  | e@(.unary _ operand) => .expr e :: exprWalk operand
  | e@(.paren inner) => .expr e :: exprWalk inner
  | e@(.between subject low high _) =>
    .expr e :: exprWalk subject ++ exprWalk low ++ exprWalk high
  | e@(.inList subject values _) => .expr e :: exprWalk subject ++ exprsWalk values
  | e@(.inQuery subject query _) => .expr e :: exprWalk subject ++ queryWalk query
  | e@(.isNull subject _) => .expr e :: exprWalk subject
  | e@(.existsIn query _) => .expr e :: queryWalk query
  | e@(.caseOf operand branches otherwise) =>
    .expr e :: optionalWalk operand ++ branchesWalk branches ++ optionalWalk otherwise
  | e@(.cast operand type _ _) => .expr e :: exprWalk operand ++ [.dataType type]
  | e@(.window function partition order _) =>
    .expr e :: exprWalk function ++ exprsWalk partition ++ ordersWalk order
  | e@(.subquery query) => .expr e :: queryWalk query

/-- Expressions and all parts below them. -/
def exprsWalk : List Expr → List Part
  | [] => []
  | e :: rest => exprWalk e ++ exprsWalk rest

/-- The parts of an expression that may be missing. -/
def optionalWalk : Option Expr → List Part
  | none => []
  | some e => exprWalk e

/-- Branches and all parts below them. -/
def branchesWalk : List Branch → List Part
  | [] => []
  | .mk condition result :: rest =>
    .branch (.mk condition result) :: exprWalk condition ++ exprWalk result ++ branchesWalk rest

/-- Ordering keys and all parts below them. -/
def ordersWalk : List OrderItem → List Part
  | [] => []
  | .mk key descending nulls :: rest =>
    .order (.mk key descending nulls) :: exprWalk key ++ ordersWalk rest

/-- Projected columns and all parts below them. -/
def itemsWalk : List SelectItem → List Part
  | [] => []
  | .mk value label :: rest => .item (.mk value label) :: exprWalk value ++ itemsWalk rest

/-- A table source and all parts below it. -/
def sourceWalk : Source → List Part
  | .table table => [.source (.table table)]
  | .derived label pivot query => .source (.derived label pivot query) :: queryWalk query

/-- Table sources and all parts below them. -/
def sourcesWalk : List Source → List Part
  | [] => []
  | source :: rest => sourceWalk source ++ sourcesWalk rest

/-- Joins and all parts below them. -/
def joinsWalk : List Join → List Part
  | [] => []
  | .mk keyword source condition shared :: rest =>
    .join (.mk keyword source condition shared) :: sourceWalk source ++ optionalWalk condition ++
      joinsWalk rest

/-- Named queries and all parts below them. -/
def ctesWalk : List Cte → List Part
  | [] => []
  | .mk name columns query :: rest =>
    .cte (.mk name columns query) :: queryWalk query ++ ctesWalk rest

/-- A query and all parts below it. -/
def queryWalk : Query → List Part
  | q@{ arrayAccesses := _, ctes, distinct := _, columns, sources, joins, filter, groupBy,
        groupByAll := _, having, qualify, orderBy, limit, offset, setOperator := _, next } =>
    .query q :: ctesWalk ctes ++ itemsWalk columns ++ sourcesWalk sources ++ joinsWalk joins ++
      optionalWalk filter ++ exprsWalk groupBy ++ optionalWalk having ++ optionalWalk qualify ++
      ordersWalk orderBy ++ optionalWalk limit ++ optionalWalk offset ++ optionalQueryWalk next

/-- The parts of a query that may be missing. -/
def optionalQueryWalk : Option Query → List Part
  | none => []
  | some query => queryWalk query

end

/-- A column definition and all parts below it. -/
def columnDefWalk (c : ColumnDef) : List Part :=
  .columnDef c :: c.type.toList.map .dataType ++ optionalWalk c.default ++
    c.references.toList.map .reference

/-- An assignment and all parts below it. -/
def assignmentWalk (a : Assignment) : List Part :=
  .assignment a :: exprWalk a.column.expr ++ exprWalk a.value

/-- A part and all parts below it, parents first. -/
def Part.preorder : Part → List Part
  | .expr e => exprWalk e
  | .query q => queryWalk q
  | .source s => sourceWalk s
  | .join j => joinsWalk [j]
  | .create s =>
    .create s :: .source (.table s.target) :: s.columns.flatMap columnDefWalk ++
      s.like.toList.map (fun t => .source (.table t)) ++ optionalQueryWalk s.query
  | .insert s =>
    .insert s :: .source (.table s.target) :: optionalQueryWalk s.query ++ s.rows.flatMap exprsWalk
  | .update s =>
    .update s :: .source (.table s.target) :: s.assignments.flatMap assignmentWalk ++
      sourcesWalk s.sources ++ optionalWalk s.filter
  | .delete s =>
    .delete s :: .source (.table s.target) :: sourcesWalk s.sources ++ optionalWalk s.filter
  | .grant s => [.grant s]
  | .comment s => [.comment s]
  | .unrendered s => [.unrendered s]
  | .item i => itemsWalk [i]
  | .branch b => branchesWalk [b]
  | .order o => ordersWalk [o]
  | .cte c => ctesWalk [c]
  | .columnDef c => columnDefWalk c
  | .assignment a => assignmentWalk a
  | .dataType t => [.dataType t]
  | .reference r => [.reference r]

/-! ## The walk with a stack -/

/-- Visits the parts on a stack, at most the given number of them. -/
def walkStack : Nat → List Part → List Part
  | 0, _ => []
  | _, [] => []
  | steps + 1, part :: stack => part :: walkStack steps (part.children ++ stack)

/-- All nodes of a tree, parents first. -/
def Part.nodes (part : Part) : List Part :=
  (walkStack part.preorder.length [part]).filter Part.isNode

end SqlLayout.Tree
