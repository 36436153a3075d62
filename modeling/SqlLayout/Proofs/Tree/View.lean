import SqlLayout.Tree.Traverse
import SqlLayout.Tree.Walk

/-!
# Views of trees under a traversal

A view reads something off every expression, query and table source of a tree, parents first.  A
pass changes what a view reads in a way that can be said node by node: this module turns what the
pass does at one node into what it does to the whole tree.

## Implementation notes

`descend` is the traversal of everything below an expression.  A pass replaces an expression after
that, so a traversal is `descend` followed by the replacement.
-/

namespace SqlLayout.Tree

/-- What is read off the expressions, queries and table sources of a tree. -/
structure View (α : Type) where
  expr : Expr → List α := fun _ => []
  query : Query → List α := fun _ => []
  source : Source → List α := fun _ => []

namespace View

variable {α : Type} (v : View α)

/-- What is read off one part. -/
def part : Part → List α
  | .expr e => v.expr e
  | .query q => v.query q
  | .source s => v.source s
  | _ => []

/-- What is read off several parts. -/
def read (parts : List Part) : List α :=
  parts.flatMap v.part

theorem mem_read {parts : List Part} {x : α} :
    x ∈ v.read parts ↔ ∃ part ∈ parts, x ∈ v.part part :=
  List.mem_flatMap

@[simp] theorem read_nil : v.read [] = [] := rfl

@[simp] theorem read_cons (p : Part) (parts : List Part) :
    v.read (p :: parts) = v.part p ++ v.read parts := by
  simp [read]

@[simp] theorem read_append (front back : List Part) :
    v.read (front ++ back) = v.read front ++ v.read back := by
  simp [read]

@[simp] theorem read_flatMap {β : Type} (xs : List β) (f : β → List Part) :
    v.read (xs.flatMap f) = xs.flatMap fun x => v.read (f x) := by
  simp [read, List.flatMap_assoc]

end View

/-! ## Passes without effects -/

section

variable (pass : Pass Id)

/-- An expression with everything below it traversed. -/
def descend : Expr → Expr
  | .column name qualifier quoted => .column name qualifier quoted
  | .literal value kind => .literal value kind
  | .star qualifier => .star qualifier
  | .raw sql => .raw sql
  | .call name args bare => .call name (exprsTraverse pass args).run bare
  | .aggregate name argument distinct =>
    .aggregate name (optionalTraverse pass argument).run distinct
  | .index base index => .index (exprTraverse pass base).run index
  | .binary operator left right =>
    .binary operator (exprTraverse pass left).run (exprTraverse pass right).run
  | .unary operator operand => .unary operator (exprTraverse pass operand).run
  | .paren inner => .paren (exprTraverse pass inner).run
  | .between subject low high negated =>
    .between (exprTraverse pass subject).run (exprTraverse pass low).run
      (exprTraverse pass high).run negated
  | .inList subject values negated =>
    .inList (exprTraverse pass subject).run (exprsTraverse pass values).run negated
  | .inQuery subject query negated =>
    .inQuery (exprTraverse pass subject).run (queryTraverse pass query).run negated
  | .isNull subject negated => .isNull (exprTraverse pass subject).run negated
  | .existsIn query negated => .existsIn (queryTraverse pass query).run negated
  | .caseOf operand branches otherwise =>
    .caseOf (optionalTraverse pass operand).run (branchesTraverse pass branches).run
      (optionalTraverse pass otherwise).run
  | .cast operand type shorthand safe =>
    .cast (exprTraverse pass operand).run type shorthand safe
  | .window function partition order frame =>
    .window (exprTraverse pass function).run (exprsTraverse pass partition).run
      (ordersTraverse pass order).run frame
  | .subquery query => .subquery (queryTraverse pass query).run

theorem exprTraverse_run (e : Expr) :
    (exprTraverse pass e).run = (pass.expr (descend pass e)).run := by
  cases e <;> simp [exprTraverse, descend]

/-- Everything below an expression. -/
def exprBelow (e : Expr) : List Part :=
  (exprWalk e).tail

/-- What a pass does at each node turns the second view into the first one: reading a traversed tree
with the first is reading the tree itself with the second. -/
structure Pulls {α : Type} (v w : View α) : Prop where
  column : ∀ name qualifier quoted,
    (pass.expr (.column name qualifier quoted)).run = .column name qualifier quoted
  expr : ∀ e, v.read (exprWalk (pass.expr (descend pass e)).run) =
    w.expr e ++ v.read (exprBelow (descend pass e))
  query : ∀ q, v.query (queryTraverse pass q).run = w.query q
  source : ∀ s, v.source (sourceTraverse pass s).run = w.source s
  clears : ∀ q, (pass.clears q).run = true → w.read (exprsWalk q.groupBy) = []

variable {pass} {α : Type} {v w : View α}

mutual

theorem Pulls.read_expr (h : Pulls pass v w) (e : Expr) :
    v.read (exprWalk (exprTraverse pass e).run) = w.read (exprWalk e) := by
  rw [exprTraverse_run, h.expr]
  cases e with
  | column name qualifier quoted => simp [exprBelow, descend, exprWalk, View.part]
  | literal value kind => simp [exprBelow, descend, exprWalk, View.part]
  | star qualifier => simp [exprBelow, descend, exprWalk, View.part]
  | raw sql => simp [exprBelow, descend, exprWalk, View.part]
  | call name args bare =>
      simp [exprBelow, descend, exprWalk, View.part, h.read_exprs args]
  | aggregate name argument distinct =>
      simp [exprBelow, descend, exprWalk, View.part, h.read_optional argument]
  | index base index => simp [exprBelow, descend, exprWalk, View.part, h.read_expr base]
  | binary operator left right =>
      simp [exprBelow, descend, exprWalk, View.part, h.read_expr left, h.read_expr right]
  | unary operator operand =>
      simp [exprBelow, descend, exprWalk, View.part, h.read_expr operand]
  | paren inner => simp [exprBelow, descend, exprWalk, View.part, h.read_expr inner]
  | between subject low high negated =>
      simp [exprBelow, descend, exprWalk, View.part, h.read_expr subject, h.read_expr low,
        h.read_expr high]
  | inList subject values negated =>
      simp [exprBelow, descend, exprWalk, View.part, h.read_expr subject,
        h.read_exprs values]
  | inQuery subject query negated =>
      simp [exprBelow, descend, exprWalk, View.part, h.read_expr subject,
        h.read_query query]
  | isNull subject negated =>
      simp [exprBelow, descend, exprWalk, View.part, h.read_expr subject]
  | existsIn query negated =>
      simp [exprBelow, descend, exprWalk, View.part, h.read_query query]
  | caseOf operand branches otherwise =>
      simp [exprBelow, descend, exprWalk, View.part, h.read_optional operand,
        h.read_branches branches, h.read_optional otherwise]
  | cast operand type shorthand safe =>
      simp [exprBelow, descend, exprWalk, View.part, h.read_expr operand]
  | window function partition order frame =>
      simp [exprBelow, descend, exprWalk, View.part, h.read_expr function,
        h.read_exprs partition, h.read_orders order]
  | subquery query => simp [exprBelow, descend, exprWalk, View.part, h.read_query query]

theorem Pulls.read_exprs (h : Pulls pass v w) (es : List Expr) :
    v.read (exprsWalk (exprsTraverse pass es).run) = w.read (exprsWalk es) := by
  cases es with
  | nil => simp [exprsTraverse, exprsWalk]
  | cons e rest =>
      simp [exprsTraverse, exprsWalk, h.read_expr e, h.read_exprs rest]

theorem Pulls.read_optional (h : Pulls pass v w) (e : Option Expr) :
    v.read (optionalWalk (optionalTraverse pass e).run) = w.read (optionalWalk e) := by
  cases e with
  | none => simp [optionalTraverse, optionalWalk]
  | some e => simp [optionalTraverse, optionalWalk, h.read_expr e]

theorem Pulls.read_branches (h : Pulls pass v w) (bs : List Branch) :
    v.read (branchesWalk (branchesTraverse pass bs).run) = w.read (branchesWalk bs) := by
  match bs with
  | [] => simp [branchesTraverse, branchesWalk]
  | .mk condition result :: rest =>
      simp [branchesTraverse, branchesWalk, View.part, h.read_expr condition,
        h.read_expr result, h.read_branches rest]

theorem Pulls.read_orders (h : Pulls pass v w) (os : List OrderItem) :
    v.read (ordersWalk (ordersTraverse pass os).run) = w.read (ordersWalk os) := by
  match os with
  | [] => simp [ordersTraverse, ordersWalk]
  | .mk key descending nulls :: rest =>
      simp [ordersTraverse, ordersWalk, View.part, h.read_expr key, h.read_orders rest]

theorem Pulls.read_items (h : Pulls pass v w) (items : List SelectItem) :
    v.read (itemsWalk (itemsTraverse pass items).run) = w.read (itemsWalk items) := by
  match items with
  | [] => simp [itemsTraverse, itemsWalk]
  | .mk value label :: rest =>
      simp [itemsTraverse, itemsWalk, View.part, h.read_expr value, h.read_items rest]

theorem Pulls.read_source (h : Pulls pass v w) (s : Source) :
    v.read (sourceWalk (sourceTraverse pass s).run) = w.read (sourceWalk s) := by
  have hs := h.source s
  match s with
  | .table table =>
      simp only [sourceTraverse] at hs ⊢
      simpa [sourceWalk, View.part] using hs
  | .derived label pivot query =>
      simp only [sourceTraverse] at hs ⊢
      simpa [sourceWalk, View.part, h.read_query query] using hs

theorem Pulls.read_sources (h : Pulls pass v w) (ss : List Source) :
    v.read (sourcesWalk (sourcesTraverse pass ss).run) = w.read (sourcesWalk ss) := by
  cases ss with
  | nil => simp [sourcesTraverse, sourcesWalk]
  | cons s rest =>
      simp [sourcesTraverse, sourcesWalk, h.read_source s, h.read_sources rest]

theorem Pulls.read_joins (h : Pulls pass v w) (js : List Join) :
    v.read (joinsWalk (joinsTraverse pass js).run) = w.read (joinsWalk js) := by
  match js with
  | [] => simp [joinsTraverse, joinsWalk]
  | .mk keyword source condition shared :: rest =>
      simp [joinsTraverse, joinsWalk, View.part, h.read_source source,
        h.read_optional condition, h.read_joins rest]

theorem Pulls.read_ctes (h : Pulls pass v w) (cs : List Cte) :
    v.read (ctesWalk (ctesTraverse pass cs).run) = w.read (ctesWalk cs) := by
  match cs with
  | [] => simp [ctesTraverse, ctesWalk]
  | .mk name columns query :: rest =>
      simp [ctesTraverse, ctesWalk, View.part, h.read_query query, h.read_ctes rest]

theorem Pulls.read_query (h : Pulls pass v w) (q : Query) :
    v.read (queryWalk (queryTraverse pass q).run) = w.read (queryWalk q) := by
  have hq := h.query q
  have hc := h.clears q
  obtain ⟨cleared, hcleared⟩ : ∃ cleared, (pass.clears q).run = cleared := ⟨_, rfl⟩
  match q with
  | { arrayAccesses, ctes, distinct, columns, sources, joins, filter, groupBy, groupByAll, having,
      qualify, orderBy, limit, offset, setOperator, next } =>
      have hg : v.read (exprsWalk (if cleared then [] else (exprsTraverse pass groupBy).run)) =
          w.read (exprsWalk groupBy) := by
        cases cleared with
        | false => simp [h.read_exprs groupBy]
        | true => simp [exprsWalk, hc hcleared]
      simp only [queryTraverse] at hq ⊢
      simp only [Id.run_bind, Id.run_pure, hcleared] at hq ⊢
      simp [queryWalk, View.part, hq, hg, h.read_ctes ctes, h.read_items columns,
        h.read_sources sources, h.read_joins joins, h.read_optional filter,
        h.read_optional having, h.read_optional qualify, h.read_orders orderBy,
        h.read_optional limit, h.read_optional offset, h.read_optionalQuery next]

theorem Pulls.read_optionalQuery (h : Pulls pass v w) (q : Option Query) :
    v.read (optionalQueryWalk (optionalQueryTraverse pass q).run) =
      w.read (optionalQueryWalk q) := by
  cases q with
  | none => simp [optionalQueryTraverse, optionalQueryWalk]
  | some q => simp [optionalQueryTraverse, optionalQueryWalk, h.read_query q]

end

theorem Pulls.read_table (h : Pulls pass v w) (table : TableRef) :
    v.source (.table (tableTraverse pass table).run) = w.source (.table table) := by
  simpa [sourceTraverse, tableTraverse] using h.source (.table table)

theorem Pulls.read_columnDef (h : Pulls pass v w) (column : ColumnDef) :
    v.read (columnDefWalk (columnDefTraverse pass column).run) = w.read (columnDefWalk column) := by
  have hd := h.read_optional column.default
  cases htype : column.type <;> cases hreferences : column.references <;>
    simp [columnDefTraverse, columnDefWalk, View.part, htype, hreferences, hd]

theorem Pulls.read_assignment (h : Pulls pass v w) (a : Assignment) :
    v.read (assignmentWalk (assignmentTraverse pass a).run) = w.read (assignmentWalk a) := by
  have hc := h.read_expr a.column.expr
  have hv := h.read_expr a.value
  have hk := h.column a.column.name a.column.qualifier a.column.quoted
  simp [ColumnName.expr, exprTraverse, hk] at hc
  simp [assignmentTraverse, assignmentWalk, View.part, ColumnName.expr, hk, hc, hv]

/-- A pass on a whole statement turns the second view into the first one. -/
theorem Pulls.read_statement (h : Pulls pass v w) (s : Statement) :
    v.read (statementTraverse pass s).run.part.preorder = w.read s.part.preorder := by
  cases s with
  | select query =>
      simp [statementTraverse, Statement.part, Part.preorder, h.read_query query]
  | create node =>
      cases hlike : node.like <;>
        simp [statementTraverse, Statement.part, Part.preorder, View.part, hlike, h.read_table,
          h.read_columnDef, h.read_optionalQuery, List.flatMap_map]
  | insert node =>
      simp [statementTraverse, Statement.part, Part.preorder, View.part, h.read_table,
        h.read_optionalQuery, h.read_exprs, List.flatMap_map]
  | update node =>
      simp [statementTraverse, Statement.part, Part.preorder, View.part, h.read_table,
        h.read_assignment, h.read_sources, h.read_optional, List.flatMap_map]
  | delete node =>
      simp [statementTraverse, Statement.part, Part.preorder, View.part, h.read_table,
        h.read_sources, h.read_optional]
  | grant node => simp [statementTraverse, Statement.part, Part.preorder, View.part]
  | comment node => simp [statementTraverse, Statement.part, Part.preorder, View.part]
  | unrendered node => simp [statementTraverse, Statement.part, Part.preorder, View.part]

end

end SqlLayout.Tree
