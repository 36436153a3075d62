import SqlLayout.Proofs.Tree.View

/-!
# Passes that clear groupings

A pass with a state decides query by query whether a grouping is cleared.  When it only clears
groupings by one column, it leaves the tree as it is up to such groupings, and its state has seen
the queries of the tree in the order of the walk.

## Implementation notes

`ungroup` clears every grouping by one column, so two trees that it makes equal differ in such
groupings only.
-/

namespace SqlLayout.Tree

/-- Whether a grouping is by one column and nothing else. -/
def soleColumn : List Expr → Bool
  | [.column _ _ _] => true
  | _ => false

/-- The pass that clears every grouping by one column. -/
def ungroup : Pass Id :=
  { Pass.keep Id with clears := fun q => soleColumn q.groupBy }

/-- The pass that clears the groupings for which a decision says so. -/
def clearing {σ : Type} (decision : Query → StateM σ Bool) : Pass (StateM σ) :=
  { Pass.keep (StateM σ) with clears := decision }

/-- The state after a part: only a query asks for a decision. -/
def visit {σ : Type} (decision : Query → StateM σ Bool) (state : σ) : Part → σ
  | .query q => ((decision q).run state).2
  | _ => state

/-- The state after the queries among parts were decided on one after the other. -/
def afterQueries {σ : Type} (decision : Query → StateM σ Bool) (parts : List Part) (state : σ) :
    σ :=
  parts.foldl (visit decision) state

section

variable {σ : Type} {decision : Query → StateM σ Bool}

theorem run_bind {α β : Type} (action : StateM σ α) (next : α → StateM σ β) (state : σ) :
    (action >>= next).run state = (next (action.run state).1).run (action.run state).2 := rfl

theorem run_pure {α : Type} (value : α) (state : σ) :
    (pure value : StateM σ α).run state = (value, state) := rfl

theorem clearing_expr : (clearing decision).expr = pure := rfl

theorem clearing_marks : (clearing decision).marks = pure := rfl

theorem clearing_clears : (clearing decision).clears = decision := rfl

theorem ungroup_expr : ungroup.expr = pure := rfl

theorem ungroup_marks : ungroup.marks = pure := rfl

theorem ungroup_clears (q : Query) : (ungroup.clears q).run = soleColumn q.groupBy := rfl

theorem afterQueries_nil (state : σ) : afterQueries decision [] state = state := rfl

theorem afterQueries_cons (part : Part) (parts : List Part) (state : σ) :
    afterQueries decision (part :: parts) state =
      afterQueries decision parts (visit decision state part) := rfl

theorem afterQueries_append (front back : List Part) (state : σ) :
    afterQueries decision (front ++ back) state =
      afterQueries decision back (afterQueries decision front state) :=
  List.foldl_append

/-- Parts that are no queries leave the state alone. -/
theorem afterQueries_map {α : Type} {f : α → Part}
    (hf : ∀ x state, visit decision state (f x) = state) (xs : List α) (state : σ) :
    afterQueries decision (xs.map f) state = state := by
  induction xs with
  | nil => rfl
  | cons x rest ih => simp only [List.map_cons, afterQueries_cons, hf, ih]

theorem soleColumn_ungroup (es : List Expr) :
    soleColumn (exprsTraverse ungroup es).run = soleColumn es := by
  match es with
  | [] => rfl
  | [e] => cases e <;> rfl
  | _ :: _ :: _ => simp [exprsTraverse, soleColumn]

/-- A decision that only clears groupings by one column. -/
def ClearsColumns (decision : Query → StateM σ Bool) : Prop :=
  ∀ q state, ((decision q).run state).1 = true → soleColumn q.groupBy = true

mutual

theorem ClearsColumns.expr (h : ClearsColumns decision) (e : Expr) (state : σ) :
    (exprTraverse ungroup ((exprTraverse (clearing decision) e).run state).1).run =
        (exprTraverse ungroup e).run ∧
      ((exprTraverse (clearing decision) e).run state).2 =
        afterQueries decision (exprWalk e) state := by
  cases e with
  | column name qualifier quoted => exact ⟨rfl, rfl⟩
  | literal value kind => exact ⟨rfl, rfl⟩
  | star qualifier => exact ⟨rfl, rfl⟩
  | raw sql => exact ⟨rfl, rfl⟩
  | call name args bare =>
      simp only [exprTraverse, exprWalk, run_bind, run_pure, Id.run_bind, Id.run_pure,
        clearing_expr, ungroup_expr, afterQueries_cons, visit, h.exprs args, and_self]
  | aggregate name argument distinct =>
      simp only [exprTraverse, exprWalk, run_bind, run_pure, Id.run_bind, Id.run_pure,
        clearing_expr, ungroup_expr, afterQueries_cons, visit, h.optional argument, and_self]
  | index base index =>
      simp only [exprTraverse, exprWalk, run_bind, run_pure, Id.run_bind, Id.run_pure,
        clearing_expr, ungroup_expr, afterQueries_cons, visit, h.expr base, and_self]
  | binary operator left right =>
      simp only [exprTraverse, exprWalk, run_bind, run_pure, Id.run_bind, Id.run_pure,
        clearing_expr, ungroup_expr, afterQueries_cons, visit, afterQueries_append, h.expr left,
        h.expr right, and_self]
  | unary operator operand =>
      simp only [exprTraverse, exprWalk, run_bind, run_pure, Id.run_bind, Id.run_pure,
        clearing_expr, ungroup_expr, afterQueries_cons, visit, h.expr operand, and_self]
  | paren inner =>
      simp only [exprTraverse, exprWalk, run_bind, run_pure, Id.run_bind, Id.run_pure,
        clearing_expr, ungroup_expr, afterQueries_cons, visit, h.expr inner, and_self]
  | between subject low high negated =>
      simp only [exprTraverse, exprWalk, run_bind, run_pure, Id.run_bind, Id.run_pure,
        clearing_expr, ungroup_expr, afterQueries_cons, visit, afterQueries_append, h.expr subject,
        h.expr low, h.expr high, and_self]
  | inList subject values negated =>
      simp only [exprTraverse, exprWalk, run_bind, run_pure, Id.run_bind, Id.run_pure,
        clearing_expr, ungroup_expr, afterQueries_cons, visit, afterQueries_append, h.expr subject,
        h.exprs values, and_self]
  | inQuery subject query negated =>
      simp only [exprTraverse, exprWalk, run_bind, run_pure, Id.run_bind, Id.run_pure,
        clearing_expr, ungroup_expr, afterQueries_cons, visit, afterQueries_append, h.expr subject,
        h.query query, and_self]
  | isNull subject negated =>
      simp only [exprTraverse, exprWalk, run_bind, run_pure, Id.run_bind, Id.run_pure,
        clearing_expr, ungroup_expr, afterQueries_cons, visit, h.expr subject, and_self]
  | existsIn query negated =>
      simp only [exprTraverse, exprWalk, run_bind, run_pure, Id.run_bind, Id.run_pure,
        clearing_expr, ungroup_expr, afterQueries_cons, visit, h.query query, and_self]
  | caseOf operand branches otherwise =>
      simp only [exprTraverse, exprWalk, run_bind, run_pure, Id.run_bind, Id.run_pure,
        clearing_expr, ungroup_expr, afterQueries_cons, visit, afterQueries_append,
        h.optional operand, h.branches branches, h.optional otherwise, and_self]
  | cast operand type shorthand safe =>
      simp only [exprTraverse, exprWalk, run_bind, run_pure, Id.run_bind, Id.run_pure,
        clearing_expr, ungroup_expr, afterQueries_cons, visit, afterQueries_append, h.expr operand,
        afterQueries_nil, and_self]
  | window function partition order frame =>
      simp only [exprTraverse, exprWalk, run_bind, run_pure, Id.run_bind, Id.run_pure,
        clearing_expr, ungroup_expr, afterQueries_cons, visit, afterQueries_append, h.expr function,
        h.exprs partition, h.orders order, and_self]
  | subquery query =>
      simp only [exprTraverse, exprWalk, run_bind, run_pure, Id.run_bind, Id.run_pure,
        clearing_expr, ungroup_expr, afterQueries_cons, visit, h.query query, and_self]

theorem ClearsColumns.exprs (h : ClearsColumns decision) (es : List Expr) (state : σ) :
    (exprsTraverse ungroup ((exprsTraverse (clearing decision) es).run state).1).run =
        (exprsTraverse ungroup es).run ∧
      ((exprsTraverse (clearing decision) es).run state).2 =
        afterQueries decision (exprsWalk es) state := by
  cases es with
  | nil => exact ⟨rfl, rfl⟩
  | cons e rest =>
      simp only [exprsTraverse, exprsWalk, run_bind, run_pure, Id.run_bind, Id.run_pure,
        afterQueries_append, h.expr e, h.exprs rest, and_self]

theorem ClearsColumns.optional (h : ClearsColumns decision) (e : Option Expr) (state : σ) :
    (optionalTraverse ungroup ((optionalTraverse (clearing decision) e).run state).1).run =
        (optionalTraverse ungroup e).run ∧
      ((optionalTraverse (clearing decision) e).run state).2 =
        afterQueries decision (optionalWalk e) state := by
  cases e with
  | none => exact ⟨rfl, rfl⟩
  | some e =>
      simp only [optionalTraverse, optionalWalk, run_bind, run_pure, Id.run_bind, Id.run_pure,
        h.expr e, and_self]

theorem ClearsColumns.branches (h : ClearsColumns decision) (bs : List Branch) (state : σ) :
    (branchesTraverse ungroup ((branchesTraverse (clearing decision) bs).run state).1).run =
        (branchesTraverse ungroup bs).run ∧
      ((branchesTraverse (clearing decision) bs).run state).2 =
        afterQueries decision (branchesWalk bs) state := by
  match bs with
  | [] => exact ⟨rfl, rfl⟩
  | .mk condition result :: rest =>
      simp only [branchesTraverse, branchesWalk, run_bind, run_pure, Id.run_bind, Id.run_pure,
        afterQueries_cons, visit, afterQueries_append, h.expr condition, h.expr result,
        h.branches rest, and_self]

theorem ClearsColumns.orders (h : ClearsColumns decision) (os : List OrderItem) (state : σ) :
    (ordersTraverse ungroup ((ordersTraverse (clearing decision) os).run state).1).run =
        (ordersTraverse ungroup os).run ∧
      ((ordersTraverse (clearing decision) os).run state).2 =
        afterQueries decision (ordersWalk os) state := by
  match os with
  | [] => exact ⟨rfl, rfl⟩
  | .mk key descending nulls :: rest =>
      simp only [ordersTraverse, ordersWalk, run_bind, run_pure, Id.run_bind, Id.run_pure,
        afterQueries_cons, visit, afterQueries_append, h.expr key, h.orders rest, and_self]

theorem ClearsColumns.items (h : ClearsColumns decision) (items : List SelectItem) (state : σ) :
    (itemsTraverse ungroup ((itemsTraverse (clearing decision) items).run state).1).run =
        (itemsTraverse ungroup items).run ∧
      ((itemsTraverse (clearing decision) items).run state).2 =
        afterQueries decision (itemsWalk items) state := by
  match items with
  | [] => exact ⟨rfl, rfl⟩
  | .mk value label :: rest =>
      simp only [itemsTraverse, itemsWalk, run_bind, run_pure, Id.run_bind, Id.run_pure,
        afterQueries_cons, visit, afterQueries_append, h.expr value, h.items rest, and_self]

theorem ClearsColumns.source (h : ClearsColumns decision) (s : Source) (state : σ) :
    (sourceTraverse ungroup ((sourceTraverse (clearing decision) s).run state).1).run =
        (sourceTraverse ungroup s).run ∧
      ((sourceTraverse (clearing decision) s).run state).2 =
        afterQueries decision (sourceWalk s) state := by
  match s with
  | .table table => exact ⟨rfl, rfl⟩
  | .derived label pivot query =>
      simp only [sourceTraverse, sourceWalk, run_bind, run_pure, Id.run_bind, Id.run_pure,
        clearing_marks, ungroup_marks, afterQueries_cons, visit, h.query query, and_self]

theorem ClearsColumns.sources (h : ClearsColumns decision) (ss : List Source) (state : σ) :
    (sourcesTraverse ungroup ((sourcesTraverse (clearing decision) ss).run state).1).run =
        (sourcesTraverse ungroup ss).run ∧
      ((sourcesTraverse (clearing decision) ss).run state).2 =
        afterQueries decision (sourcesWalk ss) state := by
  cases ss with
  | nil => exact ⟨rfl, rfl⟩
  | cons s rest =>
      simp only [sourcesTraverse, sourcesWalk, run_bind, run_pure, Id.run_bind, Id.run_pure,
        afterQueries_append, h.source s, h.sources rest, and_self]

theorem ClearsColumns.joins (h : ClearsColumns decision) (js : List Join) (state : σ) :
    (joinsTraverse ungroup ((joinsTraverse (clearing decision) js).run state).1).run =
        (joinsTraverse ungroup js).run ∧
      ((joinsTraverse (clearing decision) js).run state).2 =
        afterQueries decision (joinsWalk js) state := by
  match js with
  | [] => exact ⟨rfl, rfl⟩
  | .mk keyword source condition shared :: rest =>
      simp only [joinsTraverse, joinsWalk, run_bind, run_pure, Id.run_bind, Id.run_pure,
        afterQueries_cons, visit, afterQueries_append, h.source source, h.optional condition,
        h.joins rest, and_self]

theorem ClearsColumns.ctes (h : ClearsColumns decision) (cs : List Cte) (state : σ) :
    (ctesTraverse ungroup ((ctesTraverse (clearing decision) cs).run state).1).run =
        (ctesTraverse ungroup cs).run ∧
      ((ctesTraverse (clearing decision) cs).run state).2 =
        afterQueries decision (ctesWalk cs) state := by
  match cs with
  | [] => exact ⟨rfl, rfl⟩
  | .mk name columns query :: rest =>
      simp only [ctesTraverse, ctesWalk, run_bind, run_pure, Id.run_bind, Id.run_pure,
        afterQueries_cons, visit, afterQueries_append, h.query query, h.ctes rest, and_self]

theorem ClearsColumns.query (h : ClearsColumns decision) (q : Query) (state : σ) :
    (queryTraverse ungroup ((queryTraverse (clearing decision) q).run state).1).run =
        (queryTraverse ungroup q).run ∧
      ((queryTraverse (clearing decision) q).run state).2 =
        afterQueries decision (queryWalk q) state := by
  have hd := h q state
  obtain ⟨cleared, hcleared⟩ : ∃ cleared, ((decision q).run state).1 = cleared := ⟨_, rfl⟩
  match q with
  | { arrayAccesses, ctes, distinct, columns, sources, joins, filter, groupBy, groupByAll, having,
      qualify, orderBy, limit, offset, setOperator, next } =>
      simp only [queryTraverse, queryWalk, run_bind, run_pure, Id.run_bind, Id.run_pure,
        clearing_clears, ungroup_clears, hcleared, afterQueries_cons, visit, afterQueries_append,
        h.ctes ctes, h.items columns, h.sources sources, h.joins joins, h.optional filter,
        h.exprs groupBy, h.optional having, h.optional qualify, h.orders orderBy, h.optional limit,
        h.optional offset, h.optionalQuery next]
      have hs (state : σ) :
          soleColumn ((exprsTraverse (clearing decision) groupBy).run state).1 =
            soleColumn groupBy := by
        rw [← soleColumn_ungroup, (h.exprs groupBy state).1, soleColumn_ungroup]
      cases cleared with
      | false =>
          obtain hg | hg := Bool.eq_false_or_eq_true (soleColumn groupBy) <;>
            simp [hs, hg, (h.exprs groupBy _).1]
      | true =>
          have hg : soleColumn groupBy = true := hd hcleared
          simp only [hg, and_true]
          rfl

theorem ClearsColumns.optionalQuery (h : ClearsColumns decision) (q : Option Query) (state : σ) :
    (optionalQueryTraverse ungroup
      ((optionalQueryTraverse (clearing decision) q).run state).1).run =
        (optionalQueryTraverse ungroup q).run ∧
      ((optionalQueryTraverse (clearing decision) q).run state).2 =
        afterQueries decision (optionalQueryWalk q) state := by
  cases q with
  | none => exact ⟨rfl, rfl⟩
  | some q =>
      simp only [optionalQueryTraverse, optionalQueryWalk, run_bind, run_pure, Id.run_bind,
        Id.run_pure, h.query q, and_self]

end

theorem clearing_table (table : TableRef) (state : σ) :
    (tableTraverse (clearing decision) table).run state = (table, state) := rfl

/-- What holds of one item of a list holds of the list. -/
theorem mapM_clears {α : Type} {f : α → StateM σ α} {g : α → Id α} {walk : α → List Part}
    (hf : ∀ x state, (g ((f x).run state).1).run = (g x).run ∧
      ((f x).run state).2 = afterQueries decision (walk x) state)
    (xs : List α) (state : σ) :
    (((xs.mapM f).run state).1.mapM g).run = (xs.mapM g).run ∧
      ((xs.mapM f).run state).2 = afterQueries decision (xs.flatMap walk) state := by
  induction xs generalizing state with
  | nil => exact ⟨rfl, rfl⟩
  | cons x rest ih =>
      simp only [List.mapM_cons, List.flatMap_cons, run_bind, run_pure, Id.run_bind, Id.run_pure,
        afterQueries_append, hf, ih, and_self]

theorem ClearsColumns.columnDef (h : ClearsColumns decision) (c : ColumnDef) (state : σ) :
    (columnDefTraverse ungroup ((columnDefTraverse (clearing decision) c).run state).1).run =
        (columnDefTraverse ungroup c).run ∧
      ((columnDefTraverse (clearing decision) c).run state).2 =
        afterQueries decision (columnDefWalk c) state := by
  simp only [columnDefTraverse, columnDefWalk, run_bind, run_pure, Id.run_bind, Id.run_pure,
    List.cons_append, afterQueries_cons, visit, afterQueries_append,
    afterQueries_map (f := Part.dataType) fun _ _ => rfl,
    afterQueries_map (f := Part.reference) fun _ _ => rfl, h.optional c.default, and_self]

theorem ClearsColumns.assignment (h : ClearsColumns decision) (a : Assignment) (state : σ) :
    (assignmentTraverse ungroup ((assignmentTraverse (clearing decision) a).run state).1).run =
        (assignmentTraverse ungroup a).run ∧
      ((assignmentTraverse (clearing decision) a).run state).2 =
        afterQueries decision (assignmentWalk a) state := by
  simp only [assignmentTraverse, assignmentWalk, ColumnName.expr, exprWalk, run_bind, run_pure,
    Id.run_bind, Id.run_pure, clearing_expr, ungroup_expr, afterQueries_cons, visit,
    afterQueries_append, afterQueries_nil, h.expr a.value, and_self]

/-- A statement keeps its tree up to groupings by one column, and the state has seen its queries. -/
theorem ClearsColumns.statement (h : ClearsColumns decision) (s : Statement) (state : σ) :
    (statementTraverse ungroup ((statementTraverse (clearing decision) s).run state).1).run =
        (statementTraverse ungroup s).run ∧
      ((statementTraverse (clearing decision) s).run state).2 =
        afterQueries decision s.part.preorder state := by
  cases s with
  | select query =>
      simp only [statementTraverse, Statement.part, Part.preorder, run_bind, run_pure, Id.run_bind,
        Id.run_pure, h.query query, and_self]
  | create node =>
      have hc := mapM_clears h.columnDef node.columns
      have hl (state : σ) : (node.like.mapM (tableTraverse (clearing decision))).run state =
          (node.like, state) := by
        cases node.like <;> rfl
      have hq := h.optionalQuery node.query
      simp only [statementTraverse, Statement.part, Part.preorder, run_bind, run_pure, Id.run_bind,
        Id.run_pure, clearing_table, afterQueries_cons, visit, afterQueries_append,
        List.cons_append, afterQueries_map (f := fun t => Part.source (.table t)) fun _ _ => rfl,
        hl, hc, hq, and_self]
  | insert node =>
      have hq := h.optionalQuery node.query
      have hr := mapM_clears h.exprs node.rows
      simp only [statementTraverse, Statement.part, Part.preorder, run_bind, run_pure, Id.run_bind,
        Id.run_pure, clearing_table, afterQueries_cons, visit, afterQueries_append,
        List.cons_append, hq, hr, and_self]
  | update node =>
      have ha := mapM_clears h.assignment node.assignments
      have hs := h.sources node.sources
      have hf := h.optional node.filter
      simp only [statementTraverse, Statement.part, Part.preorder, run_bind, run_pure, Id.run_bind,
        Id.run_pure, clearing_table, afterQueries_cons, visit, afterQueries_append,
        List.cons_append, ha, hs, hf, and_self]
  | delete node =>
      have hs := h.sources node.sources
      have hf := h.optional node.filter
      simp only [statementTraverse, Statement.part, Part.preorder, run_bind, run_pure, Id.run_bind,
        Id.run_pure, clearing_table, afterQueries_cons, visit, afterQueries_append,
        List.cons_append, hs, hf, and_self]
  | grant node => exact ⟨rfl, rfl⟩
  | comment node => exact ⟨rfl, rfl⟩
  | unrendered node => exact ⟨rfl, rfl⟩

/-- A view that does not look at groupings by one column reads the same before and after. -/
theorem ClearsColumns.read_statement {α : Type} {v : View α} (h : ClearsColumns decision)
    (hv : Pulls ungroup v v) (s : Statement) (state : σ) :
    v.read ((statementTraverse (clearing decision) s).run state).1.part.preorder =
      v.read s.part.preorder := by
  rw [← hv.read_statement, (h.statement s state).1, hv.read_statement]

end

end SqlLayout.Tree
