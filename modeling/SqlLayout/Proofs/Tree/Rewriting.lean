import SqlLayout.Proofs.Tree.Children
import SqlLayout.Tree.Traverse

/-!
# Rewriting fields and traversing statements

Rewriting the fields of a statement bottom-up, with a replacement of expressions, is the traversal
of the statement with that replacement.
-/

namespace SqlLayout.Tree

open Value

section

variable {m : Type → Type} [Monad m]

/-- The pass that replaces expressions. -/
def Pass.exprs (f : Expr → m Expr) : Pass m :=
  { Pass.keep m with expr := f }

/-- A replacement on fields that replaces expressions and keeps other nodes.  A column stays a
column. -/
structure Rewrites (replace : Value → m Value) (f : Expr → m Expr) : Prop where
  expr : ∀ e, replace (exprValue e) = exprValue <$> f e
  other : ∀ kind fields, kind.isExpr = false →
    replace (.part kind fields) = pure (.part kind fields)
  column : ∀ c : ColumnName, ∃ g : m ColumnName, f c.expr = ColumnName.expr <$> g

variable {replace : Value → m Value} {f : Expr → m Expr}

@[simp] theorem exprs_expr : (Pass.exprs f).expr = f := rfl
@[simp] theorem exprs_marks (marks : TableMarks) : (Pass.exprs f).marks marks = pure marks := rfl
@[simp] theorem exprs_clears (q : Query) : (Pass.exprs f).clears q = pure false := rfl

/-! ## Rewriting lists and data -/

@[simp] theorem transform_datum (d : Datum) :
    (Value.datum d).transform replace = pure (.datum d) := by
  simp only [transform]

@[simp] theorem transform_record (r : Placeholder.Record) :
    (Value.record r).transform replace = pure (.record r) := by
  simp only [transform]

@[simp] theorem transform_optional_of_data {α : Type} {g : α → Value}
    (h : ∀ x, (g x).transform replace = pure (g x)) (x : Option α) :
    (Value.optional g x).transform replace = pure (.optional g x) := by
  cases x with
  | none => exact transform_datum _
  | some y => exact h y

@[simp] theorem transform_text? (s : Option String) :
    (text? s).transform replace = pure (text? s) :=
  transform_optional_of_data (fun _ => transform_datum _) s

variable [LawfulMonad m]

@[simp] theorem transform_list (values : List Value) :
    (Value.list values).transform replace = Value.list <$> transformAll replace values := by
  simp [transform]

theorem transformAll_of_data {α : Type} {g : α → Value}
    (h : ∀ x, (g x).transform replace = pure (g x)) (xs : List α) :
    transformAll replace (xs.map g) = pure (xs.map g) := by
  induction xs with
  | nil => rfl
  | cons x rest ih => simp [transformAll, h, ih]

@[simp] theorem transformAll_texts (ss : List String) :
    transformAll replace (ss.map text) = pure (ss.map text) :=
  transformAll_of_data (fun _ => transform_datum _) ss

@[simp] theorem transformAll_records {α : Type} (g : α → Placeholder.Record) (xs : List α) :
    transformAll replace (xs.map fun x => .record (g x)) = pure (xs.map fun x => .record (g x)) :=
  transformAll_of_data (fun _ => transform_record _) xs

theorem transform_optional {α : Type} {g : α → Value} {t : α → m α}
    (h : ∀ x, (g x).transform replace = g <$> t x) (x : Option α) :
    (Value.optional g x).transform replace = .optional g <$> x.mapM t := by
  cases x with
  | none => simp [Value.optional]
  | some y => simp [Value.optional, h]

theorem transformAll_map {α : Type} {g : α → Value} {t : α → m α}
    (h : ∀ x, (g x).transform replace = g <$> t x) (xs : List α) :
    transformAll replace (xs.map g) = List.map g <$> xs.mapM t := by
  induction xs with
  | nil => simp [transformAll]
  | cons x rest ih => simp [transformAll, h, ih]

/-! ## Expressions, queries and sources -/

@[simp] theorem transform_dataType (t : DataType) : t.value.transform replace = pure t.value := by
  simp [DataType.value, transform, transformAll, Kind.isNode]

theorem transform_table (h : Rewrites replace f) (table : TableRef) :
    table.value.transform replace = TableRef.value <$> tableTraverse (.exprs f) table := by
  simp [TableRef.value, transform, transformAll, Kind.isNode, h.other .table _ rfl, tableTraverse]

mutual

theorem transform_expr (h : Rewrites replace f) (e : Expr) :
    (exprValue e).transform replace = exprValue <$> exprTraverse (.exprs f) e := by
  -- the replacement of the rebuilt expression is folded back into its replacement by fields
  cases e with
  | call name args bare =>
      simp [exprValue, transform, transformAll, exprTraverse, Kind.isNode, ← h.expr,
        transform_exprs h args]
  | aggregate name argument distinct =>
      simp [exprValue, transform, transformAll, exprTraverse, Kind.isNode, ← h.expr,
        transform_optionalExpr h argument]
  | index base index =>
      simp [exprValue, transform, transformAll, exprTraverse, Kind.isNode, ← h.expr,
        transform_expr h base]
  | binary operator left right =>
      simp [exprValue, transform, transformAll, exprTraverse, Kind.isNode, ← h.expr,
        transform_expr h left, transform_expr h right]
  | unary operator operand =>
      simp [exprValue, transform, transformAll, exprTraverse, Kind.isNode, ← h.expr,
        transform_expr h operand]
  | paren inner =>
      simp [exprValue, transform, transformAll, exprTraverse, Kind.isNode, ← h.expr,
        transform_expr h inner]
  | between subject low high negated =>
      simp [exprValue, transform, transformAll, exprTraverse, Kind.isNode, ← h.expr,
        transform_expr h subject, transform_expr h low, transform_expr h high]
  | inList subject values negated =>
      simp [exprValue, transform, transformAll, exprTraverse, Kind.isNode, ← h.expr,
        transform_expr h subject, transform_exprs h values]
  | inQuery subject query negated =>
      simp [exprValue, transform, transformAll, exprTraverse, Kind.isNode, ← h.expr,
        transform_expr h subject, transform_query h query]
  | isNull subject negated =>
      simp [exprValue, transform, transformAll, exprTraverse, Kind.isNode, ← h.expr,
        transform_expr h subject]
  | existsIn query negated =>
      simp [exprValue, transform, transformAll, exprTraverse, Kind.isNode, ← h.expr,
        transform_query h query]
  | caseOf operand branches otherwise =>
      simp [exprValue, transform, transformAll, exprTraverse, Kind.isNode, ← h.expr,
        transform_optionalExpr h operand, transform_branches h branches,
        transform_optionalExpr h otherwise]
  | cast operand type shorthand safe =>
      simp [exprValue, transform, transformAll, exprTraverse, Kind.isNode, ← h.expr,
        transform_expr h operand]
  | window function partition order frame =>
      simp [exprValue, transform, transformAll, exprTraverse, Kind.isNode, ← h.expr,
        transform_expr h function, transform_exprs h partition, transform_orders h order]
  | subquery query =>
      simp [exprValue, transform, transformAll, exprTraverse, Kind.isNode, ← h.expr,
        transform_query h query]
  | _ => simp [exprValue, transform, transformAll, exprTraverse, Kind.isNode, ← h.expr]

theorem transform_exprs (h : Rewrites replace f) (es : List Expr) :
    transformAll replace (es.map exprValue) =
      List.map exprValue <$> exprsTraverse (.exprs f) es := by
  cases es with
  | nil => simp [transformAll, exprsTraverse]
  | cons e rest => simp [transformAll, exprsTraverse, transform_expr h e, transform_exprs h rest]

theorem transform_optionalExpr (h : Rewrites replace f) (e : Option Expr) :
    (Value.optional exprValue e).transform replace =
      .optional exprValue <$> optionalTraverse (.exprs f) e := by
  cases e with
  | none => simp [Value.optional, optionalTraverse]
  | some e => simp [Value.optional, optionalTraverse, transform_expr h e]

theorem transform_branches (h : Rewrites replace f) (bs : List Branch) :
    transformAll replace (bs.map branchValue) =
      List.map branchValue <$> branchesTraverse (.exprs f) bs := by
  match bs with
  | [] => simp [transformAll, branchesTraverse]
  | .mk condition result :: rest =>
      simp [transformAll, branchValue, branchesTraverse, transform, Kind.isNode,
        transform_expr h condition, transform_expr h result, transform_branches h rest]

theorem transform_orders (h : Rewrites replace f) (os : List OrderItem) :
    transformAll replace (os.map orderValue) =
      List.map orderValue <$> ordersTraverse (.exprs f) os := by
  match os with
  | [] => simp [transformAll, ordersTraverse]
  | .mk key descending nulls :: rest =>
      simp [transformAll, orderValue, ordersTraverse, transform, Kind.isNode, transform_expr h key,
        transform_orders h rest, transform_optional_of_data fun b => transform_datum (.flag b),
        transform_optional_of_data fun n => transform_datum (.nullsPlace n)]

theorem transform_items (h : Rewrites replace f) (items : List SelectItem) :
    transformAll replace (items.map itemValue) =
      List.map itemValue <$> itemsTraverse (.exprs f) items := by
  match items with
  | [] => simp [transformAll, itemsTraverse]
  | .mk value label :: rest =>
      simp [transformAll, itemValue, itemsTraverse, transform, Kind.isNode, transform_expr h value,
        transform_items h rest]

theorem transform_source (h : Rewrites replace f) (s : Source) :
    (sourceValue s).transform replace = sourceValue <$> sourceTraverse (.exprs f) s := by
  cases s with
  | table table => simp [sourceValue, sourceTraverse, transform_table h, tableTraverse]
  | derived label pivot query =>
      simp [sourceValue, sourceTraverse, transform, transformAll, Kind.isNode,
        h.other .derived _ rfl, transform_query h query]

theorem transform_sources (h : Rewrites replace f) (ss : List Source) :
    transformAll replace (ss.map sourceValue) =
      List.map sourceValue <$> sourcesTraverse (.exprs f) ss := by
  cases ss with
  | nil => simp [transformAll, sourcesTraverse]
  | cons s rest =>
      simp [transformAll, sourcesTraverse, transform_source h s, transform_sources h rest]

theorem transform_joins (h : Rewrites replace f) (js : List Join) :
    transformAll replace (js.map joinValue) =
      List.map joinValue <$> joinsTraverse (.exprs f) js := by
  match js with
  | [] => simp [transformAll, joinsTraverse]
  | .mk keyword source condition shared :: rest =>
      simp [transformAll, joinValue, joinsTraverse, transform, Kind.isNode, h.other .join _ rfl,
        transform_source h source, transform_optionalExpr h condition, transform_joins h rest]

theorem transform_ctes (h : Rewrites replace f) (cs : List Cte) :
    transformAll replace (cs.map cteValue) = List.map cteValue <$> ctesTraverse (.exprs f) cs := by
  match cs with
  | [] => simp [transformAll, ctesTraverse]
  | .mk name columns query :: rest =>
      simp [transformAll, cteValue, ctesTraverse, transform, Kind.isNode, transform_query h query,
        transform_ctes h rest]

theorem transform_query (h : Rewrites replace f) (q : Query) :
    (queryValue q).transform replace = queryValue <$> queryTraverse (.exprs f) q := by
  match q with
  | { arrayAccesses, ctes, distinct, columns, sources, joins, filter, groupBy, groupByAll, having,
      qualify, orderBy, limit, offset, setOperator, next } =>
      simp only [queryValue, cteValues_eq, itemValues_eq, sourceValues_eq, joinValues_eq,
        optionalValue_eq, exprValues_eq, orderValues_eq, optionalQueryValue_eq, transform,
        transformAll, transformAll_records,
        transform_ctes h ctes, transform_items h columns, transform_sources h sources,
        transform_joins h joins, transform_optionalExpr h filter, transform_exprs h groupBy,
        transform_optionalExpr h having,
        transform_optionalExpr h qualify, transform_orders h orderBy,
        transform_optionalExpr h limit, transform_optionalExpr h offset, transform_text?,
        transform_optionalQuery h next, Kind.isNode,
        h.other .select _ rfl, queryTraverse, exprs_clears, bind_map_left, map_bind, pure_bind,
        map_pure, bind_pure_comp, Functor.map_map, if_true, Bool.false_eq_true, if_false,
        Bool.false_or]

theorem transform_optionalQuery (h : Rewrites replace f) (q : Option Query) :
    (Value.optional queryValue q).transform replace =
      .optional queryValue <$> optionalQueryTraverse (.exprs f) q := by
  cases q with
  | none => simp [Value.optional, optionalQueryTraverse]
  | some q => simp [Value.optional, optionalQueryTraverse, transform_query h q]

end

/-! ## Statements -/

theorem transform_columnDef (h : Rewrites replace f) (c : ColumnDef) :
    c.value.transform replace = ColumnDef.value <$> columnDefTraverse (.exprs f) c := by
  have hreference (r : Reference) : r.value.transform replace = pure r.value := by
    simp [Reference.value, transform, transformAll, Kind.isNode]
  simp [ColumnDef.value, columnDefTraverse, transform, transformAll, Kind.isNode,
    transform_optionalExpr h, transform_optional_of_data hreference]

theorem transform_assignment (h : Rewrites replace f) (a : Assignment) :
    a.asValue.transform replace = Assignment.asValue <$> assignmentTraverse (.exprs f) a := by
  obtain ⟨g, hg⟩ := h.column a.column
  have hcolumn : (exprValue a.column.expr).transform replace =
      (fun c => exprValue c.expr) <$> g := by
    have htraverse : exprTraverse (.exprs f) a.column.expr = f a.column.expr := by
      simp [ColumnName.expr, exprTraverse]
    simp [transform_expr h, htraverse, hg]
  simp only [Assignment.asValue, assignmentTraverse, transform, transformAll, Kind.isNode, hcolumn,
    transform_expr h, exprs_expr, hg, bind_map_left, map_bind, bind_assoc, pure_bind,
    Bool.false_eq_true, if_false]
  simp [ColumnName.expr, Assignment.asValue]

theorem transform_row (h : Rewrites replace f) (row : List Expr) :
    (Value.list (row.map exprValue)).transform replace =
      (fun row => .list (row.map exprValue)) <$> exprsTraverse (.exprs f) row := by
  simp [transform_exprs h]

/-- Rewriting the fields of a statement bottom-up is traversing the statement. -/
theorem transform_statement (h : Rewrites replace f) (s : Statement) :
    s.part.value.transform replace =
      (fun t => t.part.value) <$> statementTraverse (.exprs f) s := by
  cases s with
  | select query => simp [Statement.part, Part.value, statementTraverse, transform_query h]
  | create s =>
      simp [Statement.part, Part.value, statementTraverse, transform, transformAll, Kind.isNode,
        h.other .create _ rfl, transform_table h, transformAll_map (transform_columnDef h),
        transform_optional (transform_table h), transform_optionalQuery h,
        transform_optional_of_data fun r => transform_record (.dynamicTable r)]
  | insert s =>
      simp [Statement.part, Part.value, statementTraverse, transform, transformAll, Kind.isNode,
        h.other .insert _ rfl, transform_table h, transform_optionalQuery h,
        transformAll_map (transform_row h)]
  | update s =>
      simp [Statement.part, Part.value, statementTraverse, transform, transformAll, Kind.isNode,
        h.other .update _ rfl, transform_table h, transformAll_map (transform_assignment h),
        transform_sources h, transform_optionalExpr h]
  | delete s =>
      simp [Statement.part, Part.value, statementTraverse, transform, transformAll, Kind.isNode,
        h.other .delete _ rfl, transform_table h, transform_sources h, transform_optionalExpr h]
  | grant s =>
      simp [Statement.part, Part.value, statementTraverse, transform, transformAll, Kind.isNode,
        h.other .grant _ rfl]
  | comment s =>
      simp [Statement.part, Part.value, statementTraverse, transform, transformAll, Kind.isNode,
        h.other .comment _ rfl]
  | unrendered s =>
      simp [Statement.part, Part.value, statementTraverse, transform, transformAll, Kind.isNode,
        h.other .unrendered _ rfl]

end

end SqlLayout.Tree
