import SqlLayout.Proofs.Placeholder.Places

/-!
# How queries group after restoring

The pass over groupings takes the tokens of its records away one after the other.  Going through the
queries in the order of the walk, it turns a grouping by a token that is left into a grouping by all
columns and takes the token, so the tree afterwards groups by a token as many times less as there
are records of it.

## Implementation notes

`clearedKeys` goes through the parts of a tree with the state of the pass, and gives for each query
how it groups once the pass decided on it.
-/

namespace SqlLayout.Placeholder

open SqlLayout.Tree

section

variable {σ : Type} (decision : Query → StateM σ Bool)

/-- How a part groups once a decision was made on it: a cleared grouping is one by all columns. -/
def clearedKey (state : σ) : Part → List (Option String)
  | .query q => if ((decision q).run state).1 then [none] else groupKey q
  | _ => []

/-- How the queries among parts group once they were decided on one after the other. -/
def clearedKeys : List Part → σ → List (Option String)
  | [], _ => []
  | part :: rest, state =>
    clearedKey decision state part ++ clearedKeys rest (visit decision state part)

variable {decision}

theorem clearedKeys_cons (part : Part) (parts : List Part) (state : σ) :
    clearedKeys decision (part :: parts) state =
      clearedKey decision state part ++ clearedKeys decision parts (visit decision state part) :=
        rfl

theorem clearedKeys_append (front back : List Part) (state : σ) :
    clearedKeys decision (front ++ back) state =
      clearedKeys decision front state ++
        clearedKeys decision back (afterQueries decision front state) := by
  induction front generalizing state with
  | nil => rfl
  | cons part rest ih =>
      rw [List.cons_append, clearedKeys_cons, clearedKeys_cons, ih, List.append_assoc,
        afterQueries_cons]

/-- Parts that are no queries do not group. -/
theorem clearedKeys_map {α : Type} {f : α → Part}
    (hkey : ∀ x state, clearedKey decision state (f x) = [])
    (hvisit : ∀ x state, visit decision state (f x) = state) (xs : List α) (state : σ) :
    clearedKeys decision (xs.map f) state = [] := by
  induction xs with
  | nil => rfl
  | cons x rest ih => rw [List.map_cons, clearedKeys_cons, hkey, hvisit, ih, List.nil_append]

theorem groupKeyOf_clearing (byAll : Bool) (es : List Expr) (state : σ) :
    groupKeyOf byAll ((exprsTraverse (clearing decision) es).run state).1 =
      groupKeyOf byAll es := by
  match es with
  | [] => rfl
  | [e] => cases e <;> rfl
  | _ :: _ :: _ =>
      simp only [exprsTraverse, run_bind, run_pure]
      simp [groupKeyOf]

theorem groupKeys_expr (e : Expr) : groupKeys.part (.expr e) = [] := rfl

theorem groupKeys_source (s : Source) : groupKeys.part (.source s) = [] := rfl

theorem groupKeys_query (q : Query) : groupKeys.part (.query q) = groupKey q := rfl

mutual

theorem cleared_expr (h : ClearsColumns decision) (e : Expr) (state : σ) :
    groupKeys.read (exprWalk ((exprTraverse (clearing decision) e).run state).1) =
      clearedKeys decision (exprWalk e) state := by
  cases e with
  | column name qualifier quoted => rfl
  | literal value kind => rfl
  | star qualifier => rfl
  | raw sql => rfl
  | call name args bare =>
      simp only [exprTraverse, exprWalk, run_bind, run_pure, clearing_expr, View.read_cons,
        groupKeys_expr, clearedKeys_cons, clearedKey, visit, cleared_exprs h args]
  | aggregate name argument distinct =>
      simp only [exprTraverse, exprWalk, run_bind, run_pure, clearing_expr, View.read_cons,
        groupKeys_expr, clearedKeys_cons, clearedKey, visit, cleared_optional h argument]
  | index base index =>
      simp only [exprTraverse, exprWalk, run_bind, run_pure, clearing_expr, View.read_cons,
        groupKeys_expr, clearedKeys_cons, clearedKey, visit, cleared_expr h base]
  | binary operator left right =>
      simp only [exprTraverse, exprWalk, run_bind, run_pure, clearing_expr, View.read_cons,
        groupKeys_expr, clearedKeys_cons, clearedKey, visit, List.cons_append, View.read_append,
        clearedKeys_append, cleared_expr h left, (h.expr left _).2, cleared_expr h right]
  | unary operator operand =>
      simp only [exprTraverse, exprWalk, run_bind, run_pure, clearing_expr, View.read_cons,
        groupKeys_expr, clearedKeys_cons, clearedKey, visit, cleared_expr h operand]
  | paren inner =>
      simp only [exprTraverse, exprWalk, run_bind, run_pure, clearing_expr, View.read_cons,
        groupKeys_expr, clearedKeys_cons, clearedKey, visit, cleared_expr h inner]
  | between subject low high negated =>
      simp only [exprTraverse, exprWalk, run_bind, run_pure, clearing_expr, View.read_cons,
        groupKeys_expr, clearedKeys_cons, clearedKey, visit, List.cons_append, View.read_append,
        clearedKeys_append, afterQueries_append, cleared_expr h subject, (h.expr subject _).2,
        cleared_expr h low, (h.expr low _).2, cleared_expr h high]
  | inList subject values negated =>
      simp only [exprTraverse, exprWalk, run_bind, run_pure, clearing_expr, View.read_cons,
        groupKeys_expr, clearedKeys_cons, clearedKey, visit, List.cons_append, View.read_append,
        clearedKeys_append, cleared_expr h subject, (h.expr subject _).2, cleared_exprs h values]
  | inQuery subject query negated =>
      simp only [exprTraverse, exprWalk, run_bind, run_pure, clearing_expr, View.read_cons,
        groupKeys_expr, clearedKeys_cons, clearedKey, visit, List.cons_append, View.read_append,
        clearedKeys_append, cleared_expr h subject, (h.expr subject _).2, cleared_query h query]
  | isNull subject negated =>
      simp only [exprTraverse, exprWalk, run_bind, run_pure, clearing_expr, View.read_cons,
        groupKeys_expr, clearedKeys_cons, clearedKey, visit, cleared_expr h subject]
  | existsIn query negated =>
      simp only [exprTraverse, exprWalk, run_bind, run_pure, clearing_expr, View.read_cons,
        groupKeys_expr, clearedKeys_cons, clearedKey, visit, cleared_query h query]
  | caseOf operand branches otherwise =>
      simp only [exprTraverse, exprWalk, run_bind, run_pure, clearing_expr, View.read_cons,
        groupKeys_expr, clearedKeys_cons, clearedKey, visit, List.cons_append, View.read_append,
        clearedKeys_append, afterQueries_append, cleared_optional h operand,
        (h.optional operand _).2, cleared_branches h branches, (h.branches branches _).2,
        cleared_optional h otherwise]
  | cast operand type shorthand safe =>
      simp only [exprTraverse, exprWalk, run_bind, run_pure, clearing_expr, View.read_cons,
        groupKeys_expr, clearedKeys_cons, clearedKey, visit, List.cons_append, View.read_append,
        clearedKeys_append, cleared_expr h operand]
      rfl
  | window function partition order frame =>
      simp only [exprTraverse, exprWalk, run_bind, run_pure, clearing_expr, View.read_cons,
        groupKeys_expr, clearedKeys_cons, clearedKey, visit, List.cons_append, View.read_append,
        clearedKeys_append, afterQueries_append, cleared_expr h function, (h.expr function _).2,
        cleared_exprs h partition, (h.exprs partition _).2, cleared_orders h order]
  | subquery query =>
      simp only [exprTraverse, exprWalk, run_bind, run_pure, clearing_expr, View.read_cons,
        groupKeys_expr, clearedKeys_cons, clearedKey, visit, cleared_query h query]

theorem cleared_exprs (h : ClearsColumns decision) (es : List Expr) (state : σ) :
    groupKeys.read (exprsWalk ((exprsTraverse (clearing decision) es).run state).1) =
      clearedKeys decision (exprsWalk es) state := by
  cases es with
  | nil => rfl
  | cons e rest =>
      simp only [exprsTraverse, exprsWalk, run_bind, run_pure, View.read_append, clearedKeys_append,
        cleared_expr h e, (h.expr e _).2, cleared_exprs h rest]

theorem cleared_optional (h : ClearsColumns decision) (e : Option Expr) (state : σ) :
    groupKeys.read (optionalWalk ((optionalTraverse (clearing decision) e).run state).1) =
      clearedKeys decision (optionalWalk e) state := by
  cases e with
  | none => rfl
  | some e => simp only [optionalTraverse, optionalWalk, run_bind, run_pure, cleared_expr h e]

theorem cleared_branches (h : ClearsColumns decision) (bs : List Branch) (state : σ) :
    groupKeys.read (branchesWalk ((branchesTraverse (clearing decision) bs).run state).1) =
      clearedKeys decision (branchesWalk bs) state := by
  match bs with
  | [] => rfl
  | .mk condition result :: rest =>
      simp only [branchesTraverse, branchesWalk, run_bind, run_pure, View.read_cons, View.part,
        clearedKeys_cons, clearedKey, visit, List.cons_append, View.read_append, clearedKeys_append,
        afterQueries_append, cleared_expr h condition, (h.expr condition _).2,
        cleared_expr h result, (h.expr result _).2, cleared_branches h rest]

theorem cleared_orders (h : ClearsColumns decision) (os : List OrderItem) (state : σ) :
    groupKeys.read (ordersWalk ((ordersTraverse (clearing decision) os).run state).1) =
      clearedKeys decision (ordersWalk os) state := by
  match os with
  | [] => rfl
  | .mk key descending nulls :: rest =>
      simp only [ordersTraverse, ordersWalk, run_bind, run_pure, View.read_cons, View.part,
        clearedKeys_cons, clearedKey, visit, List.cons_append, View.read_append, clearedKeys_append,
        cleared_expr h key, (h.expr key _).2, cleared_orders h rest]

theorem cleared_items (h : ClearsColumns decision) (items : List SelectItem) (state : σ) :
    groupKeys.read (itemsWalk ((itemsTraverse (clearing decision) items).run state).1) =
      clearedKeys decision (itemsWalk items) state := by
  match items with
  | [] => rfl
  | .mk value label :: rest =>
      simp only [itemsTraverse, itemsWalk, run_bind, run_pure, View.read_cons, View.part,
        clearedKeys_cons, clearedKey, visit, List.cons_append, View.read_append, clearedKeys_append,
        cleared_expr h value, (h.expr value _).2, cleared_items h rest]

theorem cleared_source (h : ClearsColumns decision) (s : Source) (state : σ) :
    groupKeys.read (sourceWalk ((sourceTraverse (clearing decision) s).run state).1) =
      clearedKeys decision (sourceWalk s) state := by
  match s with
  | .table table => rfl
  | .derived label pivot query =>
      simp only [sourceTraverse, sourceWalk, run_bind, run_pure, clearing_marks, View.read_cons,
        groupKeys_source, clearedKeys_cons, clearedKey, visit, cleared_query h query]

theorem cleared_sources (h : ClearsColumns decision) (ss : List Source) (state : σ) :
    groupKeys.read (sourcesWalk ((sourcesTraverse (clearing decision) ss).run state).1) =
      clearedKeys decision (sourcesWalk ss) state := by
  cases ss with
  | nil => rfl
  | cons s rest =>
      simp only [sourcesTraverse, sourcesWalk, run_bind, run_pure, View.read_append,
        clearedKeys_append, cleared_source h s, (h.source s _).2, cleared_sources h rest]

theorem cleared_joins (h : ClearsColumns decision) (js : List Join) (state : σ) :
    groupKeys.read (joinsWalk ((joinsTraverse (clearing decision) js).run state).1) =
      clearedKeys decision (joinsWalk js) state := by
  match js with
  | [] => rfl
  | .mk keyword source condition shared :: rest =>
      simp only [joinsTraverse, joinsWalk, run_bind, run_pure, View.read_cons, View.part,
        clearedKeys_cons, clearedKey, visit, List.cons_append, View.read_append, clearedKeys_append,
        afterQueries_append, cleared_source h source, (h.source source _).2,
        cleared_optional h condition, (h.optional condition _).2, cleared_joins h rest]

theorem cleared_ctes (h : ClearsColumns decision) (cs : List Cte) (state : σ) :
    groupKeys.read (ctesWalk ((ctesTraverse (clearing decision) cs).run state).1) =
      clearedKeys decision (ctesWalk cs) state := by
  match cs with
  | [] => rfl
  | .mk name columns query :: rest =>
      simp only [ctesTraverse, ctesWalk, run_bind, run_pure, View.read_cons, View.part,
        clearedKeys_cons, clearedKey, visit, List.cons_append, View.read_append, clearedKeys_append,
        cleared_query h query, (h.query query _).2, cleared_ctes h rest]

theorem cleared_query (h : ClearsColumns decision) (q : Query) (state : σ) :
    groupKeys.read (queryWalk ((queryTraverse (clearing decision) q).run state).1) =
      clearedKeys decision (queryWalk q) state := by
  have hd := h q state
  obtain ⟨cleared, hcleared⟩ : ∃ cleared, ((decision q).run state).1 = cleared := ⟨_, rfl⟩
  match q with
  | { arrayAccesses, ctes, distinct, columns, sources, joins, filter, groupBy, groupByAll, having,
      qualify, orderBy, limit, offset, setOperator, next } =>
      have hbelow (state : σ) : groupKeys.read (exprsWalk
          (if cleared then [] else ((exprsTraverse (clearing decision) groupBy).run state).1)) =
          clearedKeys decision (exprsWalk groupBy) state := by
        cases cleared with
        | false => exact cleared_exprs h groupBy state
        | true =>
            have hsole : soleColumn groupBy = true := hd hcleared
            obtain ⟨name, qualifier, quoted, hcolumn⟩ := eq_of_soleColumn hsole
            rw [hcolumn]
            rfl
      have hkey (state : σ) : groupKeyOf (cleared || groupByAll)
          (if cleared then [] else ((exprsTraverse (clearing decision) groupBy).run state).1) =
          if cleared then [none] else groupKeyOf groupByAll groupBy := by
        cases cleared with
        | false => exact groupKeyOf_clearing groupByAll groupBy state
        | true => rfl
      simp only [queryTraverse, queryWalk, run_bind, run_pure, clearing_clears, hcleared,
        View.read_cons, groupKeys_query, groupKey, clearedKeys_cons, clearedKey, visit,
        List.cons_append, View.read_append, clearedKeys_append, afterQueries_append, hkey, hbelow,
        cleared_ctes h ctes, (h.ctes ctes _).2, cleared_items h columns, (h.items columns _).2,
        cleared_sources h sources, (h.sources sources _).2, cleared_joins h joins,
        (h.joins joins _).2, cleared_optional h filter, (h.optional filter _).2,
        (h.exprs groupBy _).2, cleared_optional h having, (h.optional having _).2,
        cleared_optional h qualify, (h.optional qualify _).2, cleared_orders h orderBy,
        (h.orders orderBy _).2, cleared_optional h limit, (h.optional limit _).2,
        cleared_optional h offset, (h.optional offset _).2, cleared_optionalQuery h next]

theorem cleared_optionalQuery (h : ClearsColumns decision) (q : Option Query) (state : σ) :
    groupKeys.read (optionalQueryWalk ((optionalQueryTraverse (clearing decision) q).run state).1) =
      clearedKeys decision (optionalQueryWalk q) state := by
  cases q with
  | none => rfl
  | some q =>
      simp only [optionalQueryTraverse, optionalQueryWalk, run_bind, run_pure, cleared_query h q]

end

theorem cleared_columnDef (h : ClearsColumns decision) (c : ColumnDef) (state : σ) :
    groupKeys.read (columnDefWalk ((columnDefTraverse (clearing decision) c).run state).1) =
      clearedKeys decision (columnDefWalk c) state := by
  cases htype : c.type <;> cases hreferences : c.references <;>
    simp only [columnDefTraverse, columnDefWalk, run_bind, run_pure, htype, hreferences,
      Option.toList_none, Option.toList_some, List.map_nil, List.map_cons, List.nil_append,
      List.append_nil, List.cons_append, View.read_cons, View.read_append, View.part,
      clearedKeys_cons, clearedKeys_append, clearedKey, visit, cleared_optional h c.default] <;>
    rfl

theorem cleared_assignment (h : ClearsColumns decision) (a : Assignment) (state : σ) :
    groupKeys.read (assignmentWalk ((assignmentTraverse (clearing decision) a).run state).1) =
      clearedKeys decision (assignmentWalk a) state := by
  simp only [assignmentTraverse, assignmentWalk, ColumnName.expr, exprWalk, run_bind, run_pure,
    clearing_expr, List.cons_append, List.nil_append, View.read_cons, View.part, clearedKeys_cons,
    clearedKey, visit, cleared_expr h a.value]
  rfl

/-- What holds of one item of a list holds of the list. -/
theorem cleared_mapM {α : Type} {f : α → StateM σ α} {walk : α → List Part}
    (hkeys : ∀ x state, groupKeys.read (walk ((f x).run state).1) =
      clearedKeys decision (walk x) state)
    (hstate : ∀ x state, ((f x).run state).2 = afterQueries decision (walk x) state)
    (xs : List α) (state : σ) :
    groupKeys.read (((xs.mapM f).run state).1.flatMap walk) =
      clearedKeys decision (xs.flatMap walk) state := by
  induction xs generalizing state with
  | nil => rfl
  | cons x rest ih =>
      rw [List.mapM_cons, List.flatMap_cons, clearedKeys_append]
      simp only [run_bind, run_pure, List.flatMap_cons, View.read_append, hkeys, hstate, ih]

/-- A statement groups after the pass as its queries do once they were decided on. -/
theorem cleared_statement (h : ClearsColumns decision) (s : Statement) (state : σ) :
    groupKeys.read ((statementTraverse (clearing decision) s).run state).1.part.preorder =
      clearedKeys decision s.part.preorder state := by
  cases s with
  | select query => exact cleared_query h query state
  | create node =>
      have hc := cleared_mapM (cleared_columnDef h) (fun c state => (h.columnDef c state).2)
        node.columns
      have hs (state : σ) := (mapM_clears h.columnDef node.columns state).2
      have hl (state : σ) : (node.like.mapM (tableTraverse (clearing decision))).run state =
          (node.like, state) := by
        cases node.like <;> rfl
      have hlike (state : σ) : clearedKeys decision
          (node.like.toList.map fun t => Part.source (.table t)) state = [] :=
        clearedKeys_map (fun _ _ => rfl) (fun _ _ => rfl) node.like.toList state
      have hread : groupKeys.read (node.like.toList.map fun t => Part.source (.table t)) = [] := by
        cases node.like <;> rfl
      simp only [statementTraverse, Statement.part, Part.preorder, run_bind, run_pure,
        clearing_table, hl, View.read_cons, View.part, List.cons_append, View.read_append,
        clearedKeys_cons, clearedKey,
        visit, clearedKeys_append, afterQueries_append, hc, hs, hlike, hread,
        afterQueries_map (f := fun t => Part.source (.table t)) fun _ _ => rfl,
        cleared_optionalQuery h node.query]
      rfl
  | insert node =>
      have hr := cleared_mapM (cleared_exprs h) (fun row state => (h.exprs row state).2) node.rows
      simp only [statementTraverse, Statement.part, Part.preorder, run_bind, run_pure,
        clearing_table, View.read_cons, View.part, List.cons_append, View.read_append,
        clearedKeys_cons, clearedKey,
        visit, clearedKeys_append, hr, cleared_optionalQuery h node.query,
        (h.optionalQuery node.query _).2]
      rfl
  | update node =>
      have ha := cleared_mapM (cleared_assignment h) (fun a state => (h.assignment a state).2)
        node.assignments
      have hs (state : σ) := (mapM_clears h.assignment node.assignments state).2
      simp only [statementTraverse, Statement.part, Part.preorder, run_bind, run_pure,
        clearing_table, View.read_cons, View.part, List.cons_append, View.read_append,
        clearedKeys_cons, clearedKey,
        visit, clearedKeys_append, afterQueries_append, ha, hs, cleared_sources h node.sources,
        (h.sources node.sources _).2, cleared_optional h node.filter]
      rfl
  | delete node =>
      simp only [statementTraverse, Statement.part, Part.preorder, run_bind, run_pure,
        clearing_table, View.read_cons, View.part, List.cons_append, View.read_append,
        clearedKeys_cons, clearedKey,
        visit, clearedKeys_append, cleared_sources h node.sources, (h.sources node.sources _).2,
        cleared_optional h node.filter]
      rfl
  | grant node => rfl
  | comment node => rfl
  | unrendered node => rfl

end

/-! ## The tokens that are taken -/

/-- How a query groups once the pass decided on it: the grouping by a token that is left is
taken. -/
def settledKey (state : GroupState) : Option String → Option String
  | none => none
  | some name => if name ∈ state.pending.map Prod.fst then none else some name

/-- How queries group once the pass decided on them one after the other. -/
def settledKeys : GroupState → List (Option String) → List (Option String)
  | _, [] => []
  | state, key :: rest => settledKey state key :: settledKeys (state.take key) rest

theorem settledKeys_append (state : GroupState) (front back : List (Option String)) :
    settledKeys state (front ++ back) =
      settledKeys state front ++ settledKeys (front.foldl GroupState.take state) back := by
  induction front generalizing state with
  | nil => rfl
  | cons key rest ih => simp only [List.cons_append, settledKeys, ih, List.foldl_cons]

theorem find?_isSome {tokens : Numbered String} {name : String} :
    (tokens.find? fun entry => entry.1 == name).isSome = true ↔ name ∈ tokens.map Prod.fst := by
  simp [List.find?_isSome]

/-- What the pass decides on one query. -/
theorem clearedKey_takeGroup (q : Query) (state : GroupState) :
    clearedKey takeGroup state (.query q) = settledKeys state (groupKey q) := by
  cases q with
  | mk arrayAccesses ctes distinct columns sources joins filter groupBy groupByAll =>
      match groupBy with
      | [] => cases groupByAll <;> rfl
      | e :: _ :: _ => cases groupByAll <;> cases e <;> rfl
      | [e] =>
          cases e with
          | column name qualifier quoted =>
              have hfind := @find?_isSome state.pending name
              simp only [clearedKey, takeGroup, groupKey, groupKeyOf, settledKeys, settledKey,
                run_bind, run_get, List.isEmpty_cons, Bool.and_false, Bool.false_eq_true, if_false]
              cases hentry : state.pending.find? fun entry => entry.1 == name with
              | none =>
                  rw [if_neg (hfind.not.1 (by simp [hentry]))]
                  rfl
              | some entry =>
                  rw [if_pos (hfind.1 (by simp [hentry]))]
                  rfl
          | _ => cases groupByAll <;> rfl

theorem clearedKeys_takeGroup (parts : List Part) (state : GroupState) :
    clearedKeys takeGroup parts state = settledKeys state (groupKeys.read parts) := by
  induction parts generalizing state with
  | nil => rfl
  | cons part rest ih =>
      rw [clearedKeys_cons, View.read_cons, settledKeys_append, ih]
      cases part with
      | query q =>
          rw [clearedKey_takeGroup, visit, (takeGroup_run q state).1]
          rfl
      | _ => rfl

/-- A query that groups by a token takes one record of it. -/
theorem count_pending_take (state : GroupState) (key : Option String) (token : String) :
    ((state.take key).pending.map Prod.fst).count token =
      (state.pending.map Prod.fst).count token - if key = some token then 1 else 0 := by
  cases key with
  | none => rfl
  | some name =>
      cases hfind : state.pending.find? fun entry => entry.1 == name with
      | none =>
          have hname : name ∉ state.pending.map Prod.fst := find?_isSome.not.1 (by simp [hfind])
          by_cases htoken : name = token
          · rw [← htoken, List.count_eq_zero_of_not_mem hname]
            simp [GroupState.take, hfind, List.count_eq_zero_of_not_mem hname]
          · simp [GroupState.take, hfind, htoken]
      | some entry =>
          obtain rfl : entry.1 = name := by simpa using List.find?_some hfind
          have hperm := (List.perm_cons_erase (List.mem_of_find?_eq_some hfind)).map Prod.fst
          have htake : (state.take (some entry.1)).pending = state.pending.erase entry := by
            simp [GroupState.take, hfind]
          rw [htake, hperm.count_eq, List.map_cons, List.count_cons]
          simp

theorem settledKey_eq_some (state : GroupState) (key : Option String) (token : String) :
    settledKey state key = some token ↔ key = some token ∧ token ∉ state.pending.map Prod.fst := by
  cases key with
  | none => simp [settledKey]
  | some name =>
      rw [settledKey]
      split
      · next hname =>
          refine iff_of_false (Option.some_ne_none _).symm ?_
          rintro ⟨htoken, hnot⟩
          exact hnot (Option.some.inj htoken ▸ hname)
      · next hname =>
          refine ⟨fun htoken => ⟨htoken, Option.some.inj htoken ▸ hname⟩, And.left⟩

/-- Each record of a token turns one grouping by the token into a grouping by all columns. -/
theorem count_settledKeys (state : GroupState) (keys : List (Option String)) (token : String) :
    (settledKeys state keys).count (some token) =
      keys.count (some token) - (state.pending.map Prod.fst).count token := by
  induction keys generalizing state with
  | nil => simp [settledKeys]
  | cons key rest ih =>
      have hkey := settledKey_eq_some state key token
      have hleft : token ∈ state.pending.map Prod.fst ↔
          0 < (state.pending.map Prod.fst).count token := List.count_pos_iff.symm
      rw [settledKeys, List.count_cons, ih, count_pending_take, List.count_cons]
      simp only [beq_iff_eq, hkey, hleft]
      by_cases htoken : key = some token
      · simp only [htoken, true_and, if_true]
        split <;> omega
      · simp [htoken]

/-- After the pass a tree groups by a token as many times less as there are records of the token. -/
theorem count_restoreGroups (tokens : Numbered String) (statement : Statement) (token : String) :
    (groupKeys.read (restoreGroups tokens statement).statement.part.preorder).count (some token) =
      (groupKeys.read statement.part.preorder).count (some token) -
        (tokens.map Prod.fst).count token := by
  have hcleared := cleared_statement takeGroup_clearsColumns statement { pending := tokens }
  rw [clearedKeys_takeGroup] at hcleared
  exact (congrArg (List.count (some token)) hcleared).trans (count_settledKeys _ _ token)

end SqlLayout.Placeholder
