import SqlLayout.Proofs.Layout.Leaves
import SqlLayout.Proofs.Layout.Shift

/-!
# Brackets around queries

A query in brackets is a part of an expression, a derived table or a named query, which is a part of
others, up to a statement.  The layout of each of them has the layout of the query between brackets,
and the level of the brackets is the number of brackets around that part: those of the queries
around it, and those of the column definitions of a created table.

## Implementation notes

`Holds` says for each kind of part what its layout has to enclose; an expression has two layouts.
One lemma for each kind goes from a child to its parent (`holds_of_child`), and from there to the
statement by induction on the way.

## Main results

- `Inside.holds`: the layout of a part encloses what the layouts of the parts in it do.
-/

namespace SqlLayout.Layout

open SqlLayout.Tree

/-! ## Documents around a query -/

/-- Whether a document stands between brackets of a level in another one. -/
def Encloses (level : Nat) (query doc : Doc) : Prop :=
  ∃ K : Context, K.depth = level ∧ K.fill query = doc

/-- Whether a document stands between brackets of a level in one of a list. -/
def Among (level : Nat) (query : Doc) (docs : List Doc) : Prop :=
  ∃ doc ∈ docs, Encloses level query doc

section

variable {level : Nat} {query doc : Doc} {docs more : List Doc}

theorem encloses_brackets (query : Doc) (front : List Doc) (opening : String) (back : List Doc) :
    Encloses 0 query (.concat (front ++ .text (opening ++ "(") :: .concat (nestedDoc query) :: .text
      ")" :: back)) :=
  ⟨.brackets front opening back, rfl, rfl⟩

theorem Encloses.indent (h : Encloses level query doc) :
    Encloses (level + 1) query (.indent doc) := by
  obtain ⟨K, hdepth, hfill⟩ := h
  exact ⟨.indent K, congrArg (· + 1) hdepth, congrArg Doc.indent hfill⟩

theorem Among.concat (h : Among level query docs) : Encloses level query (.concat docs) := by
  obtain ⟨doc, hdoc, K, hdepth, rfl⟩ := h
  obtain ⟨front, back, rfl⟩ := List.append_of_mem hdoc
  exact ⟨.concat front K back, hdepth, rfl⟩

theorem Among.join (h : Among level query docs) (separator : Doc) :
    Encloses level query (.join separator docs) := by
  obtain ⟨doc, hdoc, K, hdepth, rfl⟩ := h
  obtain ⟨front, back, rfl⟩ := List.append_of_mem hdoc
  exact ⟨.join separator front K back, hdepth, rfl⟩

theorem Among.mono (h : Among level query docs) (hsub : docs ⊆ more) : Among level query more := by
  obtain ⟨doc, hdoc, h⟩ := h
  exact ⟨doc, hsub hdoc, h⟩

theorem Encloses.among (h : Encloses level query doc) (hdoc : doc ∈ docs) :
    Among level query docs :=
  ⟨doc, hdoc, h⟩

theorem among_append : Among level query (docs ++ more) ↔
    Among level query docs ∨ Among level query more := by
  simp only [Among, List.mem_append, or_and_right, exists_or]

theorem Among.commas (h : Among level query docs) : Encloses level query (.commas docs) :=
  h.join _

/-- What stands between the brackets of another document is a level deeper than its brackets
there. -/
theorem Encloses.nested (h : Encloses level query doc) :
    Encloses (level + 1) query (.concat (nestedDoc doc)) := by
  have hinner : Among level query [.hardline, doc] := h.among (by simp)
  have hindented : Among (level + 1) query (nestedDoc doc) :=
    hinner.concat.indent.among List.mem_cons_self
  exact hindented.concat

end

/-! ## Composed layouts -/

section

variable {level : Nat} {query doc : Doc} {docs more : List Doc}

theorem subset_flatMap {f : Doc → List Doc} (h : ∀ doc, doc ∈ f doc) (docs : List Doc) :
    docs ⊆ docs.flatMap f :=
  fun doc hdoc => List.mem_flatMap.2 ⟨doc, hdoc, h doc⟩

theorem subset_continued (start : String) (docs : List Doc) : docs ⊆ continued start docs := by
  cases docs with
  | nil => exact List.Subset.refl _
  | cons first rest =>
      refine List.cons_subset.2 ⟨by simp [continued], ?_⟩
      exact List.Subset.trans (subset_flatMap (by simp) rest) (List.subset_append_right _ _)

theorem among_columnsDoc (h : Among level query docs) : Among level query (columnsDoc docs) := by
  have heq : columnsDoc docs = continued columnContinuation docs := by
    cases docs <;> rfl
  rw [heq]
  exact h.mono (subset_continued _ _)

theorem among_listClause (h : Among level query docs) (keyword : String) :
    Among level query (listClause keyword docs) := by
  cases docs with
  | nil => exact h
  | cons first rest => exact h.commas.among (by simp [listClause, clause])

theorem among_optionalClause {body : Option Doc} (h : Among level query body.toList)
    (keyword : String) :
    Among level query (optionalClause keyword body) := by
  cases body with
  | none => exact h
  | some doc => exact h.mono (by simp [optionalClause, clause])

theorem among_withDoc (h : Among level query docs) : Among level query (withDoc docs) := by
  cases docs with
  | nil => exact h
  | cons first rest =>
      have hall : first :: rest ⊆ [.text "WITH ", first] ++ rest.flatMap fun cte =>
          [.hardline, .text ", ", cte] :=
        List.cons_subset.2 ⟨by simp, List.Subset.trans (subset_flatMap (by simp) rest)
          (List.subset_append_right _ _)⟩
      exact (h.mono hall).concat.among List.mem_cons_self

theorem among_caseDoc {operand otherwise : Option Doc} {branches : List Doc}
    (h : Among level query operand.toList ∨ Among level query branches ∨
      Among level query otherwise.toList) :
    Among level query (caseDoc operand branches otherwise) := by
  have hsplit : Encloses level query (.concat (.text "CASE" :: continued "" operand.toList)) ∨
      Among level query (branches ++
        (otherwise.map fun doc => Doc.concat [.text "ELSE ", doc]).toList) := by
    obtain h | h | h := h
    · exact .inl ((h.mono (subset_continued "" _)).mono (List.subset_cons_self _ _)).concat
    · exact .inr (among_append.2 (.inl h))
    · refine .inr (among_append.2 (.inr ?_))
      cases otherwise with
      | none => exact h
      | some doc =>
          have helse : Among level query [.text "ELSE ", doc] := h.mono (List.subset_cons_self _ _)
          exact helse.concat.among List.mem_cons_self
  rw [caseDoc_eq]
  dsimp only
  split
  · obtain h | h := hsplit
    · exact h.among List.mem_cons_self
    · exact (h.join (.text " ")).among (by simp)
  · obtain h | h := hsplit
    · exact h.among List.mem_cons_self
    · exact (h.mono (subset_continued caseContinuation _)).mono fun doc hdoc => by simp [hdoc]

theorem among_listed (h : Among level query docs) (keyword : String) :
    Among level query (if docs.isEmpty then [] else [.concat [.text keyword, .commas docs]]) := by
  cases docs with
  | nil => exact h
  | cons first rest =>
      have hlisted : Among level query [.text keyword, .commas (first :: rest)] :=
        h.commas.among (by simp)
      exact hlisted.concat.among List.mem_cons_self

theorem among_windowDoc {function : Doc} {partition order : List Doc} (frame : Option String)
    (h : Encloses level query function ∨ Among level query partition ∨ Among level query order) :
    Among level query (windowDoc function partition order frame) := by
  have hparts (h : Among level query partition ∨ Among level query order) :
      Among level query (windowDoc function partition order frame) := by
    refine Encloses.among (Among.join ?_ (.text " "))
      (List.mem_cons_of_mem _ (List.mem_cons_of_mem _ (.head _)))
    exact among_append.2 (.inl
      (among_append.2 (h.imp (fun h => among_listed h _) fun h => among_listed h _)))
  exact h.elim (fun h => h.among List.mem_cons_self) hparts

end

/-! ## Shapes -/

/-- Both layouts of an expression enclose a query. -/
structure ShapeEncloses (level : Nat) (query : Doc) (shape : Shape) : Prop where
  inline : Encloses level query shape.inline
  operands : Among level query (shape.operands.map Prod.snd)

section

variable {level : Nat} {query : Doc} {docs : List Doc} {shape left right : Shape}

theorem ShapeEncloses.of_concat (h : Encloses level query (.concat docs)) :
    ShapeEncloses level query (.single docs) where
  inline := h
  operands := h.among List.mem_cons_self

theorem ShapeEncloses.of_single (h : Among level query docs) :
    ShapeEncloses level query (.single docs) :=
  .of_concat h.concat

theorem ShapeEncloses.binary (operator : String)
    (h : ShapeEncloses level query left ∨ ShapeEncloses level query right) :
    ShapeEncloses level query (binaryShape operator left right) := by
  have hinline : Among level query [left.inline, .text (" " ++ operator ++ " "), right.inline] := by
    obtain h | h := h
    · exact h.inline.among (by simp)
    · exact h.inline.among (by simp)
  by_cases hchain : isChainOperator operator = true
  · refine ⟨hinline.concat, ?_⟩
    simp only [binaryShape, hchain, if_true, map_snd_chainOperands, among_append]
    exact h.imp ShapeEncloses.operands ShapeEncloses.operands
  · have hshape : binaryShape operator left right =
        .single [left.inline, .text (" " ++ operator ++ " "), right.inline] := by
      simp [binaryShape, hchain, Shape.single]
    rw [hshape]
    exact .of_single hinline

theorem ShapeEncloses.condition (h : ShapeEncloses level query shape) :
    Encloses level query (conditionDoc shape) := by
  obtain ⟨inline, operands⟩ := shape
  obtain ⟨-, hoperands⟩ := h
  refine Among.concat (hoperands.mono ?_)
  cases operands with
  | nil => exact List.Subset.refl _
  | cons first rest =>
      refine List.cons_subset.2 ⟨by simp, fun doc hdoc => ?_⟩
      obtain ⟨operand, hoperand, rfl⟩ := List.mem_map.1 hdoc
      exact List.mem_append_right _ (List.mem_flatMap.2 ⟨operand, hoperand, by simp⟩)

end

/-! ## Places of queries -/

/-- The children of a part that are printed.  A call without brackets leaves its arguments out, a
grouping by all columns the keys, and a query the one behind it when there is no operator between
them. -/
def printedChildren : Part → List Part
  | .expr (.call _ _ true) => []
  | .query q =>
    Query.children
      { q with
        groupBy := if q.groupByAll then [] else q.groupBy
        next := if (nonEmpty q.setOperator).isSome then q.next else none }
  | .create s =>
    match s.kind with
    | .schema => []
    | .dynamicTable | .view => s.query.toList.map .query
    | .table => s.columns.map .columnDef ++ s.query.toList.map .query
  | .insert s =>
    match s.query with
    | some query => [.query query]
    | none => s.rows.flatMap exprParts
  | .columnDef c =>
    match c.default with
    | some (.call _ _ true) => []
    | value => optionalPart value
  | part => part.children

/-- The number of levels that a child stands deeper than its parent: queries in brackets do, and so
do the column definitions of a created table. -/
def inset : Part → Part → Nat
  | .expr _, .query _ | .source _, .query _ | .cte _, .query _ | .create _, .columnDef _ => 1
  | _, _ => 0

/-- Whether a part is printed as a part of another one, and how many brackets stand around it
there. -/
inductive Inside (outer : Part) : Nat → Part → Prop
  | self : Inside outer 0 outer
  | step {depth : Nat} {part child : Part} (h : Inside outer depth part)
      (hchild : child ∈ printedChildren part) :
      Inside outer (depth + inset part child) child

/-- The query that a part has in brackets. -/
def nestedQuery : Part → Option Query
  | .expr (.inQuery _ query _) | .expr (.existsIn query _) | .expr (.subquery query)
  | .source (.derived _ _ query) | .cte (.mk _ _ query) => some query
  | _ => none

/-- Whether the layout of a part encloses a query. -/
def Holds (level : Nat) (query : Doc) : Part → Prop
  | .expr e => ShapeEncloses level query (exprShape e)
  | .query q => Encloses level query (queryDoc q)
  | .source (.table _) => False
  | .source s => Encloses level query (sourceDoc s)
  | .join j => Encloses level query (joinDoc j)
  | .create s => Encloses level query (createDoc s)
  | .insert s => Encloses level query (insertDoc s)
  | .update s => Encloses level query (updateDoc s)
  | .delete s => Encloses level query (deleteDoc s)
  | .item i => Among level query (itemDocs [i])
  | .branch b => Among level query (branchDocs [b])
  | .order o => Among level query (orderDocs [o])
  | .cte c => Among level query (cteDocs [c])
  | .columnDef c => Encloses level query (columnDefDoc c)
  | .assignment a =>
    Encloses level query (exprDoc a.column.expr) ∨ Encloses level query (exprDoc a.value)
  | .grant _ | .comment _ | .unrendered _ | .dataType _ | .reference _ => False

theorem holds_nestedQuery {part : Part} {q : Query} (h : nestedQuery part = some q) :
    Holds 0 (queryDoc q) part := by
  cases part with
  | expr e =>
      cases e with
      | inQuery subject query negated =>
          obtain rfl := Option.some.inj h
          cases negated with
          | false => exact .of_concat (encloses_brackets _ [(exprShape subject).inline] " IN " [])
          | true =>
              exact .of_concat (encloses_brackets _ [(exprShape subject).inline] " NOT IN " [])
      | existsIn query negated =>
          obtain rfl := Option.some.inj h
          cases negated with
          | false => exact .of_concat (encloses_brackets _ [] "EXISTS " [])
          | true => exact .of_concat (encloses_brackets _ [] "NOT EXISTS " [])
      | subquery query =>
          obtain rfl := Option.some.inj h
          exact .of_concat (encloses_brackets _ [] "" [])
      | _ => cases h
  | source s =>
      cases s with
      | table => cases h
      | derived label pivot query =>
          obtain rfl := Option.some.inj h
          exact encloses_brackets _ [] "" (tableTail label pivot)
  | cte c =>
      obtain ⟨name, columns, query⟩ := c
      obtain rfl := Option.some.inj h
      exact (encloses_brackets _ _ " AS " []).among List.mem_cons_self
  | _ => cases h

section

variable {level : Nat} {query : Doc} {child : Part}

/-- What is laid out part by part has the documents of each part. -/
theorem subset_of_mem {α : Type} {f : List α → List Doc}
    (hf : ∀ x rest, f (x :: rest) = f [x] ++ f rest) {x : α} {xs : List α} (h : x ∈ xs) :
    f [x] ⊆ f xs := by
  obtain ⟨front, back, rfl⟩ := List.append_of_mem h
  induction front with
  | nil =>
      rw [List.nil_append, hf x back]
      exact List.subset_append_left _ _
  | cons y front ih =>
      rw [List.cons_append, hf y]
      exact List.Subset.trans (ih (by simp)) (List.subset_append_right _ _)

theorem among_exprDocs {es : List Expr} (hchild : child ∈ exprParts es)
    (h : Holds level query child) :
    Among level query (exprDocs es) := by
  obtain ⟨e, he, rfl⟩ := List.mem_map.1 hchild
  have hsingle : Among level query (exprDocs [e]) :=
    (ShapeEncloses.inline h).among List.mem_cons_self
  exact hsingle.mono (subset_of_mem (fun _ _ => rfl) he)

theorem among_optionalShape {e : Option Expr} (hchild : child ∈ optionalPart e)
    (h : Holds level query child) :
    ∃ shape, optionalShape e = some shape ∧ ShapeEncloses level query shape := by
  obtain ⟨e, he, rfl⟩ := List.mem_map.1 hchild
  obtain rfl := Option.mem_toList.1 he
  exact ⟨exprShape e, rfl, h⟩

theorem among_inline {e : Option Expr} (hchild : child ∈ optionalPart e)
    (h : Holds level query child) :
    Among level query ((optionalShape e).map Shape.inline).toList := by
  obtain ⟨shape, hshape, h⟩ := among_optionalShape hchild h
  exact h.inline.among (by simp [hshape])

theorem among_condition {e : Option Expr} (hchild : child ∈ optionalPart e)
    (h : Holds level query child) :
    Among level query ((optionalShape e).map conditionDoc).toList := by
  obtain ⟨shape, hshape, h⟩ := among_optionalShape hchild h
  exact h.condition.among (by simp [hshape])

theorem among_each {α : Type} {part : α → Part} {f : List α → List Doc}
    (hf : ∀ x rest, f (x :: rest) = f [x] ++ f rest) {xs : List α} (hchild : child ∈ xs.map part)
    (hpart : ∀ x, Holds level query (part x) → Among level query (f [x]))
    (h : Holds level query child) :
    Among level query (f xs) := by
  obtain ⟨x, hx, rfl⟩ := List.mem_map.1 hchild
  exact (hpart x h).mono (subset_of_mem hf hx)

theorem holds_of_expr {e : Expr} (hchild : child ∈ printedChildren (.expr e))
    (h : Holds level query child) :
    Holds (level + inset (.expr e) child) query (.expr e) := by
  cases e with
  | column | literal | star | raw => cases hchild
  | call name args bare =>
      cases bare with
      | true => cases hchild
      | false =>
          have hargs := among_exprDocs hchild h
          obtain ⟨e, -, rfl⟩ := List.mem_map.1 hchild
          exact .of_single (hargs.commas.among (by simp))
  | aggregate name argument distinct =>
      have hargument := among_inline hchild h
      obtain ⟨e, -, rfl⟩ := List.mem_map.1 hchild
      exact .of_single (hargument.mono fun doc hdoc => by simp [hdoc])
  | binary operator left right =>
      simp only [printedChildren, Part.children, Expr.children, List.mem_cons, List.not_mem_nil,
        or_false] at hchild
      obtain rfl | rfl := hchild
      · exact .binary operator (.inl h)
      · exact .binary operator (.inr h)
  | unary operator operand =>
      obtain rfl := List.mem_singleton.1 hchild
      rw [Holds, exprShape]
      split
      · exact .of_single (h.inline.among (by simp))
      · exact .of_single (h.inline.among (by simp))
  | index base _ | paren base | isNull base _ =>
      obtain rfl := List.mem_singleton.1 hchild
      exact .of_single (h.inline.among (by simp))
  | between subject low high negated =>
      simp only [printedChildren, Part.children, Expr.children, List.mem_cons, List.not_mem_nil,
        or_false] at hchild
      obtain rfl | rfl | rfl := hchild <;> exact .of_single (h.inline.among (by simp))
  | inList subject values negated =>
      obtain rfl | hvalue := List.mem_cons.1 hchild
      · exact .of_single (h.inline.among (by simp))
      · have hvalues := among_exprDocs hvalue h
        obtain ⟨e, -, rfl⟩ := List.mem_map.1 hvalue
        exact .of_single (hvalues.commas.among (by simp))
  | inQuery subject q negated =>
      simp only [printedChildren, Part.children, Expr.children, List.mem_cons, List.not_mem_nil,
        or_false] at hchild
      obtain rfl | rfl := hchild
      · exact .of_single (h.inline.among (by simp))
      · exact .of_single (h.nested.among (by simp))
  | existsIn q _ | subquery q =>
      obtain rfl := List.mem_singleton.1 hchild
      exact .of_single (h.nested.among (by simp))
  | caseOf operand branches otherwise =>
      simp only [printedChildren, Part.children, Expr.children, List.mem_append] at hchild
      obtain (hoperand | hbranch) | hotherwise := hchild
      · have hcase := among_inline hoperand h
        obtain ⟨e, -, rfl⟩ := List.mem_map.1 hoperand
        exact .of_single (among_caseDoc (.inl hcase))
      · have hcase := among_each (f := branchDocs) (fun x _ => by cases x; rfl) hbranch
          (fun _ => id) h
        obtain ⟨e, -, rfl⟩ := List.mem_map.1 hbranch
        exact .of_single (among_caseDoc (.inr (.inl hcase)))
      · have hcase := among_inline hotherwise h
        obtain ⟨e, -, rfl⟩ := List.mem_map.1 hotherwise
        exact .of_single (among_caseDoc (.inr (.inr hcase)))
  | cast operand type shorthand safe =>
      simp only [printedChildren, Part.children, Expr.children, List.mem_cons, List.not_mem_nil,
        or_false] at hchild
      obtain rfl | rfl := hchild
      · rw [Holds, exprShape]
        split
        · exact .of_single (h.inline.among (by simp))
        · exact .of_single (h.inline.among (by simp))
      · cases h
  | window function partition order frame =>
      simp only [printedChildren, Part.children, Expr.children, List.mem_append,
        List.mem_cons] at hchild
      obtain (rfl | hkey) | horder := hchild
      · exact .of_single (among_windowDoc frame (.inl h.inline))
      · have hwindow := among_exprDocs hkey h
        obtain ⟨e, -, rfl⟩ := List.mem_map.1 hkey
        exact .of_single (among_windowDoc frame (.inr (.inl hwindow)))
      · have hwindow := among_each (f := orderDocs) (fun x _ => by cases x; rfl) horder
          (fun _ => id) h
        obtain ⟨e, -, rfl⟩ := List.mem_map.1 horder
        exact .of_single (among_windowDoc frame (.inr (.inr hwindow)))

theorem among_sourceDocs {sources : List Source} (hchild : child ∈ sources.map .source)
    (h : Holds level query child) :
    Among level query (sourceDocs sources) := by
  refine among_each (f := sourceDocs) (fun s _ => by cases s <;> rfl) hchild (fun s h => ?_) h
  cases s with
  | table => cases h
  | derived label pivot q => exact h.among List.mem_cons_self

/-- A document that stands between brackets in a part of a query does so in the query. -/
theorem encloses_queryParts {parts : QueryParts}
    (h : Among level query parts.ctes ∨ Among level query parts.columns ∨
    Among level query parts.sources ∨
      Among level query parts.joins ∨ Among level query parts.filter.toList ∨
      (parts.groupByAll = false ∧ Among level query parts.groupBy) ∨
        Among level query parts.having.toList ∨
      Among level query parts.qualify.toList ∨ Among level query parts.orderBy ∨
      Among level query parts.limit.toList ∨ Among level query parts.offset.toList ∨
      ∃ operator next, parts.next = some (operator, next) ∧ Encloses level query next) :
    Encloses level query parts.doc := by
  refine Among.concat ?_
  simp only [among_append]
  obtain h | h | h | h | h | ⟨hall, h⟩ | h | h | h | h | h | ⟨operator, next, hnext, h⟩ := h
  · simp [among_withDoc h]
  · simp [among_columnsDoc h]
  · simp [among_listClause h]
  · simp [h.mono (subset_flatMap (f := fun join => [.hardline, join]) (by simp) _)]
  · simp [among_optionalClause h]
  · simp [hall, among_listClause h]
  · simp [among_optionalClause h]
  · simp [among_optionalClause h]
  · simp [among_listClause h]
  · simp [among_optionalClause h]
  · simp [among_optionalClause h]
  · refine .inr ?_
    rw [hnext]
    exact h.among (by simp)

theorem holds_of_query {q : Query} (hchild : child ∈ printedChildren (.query q))
    (h : Holds level query child) :
    Holds (level + inset (.query q) child) query (.query q) := by
  have hinset : inset (.query q) child = 0 := rfl
  rw [hinset, Nat.add_zero]
  obtain ⟨accesses, ctes, distinct, columns, sources, joins, filter, groupBy, groupByAll, having,
    qualify, orderBy, limit, offset, setOperator, next⟩ := q
  simp only [printedChildren, Query.children, List.mem_append] at hchild
  refine encloses_queryParts ?_
  simp only
  obtain
    ((((((((((hchild | hchild) | hchild) | hchild) | hchild) | hchild) | hchild) | hchild) | hchild)
      | hchild) | hchild) | hchild := hchild
  · simp [among_each (f := cteDocs) (fun x _ => by cases x; rfl) hchild (fun _ => id) h]
  · simp [among_each (f := itemDocs) (fun x _ => by cases x; rfl) hchild (fun _ => id) h]
  · simp [among_sourceDocs hchild h]
  · simp [among_each (f := joinDocs) (fun _ _ => rfl) hchild
      (fun j h => Encloses.among h List.mem_cons_self) h]
  · simp [among_condition hchild h]
  · cases groupByAll with
    | true => cases hchild
    | false =>
        have hkeys : Among level query (exprDocs groupBy) := among_exprDocs hchild h
        simp [hkeys]
  · simp [among_condition hchild h]
  · simp [among_condition hchild h]
  · simp [among_each (f := orderDocs) (fun x _ => by cases x; rfl) hchild (fun _ => id) h]
  · simp [among_inline hchild h]
  · simp [among_inline hchild h]
  · obtain ⟨below, hbelow, rfl⟩ := List.mem_map.1 hchild
    have hnext : next = some below ∧ (nonEmpty setOperator).isSome = true := by
      split at hbelow
      next hoperator => exact ⟨Option.mem_toList.1 hbelow, hoperator⟩
      next => cases hbelow
    obtain ⟨rfl, hoperator⟩ := hnext
    obtain ⟨operator, hoperator⟩ := Option.isSome_iff_exists.1 hoperator
    have hbelow : Encloses level query (queryDoc below) := h
    simp [hoperator, optionalQueryDoc, hbelow]

theorem among_columnDefsDoc {columns : List ColumnDef} (primaryKey : List String)
    (hchild : child ∈ columns.map .columnDef) (h : Holds level query child) :
    Among (level + 1) query (columnDefsDoc columns primaryKey) := by
  obtain ⟨c, hc, rfl⟩ := List.mem_map.1 hchild
  have hdefinition : Encloses level query (columnDefDoc c) := h
  cases columns with
  | nil => cases hc
  | cons first rest =>
      have hrest : c = first ∨ columnDefDoc c ∈ rest.flatMap fun c =>
          [.hardline, .text ", ", columnDefDoc c] :=
        (List.mem_cons.1 hc).imp_right fun hc => List.mem_flatMap.2 ⟨c, hc, by simp⟩
      rw [columnDefsDoc]
      refine Encloses.among (Encloses.indent (Among.concat (hdefinition.among ?_)))
        (List.mem_cons_of_mem _ List.mem_cons_self)
      obtain rfl | hrest := hrest
      · exact List.mem_append_left _ (List.mem_append_left _ (by simp))
      · exact List.mem_append_left _ (List.mem_append_right _ hrest)

theorem holds_of_create {s : Create} (hchild : child ∈ printedChildren (.create s))
    (h : Holds level query child) :
    Holds (level + inset (.create s) child) query (.create s) := by
  obtain ⟨accesses, kind, target, replace, ifNotExists, columns, primaryKey, like, q, customTypes,
    options⟩ := s
  have hquery (hquery : child ∈ q.toList.map .query) : ∃ body, q = some body ∧ child = .query body ∧
      Encloses level query (queryDoc body) := by
    obtain ⟨body, hbody, rfl⟩ := List.mem_map.1 hquery
    exact ⟨body, Option.mem_toList.1 hbody, rfl, h⟩
  refine Among.concat ?_
  cases kind with
  | schema => cases hchild
  | dynamicTable | view =>
      obtain ⟨body, rfl, rfl, hbody⟩ := hquery hchild
      have hbody : Among level query (bodyDoc (some body)) := hbody.among List.mem_cons_self
      exact hbody.mono fun doc hdoc => by simp [hdoc]
  | table =>
      obtain hcolumn | hchild := List.mem_append.1 hchild
      · have hcolumns := among_columnDefsDoc primaryKey hcolumn h
        obtain ⟨c, -, rfl⟩ := List.mem_map.1 hcolumn
        exact hcolumns.mono fun doc hdoc => by simp [hdoc]
      · obtain ⟨body, rfl, rfl, hbody⟩ := hquery hchild
        exact hbody.among (by simp)

theorem among_rowsDoc {rows : List (List Expr)} (hchild : child ∈ rows.flatMap exprParts)
    (h : Holds level query child) : Among level query (rowsDoc rows) := by
  obtain ⟨values, hvalues, hchild⟩ := List.mem_flatMap.1 hchild
  have hrow := (among_exprDocs hchild h).commas
  cases rows with
  | nil => cases hvalues
  | cons first rest =>
      rw [rowsDoc]
      refine hrow.among ?_
      obtain rfl | hvalues := List.mem_cons.1 hvalues
      · exact List.mem_append_left _ (by simp)
      · exact List.mem_append_right _ (List.mem_flatMap.2 ⟨values, hvalues, by simp⟩)

theorem holds_of_insert {s : Insert} (hchild : child ∈ printedChildren (.insert s))
    (h : Holds level query child) :
    Holds (level + inset (.insert s) child) query (.insert s) := by
  have hinset : inset (.insert s) child = 0 := rfl
  obtain ⟨accesses, target, columns, q, rows, overwrite⟩ := s
  rw [hinset, Nat.add_zero]
  refine Among.concat ?_
  simp only [among_append]
  cases q with
  | none =>
      have hrows := among_rowsDoc hchild h
      simp [hrows]
  | some body =>
      obtain rfl := List.mem_singleton.1 hchild
      have hbody : Among level query [.hardline, queryDoc body] := Encloses.among h (by simp)
      simp [hbody]

theorem among_assignmentsDoc {assignments : List Assignment}
    (hchild : child ∈ assignments.map .assignment) (h : Holds level query child) :
    Among level query (assignmentsDoc assignments) := by
  obtain ⟨a, ha, rfl⟩ := List.mem_map.1 hchild
  have hpair : Among level query [exprDoc a.column.expr, .text " = ", exprDoc a.value] :=
    h.elim (fun h => h.among (by simp)) fun h => h.among (by simp)
  cases assignments with
  | nil => cases ha
  | cons first rest =>
      refine hpair.mono fun doc hdoc => ?_
      obtain rfl | ha := List.mem_cons.1 ha
      · exact List.mem_append_left _ (List.mem_append_right _ hdoc)
      · exact List.mem_append_right _ (List.mem_flatMap.2 ⟨a, ha, List.mem_append_right _ hdoc⟩)

theorem among_filterDoc {filter : Option Expr} (hchild : child ∈ optionalPart filter)
    (h : Holds level query child) :
    Among level query (filterDoc filter) := by
  have hfilter := among_optionalClause (among_condition hchild h) "WHERE"
  cases filter <;> exact hfilter

theorem holds_of_update {s : Update} (hchild : child ∈ printedChildren (.update s))
    (h : Holds level query child) :
    Holds (level + inset (.update s) child) query (.update s) := by
  have hinset : inset (.update s) child = 0 := rfl
  rw [hinset, Nat.add_zero]
  refine Among.concat ?_
  simp only [printedChildren, Part.children, List.cons_append, List.mem_cons,
    List.mem_append] at hchild
  simp only [among_append]
  obtain rfl | (hassignment | hsource) | hfilter := hchild
  · cases h
  · simp [among_assignmentsDoc hassignment h]
  · simp [among_listClause (among_sourceDocs hsource h)]
  · simp [among_filterDoc hfilter h]

theorem holds_of_delete {s : Delete} (hchild : child ∈ printedChildren (.delete s))
    (h : Holds level query child) :
    Holds (level + inset (.delete s) child) query (.delete s) := by
  have hinset : inset (.delete s) child = 0 := rfl
  rw [hinset, Nat.add_zero]
  refine Among.concat ?_
  simp only [printedChildren, Part.children, List.cons_append, List.mem_cons,
    List.mem_append] at hchild
  simp only [among_append]
  obtain rfl | hsource | hfilter := hchild
  · cases h
  · have hsources : Among level query (s.sources.map sourceDoc) := by
      obtain ⟨source, hmem, rfl⟩ := List.mem_map.1 hsource
      cases source with
      | table => cases h
      | derived label pivot q => exact Encloses.among h (List.mem_map_of_mem hmem)
    simp [among_listClause hsources]
  · simp [among_filterDoc hfilter h]

theorem holds_of_columnDef {c : ColumnDef} (hchild : child ∈ printedChildren (.columnDef c))
    (h : Holds level query child) :
    Holds (level + inset (.columnDef c) child) query (.columnDef c) := by
  have hinset : inset (.columnDef c) child = 0 := rfl
  rw [hinset, Nat.add_zero]
  rw [printedChildren] at hchild
  split at hchild
  next => cases hchild
  next hbare =>
    obtain ⟨e, he, rfl⟩ := List.mem_map.1 hchild
    obtain he := Option.mem_toList.1 he
    have hdefault : defaultDoc e = exprDoc e := by
      unfold defaultDoc
      split
      next => exact absurd he (hbare _ _)
      next => rfl
    have hvalue : Encloses level query (defaultDoc e) := by
      rw [hdefault]
      exact ShapeEncloses.inline h
    exact Among.concat (hvalue.among (by simp [he]))

/-- What the layout of a child encloses is enclosed by that of its parent, deeper by the inset of
the child. -/
theorem holds_of_child {part : Part} (hchild : child ∈ printedChildren part)
    (h : Holds level query child) :
    Holds (level + inset part child) query part := by
  cases part with
  | expr e => exact holds_of_expr hchild h
  | query q => exact holds_of_query hchild h
  | create s => exact holds_of_create hchild h
  | insert s => exact holds_of_insert hchild h
  | update s => exact holds_of_update hchild h
  | delete s => exact holds_of_delete hchild h
  | columnDef c => exact holds_of_columnDef hchild h
  | grant | comment | unrendered | dataType | reference => cases hchild
  | source s =>
      cases s with
      | table => cases hchild
      | derived label pivot q =>
          obtain rfl := List.mem_singleton.1 hchild
          exact Among.concat (h.nested.among (by simp))
  | join j =>
      obtain ⟨keyword, source, condition, shared⟩ := j
      refine Among.concat ?_
      obtain rfl | hcondition := List.mem_cons.1 hchild
      · cases source with
        | table => cases h
        | derived label pivot q => exact Encloses.among h (by simp)
      · obtain ⟨shape, hshape, hcondition⟩ := among_optionalShape hcondition h
        exact hcondition.inline.among (by simp [hshape])
  | item i =>
      obtain ⟨value, label⟩ := i
      obtain rfl := List.mem_singleton.1 hchild
      exact Encloses.among (Among.concat (h.inline.among List.mem_cons_self)) List.mem_cons_self
  | branch b =>
      obtain ⟨condition, result⟩ := b
      simp only [printedChildren, Part.children, List.mem_cons, List.not_mem_nil,
        or_false] at hchild
      refine Encloses.among (Among.concat ?_) List.mem_cons_self
      obtain rfl | rfl := hchild
      · exact h.inline.among (by simp)
      · exact h.inline.among (by simp)
  | order o =>
      obtain ⟨key, descending, nulls⟩ := o
      obtain rfl := List.mem_singleton.1 hchild
      exact Encloses.among (Among.concat (h.inline.among List.mem_cons_self)) List.mem_cons_self
  | cte c =>
      obtain ⟨name, columns, q⟩ := c
      obtain rfl := List.mem_singleton.1 hchild
      exact Encloses.among (Among.concat (h.nested.among (by simp))) List.mem_cons_self
  | assignment a =>
      simp only [printedChildren, Part.children, List.mem_cons, List.not_mem_nil,
        or_false] at hchild
      obtain rfl | rfl := hchild
      · exact .inl h.inline
      · exact .inr h.inline

end

theorem Inside.holds {outer part : Part} {depth level : Nat} {query : Doc}
    (hinside : Inside outer depth part) (h : Holds level query part) :
    Holds (level + depth) query outer := by
  induction hinside generalizing level with
  | self => exact h
  | step hpart hchild ih =>
      have hparent := ih (holds_of_child hchild h)
      rwa [Nat.add_assoc, Nat.add_comm (inset _ _)] at hparent

end SqlLayout.Layout
