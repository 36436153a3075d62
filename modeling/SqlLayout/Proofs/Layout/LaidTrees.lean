import SqlLayout.Proofs.Layout.Composition

/-!
# Trees are laid out of their words

The layout of every tree is composed of the words of its parts, in the way that the grammar of
layouts says.  A query has one line for each of its projected columns but the first, and those of
the queries that set operations add.
-/

namespace SqlLayout.Layout

open SqlLayout.Tree

mutual

/-- How many lines of projected columns the layout of a query has, those of nested queries aside. -/
def columnLines : Query → Nat
  | { arrayAccesses := _, ctes := _, distinct := _, columns, sources := _, joins := _, filter := _,
      groupBy := _, groupByAll := _, having := _, qualify := _, orderBy := _, limit := _,
      offset := _, setOperator, next } =>
    columns.length - 1 + if (nonEmpty setOperator).isSome then optionalColumnLines next else 0

/-- The same for a query that may be missing. -/
def optionalColumnLines : Option Query → Nat
  | none => 0
  | some query => columnLines query

end

/-- The layout of a query, which can stand at the start of a line. -/
structure QueryLaid (q : Query) : Prop where
  laid : Laid (queryWalk q) (columnLines q) [queryDoc q]
  opening : Opening (queryWalk q) [queryDoc q]

/-- The layout of a query between brackets. -/
theorem QueryLaid.nested {q : Query} (h : QueryLaid q) {s : String}
    (hsign : isSign s = true) :
    Follows (queryWalk q) 0 [.text s, .concat (nestedDoc (queryDoc q)), .text ")"] :=
  follows_nested h.laid h.opening s hsign

/-! ## Sources -/

/-- A table under one of the names that are printed of it. -/
theorem laid_table (table : TableRef) (name : String)
    (hname : name ∈ words (.source (.table table))) :
    Laid (sourceWalk (.table table)) 0 [tableDoc name table] ∧
      Opening (sourceWalk (.table table)) [tableDoc name table] := by
  have htail := follows_tail (.source (.table table)) rfl table.label table.pivot fun text htext =>
    List.mem_append_right _ htext
  have hall := htail.behind (.word hname rfl)
  exact ⟨hall.concat.same (by simp [sourceWalk]),
    (Opening.of_word List.mem_cons_self hname _).concat⟩

/-- A query in a FROM list, with its label and its pivot clause. -/
theorem laid_derived {query : Query} (h : QueryLaid query) (label pivot : Option String) :
    let doc := Doc.concat ([Doc.text "(", .concat (nestedDoc (queryDoc query)), .text ")"] ++
      tableTail label pivot)
    Laid (sourceWalk (.derived label pivot query)) 0 [doc] ∧
      Opening (sourceWalk (.derived label pivot query)) [doc] := by
  have htail := follows_tail (.source (.derived label pivot query)) rfl label pivot
    fun text htext => htext
  have hnested := (h.nested (s := "(") (by decide)).laid
  exact ⟨(htail.behind hnested).concat.same (by simp [sourceWalk, or_comm]),
    (Opening.of_sign (by decide) _).concat⟩

/-! ## Clauses -/

section

variable {e : Option Expr}

theorem follows_condition (h : ∀ below ∈ e, ExprLaid below) (keyword : String)
    (hkeyword : startsLine keyword = true) :
    Follows (optionalWalk e) 0 (optionalClause keyword ((optionalShape e).map conditionDoc)) := by
  cases e with
  | none => exact .nil
  | some e => exact (h e rfl).condition keyword hkeyword

theorem follows_clause (h : ∀ below ∈ e, ExprLaid below) (keyword : String)
    (hkeyword : startsLine keyword = true) :
    Follows (optionalWalk e) 0 (optionalClause keyword ((optionalShape e).map Shape.inline)) := by
  have hsign : isSign keyword = true := isSign_of_startsLine hkeyword
  cases e with
  | none => exact .nil
  | some e => exact .line (.of_sign hkeyword _) ((h e rfl).inline.lead hsign)

theorem follows_grouping {p : List Part} {keys : List Doc} (h : Each p keys) (all : Bool) :
    Follows (if all then [] else p) 0
      (if all then [.hardline, .text "GROUP BY ALL"] else listClause "GROUP BY " keys) := by
  cases all with
  | true => exact .line (.of_sign (by decide) []) (Laid.nil.lead (by decide))
  | false => exact h.listClause _ (by decide)

/-- The operand of a set operation, with the operator on the line before it. -/
theorem follows_next (part : Part) {operator : Option String} {next : Option Query}
    (hpart : doublesMinus part = false) (hwords : ∀ text ∈ nonEmpty operator, text ∈ words part)
    (h : ∀ below ∈ next, QueryLaid below) :
    Follows (part :: if (nonEmpty operator).isSome then optionalQueryWalk next else [])
      (if (nonEmpty operator).isSome then optionalColumnLines next else 0)
      (match (match nonEmpty operator, optionalQueryDoc next with
        | some operator, some query => some (operator, query)
        | _, _ => none : Option (String × Doc)) with
      | some (operator, query) => [.hardline, .text operator, .hardline, query]
      | none => []) := by
  cases hoperator : nonEmpty operator with
  | none => exact Follows.nil.within hpart (List.nil_subset _)
  | some text =>
      cases next with
      | none => exact Follows.nil.within hpart (List.nil_subset _)
      | some query =>
          have hword := hwords text hoperator
          have hquery := h query rfl
          have hline := Laid.line hquery.opening (.word hword hpart) hquery.laid
          have hall := Follows.line (.of_word List.mem_cons_self hword _) hline
          rwa [Nat.zero_add] at hall

end

/-- The keyword of a query. -/
def selectKeyword (distinct : Bool) : String :=
  if distinct then "SELECT DISTINCT" else "SELECT"

/-- What follows the keyword of a query. -/
def QueryParts.clauses (parts : QueryParts) : List Doc :=
  columnsDoc parts.columns ++ listClause "FROM " parts.sources ++
    (parts.joins.flatMap fun join => [.hardline, join]) ++
    optionalClause "WHERE" parts.filter ++
    (if parts.groupByAll then [.hardline, .text "GROUP BY ALL"]
      else listClause "GROUP BY " parts.groupBy) ++
    optionalClause "HAVING" parts.having ++ optionalClause "QUALIFY" parts.qualify ++
    listClause "ORDER BY " parts.orderBy ++ optionalClause "LIMIT " parts.limit ++
    optionalClause "OFFSET " parts.offset ++
    match parts.next with
    | some (operator, query) => [.hardline, .text operator, .hardline, query]
    | none => []

theorem QueryParts.doc_eq (parts : QueryParts) :
    parts.doc = .concat (withDoc parts.ctes ++ .text (selectKeyword parts.distinct) ::
      parts.clauses) := by
  cases hnext : parts.next <;> simp [QueryParts.doc, QueryParts.clauses, selectKeyword, hnext]

/-- The clauses of a query behind its keyword and its WITH block. -/
theorem QueryParts.laid (parts : QueryParts) {p q : List Part} {n : Nat} (hctes : Each p parts.ctes)
    (hclauses : Follows q n parts.clauses) :
    Laid (p ++ q) n [parts.doc] ∧ ∀ r, Opening r [parts.doc] := by
  have hkeyword : startsLine (selectKeyword parts.distinct) = true := by
    cases parts.distinct <;> decide
  have hsign : isSign (selectKeyword parts.distinct) = true := isSign_of_startsLine hkeyword
  have hbody := hclauses.behind (Laid.nil.lead hsign)
  rw [Nat.zero_add] at hbody
  rw [parts.doc_eq]
  generalize parts.ctes = ctes at hctes ⊢
  cases hctes with
  | nil => exact ⟨hbody.concat, fun r => (Opening.of_sign hkeyword _).concat⟩
  | cons hfirst _ hrest =>
      have hwith := ((hrest.lines (s := ", ") (by decide)).behind
        (hfirst.lead (s := "WITH ") (by decide))).concat
      have hall := Laid.line (.of_sign hkeyword _) hwith hbody
      rw [Nat.zero_add] at hall
      exact ⟨hall.concat, fun r => ((Opening.of_sign (by decide) _).concat.append _).concat⟩

/-- The parts of a query that are printed, in their order. -/
def printedWalk (q : Query) : List Part :=
  ctesWalk q.ctes ++ (itemsWalk q.columns ++ sourcesWalk q.sources ++ joinsWalk q.joins ++
    optionalWalk q.filter ++ (if q.groupByAll then [] else exprsWalk q.groupBy) ++
    optionalWalk q.having ++ optionalWalk q.qualify ++
    ordersWalk q.orderBy ++ optionalWalk q.limit ++ optionalWalk q.offset ++
    .query q :: if (nonEmpty q.setOperator).isSome then optionalQueryWalk q.next else [])

theorem printedWalk_subset (q : Query) : printedWalk q ⊆ queryWalk q := by
  intro part hpart
  have hgrouping : part ∈ (if q.groupByAll then [] else exprsWalk q.groupBy) →
      part ∈ exprsWalk q.groupBy := by
    split <;> simp
  have hnext : part ∈ (if (nonEmpty q.setOperator).isSome then optionalQueryWalk q.next else []) →
      part ∈ optionalQueryWalk q.next := by
    split <;> simp
  cases q
  rw [queryWalk]
  simp only [printedWalk, List.mem_append, List.mem_cons] at hpart ⊢
  grind only

/-- A regular query leaves no grouping and no operand of a set operation out. -/
theorem subset_printedWalk {q : Query} (h : Regular (queryWalk q)) :
    queryWalk q ⊆ printedWalk q := by
  have hquery : isRegular (.query q) = true := h _ (by rw [queryWalk_eq]; exact List.mem_cons_self)
  obtain ⟨hoperator, hgrouped⟩ := Bool.and_eq_true_iff.1 hquery
  intro part hpart
  have hgrouping : part ∈ exprsWalk q.groupBy →
      part ∈ (if q.groupByAll then [] else exprsWalk q.groupBy) := by
    cases hall : q.groupByAll with
    | false => exact id
    | true =>
        rw [hall] at hgrouped
        rw [List.isEmpty_iff.1 hgrouped]
        exact id
  have hnext : part ∈ optionalQueryWalk q.next →
      part ∈ (if (nonEmpty q.setOperator).isSome then optionalQueryWalk q.next else []) := by
    obtain hnone | hsome := Bool.or_eq_true_iff.1 hoperator
    · rw [Option.isNone_iff_eq_none.1 hnone, optionalQueryWalk]
      exact fun hpart => absurd hpart List.not_mem_nil
    · rw [if_pos hsome]
      exact id
  cases q
  rw [queryWalk] at hpart
  simp only [printedWalk, List.mem_append, List.mem_cons] at hpart ⊢
  grind only

theorem length_itemDocs (items : List SelectItem) : (itemDocs items).length = items.length := by
  induction items with
  | nil => rfl
  | cons item rest ih =>
      cases item
      exact congrArg (· + 1) ih

/-! ## Trees -/

mutual

theorem laid_expr (e : Expr) : ExprLaid e := by
  cases e with
  | column name qualifier quoted => exact .of_leaf rfl rfl rfl rfl rfl
  | literal value kind => exact .of_leaf rfl rfl rfl rfl rfl
  | star qualifier => exact .of_leaf rfl rfl rfl rfl rfl
  | raw sql => exact .of_leaf rfl rfl rfl rfl rfl
  | call name args bare =>
      have hword : Laid [.expr (.call name args bare)] 0 [.text name.upperCase] :=
        .word List.mem_cons_self rfl
      cases bare with
      | true =>
          -- the arguments are not printed
          refine .of_inline rfl (.cover (p := [.expr (.call name args true)]) (by simp [exprWalk])
            ?_ hword.concat)
          intro hregular part hpart _
          obtain ⟨hargs, -⟩ := regular_cons.1 hregular
          obtain rfl := List.isEmpty_iff.1 hargs
          exact hpart
      | false =>
          have hargs := (each_exprs args).commas.trail (s := ")") (by decide)
          exact .of_laid rfl rfl (.append_singleton _) (by simp [exprWalk])
            (.sign (s := "(") (by decide) hword hargs)
  | aggregate name argument distinct =>
      have hword : Laid [.expr (.aggregate name argument distinct)] 0 [.text name.upperCase] :=
        .word List.mem_cons_self rfl
      have hargument : Laid (optionalWalk argument) 0
        ((if distinct then [Doc.text "DISTINCT "] else []) ++
          ((optionalShape argument).map Shape.inline).toList) := by
        have hinline := (each_optional (laid_optional argument)).laid_optional
        cases distinct with
        | true => exact hinline.lead (by decide)
        | false => exact hinline
      have hall := Laid.sign (s := "(") (by decide) hword (hargument.trail (s := ")") (by decide))
      refine .of_laid rfl rfl (fun level => ?_) (by simp [exprWalk]) hall
      simp [concatLines, Doc.lines, exprDoc, exprShape, Shape.single, concatLines_append]
  | index base index =>
      have hword : Laid [.expr (.index base index)] 0 [.text (toString index)] :=
        .word List.mem_cons_self rfl
      have hall := Laid.sign (s := "[") (by decide) (laid_expr base).inline
        (hword.trail (s := "]") (by decide))
      refine .of_laid rfl rfl (fun level => ?_) (by grind [exprWalk]) hall
      simp [concatLines, Doc.lines, exprDoc, exprShape, Shape.single]
  | binary operator left right => exact (laid_expr left).binary (laid_expr right)
  | unary operator operand =>
      have hoperand := (laid_expr operand).inline
      by_cases hminus : operator = "-"
      · subst hminus
        exact .of_inline rfl hoperand.minus.concat
      · have hpart : doublesMinus (.expr (.unary operator operand)) =
            false := by simp [doublesMinus, hminus]
        have hword : Laid [.expr (.unary operator operand)] 0 [.text operator] :=
          .word List.mem_cons_self hpart
        refine .of_laid rfl hpart (fun level => ?_) (by simp [exprWalk])
          (.sign (s := " ") (by decide) hword hoperand)
        simp [concatLines, Doc.lines, exprDoc, exprShape, hminus, Shape.single]
  | paren inner =>
      have hall := (laid_expr inner).inline.enclose "(" ")" (by decide) (by decide)
      exact .of_laid rfl rfl (.append_singleton _) (by simp [exprWalk]) hall
  | between subject low high negated =>
      have hbounds := Laid.sign (s := " AND ") (by decide) (laid_expr low).inline
        (laid_expr high).inline
      have hsign : isSign (if negated then " NOT BETWEEN " else " BETWEEN ") = true := by
        cases negated <;> decide
      exact .of_laid rfl rfl (.append_singleton _) (by simp [exprWalk])
        (.sign hsign (laid_expr subject).inline hbounds)
  | inList subject values negated =>
      have hvalues := (each_exprs values).commas.trail (s := ")") (by decide)
      have hsign : isSign (if negated then " NOT IN (" else " IN (") = true := by
        cases negated <;> decide
      exact .of_laid rfl rfl (.append_singleton _) (by simp [exprWalk])
        (.sign hsign (laid_expr subject).inline hvalues)
  | inQuery subject query negated =>
      have hsign : isSign (if negated then " NOT IN (" else " IN (") = true := by
        cases negated <;> decide
      have hnested := ((laid_query query).nested hsign).behind (laid_expr subject).inline
      exact .of_laid rfl rfl (.append_singleton _) (by simp [exprWalk]) hnested
  | isNull subject negated =>
      have hsign : isSign (if negated then " IS NOT NULL" else " IS NULL") = true := by
        cases negated <;> decide
      exact .of_laid rfl rfl (.append_singleton _) (by simp [exprWalk])
        ((laid_expr subject).inline.trail hsign)
  | existsIn query negated =>
      have hsign : isSign (if negated then "NOT EXISTS (" else "EXISTS (") = true := by
        cases negated <;> decide
      exact .of_laid rfl rfl (.append_singleton _) (by simp [exprWalk])
        ((laid_query query).nested hsign).laid
  | caseOf operand branches otherwise =>
      have hall := laid_caseDoc (each_optional (laid_optional operand)) (each_branches branches)
        (each_optional (laid_optional otherwise))
      exact .of_laid rfl rfl (.append_singleton _) (by simp [exprWalk]) hall
  | cast operand type shorthand safe =>
      have hoperand := (laid_expr operand).inline
      have hword : Laid [.dataType type] 0 [.text (dataTypeText type)] :=
        .word List.mem_cons_self rfl
      cases shorthand with
      | true =>
          refine .of_laid rfl rfl (fun level => ?_) (by simp [exprWalk])
            (.sign (s := "::") (by decide) hoperand hword)
          simp [concatLines, Doc.lines, exprDoc, exprShape, Shape.single]
      | false =>
          have hsign : isSign (if safe then "TRY_CAST(" else "CAST(") = true := by
            cases safe <;> decide
          have hall := (Laid.sign (s := " AS ") (by decide) hoperand
            (hword.trail (s := ")") (by decide))).lead hsign
          refine .of_laid rfl rfl (fun level => ?_) (by simp [exprWalk]) hall
          simp [concatLines, Doc.lines, exprDoc, exprShape, Shape.single]
  | window function partition order frame =>
      have hall := laid_windowDoc (.expr (.window function partition order frame)) frame rfl
        (fun text htext => Option.mem_toList.2 htext) (laid_expr function).inline
          (each_exprs partition)
        (each_orders order)
      exact .of_laid rfl rfl (.append_singleton _) (by simp [exprWalk]) hall
  | subquery query =>
      have hnested := ((laid_query query).nested (s := "(") (by decide)).laid
      exact .of_laid rfl rfl (.append_singleton _) (by simp [exprWalk]) hnested

theorem laid_optional (e : Option Expr) : ∀ below ∈ e, ExprLaid below := by
  cases e with
  | none => exact fun _ h => absurd h (Option.not_mem_none _)
  | some e =>
      rintro below ⟨⟩
      exact laid_expr e

theorem each_exprs (es : List Expr) : Each (exprsWalk es) (exprDocs es) := by
  cases es with
  | nil => exact .nil
  | cons e rest => exact .cons (laid_expr e).inline (opening_expr e) (each_exprs rest)

theorem each_branches (bs : List Branch) : Each (branchesWalk bs) (branchDocs bs) := by
  match bs with
  | [] => exact .nil
  | .mk condition result :: rest =>
      have hbranch := (Laid.sign (s := " THEN ") (by decide) (laid_expr condition).inline
        (laid_expr result).inline).lead (s := "WHEN ") (by decide)
      exact .cons (hbranch.concat.node (.branch (.mk condition result)) rfl)
        (Opening.of_sign (by decide) _).concat (each_branches rest)

theorem each_orders (os : List OrderItem) : Each (ordersWalk os) (orderDocs os) := by
  match os with
  | [] => exact .nil
  | .mk key descending nulls :: rest =>
      have hkey := ((follows_orderTail descending nulls).behind (laid_expr key).inline).concat
      rw [List.append_nil] at hkey
      have hopening := ((opening_expr key).append (orderTail descending nulls)).concat
      exact .cons (hkey.node (.order (.mk key descending nulls)) rfl)
        (hopening.mono (List.subset_cons_self _ _)) (each_orders rest)

theorem each_items (items : List SelectItem) : Each (itemsWalk items) (itemDocs items) := by
  match items with
  | [] => exact .nil
  | .mk value label :: rest =>
      have hlabel := follows_label (.item (.mk value label)) " AS " (by decide) rfl label
        fun text htext => Option.mem_toList.2 htext
      have hitem := (hlabel.behind (laid_expr value).inline).concat.same
        (q := .item (.mk value label) :: exprWalk value) fun part => by simp [or_comm]
      have hopening := ((opening_expr value).append
        ((nonEmpty label).map fun text => Doc.text (" AS " ++ text)).toList).concat
      exact .cons hitem (hopening.mono (List.subset_cons_self _ _)) (each_items rest)

theorem each_sources (ss : List Source) : Each (sourcesWalk ss) (sourceDocs ss) := by
  match ss with
  | [] => exact .nil
  | .table table :: rest =>
      have htable := laid_table table (lowerName table) List.mem_cons_self
      exact .cons htable.1 htable.2 (each_sources rest)
  | .derived label pivot query :: rest =>
      have hderived := laid_derived (laid_query query) label pivot
      exact .cons hderived.1 hderived.2 (each_sources rest)

theorem laid_source (s : Source) : Laid (sourceWalk s) 0 [sourceDoc s] := by
  match s with
  | .table table =>
      exact (laid_table table table.qualifiedName (List.mem_cons_of_mem _ List.mem_cons_self)).1
  | .derived label pivot query => exact (laid_derived (laid_query query) label pivot).1

theorem each_joins (js : List Join) : Each (joinsWalk js) (joinDocs js) := by
  match js with
  | [] => exact .nil
  | .mk keyword source condition shared :: rest =>
      have hword : Laid [.join (.mk keyword source condition shared)] 0 [.text keyword] :=
        .word List.mem_cons_self rfl
      have hhead := Laid.sign (s := " ") (by decide) hword (laid_source source)
      have hopening (back : List Doc) :
        Opening (.join (.mk keyword source condition shared) :: sourceWalk source ++
          optionalWalk condition) [.concat (.text keyword :: back)] :=
        (Opening.of_word List.mem_cons_self List.mem_cons_self back).concat
      cases condition with
      | some e =>
          have hjoin := (Follows.sign (s := " ON ") (by decide) (laid_expr e).inline).behind hhead
          exact .cons hjoin.concat (hopening _) (each_joins rest)
      | none =>
          have hnames := follows_names (.join (.mk keyword source none shared)) " USING("
            (by decide) rfl shared
            fun hne => by simp [words, hne]
          have hjoin := (hnames.behind hhead).concat
          exact .cons (hjoin.same (by simp [optionalWalk, or_comm])) (hopening _) (each_joins rest)

theorem each_ctes (cs : List Cte) : Each (ctesWalk cs) (cteDocs cs) := by
  match cs with
  | [] => exact .nil
  | .mk name columns query :: rest =>
      have hword : Laid [.cte (.mk name columns query)] 0 [.text name] :=
        .word List.mem_cons_self rfl
      have hnames := follows_names (.cte (.mk name columns query)) " (" (by decide) rfl columns
        fun hne => by simp [words, hne]
      have hnested := (laid_query query).nested (s := " AS (") (by decide)
      have hcte := (hnested.behind (hnames.behind hword)).concat.same
        (q := .cte (.mk name columns query) :: queryWalk query) (by simp)
      exact .cons hcte (Opening.of_word List.mem_cons_self List.mem_cons_self _).concat
        (each_ctes rest)

theorem laid_query (q : Query) : QueryLaid q := by
  match q with
  | { arrayAccesses, ctes, distinct, columns, sources, joins, filter, groupBy, groupByAll, having,
      qualify, orderBy, limit, offset, setOperator, next } =>
      have hcolumns := (each_items columns).columns
      have hfrom := hcolumns.append ((each_sources sources).listClause "FROM " (by decide))
      have hjoins := hfrom.append ((each_joins joins).follows (k := 0) fun hdoc hopening =>
        .line hopening hdoc)
      have hwhere := hjoins.append (follows_condition (laid_optional filter) "WHERE" (by decide))
      have hgroup := hwhere.append (follows_grouping (each_exprs groupBy) groupByAll)
      have hhaving := hgroup.append (follows_condition (laid_optional having) "HAVING" (by decide))
      have hqualify := hhaving.append (follows_condition (laid_optional qualify) "QUALIFY"
        (by decide))
      have horder := hqualify.append ((each_orders orderBy).listClause "ORDER BY " (by decide))
      have hlimit := horder.append (follows_clause (laid_optional limit) "LIMIT " (by decide))
      have hoffset := hlimit.append (follows_clause (laid_optional offset) "OFFSET " (by decide))
      let q : Query := ⟨arrayAccesses, ctes, distinct, columns, sources, joins, filter, groupBy,
        groupByAll, having, qualify, orderBy, limit, offset, setOperator, next⟩
      let q : Query := ⟨arrayAccesses, ctes, distinct, columns, sources, joins, filter, groupBy,
        groupByAll, having, qualify, orderBy, limit, offset, setOperator, next⟩
      have hclauses := hoffset.append (follows_next (.query q) rfl
        (fun text htext => Option.mem_toList.2 htext) (laid_next next))
      obtain ⟨hlaid, hopening⟩ := QueryParts.laid
        ⟨cteDocs ctes, distinct, _, _, _, _, _, groupByAll, _, _, _, _, _, _⟩
          (each_ctes ctes) hclauses
      rw [length_itemDocs] at hlaid
      exact ⟨.cover (printedWalk_subset q)
        (fun hregular part hpart _ => subset_printedWalk hregular hpart) hlaid, hopening _⟩

theorem laid_next (q : Option Query) : ∀ below ∈ q, QueryLaid below := by
  cases q with
  | none => exact fun _ h => absurd h (Option.not_mem_none _)
  | some q =>
      rintro below ⟨⟩
      exact laid_query q

end

end SqlLayout.Layout
