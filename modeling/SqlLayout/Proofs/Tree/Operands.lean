import Mathlib.Data.List.Basic
import Mathlib.Data.List.Forall2
import SqlLayout.Format
import SqlLayout.Proofs.Tree.Build

/-!
# Operands and operators of chains

The grammar reads set operations as a tree over selects.  A query keeps them as a chain: the selects
from left to right, each with the operator behind it, whatever the parentheses were.  The WITH
clauses of the operations that begin with the first select go in front of its own.

## Implementation notes

A chain is built as a list and linked in the end, so what is said about its links is said about the
list first.  The builder changes the first and the last query of a list only, and there no more than
the named queries, the operator, and the ordering and limits; the rest of a select is its core.

## Main results

- `exists_queryOf_iff`: a query is built when its selects, its WITH clauses and its endings are.
- `chain_in_source_order`: the chain has the selects and the operators of the tree in their order.
-/

namespace SqlLayout.Tree

open Grammar (Dialect)

/-! ## Links -/

mutual

/-- The queries of a chain, from its head on. -/
def Query.links : Query → List Query
  | q@{ arrayAccesses := _, ctes := _, distinct := _, columns := _, sources := _, joins := _,
        filter := _, groupBy := _, groupByAll := _, having := _, qualify := _, orderBy := _,
        limit := _, offset := _,
        setOperator := _, next } => q :: nextLinks next

/-- The queries of a chain from the next one on. -/
def nextLinks : Option Query → List Query
  | none => []
  | some q => q.links

end

theorem links_eq (q : Query) : q.links = q :: nextLinks q.next := by
  cases q
  rfl

/-- A query without the queries behind it. -/
def Query.alone (q : Query) : Query :=
  { q with next := none }

theorem alone_of_next {q : Query} (h : q.next = none) : q.alone = q := by
  cases q
  cases h
  rfl

/-- The links of a chain are the queries that it was linked from. -/
theorem map_alone_links {chain : List Query} (hne : chain ≠ []) (h : ∀ q ∈ chain, q.next = none) :
    (link chain).links.map Query.alone = chain := by
  induction chain with
  | nil => exact absurd rfl hne
  | cons q rest ih =>
      obtain ⟨hq, hrest⟩ := List.forall_mem_cons.1 h
      cases rest with
      | nil => rw [link, links_eq, hq, nextLinks, List.map_singleton, alone_of_next hq]
      | cons next rest =>
          have hlink : (link (q :: next :: rest)).alone = q := alone_of_next hq
          rw [links_eq, List.map_cons, hlink, link, nextLinks, ih (List.cons_ne_nil _ _) hrest]
          exact List.cons_ne_nil _ _

/-- When all queries of a list but the last one have an operator, each link has one as long as
something follows. -/
theorem isSome_of_mem_links {chain : List Query} {operators : List String}
    (h : ∀ q ∈ chain, q.next = none)
    (hoperators : chain.map (·.setOperator) = operators.map some ++ [none]) :
    ∀ q ∈ (link chain).links, q.setOperator.isSome = q.next.isSome := by
  induction chain generalizing operators with
  | nil => simp at hoperators
  | cons q rest ih =>
      obtain ⟨hq, hrest⟩ := List.forall_mem_cons.1 h
      cases rest with
      | nil =>
          obtain rfl : operators = [] := by simpa using congrArg List.length hoperators
          have hnone : q.setOperator = none := by simpa using hoperators
          rw [link, links_eq, hq, nextLinks, List.forall_mem_singleton, hnone, hq]
          rfl
      | cons next rest =>
          cases operators with
          | nil => simp at hoperators
          | cons operator operators =>
              obtain ⟨hoperator, hmore⟩ := List.cons.inj hoperators
              have hoperator : q.setOperator = some operator := hoperator
              rw [link, links_eq, nextLinks, List.forall_mem_cons]
              · exact ⟨by rw [hoperator]; rfl, ih hrest hmore⟩
              · exact List.cons_ne_nil _ _

/-! ## Changes of lists -/

section

variable {α : Type} {f : Query → Query} {g : Query → α} {chain : List Query}

theorem mapLast_concat (f : Query → Query) (front : List Query) (last : Query) :
    mapLast f (front ++ [last]) = front ++ [f last] := by
  induction front with
  | nil => rfl
  | cons q front ih => rw [List.cons_append, mapLast_cons f q (by simp), ih, List.cons_append]

theorem map_mapLast (f : Query → Query) (h : ∀ q, g (f q) = g q) (chain : List Query) :
    (mapLast f chain).map g = chain.map g := by
  obtain rfl | ⟨front, last, rfl⟩ := List.eq_nil_or_concat' chain
  · rfl
  · rw [mapLast_concat, List.map_append, List.map_append, List.map_singleton, List.map_singleton, h]

theorem map_mapHead (f : Query → Query) (h : ∀ q, g (f q) = g q) (chain : List Query) :
    (mapHead f chain).map g = chain.map g := by
  cases chain with
  | nil => rfl
  | cons q rest => rw [mapHead, List.map_cons, List.map_cons, h]

variable {items : List α} {R : α → Query → Prop}

theorem forall₂_mapLast (hf : ∀ item q, R item q → R item (f q)) (h : List.Forall₂ R items chain) :
    List.Forall₂ R items (mapLast f chain) := by
  induction h with
  | nil => exact .nil
  | @cons item q items chain hq hrest ih =>
      cases chain with
      | nil => exact .cons (hf item q hq) hrest
      | cons next rest => exact .cons hq ih

theorem forall₂_mapHead (hf : ∀ item q, R item q → R item (f q)) (h : List.Forall₂ R items chain) :
    List.Forall₂ R items (mapHead f chain) := by
  cases h with
  | nil => exact .nil
  | cons hq hrest => exact .cons (hf _ _ hq) hrest

end

/-! ## Trees of set operations -/

/-- The selects of a tree of set operations, from left to right. -/
def selects : Grammar.Query → List Grammar.Select
  | .select select => [select]
  | .setOp _ _ _ left right _ _ => selects left ++ selects right
  | .wrapped inner _ _ _ _ => selects inner
  | .other _ _ => []

/-- The operators of a tree of set operations, from left to right. -/
def operators : Grammar.Query → List String
  | .select _ => []
  | .setOp op distinct _ left right _ _ =>
    operators left ++ (op.keyword ++ if distinct then "" else " ALL") :: operators right
  | .wrapped inner _ _ _ _ => operators inner
  | .other _ _ => []

/-- The WITH clauses of the set operations on the way down to the first select, outermost first. -/
def leadingWiths : Grammar.Query → List (Option Grammar.With)
  | .select _ => []
  | .setOp _ _ _ left _ withClause _ => withClause :: leadingWiths left
  | .wrapped inner _ _ _ _ => leadingWiths inner
  | .other _ _ => []

theorem setOperator_eq (op : Grammar.SetOp) (distinct : Bool) :
    setOperator op distinct = op.keyword ++ if distinct then "" else " ALL" := by
  cases distinct
  · rfl
  · exact String.append_empty.symm

/-- The part of a query that no set operation changes. -/
def Query.core (q : Query) : Query :=
  { q with ctes := [], orderBy := [], limit := none, offset := none, setOperator := none,
           next := none }

/-- Whether a query of a list that is not linked yet is a select, apart from what set operations put
into it. -/
structure Carries (own link : Query) : Prop where
  unlinked : link.next = none
  core : link.core = own.core
  ctes : own.ctes <:+ link.ctes

theorem unlinked_of_carries {built chain : List Query} (h : List.Forall₂ Carries built chain) :
    ∀ link ∈ chain, link.next = none := by
  induction h with
  | nil => exact List.forall_mem_nil _
  | cons hlink _ ih => exact List.forall_mem_cons.2 ⟨hlink.unlinked, ih⟩

section

variable (dialect : Dialect)

/-- Whether the ordering and the limits of a query have a place in the tree. -/
structure EndingBuilds (clauses : Grammar.Clauses) : Prop where
  order : ∃ keys, optionalOrdersOf dialect clauses.order = .ok keys
  limit : ∃ count, limitOf dialect clauses.limit = .ok count
  offset : ∃ start, optionalExprOf dialect clauses.offset = .ok start

/-- Whether a query is made of selects, parentheses and set operations whose parts all have a place
in the tree. -/
def Builds : Grammar.Query → Prop
  | .select select => ∃ q, selectOf dialect select = .ok q
  | .setOp _ _ _ left right withClause clauses =>
    Builds left ∧ Builds right ∧ (∃ ctes, withOf dialect withClause = .ok ctes) ∧
      EndingBuilds dialect clauses
  | .wrapped inner _ _ _ _ => Builds inner
  | .other _ _ => False

/-- A list of queries that is composed of the built selects and WITH clauses of a tree of set
operations. -/
structure Composes (q : Grammar.Query) (built : List Query) (bindings : List (List Cte))
    (chain : List Query) :
    Prop where
  selects : List.Forall₂ (fun select own => selectOf dialect select = .ok own) (selects q) built
  withs : List.Forall₂ (fun clause ctes => withOf dialect clause = .ok ctes)
    (leadingWiths q) bindings
  queries : List.Forall₂ Carries built chain
  operators : chain.map (·.setOperator) = (operators q).map some ++ [none]
  opening : (chain.map (·.ctes)).head? = built.head?.map fun own => bindings.flatten ++ own.ctes

end

/-! ## Steps of the builder -/

/-- A query with the operator in front of the next one. -/
def Query.followedBy (operator : String) (q : Query) : Query :=
  { q with setOperator := some operator }

/-- A query with further named queries in front of its own. -/
def Query.under (ctes : List Cte) (q : Query) : Query :=
  { q with ctes := ctes ++ q.ctes }

/-- A query with the built ordering and limits of a set operation, where it has any. -/
def Query.ended (clauses : Grammar.Clauses) (keys : Option (List OrderItem))
    (count start : Option Expr) (q : Query) : Query :=
  { q with orderBy := keys.getD q.orderBy
           limit := if clauses.limit.isSome then count else q.limit
           offset := if clauses.offset.isSome then start else q.offset }

section

variable {own q : Query}

theorem Carries.followedBy (h : Carries own q) (operator : String) :
    Carries own (q.followedBy operator) :=
  ⟨h.unlinked, h.core, h.ctes⟩

theorem Carries.under (h : Carries own q) (ctes : List Cte) : Carries own (q.under ctes) :=
  ⟨h.unlinked, h.core, h.ctes.trans (List.suffix_append _ _)⟩

theorem Carries.ended (h : Carries own q) (clauses : Grammar.Clauses)
    (keys : Option (List OrderItem)) (count start : Option Expr) :
    Carries own (q.ended clauses keys count start) :=
  ⟨h.unlinked, h.core, h.ctes⟩

end

section

variable {dialect : Dialect}

/-- The ordering and the limits of a set operation go into the last query of the list. -/
theorem endingOf_ok_iff {chain result : List Query} {clauses : Grammar.Clauses} :
    endingOf dialect chain clauses = .ok result ↔
      ∃ keys count start, optionalOrdersOf dialect clauses.order = .ok keys ∧
        limitOf dialect clauses.limit = .ok count ∧ optionalExprOf dialect clauses.offset =
          .ok start ∧
        result = mapLast (Query.ended clauses keys count start) chain := by
  cases clauses
  rw [endingOf]
  constructor
  · intro h
    obtain ⟨keys, hkeys, h⟩ := bind_ok h
    obtain ⟨count, hcount, h⟩ := bind_ok h
    obtain ⟨start, hstart, h⟩ := bind_ok h
    exact ⟨keys, count, start, hkeys, hcount, hstart, (Except.ok.inj h).symm⟩
  · rintro ⟨keys, count, start, hkeys, hcount, hstart, rfl⟩
    simp only [hkeys, hcount, hstart]
    rfl

/-- The list of a set operation, from those of its operands. -/
theorem chainOf_setOp_ok_iff {op : Grammar.SetOp} {distinct byName : Bool}
    {left right : Grammar.Query} {withClause : Option Grammar.With} {clauses : Grammar.Clauses}
    {chain : List Query} :
    chainOf dialect (.setOp op distinct byName left right withClause clauses) = .ok chain ↔
      ∃ front back ctes, chainOf dialect left = .ok front ∧ chainOf dialect right = .ok back ∧
        withOf dialect withClause = .ok ctes ∧
        endingOf dialect (mapHead (Query.under ctes)
          (mapLast (Query.followedBy (setOperator op distinct)) front ++ back)) clauses =
            .ok chain := by
  rw [chainOf]
  constructor
  · intro h
    obtain ⟨front, hfront, h⟩ := bind_ok h
    obtain ⟨back, hback, h⟩ := bind_ok h
    obtain ⟨ctes, hctes, h⟩ := bind_ok h
    exact ⟨front, back, ctes, hfront, hback, hctes, h⟩
  · rintro ⟨front, back, ctes, hfront, hback, hctes, h⟩
    simp only [hfront, hback, hctes]
    exact h

theorem exists_endingOf_iff {chain : List Query} {clauses : Grammar.Clauses} :
    (∃ result, endingOf dialect chain clauses = .ok result) ↔ EndingBuilds dialect clauses := by
  simp only [endingOf_ok_iff]
  constructor
  · rintro ⟨-, keys, count, start, hkeys, hcount, hstart, -⟩
    exact ⟨⟨keys, hkeys⟩, ⟨count, hcount⟩, ⟨start, hstart⟩⟩
  · rintro ⟨⟨keys, hkeys⟩, ⟨count, hcount⟩, ⟨start, hstart⟩⟩
    exact ⟨_, keys, count, start, hkeys, hcount, hstart, rfl⟩

/-- A chain is built when all its parts are. -/
theorem exists_chainOf_iff : ∀ q : Grammar.Query, (∃ chain, chainOf dialect q = .ok chain) ↔
    Builds dialect q
  | .select select => by
    rw [chainOf, Builds]
    constructor
    · rintro ⟨chain, h⟩
      obtain ⟨q, hq, -⟩ := bind_ok h
      exact ⟨q, hq⟩
    · rintro ⟨q, hq⟩
      exact ⟨[q], by rw [hq]; rfl⟩
  | .setOp op distinct byName left right withClause clauses => by
    rw [Builds, ← exists_chainOf_iff left, ← exists_chainOf_iff right]
    simp only [chainOf_setOp_ok_iff]
    constructor
    · rintro ⟨chain, front, back, ctes, hfront, hback, hctes, hchain⟩
      exact ⟨⟨front, hfront⟩, ⟨back, hback⟩, ⟨ctes, hctes⟩, exists_endingOf_iff.1 ⟨chain, hchain⟩⟩
    · rintro ⟨⟨front, hfront⟩, ⟨back, hback⟩, ⟨ctes, hctes⟩, hending⟩
      obtain ⟨chain, hchain⟩ := exists_endingOf_iff.2 hending
      exact ⟨chain, front, back, ctes, hfront, hback, hctes, hchain⟩
  | .wrapped inner withClause label pivots clauses => by
    rw [chainOf, Builds]
    exact exists_chainOf_iff inner
  | .other kind text => by
    rw [chainOf, Builds]
    exact iff_false_intro fun ⟨chain, h⟩ => nomatch h

theorem queryOf_ok_iff {q : Grammar.Query} {head : Query} :
    queryOf dialect q = .ok head ↔ ∃ chain, chainOf dialect q = .ok chain ∧ head = link chain := by
  rw [queryOf]
  constructor
  · intro h
    obtain ⟨chain, hchain, h⟩ := bind_ok h
    exact ⟨chain, hchain, (Except.ok.inj h).symm⟩
  · rintro ⟨chain, hchain, rfl⟩
    rw [hchain]
    rfl

theorem exists_queryOf_iff (q : Grammar.Query) : (∃ head, queryOf dialect q = .ok head) ↔
    Builds dialect q := by
  rw [← exists_chainOf_iff]
  simp only [queryOf_ok_iff]
  exact ⟨fun ⟨_, chain, hchain, _⟩ => ⟨chain, hchain⟩,
    fun ⟨chain, hchain⟩ => ⟨link chain, chain, hchain, rfl⟩⟩

/-! ## From the tree to the chain -/

theorem Composes.chain_ne_nil {q : Grammar.Query} {built chain : List Query}
    {bindings : List (List Cte)} (h : Composes dialect q built bindings chain) : chain ≠ [] := by
  rintro rfl
  simpa using congrArg List.length h.operators

/-- What a set operation puts into the queries of its operands leaves them the selects that they
are. -/
theorem Composes.setOp {op : Grammar.SetOp} {distinct byName : Bool} {left right : Grammar.Query}
    {withClause : Option Grammar.With} {clauses : Grammar.Clauses}
    {first second front back : List Query} {leading other : List (List Cte)} {ctes : List Cte}
    {keys : Option (List OrderItem)} {count start : Option Expr}
    (hleft : Composes dialect left first leading front)
    (hright : Composes dialect right second other back)
    (hctes : withOf dialect withClause = .ok ctes) :
    Composes dialect (.setOp op distinct byName left right withClause clauses) (first ++ second)
      (ctes :: leading)
      (mapLast (Query.ended clauses keys count start) (mapHead (Query.under ctes)
        (mapLast (Query.followedBy (setOperator op distinct)) front ++ back))) := by
  obtain ⟨init, last, hfront⟩ := (List.eq_nil_or_concat' front).resolve_left hleft.chain_ne_nil
  refine ⟨List.rel_append hleft.selects hright.selects, .cons hctes hleft.withs, ?_, ?_, ?_⟩
  · have hoperator := forall₂_mapLast (fun _ _ h => Carries.followedBy h (setOperator op distinct))
      hleft.queries
    have hunder := forall₂_mapHead (fun _ _ h => Carries.under h ctes)
      (List.rel_append hoperator hright.queries)
    exact forall₂_mapLast (fun _ _ h => h.ended clauses keys count start) hunder
  · have hended (chain : List Query) : (mapLast (Query.ended clauses keys count start) chain).map
      Query.setOperator =
        chain.map Query.setOperator :=
          map_mapLast (Query.ended clauses keys count start) (fun _ => rfl) chain
    have hunder (chain : List Query) : (mapHead (Query.under ctes) chain).map Query.setOperator =
        chain.map Query.setOperator := map_mapHead (Query.under ctes) (fun _ => rfl) chain
    have hinit := hleft.operators
    rw [hfront, List.map_append] at hinit
    rw [hended, hunder, hfront, mapLast_concat, List.map_append, List.map_append, hright.operators,
      (List.append_inj' hinit rfl).1, Tree.operators, ← setOperator_eq]
    simp [Query.followedBy]
  · have hended (chain : List Query) : (mapLast (Query.ended clauses keys count start) chain).map
      Query.ctes =
        chain.map Query.ctes := map_mapLast (Query.ended clauses keys count start)
          (fun _ => rfl) chain
    have hunder (chain : List Query) : ((mapHead (Query.under ctes) chain).map Query.ctes).head? =
        (chain.map Query.ctes).head?.map (ctes ++ ·) := by
      cases chain <;> rfl
    have hfollowed : (mapLast (Query.followedBy (setOperator op distinct)) front).map Query.ctes =
        front.map Query.ctes := map_mapLast (Query.followedBy _) (fun _ => rfl) front
    have hfirst : first ≠ [] := by
      rintro rfl
      exact hleft.chain_ne_nil (List.forall₂_nil_left_iff.1 hleft.queries)
    rw [hended, hunder, List.map_append, hfollowed,
      List.head?_append_of_ne_nil _ (by simp [hfront]), hleft.opening,
      List.head?_append_of_ne_nil _ hfirst, Option.map_map]
    exact congrArg (Option.map · first.head?) (funext fun own => (List.append_assoc _ _ _).symm)

/-- A list that is built of a query is composed of its selects. -/
theorem exists_composes : ∀ {q : Grammar.Query} {chain : List Query}, chainOf dialect q =
    .ok chain →
    ∃ built bindings, Composes dialect q built bindings chain
  | .select select, chain, h => by
    rw [chainOf] at h
    obtain ⟨q, hq, h⟩ := bind_ok h
    obtain rfl := Except.ok.inj h
    obtain ⟨hoperator, hnext⟩ := selectOf_single hq
    refine ⟨[q], [], .cons hq .nil, .nil, .cons ⟨hnext, rfl, List.suffix_refl _⟩ .nil, ?_, rfl⟩
    rw [List.map_singleton, hoperator]
    rfl
  | .setOp op distinct byName left right withClause clauses, chain, h => by
    obtain ⟨front, back, ctes, hfront, hback, hctes, hending⟩ := chainOf_setOp_ok_iff.1 h
    obtain ⟨keys, count, start, -, -, -, rfl⟩ := endingOf_ok_iff.1 hending
    obtain ⟨first, leading, hleft⟩ := exists_composes hfront
    obtain ⟨second, other, hright⟩ := exists_composes hback
    exact ⟨first ++ second, ctes :: leading, hleft.setOp hright hctes⟩
  | .wrapped inner withClause label pivots clauses, chain, h => by
    rw [chainOf] at h
    obtain ⟨built, bindings, hinner⟩ := exists_composes h
    exact ⟨built, bindings, hinner.selects, hinner.withs, hinner.queries, hinner.operators,
      hinner.opening⟩

/-- The links of a chain are the selects of the tree from left to right, each with its own named
queries, and the operators between them are those of the tree.  A link has an operator exactly when
another one follows.  In front of the named queries of the first select stand those of the set
operations that begin with it, outermost first. -/
theorem chain_in_source_order (q : Grammar.Query) (h : Builds dialect q) :
    ∃ head built bindings, queryOf dialect q = .ok head ∧
      List.Forall₂ (fun select own => selectOf dialect select = .ok own) (selects q) built ∧
      List.Forall₂ (fun clause ctes => withOf dialect clause = .ok ctes) (leadingWiths q) bindings ∧
      List.Forall₂ (fun own link => link.core = own.core ∧ own.ctes <:+ link.ctes) built
        head.links ∧
      head.links.map (·.setOperator) = (operators q).map some ++ [none] ∧
      (∀ link ∈ head.links, link.setOperator.isSome = link.next.isSome) ∧
      ∃ own, built.head? = some own ∧ head.ctes = bindings.flatten ++ own.ctes := by
  obtain ⟨chain, hchain⟩ := (exists_chainOf_iff q).2 h
  obtain ⟨built, bindings, hcomposes⟩ := exists_composes hchain
  have hunlinked := unlinked_of_carries hcomposes.queries
  have hlinks := map_alone_links hcomposes.chain_ne_nil hunlinked
  refine ⟨link chain, built, bindings, queryOf_ok_iff.2 ⟨chain, hchain, rfl⟩, hcomposes.selects,
    hcomposes.withs, ?_, ?_, isSome_of_mem_links hunlinked hcomposes.operators, ?_⟩
  · have hqueries := hcomposes.queries
    rw [← hlinks, List.forall₂_map_right_iff] at hqueries
    exact hqueries.imp fun _ _ hcarries => ⟨hcarries.core, hcarries.ctes⟩
  · have hoperators := hcomposes.operators
    rw [← hlinks, List.map_map] at hoperators
    exact hoperators
  · have hopening := hcomposes.opening
    obtain ⟨first, rest, rfl⟩ := List.exists_cons_of_ne_nil hcomposes.chain_ne_nil
    have hhead : (link (first :: rest)).ctes = first.ctes := by cases rest <;> rfl
    obtain ⟨own, hown, hctes⟩ := Option.map_eq_some_iff.1 hopening.symm
    exact ⟨own, hown, hhead.trans hctes.symm⟩

end

/-- A UNION ALL under a WITH clause whose operands are set operations in parentheses with WITH
clauses of their own. -/
def nestedOperations : Grammar.Query :=
  let pick (name : String) (withClause : Option Grammar.With) : Grammar.Query :=
    .select { withClause := withClause, items := [.column [{ name := name }] []], clauses := {} }
  let naming (name : String) : Option Grammar.With :=
    some (.mk false [.mk { name := some { name := name } } (pick name none) "" []] [])
  let wrapped (inner : Grammar.Query) : Grammar.Query := .wrapped inner none none [] {}
  .setOp .union false false
    (wrapped (.setOp .except true false (pick "a" (naming "u")) (pick "b" none) (naming "v") {}))
    (wrapped (.setOp .intersect true false (pick "c" none) (pick "d" none) (naming "w") {}))
      (naming "x") {}

theorem chain_in_source_order_nested :
    Builds {} nestedOperations ∧ ∃ head, queryOf {} nestedOperations = .ok head ∧
    head.links.map (·.setOperator) = [some "EXCEPT", some "UNION ALL", some "INTERSECT", none] ∧
    ∀ link ∈ head.links, link.setOperator.isSome = link.next.isSome := by
  have hbuilds : Builds {} nestedOperations := by
    have hending : EndingBuilds {} {} := ⟨⟨_, rfl⟩, ⟨_, rfl⟩, ⟨_, rfl⟩⟩
    exact ⟨⟨⟨_, rfl⟩, ⟨_, rfl⟩, ⟨_, rfl⟩, hending⟩, ⟨⟨_, rfl⟩, ⟨_, rfl⟩, ⟨_, rfl⟩, hending⟩,
      ⟨_, rfl⟩, hending⟩
  obtain ⟨head, built, bindings, hhead, -, -, -, hoperators, hlinks, -⟩ :=
    chain_in_source_order nestedOperations hbuilds
  exact ⟨hbuilds, head, hhead, hoperators, hlinks⟩

example : (queryOf {} nestedOperations).toOption.map
    (fun head => head.ctes.map fun | .mk name _ _ => name) =
    some ["x", "v", "u"] := rfl

end SqlLayout.Tree
