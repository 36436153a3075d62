import Mathlib.Data.Multiset.Dedup
import Mathlib.Data.Multiset.UnionInter
import SqlLayout.Format
import SqlLayout.Proofs.Tree.Build

/-!
# Set operations as chains

The grammar reads set operations as a tree, in which parentheses say what belongs together.  A query
keeps the operands alone, in a chain, and a chain is read from left to right.  This module says when
both have the same rows, whatever the rows of the operands are.

## Implementation notes

How often a row is in the result of a set operation depends only on how often it is in the operands.
So laws of the operations are laws of numbers, and each has a counterexample with a single row where
it fails.

## Main results

- `SetStep.regroups_iff`: the operators that a right operand can be taken apart under.
- `set_operations_keep_rows`: a tree whose right operands can all be taken apart keeps its rows.
- `three_operands_keep_rows_iff`: of three selects with the last two in parentheses, no other keeps
  them.
-/

namespace SqlLayout.Tree

open Grammar (Dialect SetOp)

/-! ## Rows of set operations -/

/-- A set operation: its operator, and whether equal rows are merged. -/
structure SetStep where
  op : SetOp
  distinct : Bool
  deriving DecidableEq, Repr

namespace SetStep

/-- The operation that is written with the given operator. -/
def ofText? (text : String) : Option SetStep :=
  match text with
  | "UNION" => some ⟨.union, true⟩
  | "UNION ALL" => some ⟨.union, false⟩
  | "INTERSECT" => some ⟨.intersect, true⟩
  | "INTERSECT ALL" => some ⟨.intersect, false⟩
  | "EXCEPT" => some ⟨.except, true⟩
  | "EXCEPT ALL" => some ⟨.except, false⟩
  | _ => none

theorem ofText?_setOperator (step : SetStep) :
    ofText? (setOperator step.op step.distinct) = some step := by
  obtain ⟨op, distinct⟩ := step
  cases op <;> cases distinct <;> rfl

/-- The rows of an operation, given those of its operands. -/
def rows {Row : Type} [DecidableEq Row] (step : SetStep) (left right : Multiset Row) :
    Multiset Row :=
  match step with
  | ⟨.union, false⟩ => left + right
  | ⟨.union, true⟩ => (left + right).dedup
  | ⟨.intersect, false⟩ => left ∩ right
  | ⟨.intersect, true⟩ => (left ∩ right).dedup
  | ⟨.except, false⟩ => left - right
  | ⟨.except, true⟩ => left.dedup - right

/-- How often a row is in the result of an operation, given how often it is in the operands. -/
def times (step : SetStep) (left right : Nat) : Nat :=
  match step with
  | ⟨.union, false⟩ => left + right
  | ⟨.union, true⟩ => min 1 (left + right)
  | ⟨.intersect, false⟩ => min left right
  | ⟨.intersect, true⟩ => min 1 (min left right)
  | ⟨.except, false⟩ => left - right
  | ⟨.except, true⟩ => min 1 left - right

variable {Row : Type} [DecidableEq Row]

theorem count_dedup (rows : Multiset Row) (row : Row) :
    rows.dedup.count row = min 1 (rows.count row) := by
  have hmem := Multiset.count_pos (s := rows) (a := row)
  rw [Multiset.count_dedup]
  split
  case isTrue h => exact (Nat.min_eq_left (hmem.2 h)).symm
  case isFalse h => simp [Multiset.count_eq_zero.2 h]

/-- The number of copies of a row is computed from its copies alone. -/
theorem count_rows (step : SetStep) (left right : Multiset Row) (row : Row) :
    (step.rows left right).count row = step.times (left.count row) (right.count row) := by
  obtain ⟨op, distinct⟩ := step
  cases op <;> cases distinct <;> simp [rows, times, count_dedup]

/-- Whether a right operand that is itself made by the inner operation can be written without
parentheses. -/
def regroups (outer inner : SetStep) : Bool :=
  match outer, inner with
  | ⟨.union, outer⟩, ⟨.union, inner⟩ => outer == inner
  | ⟨.intersect, _⟩, ⟨.intersect, _⟩ => true
  | ⟨.intersect, _⟩, ⟨.except, inner⟩ => inner
  | _, _ => false

theorem times_assoc {outer inner : SetStep} (h : outer.regroups inner) (a b c : Nat) :
    inner.times (outer.times a b) c = outer.times a (inner.times b c) := by
  obtain ⟨op, distinct⟩ := outer
  obtain ⟨op', distinct'⟩ := inner
  cases op <;> cases op' <;> cases distinct <;> cases distinct' <;> simp [regroups] at h <;>
    simp only [times] <;> omega

/-- Four choices of numbers tell apart all operations that do not associate. -/
theorem regroups_of_times {outer inner : SetStep}
    (h : ∀ a b c, inner.times (outer.times a b) c = outer.times a (inner.times b c)) :
    outer.regroups inner := by
  have h₁ := h 0 0 1
  have h₂ := h 1 0 0
  have h₃ := h 1 0 1
  have h₄ := h 1 2 1
  obtain ⟨op, distinct⟩ := outer
  obtain ⟨op', distinct'⟩ := inner
  revert h₁ h₂ h₃ h₄
  cases op <;> cases op' <;> cases distinct <;> cases distinct' <;> decide

theorem rows_assoc {outer inner : SetStep} (h : outer.regroups inner) (a b c : Multiset Row) :
    inner.rows (outer.rows a b) c = outer.rows a (inner.rows b c) := by
  ext row
  simp only [count_rows, times_assoc h]

/-- The operators that a right operand can be taken apart under are those that associate with its
own. -/
theorem regroups_iff [Inhabited Row] (outer inner : SetStep) :
    outer.regroups inner ↔
      ∀ a b c : Multiset Row, inner.rows (outer.rows a b) c = outer.rows a (inner.rows b c) := by
  refine ⟨rows_assoc, fun h => regroups_of_times fun a b c => ?_⟩
  have hcount := congrArg (Multiset.count default) (h (.replicate a default) (.replicate b default)
    (.replicate c default))
  simpa only [count_rows, Multiset.count_replicate_self] using hcount

end SetStep

/-! ## The tree that the grammar reads -/

/-- Set operations over selects. -/
inductive SetTree where
  | leaf (query : Query)
  | node (step : SetStep) (left right : SetTree)

namespace SetTree

/-- The first operand. -/
def first : SetTree → Query
  | .leaf q => q
  | .node _ left _ => left.first

/-- The operands after the first one, each with the operation before it. -/
def steps : SetTree → List (SetStep × Query)
  | .leaf _ => []
  | .node step left right => left.steps ++ (step, right.first) :: right.steps

/-- The rows of a tree; the rows of an operand depend on the operand and on its place. -/
def rows {Row : Type} [DecidableEq Row] (operand : Nat → Query → Multiset Row) (place : Nat) :
    SetTree → Multiset Row
  | .leaf q => operand place q
  | .node step left right =>
    step.rows (left.rows operand place) (right.rows operand (place + left.steps.length + 1))

/-- Whether all right operands can be written without parentheses. -/
def Regroups : SetTree → Prop
  | .leaf _ => True
  | .node step left right => (∀ s ∈ right.steps, step.regroups s.1) ∧ left.Regroups ∧ right.Regroups

/-- All operands, from left to right. -/
def operands (tree : SetTree) : List Query :=
  tree.first :: tree.steps.map Prod.snd

end SetTree

/-- Whether a query is made of selects, parentheses and set operations alone. -/
def isSetTree : Grammar.Query → Bool
  | .select _ => true
  | .setOp _ _ byName left right withClause clauses =>
    !byName && withClause.isNone && clauses.order.isNone && clauses.limit.isNone &&
      clauses.offset.isNone &&
      isSetTree left && isSetTree right
  | .wrapped inner withClause _ pivots clauses =>
    withClause.isNone && pivots.isEmpty && clauses.order.isNone && clauses.limit.isNone &&
      clauses.offset.isNone && isSetTree inner
  | .other _ _ => false

/-- The tree of a query of the grammar; parentheses say no more than the tree does. -/
def setTreeOf (dialect : Dialect) : Grammar.Query → Except Unsupported SetTree
  | .select select => do return .leaf (← selectOf dialect select)
  | .setOp op distinct _ left right _ _ => do
    let left ← setTreeOf dialect left
    return .node ⟨op, distinct⟩ left (← setTreeOf dialect right)
  | .wrapped inner _ _ _ _ => setTreeOf dialect inner
  | .other kind text => throw ⟨kind, text⟩

/-! ## The chain that is printed -/

/-- An operand without the rest of its chain. -/
def Query.unlinked (q : Query) : Query :=
  { q with setOperator := none, next := none }

mutual

/-- The operands of a chain after the first one, each with the operator written before it. -/
def Query.steps : Query → List (String × Query)
  | { arrayAccesses := _, ctes := _, distinct := _, columns := _, sources := _, joins := _,
      filter := _, groupBy := _, groupByAll := _, having := _, qualify := _, orderBy := _,
      limit := _, offset := _,
      setOperator, next } => nextSteps (setOperator.getD "") next

/-- The operands from the next one on. -/
def nextSteps (operator : String) : Option Query → List (String × Query)
  | none => []
  | some q => (operator, q.unlinked) :: q.steps

end

section

variable {Row : Type} [DecidableEq Row]

/-- The rows of what has been read together with one more operand. -/
def operatorRows (operator : String) (before after : Multiset Row) : Multiset Row :=
  match SetStep.ofText? operator with
  | some step => step.rows before after
  | none => before

/-- The rows of what has been read together with further operands, from left to right. -/
def stepRows (operand : Nat → Query → Multiset Row) :
    Nat → Multiset Row → List (String × Query) → Multiset Row
  | _, before, [] => before
  | place, before, (operator, q) :: rest =>
    stepRows operand (place + 1) (operatorRows operator before (operand place q)) rest

/-- The rows of a chain, read from left to right. -/
def Query.rows (operand : Nat → Query → Multiset Row) (q : Query) : Multiset Row :=
  stepRows operand 1 (operand 0 q.unlinked) q.steps

end

/-! ## From the tree to the chain -/

/-- The operands of a chain, each with the operator before the next one. -/
def linked : Query → List (SetStep × Query) → List Query
  | q, [] => [q]
  | q, (step, next) :: rest =>
    { q with setOperator := some (setOperator step.op step.distinct) } :: linked next rest

theorem linked_ne_nil (q : Query) (steps : List (SetStep × Query)) : linked q steps ≠ [] := by
  cases steps <;> simp [linked]

/-- Two chains with an operation between them are one chain. -/
theorem linked_append (q next : Query) (step : SetStep) (front back : List (SetStep × Query)) :
    mapLast (fun q => { q with setOperator := some (setOperator step.op step.distinct) })
      (linked q front) ++
      linked next back = linked q (front ++ (step, next) :: back) := by
  induction front generalizing q with
  | nil => rfl
  | cons entry front ih =>
      rw [linked, mapLast_cons _ _ (linked_ne_nil _ _), List.cons_append, ih]
      rfl

section

variable (dialect : Dialect)

/-- The chain of a query is the tree written from left to right, whatever its parentheses. -/
theorem chainOf_eq : ∀ {q : Grammar.Query}, isSetTree q = true →
    chainOf dialect q = (setTreeOf dialect q).map fun tree => linked tree.first tree.steps
  | .select select, _ => by
    rw [chainOf, setTreeOf]
    cases selectOf dialect select <;> rfl
  | .wrapped inner withClause label pivots clauses, h => by
    simp only [isSetTree, Bool.and_eq_true] at h
    rw [chainOf, setTreeOf, chainOf_eq h.2]
  | .setOp op distinct byName left right withClause clauses, h => by
    simp only [isSetTree, Bool.and_eq_true, Option.isNone_iff_eq_none] at h
    obtain ⟨⟨⟨⟨⟨⟨-, hwith⟩, horder⟩, hlimit⟩, hoffset⟩, hleft⟩, hright⟩ := h
    subst hwith
    rw [chainOf, setTreeOf, chainOf_eq hleft, chainOf_eq hright]
    cases setTreeOf dialect left with
    | error cause => rfl
    | ok left =>
        cases setTreeOf dialect right with
        | error cause => rfl
        | ok right =>
            simp only [Except.map, Except.bind, bind, pure, withOf, Except.pure, List.nil_append]
            rw [endingOf_bare dialect _ horder hlimit hoffset, mapHead_of_fixed,
              linked_append _ _ ⟨op, distinct⟩]
            · rfl
            · rintro ⟨⟩
              rfl

/-- The operands of a tree are selects, and so no chains themselves. -/
theorem isSingle_of_setTreeOf : ∀ {q : Grammar.Query} {tree : SetTree}, setTreeOf dialect q =
    .ok tree →
    ∀ operand ∈ tree.operands, operand.IsSingle
  | .select select, tree, h => by
    rw [setTreeOf] at h
    obtain ⟨q, hselect, h⟩ := bind_ok h
    obtain rfl := Except.ok.inj h
    exact List.forall_mem_singleton.2 (selectOf_single hselect)
  | .wrapped inner withClause label pivots clauses, tree, h => by
    rw [setTreeOf] at h
    exact isSingle_of_setTreeOf h
  | .setOp op distinct byName left right withClause clauses, tree, h => by
    rw [setTreeOf] at h
    obtain ⟨first, hleft, h⟩ := bind_ok h
    obtain ⟨second, hright, h⟩ := bind_ok h
    obtain rfl := Except.ok.inj h
    have hoperands : (SetTree.node ⟨op, distinct⟩ first second).operands =
        first.operands ++ second.operands := by
      simp [SetTree.operands, SetTree.first, SetTree.steps]
    rw [hoperands, List.forall_mem_append]
    exact ⟨isSingle_of_setTreeOf hleft, isSingle_of_setTreeOf hright⟩

end

/-! ## Reading the chain -/

/-- Operands with the texts of the operators before them. -/
def texts (steps : List (SetStep × Query)) : List (String × Query) :=
  steps.map fun step => (setOperator step.1.op step.1.distinct, step.2)

theorem texts_append (front back : List (SetStep × Query)) :
    texts (front ++ back) = texts front ++ texts back :=
  List.map_append

theorem unlinked_of_isSingle {q : Query} (h : q.IsSingle) : q.unlinked = q := by
  obtain ⟨⟩ := q
  obtain ⟨rfl, rfl⟩ := h
  rfl

theorem link_linked_cons (q next : Query) (step : SetStep) (rest : List (SetStep × Query)) :
    link (linked q ((step, next) :: rest)) =
      { q with setOperator := some (setOperator step.op step.distinct),
               next := some (link (linked next rest)) } := by
  cases rest <;> rfl

theorem steps_of_next (q next : Query) (operator : String) :
    Query.steps { q with setOperator := some operator, next := some next } =
      (operator, next.unlinked) :: next.steps := by
  rfl

/-- What is read off a chain are the operands that it was linked from. -/
theorem steps_link_linked (q : Query) (steps : List (SetStep × Query))
    (h : ∀ operand ∈ q :: steps.map Prod.snd, operand.IsSingle) :
    (link (linked q steps)).unlinked = q ∧ (link (linked q steps)).steps = texts steps := by
  induction steps generalizing q with
  | nil =>
      have hq := List.forall_mem_singleton.1 h
      refine ⟨unlinked_of_isSingle hq, ?_⟩
      rw [← unlinked_of_isSingle hq]
      rfl
  | cons step rest ih =>
      obtain ⟨step, next⟩ := step
      obtain ⟨hq, hrest⟩ := List.forall_mem_cons.1 h
      obtain ⟨hnext, hsteps⟩ := ih next hrest
      rw [link_linked_cons, steps_of_next, hnext, hsteps]
      exact ⟨unlinked_of_isSingle hq, rfl⟩

section

variable {Row : Type} [DecidableEq Row] (operand : Nat → Query → Multiset Row)

theorem stepRows_append (place : Nat) (before : Multiset Row) (front back : List (String × Query)) :
    stepRows operand place before (front ++ back) =
      stepRows operand (place + front.length) (stepRows operand place before front) back := by
  induction front generalizing place before with
  | nil => rfl
  | cons step front ih =>
      rw [List.cons_append, stepRows, ih, stepRows, List.length_cons, Nat.add_right_comm,
        Nat.add_assoc]

theorem operatorRows_step (step : SetStep) (before after : Multiset Row) :
    operatorRows (setOperator step.op step.distinct) before after = step.rows before after := by
  rw [operatorRows, step.ofText?_setOperator]

/-- A right operand that can be taken apart gives the same rows operand by operand. -/
theorem stepRows_right {tree : SetTree} (h : tree.Regroups) {step : SetStep}
    (hstep : ∀ s ∈ tree.steps, step.regroups s.1) (place : Nat) (before : Multiset Row) :
    stepRows operand place before (texts ((step, tree.first) :: tree.steps)) =
      step.rows before (tree.rows operand place) := by
  induction tree generalizing step place before with
  | leaf q => exact operatorRows_step step before _
  | node inner left right ihleft ihright =>
      obtain ⟨hinner, hleft, hright⟩ := h
      obtain ⟨hfront, hback⟩ := List.forall_mem_append.1 hstep
      have hassoc := hback _ List.mem_cons_self
      have hsplit : texts ((step, (SetTree.node inner left right).first) ::
        (SetTree.node inner left right).steps) =
          texts ((step, left.first) :: left.steps) ++ texts ((inner, right.first) :: right.steps) :=
        texts_append ((step, left.first) :: left.steps) _
      rw [hsplit, stepRows_append, ihleft hleft hfront, ihright hright hinner,
        SetStep.rows_assoc hassoc]
      simp [SetTree.rows, texts, Nat.add_assoc]

/-- Reading a tree from left to right gives its rows when all right operands can be taken apart. -/
theorem stepRows_tree {tree : SetTree} (h : tree.Regroups) (place : Nat) :
    stepRows operand (place + 1) (operand place tree.first) (texts tree.steps) =
      tree.rows operand place := by
  induction tree generalizing place with
  | leaf q => rfl
  | node inner left right ihleft ihright =>
      obtain ⟨hinner, hleft, hright⟩ := h
      have hsplit : texts (SetTree.node inner left right).steps =
          texts left.steps ++ texts ((inner, right.first) :: right.steps) :=
            texts_append left.steps _
      have hlength : (texts left.steps).length = left.steps.length := List.length_map _
      rw [SetTree.first, hsplit, stepRows_append, ihleft hleft,
        stepRows_right operand hright hinner, hlength, SetTree.rows, Nat.add_right_comm]

/-- The rows of a chain are read off the tree that it is made from. -/
theorem rows_link (tree : SetTree) (h : ∀ operand ∈ tree.operands, operand.IsSingle) :
    (link (linked tree.first tree.steps)).rows operand =
      stepRows operand 1 (operand 0 tree.first) (texts tree.steps) := by
  obtain ⟨hfirst, hsteps⟩ := steps_link_linked tree.first tree.steps h
  rw [Query.rows, hfirst, hsteps]

end

/-! ## Which queries keep their rows -/

section

variable {dialect : Dialect}

theorem queryOf_eq {q : Grammar.Query} (h : isSetTree q = true) :
    queryOf dialect q = (setTreeOf dialect q).map fun tree =>
      link (linked tree.first tree.steps) := by
  rw [queryOf, chainOf_eq dialect h]
  cases setTreeOf dialect q <;> rfl

/-- A query of selects, parentheses and set operations whose right operands associate with what is
written before them keeps its rows, whatever the rows of the selects are. -/
theorem set_operations_keep_rows {q : Grammar.Query} {tree : SetTree} (hplain : isSetTree q = true)
    (htree : setTreeOf dialect q = .ok tree) (hregroups : tree.Regroups) :
    ∃ chain, queryOf dialect q = .ok chain ∧
      ∀ {Row : Type} [DecidableEq Row] (operand : Nat → Query → Multiset Row),
        chain.rows operand = tree.rows operand 0 := by
  refine ⟨link (linked tree.first tree.steps), by rw [queryOf_eq hplain, htree]; rfl,
    fun operand => ?_⟩
  rw [rows_link operand tree (isSingle_of_setTreeOf dialect htree)]
  exact stepRows_tree operand hregroups 0

/-- A select of one column. -/
def selectColumn (column table : String) : Grammar.Select :=
  { items := [.column [{ name := column }] []],
    source := some (.table { name := some { name := table } }), clauses := {} }

/-- Rows that are in three selects, the last two in parentheses. -/
theorem set_operations_keep_rows_intersect :
    ∃ chain,
      queryOf {} (.setOp .intersect true false (.select (selectColumn "a" "t"))
        (.wrapped (.setOp .except true false (.select (selectColumn "b" "u"))
          (.select (selectColumn "c" "v")) none {}) none none [] {}) none {}) = .ok chain ∧
      chain.rows (fun place _ => if place = 2 then {2} else {1, 1, 2, 2}) =
        ({1} : Multiset Nat) := by
  let dialect : Dialect := {}
  let q : Grammar.Query := .setOp .intersect true false (.select (selectColumn "a" "t"))
    (.wrapped (.setOp .except true false (.select (selectColumn "b" "u"))
      (.select (selectColumn "c" "v")) none {}) none none [] {}) none {}
  have htree : isSetTree q = true := rfl
  obtain ⟨chain, hchain, hrows⟩ :=
    set_operations_keep_rows htree (show setTreeOf dialect q = .ok _ from rfl)
    (by simp [SetTree.Regroups, SetTree.steps, SetStep.regroups])
  refine ⟨chain, hchain, (hrows _).trans ?_⟩
  decide

/-- Of three selects, the last two in parentheses, exactly those whose operators associate keep
their rows. -/
theorem three_operands_keep_rows_iff {left middle right : Grammar.Select}
    {first second third : Query} (hleft : selectOf dialect left = .ok first)
    (hmiddle : selectOf dialect middle = .ok second)
    (hright : selectOf dialect right = .ok third) (outer inner : SetStep) :
    ∃ chain,
      queryOf dialect (.setOp outer.op outer.distinct false (.select left)
        (.wrapped (.setOp inner.op inner.distinct false (.select middle) (.select right) none {})
          none none [] {})
        none {}) = .ok chain ∧
      ((∀ operand : Nat → Query → Multiset Unit, chain.rows operand =
          outer.rows (operand 0 first) (inner.rows (operand 1 second) (operand 2 third))) ↔
        outer.regroups inner = true) := by
  let tree : SetTree := .node outer (.leaf first) (.node inner (.leaf second) (.leaf third))
  have hsingle : ∀ q ∈ tree.operands, q.IsSingle := by
    rintro q hq
    rcases List.mem_cons.1 hq with rfl | hq
    · exact selectOf_single hleft
    · rcases List.mem_cons.1 hq with rfl | hq
      · exact selectOf_single hmiddle
      · obtain rfl := List.mem_singleton.1 hq
        exact selectOf_single hright
  refine ⟨link (linked tree.first tree.steps), ?_, ?_⟩
  · rw [queryOf_eq (by rfl)]
    simp only [setTreeOf, hleft, hmiddle, hright]
    rfl
  have hread (operand : Nat → Query → Multiset Unit) :
    (link (linked tree.first tree.steps)).rows operand =
      inner.rows (outer.rows (operand 0 first) (operand 1 second)) (operand 2 third) := by
    rw [rows_link operand tree hsingle]
    simp only [tree, SetTree.first, SetTree.steps, texts, List.nil_append, List.map_cons,
      List.map_nil, stepRows, operatorRows_step]
  rw [show outer.regroups inner = true ↔ _ from @SetStep.regroups_iff Unit _ _ outer inner]
  refine ⟨fun h a b c => ?_, fun h operand => by rw [hread, h]⟩
  have hchoice := h fun place _ => if place = 0 then a else if place = 1 then b else c
  rw [hread] at hchoice
  exact hchoice

end

/-- The rows of the only query of a text as it is written, and those of the chain that it is printed
as. -/
def rowsBeforeAndAfter {Row : Type} [DecidableEq Row] (operand : Nat → Query → Multiset Row)
    (text : String) :
    Option (Multiset Row × Multiset Row) := do
  match (Grammar.parse {} text.toList).toOption with
  | some ([.query q], _) =>
    let tree ← (setTreeOf {} q).toOption
    let chain ← (queryOf {} q).toOption
    if isSetTree q then some (tree.rows operand 0, chain.rows operand) else none
  | _ => none

/-- A row of all three selects is in the result, because the parentheses have no row; without them
the first EXCEPT takes it out. -/
theorem nested_except_loses_rows :
    (format {} "select a from t except (select b from u except select c from v)").events.1.toOption
      =
        some "SELECT a\nFROM t\nEXCEPT\nSELECT b\nFROM u\nEXCEPT\nSELECT c\nFROM v\n;\n" ∧
      rowsBeforeAndAfter (fun _ _ => {()})
        "select a from t except (select b from u except select c from v)" =
        some ({()}, 0) := by
  decide +kernel

end SqlLayout.Tree
