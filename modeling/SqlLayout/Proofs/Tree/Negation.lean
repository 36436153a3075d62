import Mathlib.Data.List.Forall2
import SqlLayout.Format
import SqlLayout.Proofs.Tree.Operands

/-!
# Negations

A condition is a term over operands and queries, made with NOT, AND, OR, comparisons, pattern
matches, IN, IS, BETWEEN, EXISTS and parentheses.  The builder takes a NOT into the predicate
behind it where the predicate has a negated spelling.  Its node has the value of the condition,
whatever the operands and the predicates stand for.

## Implementation notes

Truth is three-valued.  What is no condition is an operand: a valuation gives it a value of its
own, and gives rows to a query.  The node of an operand has the same value and the chain of a query
the same rows (`ConditionLeaf.Agrees`), which is asked only of the operands and the queries that
stand in the condition.  A negated predicate of a tree stands for the negation of the plain one, so
what there is to prove is that a fold is a negation (`nodeValue_negate`).

## Main results

- `exists_exprOf_iff`: a node is built when those of the operands and the queries are.
- `node_keeps_truth`: the node of a condition is as true as the condition.
-/

namespace SqlLayout.Tree

open Grammar (Dialect Term BinaryOp)

/-! ## Truth values -/

/-- The truth values of a logic with missing values. -/
inductive Truth where
  | holds
  | fails
  | unknown
  deriving DecidableEq, Repr

/-- The negation; what is unknown stays so. -/
def Truth.not : Truth → Truth
  | .holds => .fails
  | .fails => .holds
  | .unknown => .unknown

/-- The conjunction; one part that fails decides. -/
def Truth.and : Truth → Truth → Truth
  | .fails, _ | _, .fails => .fails
  | .holds, .holds => .holds
  | _, _ => .unknown

/-- The disjunction; one part that holds decides. -/
def Truth.or : Truth → Truth → Truth
  | .holds, _ | _, .holds => .holds
  | .fails, .fails => .fails
  | _, _ => .unknown

@[simp]
theorem Truth.not_not (truth : Truth) : truth.not.not = truth := by
  cases truth <;> rfl

/-- The truth of a predicate with a flag for its negation. -/
def Truth.flagged (truth : Truth) (negated : Bool) : Truth :=
  if negated then truth.not else truth

@[simp]
theorem Truth.flagged_not (truth : Truth) (negated : Bool) :
    truth.flagged (!negated) = (truth.flagged negated).not := by
  cases negated
  · rfl
  · exact truth.not_not.symm

/-! ## Conditions -/

/-- Whether a term is an operand of a condition. -/
def isOperand : Term → Bool
  | .paren _ | .labelled _ _ _ | .commented _ _ | .negation _ | .binary _ _ _ _ | .inList _
    _ | .inQuery _ _
  | .is _ _ | .between _ _ _ | .existsIn _ => false
  | _ => true

/-- A property of terms that operands have, and a condition when its parts have it. -/
structure Compositional (motive : Term → Prop) : Prop where
  operand : ∀ t, isOperand t = true → motive t
  paren : ∀ inner, motive inner → motive (.paren inner)
  labelled : ∀ inner label comments, motive inner → motive (.labelled inner label comments)
  commented : ∀ inner comments, motive inner → motive (.commented inner comments)
  negation : ∀ inner, motive inner → motive (.negation inner)
  binary : ∀ op left right comments, motive left → motive right →
    motive (.binary op left right comments)
  inList : ∀ subject values, motive subject → (∀ t ∈ values, motive t) →
    motive (.inList subject values)
  inQuery : ∀ subject query, motive subject → motive (.inQuery subject query)
  is : ∀ subject value, motive subject → motive value → motive (.is subject value)
  between : ∀ subject low high, motive subject → motive low → motive high →
    motive (.between subject low high)
  existsIn : ∀ query, motive (.existsIn query)

mutual

theorem Compositional.all {motive : Term → Prop} (h : Compositional motive) : ∀ t : Term, motive t
  | .paren inner => h.paren inner (h.all inner)
  | .labelled inner label comments => h.labelled inner label comments (h.all inner)
  | .commented inner comments => h.commented inner comments (h.all inner)
  | .negation inner => h.negation inner (h.all inner)
  | .binary op left right comments => h.binary op left right comments (h.all left) (h.all right)
  | .inList subject values => h.inList subject values (h.all subject) (h.allOf values)
  | .inQuery subject query => h.inQuery subject query (h.all subject)
  | .is subject value => h.is subject value (h.all subject) (h.all value)
  | .between subject low high => h.between subject low high (h.all subject) (h.all low) (h.all high)
  | .existsIn query => h.existsIn query
  | .column _ _ | .columnStar _ _ | .star _ | .number _ _ | .string _ _ | .boolean
    _ | .null | .negative _
  | .caseOf _ _ _ | .cast _ _ _ | .window _ _ _ _ | .query _ | .call _ _ | .distinct _ | .bare _ _
  | .conditional _ _ | .aggregate _ _ _ | .raw _ _ => h.operand _ rfl

theorem Compositional.allOf {motive : Term → Prop} (h : Compositional motive) :
    ∀ terms : List Term, ∀ t ∈ terms, motive t
  | [] => List.forall_mem_nil _
  | t :: rest => List.forall_mem_cons.2 ⟨h.all t, h.allOf rest⟩

end

/-- A part of a condition that is none itself. -/
inductive ConditionLeaf where
  | operand (t : Term)
  | query (q : Grammar.Query)

mutual

/-- The operands and the queries of a condition, from left to right. -/
def conditionLeaves : Term → List ConditionLeaf
  | .paren inner | .labelled inner _ _ | .commented inner _ | .negation inner =>
    conditionLeaves inner
  | .binary _ left right _ | .is left right => conditionLeaves left ++ conditionLeaves right
  | .inList subject items => conditionLeaves subject ++ conditionLeavesOf items
  | .inQuery subject query => conditionLeaves subject ++ [.query query]
  | .between subject low high =>
    conditionLeaves subject ++ conditionLeaves low ++ conditionLeaves high
  | .existsIn query => [.query query]
  | t => [.operand t]

/-- The operands and the queries of conditions. -/
def conditionLeavesOf : List Term → List ConditionLeaf
  | [] => []
  | t :: rest => conditionLeaves t ++ conditionLeavesOf rest

end

theorem conditionLeavesOf_eq (terms : List Term) :
    conditionLeavesOf terms = terms.flatMap conditionLeaves := by
  induction terms with
  | nil => rfl
  | cons t rest ih => rw [conditionLeavesOf, ih, List.flatMap_cons]

theorem conditionLeaves_operand {t : Term} (h : isOperand t = true) :
    conditionLeaves t = [.operand t] := by
  cases t <;> first | rfl | cases h

/-! ## Values -/

/-- What the predicates, the nodes and the chains of conditions stand for. -/
structure Meaning (V R : Type*) where
  truth : V → Truth
  /-- A truth value as a value. -/
  ofTruth : Truth → V
  /-- What an operation other than AND and OR gives, such as a comparison or a pattern match. -/
  operation : String → V → V → V
  is : V → V → Truth
  between : V → V → V → Truth
  inList : V → List V → Truth
  inRows : V → R → Truth
  hasRows : R → Truth
  node : Expr → V
  chainRows : Query → R
  truth_ofTruth : ∀ found, truth (ofTruth found) = found

/-- A meaning with values for operands and rows for queries. -/
structure Valuation (V R : Type*) extends Meaning V R where
  operand : Term → V
  rows : Grammar.Query → R

/-- The node of an operand has the value of the operand, and the chain of a query has its rows. -/
def ConditionLeaf.Agrees {V R : Type*} (dialect : Dialect) (M : Valuation V R) :
    ConditionLeaf → Prop
  | .operand t => ∀ e, exprOf dialect t = .ok e → M.node e = M.operand t
  | .query q => ∀ chain, chainOf dialect q = .ok chain → M.chainRows (link chain) = M.rows q

namespace Valuation

variable {V R : Type*} (M : Valuation V R)

/-- The negation of a value. -/
def negation (value : V) : V :=
  M.ofTruth (M.truth value).not

/-- The value of an operation, from those of its operands. -/
def binary : BinaryOp → V → V → V
  | .and, left, right => M.ofTruth ((M.truth left).and (M.truth right))
  | .or, left, right => M.ofTruth ((M.truth left).or (M.truth right))
  | op, left, right => M.operation op.symbol left right

/-- The value of a node with an operator, from those of its operands. -/
def operator (symbol : String) (left right : V) : V :=
  if symbol = "AND" then M.ofTruth ((M.truth left).and (M.truth right))
  else if symbol = "OR" then M.ofTruth ((M.truth left).or (M.truth right))
  else if symbol = "IS" then M.ofTruth (M.is left right)
  else if symbol = "NOT LIKE" then M.negation (M.operation "LIKE" left right)
  else if symbol = "NOT ILIKE" then M.negation (M.operation "ILIKE" left right)
  else M.operation symbol left right

mutual

/-- The value of a term. -/
def value : Term → V
  | .paren inner | .labelled inner _ _ | .commented inner _ => value inner
  | .negation inner => M.negation (value inner)
  | .binary op left right _ => M.binary op (value left) (value right)
  | .inList subject items => M.ofTruth (M.inList (value subject) (values items))
  | .inQuery subject query => M.ofTruth (M.inRows (value subject) (M.rows query))
  | .is subject other => M.ofTruth (M.is (value subject) (value other))
  | .between subject low high => M.ofTruth (M.between (value subject) (value low) (value high))
  | .existsIn query => M.ofTruth (M.hasRows (M.rows query))
  | t => M.operand t

/-- The values of terms. -/
def values : List Term → List V
  | [] => []
  | t :: rest => value t :: values rest

end

mutual

/-- The value of a node.  A flag stands for the negation of the plain predicate. -/
def nodeValue : Expr → V
  | .paren inner => nodeValue inner
  | .unary symbol operand =>
    if symbol = "NOT" then M.negation (nodeValue operand) else M.node (.unary symbol operand)
  | .binary symbol left right => M.operator symbol (nodeValue left) (nodeValue right)
  | .inList subject items negated =>
    M.ofTruth ((M.inList (nodeValue subject) (nodeValues items)).flagged negated)
  | .inQuery subject query negated =>
    M.ofTruth ((M.inRows (nodeValue subject) (M.chainRows query)).flagged negated)
  | .isNull subject negated =>
    M.ofTruth ((M.is (nodeValue subject) (M.node (.literal "NULL" .null))).flagged negated)
  | .between subject low high negated =>
    M.ofTruth ((M.between (nodeValue subject) (nodeValue low) (nodeValue high)).flagged negated)
  | .existsIn query negated => M.ofTruth ((M.hasRows (M.chainRows query)).flagged negated)
  | e => M.node e

/-- The values of nodes. -/
def nodeValues : List Expr → List V
  | [] => []
  | e :: rest => nodeValue e :: nodeValues rest

end

end Valuation

/-! ## Nodes of operands -/

section

variable {dialect : Dialect} {V R : Type*} (M : Valuation V R)

theorem value_operand {t : Term} (h : isOperand t = true) : M.value t = M.operand t := by
  cases t <;> first | rfl | cases h

/-- A node that is built of an operand is none of a condition. -/
theorem nodeValue_operand {t : Term} {e : Expr} (ht : isOperand t = true)
    (h : exprOf dialect t = .ok e) :
    M.nodeValue e = M.node e := by
  unfold exprOf at h
  split at h
  -- an operand becomes a node of its own kind as soon as its parts are there
  all_goals first
    | exact absurd ht Bool.false_ne_true
    | obtain rfl := Except.ok.inj h
      rfl
    | obtain ⟨_, -, h⟩ := bind_ok h
      obtain rfl := Except.ok.inj h
      rfl
    | iterate 3 obtain ⟨_, -, h⟩ := bind_ok h
      obtain rfl := Except.ok.inj h
      rfl

/-! ## Folding -/

theorem exprOf_core (t : Term) : exprOf dialect t.core = exprOf dialect t := by
  cases t <;> rfl

theorem operator_symbol (op : BinaryOp) (left right : V) :
    M.operator op.symbol left right = M.binary op left right := by
  cases op <;> rfl

theorem ofTruth_flagged_not (truth : Truth) (negated : Bool) :
    M.ofTruth (truth.flagged !negated) = M.negation (M.ofTruth (truth.flagged negated)) := by
  rw [Valuation.negation, M.truth_ofTruth, Truth.flagged_not]

/-- An operation is built as a node with its operator. -/
theorem exists_of_binary {op : BinaryOp} {left right : Term} {comments : List String} {e : Expr}
    (h : exprOf dialect (.binary op left right comments) = .ok e) :
    ∃ a b, exprOf dialect left = .ok a ∧ exprOf dialect right = .ok b ∧
      e = .binary op.symbol a b := by
  rw [exprOf] at h
  obtain ⟨a, ha, h⟩ := bind_ok h
  obtain ⟨b, hb, h⟩ := bind_ok h
  exact ⟨a, b, ha, hb, (Except.ok.inj h).symm⟩

/-- The node of a test for a value; the test for a missing value has a node of its own. -/
def isNode (subject other : Expr) : Expr :=
  match other with
  | .literal "NULL" .null => .isNull subject false
  | other => .binary "IS" subject other

theorem exprOf_is (subject other : Term) :
    exprOf dialect (.is subject other) = do
      let a ← exprOf dialect subject
      let b ← exprOf dialect other
      return isNode a b := by
  rw [exprOf]
  refine bind_congr fun a => bind_congr fun b => ?_
  split
  next => rfl
  next hother =>
    rw [isNode]
    exact hother

theorem nodeValue_isNode (subject other : Expr) :
    M.nodeValue (isNode subject other) =
      M.ofTruth (M.is (M.nodeValue subject) (M.nodeValue other)) := by
  unfold isNode
  split <;> rfl

/-- The node of a negation has the negation of the value of the node in it. -/
theorem nodeValue_negate {t : Term} {e : Expr} (h : exprOf dialect t = .ok e) :
    M.nodeValue (negate t e) = M.negation (M.nodeValue e) := by
  cases e with
  | inList | inQuery | isNull | between | existsIn => exact ofTruth_flagged_not M _ _
  | binary symbol left right =>
      rw [← exprOf_core] at h
      rw [negate]
      -- a pattern match takes the negated operator, behind comments as well
      split
      case h_1 heq | h_2 heq =>
        rw [heq] at h
        obtain ⟨a, b, -, -, he⟩ := exists_of_binary h
        obtain ⟨rfl, rfl, rfl⟩ := Expr.binary.inj he
        rfl
      case h_3 => rfl
  | column | literal | star | call | aggregate | index | unary | paren | caseOf | cast | window |
    subquery | raw => rfl

theorem nodeValues_exprsOf {terms : List Term} {nodes : List Expr}
    (hterms : ∀ t ∈ terms, ∀ e, exprOf dialect t = .ok e → M.nodeValue e = M.value t)
    (h : exprsOf dialect terms = .ok nodes) : M.nodeValues nodes = M.values terms := by
  induction terms generalizing nodes with
  | nil =>
      obtain rfl := Except.ok.inj h
      rfl
  | cons t rest ih =>
      obtain ⟨ht, hrest⟩ := List.forall_mem_cons.1 hterms
      rw [exprsOf] at h
      obtain ⟨e, he, h⟩ := bind_ok h
      obtain ⟨more, hmore, h⟩ := bind_ok h
      obtain rfl := Except.ok.inj h
      rw [Valuation.nodeValues, Valuation.values, ht e he, ih hrest hmore]

/-- The node of a condition has the value of the condition when the parts that are none agree. -/
theorem nodeValue_exprOf (t : Term) :
    (∀ leaf ∈ conditionLeaves t, leaf.Agrees dialect M) →
      ∀ e, exprOf dialect t = .ok e → M.nodeValue e = M.value t := by
  refine Compositional.all
    (motive := fun t => (∀ leaf ∈ conditionLeaves t, leaf.Agrees dialect M) →
      ∀ e, exprOf dialect t = .ok e → M.nodeValue e = M.value t) ?_ t
  constructor
  case operand =>
    intro t ht hagrees e h
    rw [conditionLeaves_operand ht, List.forall_mem_singleton] at hagrees
    rw [nodeValue_operand M ht h, hagrees e h, value_operand M ht]
  case paren =>
    intro inner ih hagrees e h
    rw [exprOf] at h
    obtain ⟨a, ha, h⟩ := bind_ok h
    obtain rfl := Except.ok.inj h
    exact ih hagrees a ha
  case labelled => exact fun inner label comments ih hagrees e h => ih hagrees e h
  case commented => exact fun inner comments ih hagrees e h => ih hagrees e h
  case negation =>
    intro inner ih hagrees e h
    rw [exprOf] at h
    obtain ⟨a, ha, h⟩ := bind_ok h
    obtain rfl := Except.ok.inj h
    rw [nodeValue_negate M ha, ih hagrees a ha, Valuation.value]
  case binary =>
    intro op left right comments ihleft ihright hagrees e h
    rw [conditionLeaves, List.forall_mem_append] at hagrees
    obtain ⟨hleft, hright⟩ := hagrees
    obtain ⟨a, b, ha, hb, rfl⟩ := exists_of_binary h
    rw [Valuation.nodeValue, operator_symbol, ihleft hleft a ha, ihright hright b hb,
      Valuation.value]
  case inList =>
    intro subject items ihsubject ihitems hagrees e h
    rw [conditionLeaves, List.forall_mem_append, conditionLeavesOf_eq,
      List.forall_mem_flatMap] at hagrees
    obtain ⟨hsubject, hitems⟩ := hagrees
    rw [exprOf] at h
    obtain ⟨a, ha, h⟩ := bind_ok h
    obtain ⟨nodes, hnodes, h⟩ := bind_ok h
    obtain rfl := Except.ok.inj h
    rw [Valuation.nodeValue, ihsubject hsubject a ha,
      nodeValues_exprsOf M (fun t ht => ihitems t ht (hitems t ht)) hnodes, Valuation.value]
    rfl
  case inQuery =>
    intro subject query ih hagrees e h
    rw [conditionLeaves, List.forall_mem_append, List.forall_mem_singleton] at hagrees
    obtain ⟨hsubject, hquery⟩ := hagrees
    rw [exprOf] at h
    obtain ⟨a, ha, h⟩ := bind_ok h
    obtain ⟨chain, hchain, h⟩ := bind_ok h
    obtain rfl := Except.ok.inj h
    rw [Valuation.nodeValue, ih hsubject a ha, hquery chain hchain, Valuation.value]
    rfl
  case is =>
    intro subject other ihsubject ihother hagrees e h
    rw [conditionLeaves, List.forall_mem_append] at hagrees
    obtain ⟨hsubject, hother⟩ := hagrees
    rw [exprOf_is] at h
    obtain ⟨a, ha, h⟩ := bind_ok h
    obtain ⟨b, hb, h⟩ := bind_ok h
    obtain rfl := Except.ok.inj h
    rw [nodeValue_isNode, ihsubject hsubject a ha, ihother hother b hb, Valuation.value]
  case between =>
    intro subject low high ihsubject ihlow ihhigh hagrees e h
    rw [conditionLeaves, List.forall_mem_append, List.forall_mem_append] at hagrees
    obtain ⟨⟨hsubject, hlow⟩, hhigh⟩ := hagrees
    rw [exprOf] at h
    obtain ⟨a, ha, h⟩ := bind_ok h
    obtain ⟨b, hb, h⟩ := bind_ok h
    obtain ⟨c, hc, h⟩ := bind_ok h
    obtain rfl := Except.ok.inj h
    rw [Valuation.nodeValue, ihsubject hsubject a ha, ihlow hlow b hb, ihhigh hhigh c hc,
      Valuation.value]
    rfl
  case existsIn =>
    intro query hagrees e h
    rw [conditionLeaves, List.forall_mem_singleton] at hagrees
    rw [exprOf] at h
    obtain ⟨chain, hchain, h⟩ := bind_ok h
    obtain rfl := Except.ok.inj h
    rw [Valuation.nodeValue, hagrees chain hchain, Valuation.value]
    rfl

end

/-! ## Conditions that are built -/

section

variable (dialect : Dialect)

/-- Whether an operand has a node, and whether a query has a chain. -/
def ConditionLeaf.Builds : ConditionLeaf → Prop
  | .operand t => ∃ e, exprOf dialect t = .ok e
  | .query q => Tree.Builds dialect q

variable {dialect}

theorem exists_bind_ok_iff {ε α β : Type} {action : Except ε α} {next : α → Except ε β} :
    (∃ value, action >>= next = .ok value) ↔ ∃ found, action = .ok found ∧ ∃ value,
      next found = .ok value := by
  constructor
  · rintro ⟨value, h⟩
    obtain ⟨found, hfound, h⟩ := bind_ok h
    exact ⟨found, hfound, value, h⟩
  · rintro ⟨found, rfl, value, h⟩
    exact ⟨value, h⟩

theorem exists_pure_ok {ε α : Type} (value : α) : ∃ found, (pure value : Except ε α) = .ok found :=
  ⟨value, rfl⟩

theorem exists_exprsOf_iff {terms : List Term} :
    (∃ nodes, exprsOf dialect terms = .ok nodes) ↔ ∀ t ∈ terms, ∃ e, exprOf dialect t = .ok e := by
  induction terms with
  | nil => exact iff_of_true ⟨[], rfl⟩ (List.forall_mem_nil _)
  | cons t rest ih =>
      rw [exprsOf, List.forall_mem_cons, ← ih]
      simp only [exists_bind_ok_iff, exists_pure_ok, and_true, exists_and_right]

/-- A node is built of a condition when the operands in it have nodes and the queries in it
chains. -/
theorem exists_exprOf_iff (t : Term) :
    (∃ e, exprOf dialect t = .ok e) ↔ ∀ leaf ∈ conditionLeaves t, leaf.Builds dialect := by
  refine Compositional.all
    (motive := fun t => (∃ e, exprOf dialect t = .ok e) ↔ ∀ leaf ∈ conditionLeaves t,
      leaf.Builds dialect) ?_ t
  constructor
  case operand =>
    intro t ht
    rw [conditionLeaves_operand ht, List.forall_mem_singleton, ConditionLeaf.Builds]
  case paren =>
    intro inner ih
    rw [exprOf, conditionLeaves, ← ih]
    simp only [exists_bind_ok_iff, exists_pure_ok, and_true]
  case labelled => exact fun inner label comments ih => ih
  case commented => exact fun inner comments ih => ih
  case negation =>
    intro inner ih
    rw [exprOf, conditionLeaves, ← ih]
    simp only [exists_bind_ok_iff, exists_pure_ok, and_true]
  case binary =>
    intro op left right comments ihleft ihright
    rw [exprOf, conditionLeaves, List.forall_mem_append, ← ihleft, ← ihright]
    simp only [exists_bind_ok_iff, exists_pure_ok, and_true, exists_and_right]
  case inList =>
    intro subject items ihsubject ihitems
    have hitems : (∃ nodes, exprsOf dialect items = .ok nodes) ↔
        ∀ leaf ∈ conditionLeavesOf items, leaf.Builds dialect := by
      rw [exists_exprsOf_iff, conditionLeavesOf_eq, List.forall_mem_flatMap]
      exact forall₂_congr ihitems
    rw [exprOf, conditionLeaves, List.forall_mem_append, ← ihsubject, ← hitems]
    simp only [exists_bind_ok_iff, exists_pure_ok, and_true, exists_and_right]
  case inQuery =>
    intro subject query ih
    rw [exprOf, conditionLeaves, List.forall_mem_append, ← ih, List.forall_mem_singleton,
      ConditionLeaf.Builds, ← exists_chainOf_iff]
    simp only [exists_bind_ok_iff, exists_pure_ok, and_true, exists_and_right]
  case is =>
    intro subject other ihsubject ihother
    rw [exprOf_is, conditionLeaves, List.forall_mem_append, ← ihsubject, ← ihother]
    simp only [exists_bind_ok_iff, exists_pure_ok, and_true, exists_and_right]
  case between =>
    intro subject low high ihsubject ihlow ihhigh
    rw [exprOf, conditionLeaves, List.forall_mem_append,
      List.forall_mem_append, ← ihsubject, ← ihlow, ← ihhigh]
    simp only [exists_bind_ok_iff, exists_pure_ok, and_true, exists_and_right, and_assoc]
  case existsIn =>
    intro query
    rw [exprOf, conditionLeaves, List.forall_mem_singleton,
      ConditionLeaf.Builds, ← exists_chainOf_iff]
    simp only [exists_bind_ok_iff, exists_pure_ok, and_true]

/-- A node is built of every condition whose operands and queries are built.  It is as true as the
condition when it stands over nodes with the values of the operands and chains with the rows of the
queries. -/
theorem node_keeps_truth {V R : Type*} (M : Valuation V R) (t : Term)
    (hbuilds : ∀ leaf ∈ conditionLeaves t, leaf.Builds dialect)
    (hagrees : ∀ leaf ∈ conditionLeaves t, leaf.Agrees dialect M) :
    ∃ e, exprOf dialect t = .ok e ∧ M.truth (M.nodeValue e) = M.truth (M.value t) := by
  obtain ⟨e, he⟩ := (exists_exprOf_iff t).2 hbuilds
  exact ⟨e, he, congrArg M.truth (nodeValue_exprOf M t hagrees e he)⟩

end

/-- Numbers that may be missing, with the comparisons of SQL.  A query without sources has one row,
with the value of its first item. -/
def nullableIntegers : Valuation (Option Int) (List (Option Int)) :=
  let ofBool (holds : Bool) : Truth := if holds then .holds else .fails
  let compare (test : Int → Int → Bool) : Option Int → Option Int → Truth
    | some a, some b => ofBool (test a b)
    | _, _ => .unknown
  let ofTruth : Truth → Option Int
    | .holds => some 1
    | .fails => some 0
    | .unknown => none
  let among (a : Option Int) (items : List (Option Int)) : Truth :=
    items.foldr (fun b found => (compare (· == ·) a b).or found) .fails
  let numeral (text : String) : Option Int :=
    some (text.toList.foldl (fun number c => 10 * number + (c.toNat - 48)) 0)
  let column (name : String) : Option Int := if name = "missing" then none else some 1
  let node : Expr → Option Int
    | .column name _ _ => column name
    | .literal text .number => numeral text
    | _ => none
  let operand : Term → Option Int
    | .column [part] _ => column part.name
    | .number text _ => numeral text
    | _ => none
  { truth := fun
      | some number => ofBool (number != 0)
      | none => .unknown
    ofTruth := ofTruth
    operation := fun symbol a b =>
      if symbol = "<" then ofTruth (compare (· < ·) a b) else ofTruth (compare (· == ·) a b)
    is := fun a b => ofBool (a == b)
    between := fun a low high => (compare (· ≤ ·) low a).and (compare (· ≤ ·) a high)
    inList := among
    inRows := among
    hasRows := fun rows => ofBool !rows.isEmpty
    node := node
    chainRows := fun q => (q.columns.take 1).map fun
      | .mk value _ => node value
    operand := operand
    rows := fun
      | .select select => (select.items.take 1).map operand
      | _ => []
    truth_ofTruth := fun found => by cases found <;> rfl }

/-- A condition with stacked negations in front of predicates, parentheses and queries. -/
def stackedNegations : Term :=
  let column (name : String) : Term := .column [{ name := name }] []
  let one : Grammar.Query := .select { items := [.number "1" []], clauses := {} }
  let alike : Term := .binary .like (column "a") (column "missing") []
  let missing : Term := .negation (.is (column "missing") .null)
  let listed : Term := .negation
    (.negation (.negation (.inList (column "a") [.number "1" [], .null])))
  let found : Term := .negation (.paren (.negation (.inQuery (column "a") one)))
  .negation (.binary .or
    (.binary .and (.negation (.negation alike)) missing [])
    (.binary .and listed (.binary .or found (.negation (.existsIn one)) []) []) [])

theorem node_keeps_truth_stacked :
    (∀ leaf ∈ conditionLeaves stackedNegations, leaf.Builds {}) ∧
      (∀ leaf ∈ conditionLeaves stackedNegations, leaf.Agrees {} nullableIntegers) ∧
      ∃ e, exprOf {} stackedNegations = .ok e ∧
        nullableIntegers.truth (nullableIntegers.nodeValue e) =
          nullableIntegers.truth (nullableIntegers.value stackedNegations) := by
  have hbuilds : ∀ leaf ∈ conditionLeaves stackedNegations, leaf.Builds {} :=
    (exists_exprOf_iff stackedNegations).1 ⟨_, rfl⟩
  have hagrees : ∀ leaf ∈ conditionLeaves stackedNegations, leaf.Agrees {} nullableIntegers := by
    have hleaves : conditionLeaves stackedNegations =
        [.operand (.column [{ name := "a" }] []), .operand (.column [{ name := "missing" }] []),
          .operand (.column [{ name := "missing" }] []), .operand .null,
          .operand (.column [{ name := "a" }] []), .operand (.number "1" []), .operand .null,
          .operand (.column [{ name := "a" }] []),
          .query (.select { items := [.number "1" []], clauses := {} }),
          .query (.select { items := [.number "1" []], clauses := {} })] := rfl
    simp only [hleaves, List.forall_mem_cons]
    refine ⟨?_, ?_, ?_, ?_, ?_, ?_, ?_, ?_, ?_, ?_, List.forall_mem_nil _⟩
    -- the leaf is a closed term, so the builder can be run on it
    all_goals
      intro node h
      obtain rfl := Except.ok.inj h
      rfl
  exact ⟨hbuilds, hagrees, node_keeps_truth nullableIntegers stackedNegations hbuilds hagrees⟩

example : exprOf {} (.negation (.negation (.binary .like .null (.boolean true) []))) =
    .ok (.unary "NOT" (.binary "NOT LIKE" (.literal "NULL" .null) (.literal "TRUE" .boolean))) :=
      rfl

end SqlLayout.Tree
