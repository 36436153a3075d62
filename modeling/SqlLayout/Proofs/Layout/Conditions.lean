import SqlLayout.Layout.Query
import SqlLayout.Proofs.Layout.Lines

/-!
# Conditions over several lines

A condition is laid out as the operands of its outermost chain of `AND` and `OR`, each further one
on a line of its own.  It is the inline layout of the expression with line breaks in front of the
operators of that chain, whatever its shape.

## Implementation notes

The layout with a gap in front of each operator of the chain follows the tree.  The inline layout
and the condition are both such layouts, for two gaps.  Texts that stand next to each other are cut
differently in them, so they are compared line by line.
-/

namespace SqlLayout.Layout

open SqlLayout.Tree

/-! ## Chains -/

/-- The operands of the outermost chain of `AND` and `OR`, from left to right. -/
def operandsOf : Expr → List Expr
  | e@(.binary operator left right) =>
    if isChainOperator operator then operandsOf left ++ operandsOf right else [e]
  | e => [e]

/-- The operators of the outermost chain of `AND` and `OR`, from left to right. -/
def operatorsOf : Expr → List String
  | .binary operator left right =>
    if isChainOperator operator then operatorsOf left ++ operator :: operatorsOf right else []
  | _ => []

/-- An expression with a gap in front of each operator of its outermost chain, and all else
inline. -/
def chainDoc (gap : List Doc) : Expr → Doc
  | e@(.binary operator left right) =>
    if isChainOperator operator then
      .concat (chainDoc gap left :: gap ++ [.text operator, .text " ", chainDoc gap right])
    else exprDoc e
  | e => exprDoc e

/-- Whether an expression is a chain of operands itself. -/
def isChain : Expr → Bool
  | .binary operator _ _ => isChainOperator operator
  | _ => false

/-- An expression is a single operand, or a chain of its two sides. -/
@[elab_as_elim] theorem chain_induction {motive : Expr → Prop}
    (single : ∀ e, isChain e = false → motive e)
    (chain : ∀ operator left right, isChainOperator operator = true → motive left → motive right →
      motive (.binary operator left right)) (e : Expr) : motive e := by
  fun_induction operandsOf e with
  | case1 operator left right hchain ihl ihr => exact chain operator left right hchain ihl ihr
  | case2 operator left right hchain => exact single _ (Bool.eq_false_iff.2 hchain)
  | case3 e hother => exact single e (by cases e <;> first | rfl | exact absurd rfl (hother _ _ _))

section

variable {e left right : Expr} {operator : String}

theorem operandsOf_single (h : isChain e = false) : operandsOf e = [e] := by
  cases e <;> first | rfl | exact if_neg (Bool.eq_false_iff.1 h)

theorem operatorsOf_single (h : isChain e = false) : operatorsOf e = [] := by
  cases e <;> first | rfl | exact if_neg (Bool.eq_false_iff.1 h)

theorem chainDoc_single (gap : List Doc) (h : isChain e = false) : chainDoc gap e = exprDoc e := by
  cases e <;> first | rfl | exact if_neg (Bool.eq_false_iff.1 h)

theorem operandsOf_chain (h : isChainOperator operator = true) :
    operandsOf (.binary operator left right) = operandsOf left ++ operandsOf right :=
  if_pos h

theorem operatorsOf_chain (h : isChainOperator operator = true) :
    operatorsOf (.binary operator left right) = operatorsOf left ++ operator :: operatorsOf right :=
  if_pos h

theorem chainDoc_chain (gap : List Doc) (h : isChainOperator operator = true) :
    chainDoc gap (.binary operator left right) =
      .concat (chainDoc gap left :: gap ++ [.text operator, .text " ", chainDoc gap right]) :=
  if_pos h

theorem operands_single (h : isChain e = false) : (exprShape e).operands = [("", exprDoc e)] := by
  have hsingle (docs : List Doc) : (Shape.single docs).operands =
      [("", (Shape.single docs).inline)] := rfl
  cases e with
  | binary operator left right => exact if_neg (Bool.eq_false_iff.1 h)
  | call name args bare => cases bare <;> rfl
  | cast operand type shorthand safe => cases shorthand <;> rfl
  | unary operator operand => rw [exprDoc, exprShape]; split <;> rfl
  | _ => rfl

theorem length_operandsOf (e : Expr) : (operandsOf e).length = (operatorsOf e).length + 1 := by
  induction e using chain_induction with
  | single e h => rw [operandsOf_single h, operatorsOf_single h]; rfl
  | chain operator left right h ihl ihr =>
      rw [operandsOf_chain h, operatorsOf_chain h, List.length_append, List.length_append,
        List.length_cons, ihl, ihr]
      omega

end

/-! ## Operands -/

/-- The layouts of the operands are those of the chain in order, each behind the operator in front
of it. -/
theorem operands_eq_zip (e : Expr) :
    (exprShape e).operands = ("" :: operatorsOf e).zip ((operandsOf e).map exprDoc) := by
  induction e using chain_induction with
  | single e h => rw [operands_single h, operandsOf_single h, operatorsOf_single h]; rfl
  | chain operator left right h ihl ihr =>
      have hshape : (exprShape (.binary operator left right)).operands =
          chainOperands operator (exprShape left).operands (exprShape right).operands := if_pos h
      obtain ⟨first, rest, hright⟩ :=
        List.exists_cons_of_length_eq_add_one (length_operandsOf right)
      have hlength : ("" :: operatorsOf left).length = ((operandsOf left).map exprDoc).length := by
        rw [List.length_map, length_operandsOf, List.length_cons]
      rw [hshape, ihl, ihr, operandsOf_chain h, operatorsOf_chain h, hright,
        List.map_append, ← List.cons_append, List.zip_append hlength]
      rfl

/-- Operands one after the other, with a gap in front of each operator. -/
def operandDocs (gap : List Doc) : List (String × Doc) → List Doc
  | [] => []
  | (_, first) :: rest =>
    first :: rest.flatMap fun (operator, operand) => gap ++ [.text operator, .text " ", operand]

theorem operandDocs_chain (gap : List Doc) (operator : String) {left right : List (String × Doc)}
    (hleft : left ≠ []) (hright : right ≠ []) :
    operandDocs gap (chainOperands operator left right) =
      operandDocs gap left ++ (gap ++ .text operator :: .text " " :: operandDocs gap right) := by
  obtain ⟨first, rest, rfl⟩ := List.exists_cons_of_ne_nil hleft
  obtain ⟨next, more, rfl⟩ := List.exists_cons_of_ne_nil hright
  simp [chainOperands, operandDocs]

theorem operands_ne_nil (e : Expr) : (exprShape e).operands ≠ [] := by
  obtain ⟨first, rest, hfirst⟩ := List.exists_cons_of_length_eq_add_one (length_operandsOf e)
  simp [operands_eq_zip, hfirst]

theorem conditionDoc_eq (e : Expr) :
    conditionDoc (exprShape e) =
      .concat (.text " " :: operandDocs [.hardline, .text "  "] (exprShape e).operands) := by
  obtain ⟨first, rest, hfirst⟩ := List.exists_cons_of_ne_nil (operands_ne_nil e)
  rw [conditionDoc, hfirst]
  rfl

/-! ## Lines -/

theorem lines_operandDocs (gap : List Doc) (e : Expr) (level : Nat) :
    concatLines level (operandDocs gap (exprShape e).operands) = (chainDoc gap e).lines level := by
  induction e using chain_induction with
  | single e h =>
      rw [operands_single h, chainDoc_single gap h]
      exact Lines.append_nil _
  | chain operator left right h ihl ihr =>
      have hshape : (exprShape (.binary operator left right)).operands =
          chainOperands operator (exprShape left).operands (exprShape right).operands := if_pos h
      rw [hshape, operandDocs_chain gap operator (operands_ne_nil left) (operands_ne_nil right),
        chainDoc_chain gap h]
      simp [concatLines_append, concatLines, Doc.lines, ihl, ihr]

theorem lines_inline (e : Expr) (level : Nat) :
    (exprDoc e).lines level = (chainDoc [.text " "] e).lines level := by
  induction e using chain_induction with
  | single e h => rw [chainDoc_single _ h]
  | chain operator left right h ihl ihr =>
      have hinline : exprDoc (.binary operator left right) =
          .concat [exprDoc left, .text (" " ++ operator ++ " "), exprDoc right] := rfl
      rw [hinline, chainDoc_chain _ h]
      simp [concatLines, Doc.lines, ihl, ihr]

theorem breaks_chainDoc (e : Expr) : (chainDoc [.hardline, .text "  "] e).breaks =
    (chainDoc [.text " "] e).breaks + (operatorsOf e).length := by
  simp only [← length_rest_lines]
  induction e using chain_induction with
  | single e h => simp [chainDoc_single _ h, operatorsOf_single h]
  | chain operator left right h ihl ihr =>
      simp [chainDoc_chain _ h, operatorsOf_chain h, Doc.lines, concatLines, ihl, ihr]
      omega

theorem lines_condition (e : Expr) (level : Nat) : (conditionDoc (exprShape e)).lines level =
    (Doc.concat [.text " ", chainDoc [.hardline, .text "  "] e]).lines level := by
  rw [conditionDoc_eq, Doc.lines, Doc.lines, concatLines, concatLines, lines_operandDocs]
  exact congrArg _ (Lines.append_nil _).symm

/-- A condition is a space and the expression with a line break and two spaces in front of each
operator of its outermost chain, where the inline layout has one space.  Operands and operators
stand in the order of the tree, and a chain has one line break less than it has operands besides
those inside of the operands. -/
theorem condition_breaks_chain (e : Expr) :
    (∀ level, (conditionDoc (exprShape e)).lines level =
        (Doc.concat [.text " ", chainDoc [.hardline, .text "  "] e]).lines level) ∧
      (∀ level, (exprDoc e).lines level = (chainDoc [.text " "] e).lines level) ∧
      (exprShape e).operands = ("" :: operatorsOf e).zip ((operandsOf e).map exprDoc) ∧
      (conditionDoc (exprShape e)).breaks = (exprDoc e).breaks + ((operandsOf e).length - 1) := by
  refine ⟨lines_condition e, lines_inline e, operands_eq_zip e, ?_⟩
  have hspace : ((Doc.concat [.text " ", chainDoc [.hardline, .text "  "] e]).lines 0).rest.length =
      (chainDoc [.hardline, .text "  "] e).breaks := by
    simp [Doc.lines, concatLines, ← length_rest_lines]
  rw [← length_rest_lines (conditionDoc _), lines_condition, hspace,
    breaks_chainDoc, ← length_rest_lines (exprDoc e), lines_inline, length_rest_lines,
    length_operandsOf]
  rfl

example : (conditionDoc (exprShape (.binary "AND" (.column "a" none false) (.binary "OR"
    (.binary "AND" (.column "b" none false) (.column "c" none false))
      (.column "d" none false))))).render =
      " a\n  AND b\n  AND c\n  OR d" := by
  decide

end SqlLayout.Layout
