import SqlLayout.Proofs.Tree.Rewriting
import SqlLayout.Proofs.Tree.Untouched
import SqlLayout.Proofs.Tree.Walk

/-!
# The two traversals

The walk with a stack, which finds children in fields, visits the nodes that rewriting reaches, in
another order.

## Implementation notes

Effects show how often and in which order a replacement is called, so the replacements run in any
lawful monad.
-/

namespace SqlLayout.Tree

open Value

/-! ## The walk -/

theorem Part.length_preorder_lt {part child : Part} (h : child ∈ part.children) :
    child.preorder.length < part.preorder.length := by
  obtain ⟨front, back, hchildren⟩ := List.append_of_mem h
  rw [preorder_eq part, hchildren, List.flatMap_append, List.flatMap_cons, List.length_cons,
    List.length_append, List.length_append]
  omega

/-- Induction through the children of parts. -/
theorem Part.induction_children {P : Part → Prop}
    (step : ∀ part, (∀ child ∈ part.children, P child) → P part) (part : Part) : P part :=
  step part fun child _ => induction_children step child
termination_by part.preorder.length
decreasing_by exact length_preorder_lt ‹_›

theorem itself_value (part : Part) :
    part.value.itself = ([part].filter Part.isNode).map Part.value := by
  cases hnode : part.isNode <;> simp [itself, isNode_value, hnode]

theorem flatMap_parts_held {value : Value} (h : value.isPart) :
    value.held.flatMap parts = value.children := by
  cases value with
  | part kind fields => rfl
  | _ => simp [isPart] at h

theorem flatMap_before_held (part : Part) :
    part.value.held.flatMap before = part.children.flatMap fun child => child.value.before := by
  have hfields : part.value.held.flatMap before =
      (part.value.held.flatMap parts).flatMap before := by
    rw [List.flatMap_assoc]
    exact List.flatMap_congr fun field h => (shallow_of_mem_held part field h).before_eq
  rw [hfields, flatMap_parts_held (isPart_value part), children_value, List.flatMap_map]

/-- The nodes of the recursive walk over a part are those of the walk through its fields. -/
theorem before_value (part : Part) :
    part.value.before = (part.preorder.filter Part.isNode).map Part.value := by
  induction part using Part.induction_children with
  | step part ih =>
      have hcons : part.preorder = [part] ++ part.children.flatMap Part.preorder := preorder_eq part
      rw [before_eq, itself_value, flatMap_before_held, List.flatMap_congr ih, hcons,
        List.filter_append, List.map_append, List.filter_flatMap, List.map_flatMap]

/-- With steps for all parts, the walk with a stack stops when the stack is empty. -/
theorem walkStack_of_le {steps : Nat} (part : Part) (h : part.preorder.length ≤ steps) :
    walkStack steps [part] = part.preorder := by
  rw [walkStack_eq, List.flatMap_singleton, List.take_of_length_le h]

/-! ## Replacements that give back their argument -/

section

variable {m : Type → Type} [Monad m] [LawfulMonad m] (visit : Value → m Unit)

theorem rewrites_givingBack :
    Rewrites (givingBack fun node => if node.isExpr then visit node else pure ())
      (givingBack fun e => visit (exprValue e)) where
  expr e := by
    have hexpr : (exprValue e).isExpr := by cases e <;> rfl
    simp [givingBack, hexpr]
  other kind fields h := by simp [givingBack, Value.isExpr, h]
  column c := ⟨givingBack (fun c => visit (exprValue c.expr)) c, by simp [givingBack]⟩

theorem forM_ite (p : Value → Bool) (nodes : List Value) :
    (nodes.forM fun node => if p node then visit node else pure ()) =
      (nodes.filter p).forM visit := by
  simp only [List.forM_eq_forM]
  induction nodes with
  | nil => rfl
  | cons node rest ih => cases hnode : p node <;> simp [hnode, ih]

/-- What a computation gives in any lawful monad: all values that come out have the property. -/
def Judgement.every (m : Type → Type) [Monad m] [LawfulMonad m] : Judgement m where
  gives action P := ∃ inner : m (Subtype P), Subtype.val <$> inner = action
  pure {_ _ x} h := ⟨Pure.pure ⟨x, h⟩, map_pure ..⟩
  bind := by
    rintro α β action next P Q ⟨inner, rfl⟩ hnext
    choose next' hnext' using hnext
    exact ⟨inner >>= fun x => next' x x.2, by simp [hnext']⟩

theorem eq_map_of_returns {α : Type} {action : m α} {x : α}
    (h : (Judgement.every m).Returns action x) :
    action = (fun _ => x) <$> action := by
  obtain ⟨inner, rfl⟩ := h
  rw [← comp_map]
  exact congrArg (· <$> inner) (funext fun y => y.2)

theorem keepsAll_givingBack (parts : List Part) :
    KeepsAll (.every m) (.exprs (givingBack fun e => visit (exprValue e))) parts := by
  intro part _
  match part with
  | .expr e => exact ⟨(fun _ => ⟨e, rfl⟩) <$> visit (exprValue e), by simp [givingBack]⟩
  | .query q => exact Judgement.returns_pure false
  | .source (.table table) => exact Judgement.returns_pure _
  | .source (.derived label pivot query) => exact Judgement.returns_pure _
  | .join _ | .create _ | .insert _ | .update _ | .delete _ | .grant _ | .comment _ | .unrendered
    _ | .item _
  | .branch _ | .order _ | .cte _ | .columnDef _ | .assignment _ | .dataType _ | .reference _ =>
      trivial

/-- A statement is traversed in the order of the second walk: its expressions are visited after the
expressions below them, and it stays as it is. -/
theorem statementTraverse_givingBack (s : Statement) :
    statementTraverse (.exprs (givingBack fun e => visit (exprValue e))) s =
      givingBack (fun s => (s.part.value.after.filter Value.isExpr).forM visit) s := by
  have hvalue := transform_statement (rewrites_givingBack visit) s
  rw [transform_givingBack, givingBack, forM_ite] at hvalue
  have hsame := eq_map_of_returns (returns_statement (keepsAll_givingBack visit s.part.preorder))
  have hforget (action : m Statement) :
      (fun _ => s) <$> action = (fun _ => s) <$> (fun t => t.part.value) <$> action :=
    comp_map (fun t : Statement => t.part.value) (fun _ => s) action
  rw [hsame, hforget, ← hvalue]
  simp [givingBack]

end

/-- The two traversals of a tree agree.  The walk with a stack finds children in fields.  It visits
the nodes that the recursive walk through the fields lists, each place of a node once and in the
order of the places, and it stops by itself; no place leads into a record.  Rewriting with a
replacement that gives back its argument calls the replacement on the same nodes, each place once, a
node after the nodes below it, and changes nothing.  So does the traversal of a statement that
replaces expressions. -/
theorem traversals_agree (part : Part) :
    part.value.children = part.children.map Part.value ∧
    (∀ steps, part.preorder.length ≤ steps → (walkStack steps [part]).filter Part.isNode =
      part.nodes) ∧
    part.nodes.map Part.value = part.value.before ∧
    part.value.Enumerates (· < ·) (part.nodes.map Part.value) ∧
    (∀ place r, part.value.at? place = some (.record r) → ∀ i rest,
      part.value.at? (place ++ i :: rest) = none) ∧
    part.value.Enumerates Upwards part.value.after ∧
    part.value.after.Perm (part.nodes.map Part.value) ∧
    ∀ (m : Type → Type) [Monad m] [LawfulMonad m] (visit : Value → m Unit),
      part.value.transform (givingBack visit) = (do part.value.after.forM visit; pure part.value) ∧
      ∀ s : Statement, s.part = part →
        statementTraverse (.exprs (givingBack fun e => visit (exprValue e))) s =
          (do (part.value.after.filter Value.isExpr).forM visit; pure s) := by
  have hnodes : part.nodes.map Part.value = part.value.before := by rw [nodes_eq, before_value]
  refine ⟨children_value part, fun steps h => ?_, hnodes, ?_, fun _ _ => at?_below_record,
    enumerates_after _, ?_, fun m _ _ visit => ⟨?_, ?_⟩⟩
  · rw [walkStack_of_le part h, nodes_eq]
  · rw [hnodes]
    exact enumerates_before _
  · rw [hnodes]
    exact after_perm_before _
  · exact transform_givingBack visit part.value
  · rintro s rfl
    exact statementTraverse_givingBack visit s

end SqlLayout.Tree
