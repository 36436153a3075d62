import SqlLayout.Tree.Walk

/-!
# The two walks over a tree

The walk with a stack visits what the recursive walk lists, in the same order.
-/

namespace SqlLayout.Tree

/-! ## Lists of parts -/

theorem exprsWalk_eq (es : List Expr) : exprsWalk es = (exprParts es).flatMap Part.preorder := by
  induction es with
  | nil => rfl
  | cons e rest ih =>
      rw [exprsWalk, ih]
      rfl

theorem optionalWalk_eq (e : Option Expr) :
    optionalWalk e = (optionalPart e).flatMap Part.preorder := by
  cases e with
  | none => rfl
  | some e => exact (List.append_nil _).symm

theorem branchesWalk_eq (bs : List Branch) :
    branchesWalk bs = (bs.map .branch).flatMap Part.preorder := by
  induction bs with
  | nil => rfl
  | cons b rest ih =>
      obtain ⟨condition, result⟩ := b
      simp [branchesWalk, Part.preorder, ih]

theorem ordersWalk_eq (os : List OrderItem) :
    ordersWalk os = (os.map .order).flatMap Part.preorder := by
  induction os with
  | nil => rfl
  | cons o rest ih =>
      obtain ⟨key, descending, nulls⟩ := o
      simp [ordersWalk, Part.preorder, ih]

theorem itemsWalk_eq (items : List SelectItem) :
    itemsWalk items = (items.map .item).flatMap Part.preorder := by
  induction items with
  | nil => rfl
  | cons item rest ih =>
      obtain ⟨value, label⟩ := item
      simp [itemsWalk, Part.preorder, ih]

theorem sourcesWalk_eq (ss : List Source) :
    sourcesWalk ss = (ss.map .source).flatMap Part.preorder := by
  induction ss with
  | nil => rfl
  | cons s rest ih =>
      rw [sourcesWalk, ih]
      rfl

theorem joinsWalk_eq (js : List Join) : joinsWalk js = (js.map .join).flatMap Part.preorder := by
  induction js with
  | nil => rfl
  | cons j rest ih =>
      obtain ⟨keyword, source, condition, shared⟩ := j
      simp [joinsWalk, Part.preorder, ih]

theorem ctesWalk_eq (cs : List Cte) : ctesWalk cs = (cs.map .cte).flatMap Part.preorder := by
  induction cs with
  | nil => rfl
  | cons c rest ih =>
      obtain ⟨name, columns, query⟩ := c
      simp [ctesWalk, Part.preorder, ih]

theorem optionalQueryWalk_eq (q : Option Query) :
    optionalQueryWalk q = (q.toList.map .query).flatMap Part.preorder := by
  cases q with
  | none => rfl
  | some q => exact (List.append_nil _).symm

/-! ## A part and its children -/

theorem exprWalk_eq (e : Expr) : exprWalk e = .expr e :: e.children.flatMap Part.preorder := by
  cases e <;>
    simp [exprWalk, Expr.children, Part.preorder, exprsWalk_eq, optionalWalk_eq, branchesWalk_eq,
      ordersWalk_eq]

theorem queryWalk_eq (q : Query) : queryWalk q = .query q :: q.children.flatMap Part.preorder := by
  cases q
  simp only [queryWalk, Query.children, ctesWalk_eq, itemsWalk_eq, sourcesWalk_eq, joinsWalk_eq,
    optionalWalk_eq, exprsWalk_eq, ordersWalk_eq, optionalQueryWalk_eq, List.flatMap_append,
    List.cons_append]

/-- Parts with nothing below them are all that is listed of them. -/
theorem flatMap_preorder_of_leaf {α : Type} {f : α → Part} (h : ∀ x, (f x).preorder = [f x])
    (xs : List α) :
    (xs.map f).flatMap Part.preorder = xs.map f := by
  rw [List.flatMap_map, funext h, ← List.map_eq_flatMap]

theorem columnDefWalk_eq (c : ColumnDef) :
    columnDefWalk c = .columnDef c :: (Part.columnDef c).children.flatMap Part.preorder := by
  rw [columnDefWalk, Part.children, List.flatMap_append, List.flatMap_append, optionalWalk_eq,
    flatMap_preorder_of_leaf fun _ => rfl, flatMap_preorder_of_leaf fun _ => rfl]
  rfl

/-- A part comes first, and then its children in order, each with all that is below it. -/
theorem preorder_eq (part : Part) :
    part.preorder = part :: part.children.flatMap Part.preorder := by
  have htable (table : TableRef) (parts : List Part) :
    (Part.source (.table table) :: parts).flatMap Part.preorder =
      .source (.table table) :: parts.flatMap Part.preorder := rfl
  cases part with
  | expr e => exact exprWalk_eq e
  | query q => exact queryWalk_eq q
  | source s => cases s <;> simp [Part.preorder, Part.children, sourceWalk]
  | join j =>
      obtain ⟨keyword, source, condition, shared⟩ := j
      simp [Part.preorder, Part.children, joinsWalk, optionalWalk_eq]
  | create s =>
      have hdefinitions : (s.columns.map .columnDef).flatMap Part.preorder =
          s.columns.flatMap columnDefWalk :=
        List.flatMap_map ..
      simp only [Part.preorder, Part.children, List.cons_append, htable, List.flatMap_append,
        hdefinitions, flatMap_preorder_of_leaf fun table =>
        (rfl : (Part.source (.table table)).preorder = _),
        optionalQueryWalk_eq]
  | insert s =>
      have hrows : s.rows.flatMap exprsWalk = (s.rows.flatMap exprParts).flatMap Part.preorder := by
        rw [List.flatMap_assoc, funext exprsWalk_eq]
      simp only [Part.preorder, Part.children, List.cons_append, htable, List.flatMap_append, hrows,
        optionalQueryWalk_eq]
  | update s =>
      have hassignments : (s.assignments.map .assignment).flatMap Part.preorder =
          s.assignments.flatMap assignmentWalk := List.flatMap_map ..
      simp only [Part.preorder, Part.children, List.cons_append, htable, List.flatMap_append,
        hassignments, sourcesWalk_eq, optionalWalk_eq]
  | delete s =>
      simp only [Part.preorder, Part.children, List.cons_append, htable, List.flatMap_append,
        sourcesWalk_eq, optionalWalk_eq]
  | item i =>
      obtain ⟨value, label⟩ := i
      simp [Part.preorder, Part.children, itemsWalk]
  | branch b =>
      obtain ⟨condition, result⟩ := b
      simp [Part.preorder, Part.children, branchesWalk]
  | order o =>
      obtain ⟨key, descending, nulls⟩ := o
      simp [Part.preorder, Part.children, ordersWalk]
  | cte c =>
      obtain ⟨name, columns, query⟩ := c
      simp [Part.preorder, Part.children, ctesWalk]
  | columnDef c => exact columnDefWalk_eq c
  | assignment a => simp [Part.preorder, Part.children, assignmentWalk]
  | grant s => rfl
  | comment s => rfl
  | unrendered s => rfl
  | dataType t => rfl
  | reference r => rfl

/-! ## The walk with a stack -/

/-- The parts on the stack are visited one after the other, as far as the steps go. -/
theorem walkStack_eq (steps : Nat) (stack : List Part) :
    walkStack steps stack = (stack.flatMap Part.preorder).take steps := by
  induction steps generalizing stack with
  | zero => rw [walkStack, List.take_zero]
  | succ steps ih =>
      cases stack with
      | nil => rfl
      | cons part stack =>
          rw [walkStack, ih, List.flatMap_append, List.flatMap_cons, preorder_eq part,
            List.cons_append, List.take_succ_cons]

/-- The nodes of a tree are those of the recursive walk. -/
theorem nodes_eq (part : Part) : part.nodes = part.preorder.filter Part.isNode := by
  have hstack : [part].flatMap Part.preorder = part.preorder := List.append_nil _
  rw [Part.nodes, walkStack_eq, hstack, List.take_length]

end SqlLayout.Tree
