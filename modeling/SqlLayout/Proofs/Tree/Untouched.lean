import SqlLayout.Tree.Traverse
import SqlLayout.Tree.Walk

/-!
# Passes that find nothing to do

A pass that gives back every part it meets gives back the whole tree.  Whatever a pass does, it
leaves the parts of a statement alone that no traversal reaches: the array accesses, and of a
created object everything but its tables, its query and the defaults of its columns.

## Implementation notes

Passes run without effects or with a state.  A judgement says what a computation gives in a way that
covers both, so that the tree is gone through once.
-/

namespace SqlLayout.Tree

/-- A way to say what a computation gives: a property of the value that comes out. -/
structure Judgement (m : Type → Type) [Monad m] where
  gives : {α : Type} → m α → (α → Prop) → Prop
  pure : ∀ {α : Type} {P : α → Prop} {x : α}, P x → gives (pure x) P
  bind : ∀ {α β : Type} {action : m α} {next : α → m β} {P : α → Prop} {Q : β → Prop},
    gives action P → (∀ x, P x → gives (next x) Q) → gives (action >>= next) Q

namespace Judgement

/-- What a computation without effects gives. -/
def plain : Judgement Id where
  gives action P := P action.run
  pure h := h
  bind h hnext := hnext _ h

/-- What a computation with a state gives, from every state with a property that it keeps. -/
def stateful {σ : Type} (invariant : σ → Prop) : Judgement (StateM σ) where
  gives action P :=
    ∀ state, invariant state → P (action.run state).1 ∧ invariant (action.run state).2
  pure h _ hstate := ⟨h, hstate⟩
  bind h hnext state hstate :=
    hnext _ (h state hstate).1 _ (h state hstate).2

variable {m : Type → Type} [Monad m] (judge : Judgement m)

/-- A computation that gives one value. -/
def Returns {α : Type} (action : m α) (x : α) : Prop :=
  judge.gives action (· = x)

variable {judge}

theorem Returns.bind {α β : Type} {action : m α} {next : α → m β} {x : α} {Q : β → Prop}
    (haction : judge.Returns action x) (hnext : judge.gives (next x) Q) :
    judge.gives (action >>= next) Q :=
  judge.bind haction fun _ hx => hx ▸ hnext

theorem returns_pure {α : Type} (x : α) : judge.Returns (Pure.pure x) x :=
  judge.pure rfl

theorem Returns.map [LawfulMonad m] {α β : Type} {action : m α} {x : α} (h : judge.Returns action x)
    (f : α → β) : judge.Returns (f <$> action) (f x) := by
  rw [← bind_pure_comp]
  exact h.bind (returns_pure (f x))

/-- A list of computations that give back their items gives back the list. -/
theorem returns_mapM [LawfulMonad m] {α : Type} {f : α → m α} {xs : List α}
    (h : ∀ x ∈ xs, judge.Returns (f x) x) : judge.Returns (xs.mapM f) xs := by
  induction xs with
  | nil =>
      rw [List.mapM_nil]
      exact returns_pure []
  | cons x rest ih =>
      rw [List.mapM_cons]
      have hrest := ih fun y hy => h y (List.mem_cons_of_mem x hy)
      exact (h x List.mem_cons_self).bind (hrest.bind (returns_pure _))

end Judgement

open Judgement

/-- A part that a pass gives back where it meets it. -/
def Keeps {m : Type → Type} [Monad m] (judge : Judgement m) (pass : Pass m) : Part → Prop
  | .expr e => judge.Returns (pass.expr e) e
  | .query q => judge.Returns (pass.clears q) false
  | .source (.table table) =>
    judge.Returns (pass.marks ⟨table.label, table.pivot⟩) ⟨table.label, table.pivot⟩
  | .source (.derived label pivot _) => judge.Returns (pass.marks ⟨label, pivot⟩) ⟨label, pivot⟩
  | _ => True

/-- Parts that a pass gives back where it meets them. -/
def KeepsAll {m : Type → Type} [Monad m] (judge : Judgement m) (pass : Pass m) (parts : List Part) :
    Prop :=
  ∀ part ∈ parts, Keeps judge pass part

section

variable {m : Type → Type} [Monad m] {judge : Judgement m} {pass : Pass m}

@[simp] theorem keepsAll_nil : KeepsAll judge pass [] :=
  fun _ h => absurd h List.not_mem_nil

@[simp] theorem keepsAll_cons (part : Part) (parts : List Part) :
    KeepsAll judge pass (part :: parts) ↔ Keeps judge pass part ∧ KeepsAll judge pass parts :=
  List.forall_mem_cons

@[simp] theorem keepsAll_append (front back : List Part) :
    KeepsAll judge pass (front ++ back) ↔ KeepsAll judge pass front ∧ KeepsAll judge pass back :=
  List.forall_mem_append

theorem keepsAll_flatMap {α : Type} (xs : List α) (walk : α → List Part) :
    KeepsAll judge pass (xs.flatMap walk) ↔ ∀ x ∈ xs, KeepsAll judge pass (walk x) := by
  simp only [KeepsAll, List.mem_flatMap]
  exact ⟨fun h x hx part hpart => h part ⟨x, hx, hpart⟩,
    fun h part ⟨x, hx, hpart⟩ => h x hx part hpart⟩

mutual

theorem returns_expr {e : Expr} (h : KeepsAll judge pass (exprWalk e)) :
    judge.Returns (exprTraverse pass e) e := by
  cases e with
  | column name qualifier quoted =>
      exact h (.expr (.column name qualifier quoted)) (by simp [exprWalk])
  | literal value kind =>
      exact h (.expr (.literal value kind)) (by simp [exprWalk])
  | star qualifier =>
      exact h (.expr (.star qualifier)) (by simp [exprWalk])
  | raw sql =>
      exact h (.expr (.raw sql)) (by simp [exprWalk])
  | call name args bare =>
      obtain ⟨hcall, hargs⟩ : _ ∧ _ := by simpa [exprWalk] using h
      exact (returns_exprs hargs).bind hcall
  | aggregate name argument distinct =>
      obtain ⟨haggregate, hargument⟩ : _ ∧ _ := by simpa [exprWalk] using h
      exact (returns_optional hargument).bind haggregate
  | index base index =>
      obtain ⟨hindex, hbase⟩ : _ ∧ _ := by simpa [exprWalk] using h
      exact (returns_expr hbase).bind hindex
  | binary operator left right =>
      obtain ⟨hbinary, hleft, hright⟩ : _ ∧ _ ∧ _ := by simpa [exprWalk] using h
      exact (returns_expr hleft).bind ((returns_expr hright).bind hbinary)
  | unary operator operand =>
      obtain ⟨hunary, hoperand⟩ : _ ∧ _ := by simpa [exprWalk] using h
      exact (returns_expr hoperand).bind hunary
  | paren inner =>
      obtain ⟨hparen, hinner⟩ : _ ∧ _ := by simpa [exprWalk] using h
      exact (returns_expr hinner).bind hparen
  | between subject low high negated =>
      obtain ⟨hbetween, hsubject, hlow, hhigh⟩ : _ ∧ _ ∧ _ ∧ _ := by
        simpa [exprWalk, and_assoc] using h
      exact (returns_expr hsubject).bind
        ((returns_expr hlow).bind ((returns_expr hhigh).bind hbetween))
  | inList subject values negated =>
      obtain ⟨hin, hsubject, hvalues⟩ : _ ∧ _ ∧ _ := by simpa [exprWalk] using h
      exact (returns_expr hsubject).bind ((returns_exprs hvalues).bind hin)
  | inQuery subject query negated =>
      obtain ⟨hin, hsubject, hquery⟩ : _ ∧ _ ∧ _ := by simpa [exprWalk] using h
      exact (returns_expr hsubject).bind ((returns_query hquery).bind hin)
  | isNull subject negated =>
      obtain ⟨hisNull, hsubject⟩ : _ ∧ _ := by simpa [exprWalk] using h
      exact (returns_expr hsubject).bind hisNull
  | existsIn query negated =>
      obtain ⟨hexists, hquery⟩ : _ ∧ _ := by simpa [exprWalk] using h
      exact (returns_query hquery).bind hexists
  | caseOf operand branches otherwise =>
      obtain ⟨hcase, hoperand, hbranches, hotherwise⟩ : _ ∧ _ ∧ _ ∧ _ := by
        simpa [exprWalk, and_assoc] using h
      exact (returns_optional hoperand).bind
        ((returns_branches hbranches).bind ((returns_optional hotherwise).bind hcase))
  | cast operand type shorthand safe =>
      obtain ⟨hcast, hoperand, -⟩ : _ ∧ _ ∧ _ := by simpa [exprWalk] using h
      exact (returns_expr hoperand).bind hcast
  | window function partition order frame =>
      obtain ⟨hwindow, hfunction, hpartition, horder⟩ : _ ∧ _ ∧ _ ∧ _ := by
        simpa [exprWalk, and_assoc] using h
      exact (returns_expr hfunction).bind
        ((returns_exprs hpartition).bind ((returns_orders horder).bind hwindow))
  | subquery query =>
      obtain ⟨hsubquery, hquery⟩ : _ ∧ _ := by simpa [exprWalk] using h
      exact (returns_query hquery).bind hsubquery

theorem returns_exprs {es : List Expr} (h : KeepsAll judge pass (exprsWalk es)) :
    judge.Returns (exprsTraverse pass es) es := by
  cases es with
  | nil => exact returns_pure []
  | cons e rest =>
      obtain ⟨he, hrest⟩ : _ ∧ _ := by simpa [exprsWalk] using h
      exact (returns_expr he).bind ((returns_exprs hrest).bind (returns_pure _))

theorem returns_optional {e : Option Expr} (h : KeepsAll judge pass (optionalWalk e)) :
    judge.Returns (optionalTraverse pass e) e := by
  cases e with
  | none => exact returns_pure none
  | some e => exact (returns_expr h).bind (returns_pure _)

theorem returns_branches {bs : List Branch} (h : KeepsAll judge pass (branchesWalk bs)) :
    judge.Returns (branchesTraverse pass bs) bs := by
  match bs with
  | [] => exact returns_pure []
  | .mk condition result :: rest =>
      obtain ⟨-, hcondition, hresult, hrest⟩ : _ ∧ _ ∧ _ ∧ _ := by
        simpa [branchesWalk, and_assoc] using h
      exact (returns_expr hcondition).bind
        ((returns_expr hresult).bind ((returns_branches hrest).bind (returns_pure _)))

theorem returns_orders {os : List OrderItem} (h : KeepsAll judge pass (ordersWalk os)) :
    judge.Returns (ordersTraverse pass os) os := by
  match os with
  | [] => exact returns_pure []
  | .mk key descending nulls :: rest =>
      obtain ⟨-, hkey, hrest⟩ : _ ∧ _ ∧ _ := by simpa [ordersWalk] using h
      exact (returns_expr hkey).bind ((returns_orders hrest).bind (returns_pure _))

theorem returns_items {items : List SelectItem} (h : KeepsAll judge pass (itemsWalk items)) :
    judge.Returns (itemsTraverse pass items) items := by
  match items with
  | [] => exact returns_pure []
  | .mk value label :: rest =>
      obtain ⟨-, hvalue, hrest⟩ : _ ∧ _ ∧ _ := by simpa [itemsWalk] using h
      exact (returns_expr hvalue).bind ((returns_items hrest).bind (returns_pure _))

theorem returns_source {s : Source} (h : KeepsAll judge pass (sourceWalk s)) :
    judge.Returns (sourceTraverse pass s) s := by
  match s with
  | .table table =>
      have htable : Keeps judge pass (.source (.table table)) := by simpa [sourceWalk] using h
      exact htable.bind (returns_pure _)
  | .derived label pivot query =>
      obtain ⟨hderived, hquery⟩ : _ ∧ _ := by simpa [sourceWalk] using h
      exact hderived.bind ((returns_query hquery).bind (returns_pure _))

theorem returns_sources {ss : List Source} (h : KeepsAll judge pass (sourcesWalk ss)) :
    judge.Returns (sourcesTraverse pass ss) ss := by
  cases ss with
  | nil => exact returns_pure []
  | cons s rest =>
      obtain ⟨hs, hrest⟩ : _ ∧ _ := by simpa [sourcesWalk] using h
      exact (returns_source hs).bind ((returns_sources hrest).bind (returns_pure _))

theorem returns_joins {js : List Join} (h : KeepsAll judge pass (joinsWalk js)) :
    judge.Returns (joinsTraverse pass js) js := by
  match js with
  | [] => exact returns_pure []
  | .mk keyword source condition shared :: rest =>
      obtain ⟨-, hsource, hcondition, hrest⟩ : _ ∧ _ ∧ _ ∧ _ := by
        simpa [joinsWalk, and_assoc] using h
      exact (returns_source hsource).bind
        ((returns_optional hcondition).bind ((returns_joins hrest).bind (returns_pure _)))

theorem returns_ctes {cs : List Cte} (h : KeepsAll judge pass (ctesWalk cs)) :
    judge.Returns (ctesTraverse pass cs) cs := by
  match cs with
  | [] => exact returns_pure []
  | .mk name columns query :: rest =>
      obtain ⟨-, hquery, hrest⟩ : _ ∧ _ ∧ _ := by simpa [ctesWalk] using h
      exact (returns_query hquery).bind ((returns_ctes hrest).bind (returns_pure _))

theorem returns_query {q : Query} (h : KeepsAll judge pass (queryWalk q)) :
    judge.Returns (queryTraverse pass q) q := by
  match q with
  | { arrayAccesses, ctes, distinct, columns, sources, joins, filter, groupBy, groupByAll, having,
      qualify, orderBy, limit, offset, setOperator, next } =>
      simp only [queryWalk, keepsAll_cons, keepsAll_append, List.cons_append, and_assoc] at h
      obtain ⟨hq, hctes, hcolumns, hsources, hjoins, hfilter, hgroupBy, hhaving, hqualify, horderBy,
        hlimit, hoffset, hnext⟩ := h
      refine hq.bind ((returns_ctes hctes).bind ((returns_items hcolumns).bind ?_))
      refine (returns_sources hsources).bind ((returns_joins hjoins).bind ?_)
      refine (returns_optional hfilter).bind ((returns_exprs hgroupBy).bind ?_)
      refine (returns_optional hhaving).bind ((returns_optional hqualify).bind ?_)
      refine (returns_orders horderBy).bind ((returns_optional hlimit).bind ?_)
      exact (returns_optional hoffset).bind ((returns_optionalQuery hnext).bind (returns_pure _))

theorem returns_optionalQuery {q : Option Query} (h : KeepsAll judge pass (optionalQueryWalk q)) :
    judge.Returns (optionalQueryTraverse pass q) q := by
  cases q with
  | none => exact returns_pure none
  | some q => exact (returns_query h).bind (returns_pure _)

end

theorem returns_table {table : TableRef} (h : Keeps judge pass (.source (.table table))) :
    judge.Returns (tableTraverse pass table) table :=
  Returns.bind h (returns_pure _)

theorem returns_columnDef {c : ColumnDef} (h : KeepsAll judge pass (columnDefWalk c)) :
    judge.Returns (columnDefTraverse pass c) c := by
  simp only [columnDefWalk, keepsAll_cons, keepsAll_append, List.cons_append] at h
  exact (returns_optional h.2.1.2).bind (returns_pure _)

theorem returns_assignment {a : Assignment} (h : KeepsAll judge pass (assignmentWalk a)) :
    judge.Returns (assignmentTraverse pass a) a := by
  simp only [assignmentWalk, keepsAll_cons, keepsAll_append, List.cons_append] at h
  have hcolumn : judge.Returns (pass.expr a.column.expr) a.column.expr :=
    h.2.1 (.expr a.column.expr) (by simp [ColumnName.expr, exprWalk])
  exact hcolumn.bind ((returns_expr h.2.2).bind (returns_pure _))

/-- A pass that gives back every part of a statement gives back the statement. -/
theorem returns_statement [LawfulMonad m] {s : Statement}
    (h : KeepsAll judge pass s.part.preorder) :
    judge.Returns (statementTraverse pass s) s := by
  cases s with
  | select query => exact (returns_query h).bind (returns_pure _)
  | create node =>
      simp only [Statement.part, Part.preorder, keepsAll_cons, keepsAll_append, keepsAll_flatMap,
        List.cons_append, and_assoc] at h
      obtain ⟨-, htarget, hcolumns, hlike, hquery⟩ := h
      have hlike : judge.Returns (node.like.mapM (tableTraverse pass)) node.like := by
        cases hnode : node.like with
        | none => exact returns_pure none
        | some table =>
            have htable := hlike (.source (.table table)) (by simp [hnode])
            exact (returns_table htable).map some
      refine (returns_table htarget).bind ?_
      refine (returns_mapM fun c hc => returns_columnDef (hcolumns c hc)).bind ?_
      exact hlike.bind ((returns_optionalQuery hquery).bind (returns_pure _))
  | insert node =>
      simp only [Statement.part, Part.preorder, keepsAll_cons, keepsAll_append, keepsAll_flatMap,
        List.cons_append] at h
      obtain ⟨-, htarget, hquery, hrows⟩ := h
      refine (returns_table htarget).bind ((returns_optionalQuery hquery).bind ?_)
      exact (returns_mapM fun row hrow => returns_exprs (hrows row hrow)).bind (returns_pure _)
  | update node =>
      simp only [Statement.part, Part.preorder, keepsAll_cons, keepsAll_append, keepsAll_flatMap,
        List.cons_append, and_assoc] at h
      obtain ⟨-, htarget, hassignments, hsources, hfilter⟩ := h
      refine (returns_table htarget).bind ?_
      refine (returns_mapM fun a ha => returns_assignment (hassignments a ha)).bind ?_
      exact (returns_sources hsources).bind ((returns_optional hfilter).bind (returns_pure _))
  | delete node =>
      simp only [Statement.part, Part.preorder, keepsAll_cons, keepsAll_append,
        List.cons_append] at h
      obtain ⟨-, htarget, hsources, hfilter⟩ := h
      refine (returns_table htarget).bind ((returns_sources hsources).bind ?_)
      exact (returns_optional hfilter).bind (returns_pure _)
  | grant node => exact returns_pure _
  | comment node => exact returns_pure _
  | unrendered node => exact returns_pure _

end

/-! ## What no traversal reaches -/

/-- The array accesses attached to a statement. -/
def Statement.arrayAccesses : Statement → List Placeholder.ArrayAccess
  | .select s => s.arrayAccesses
  | .create s => s.arrayAccesses
  | .insert s => s.arrayAccesses
  | .update s => s.arrayAccesses
  | .delete s => s.arrayAccesses
  | .grant s => s.arrayAccesses
  | .comment s => s.arrayAccesses
  | .unrendered s => s.arrayAccesses

/-- A column definition without its default. -/
def ColumnDef.bare (c : ColumnDef) : ColumnDef :=
  { c with default := none }

/-- A created object without its array accesses, its tables, its query and the defaults of its
columns. -/
def Create.bare (node : Create) : Create :=
  { node with arrayAccesses := [], target := { name := "" },
              columns := node.columns.map ColumnDef.bare, like := none, query := none }

/-- The created object of a statement without the parts that a traversal reaches. -/
def Statement.bareCreate? : Statement → Option Create
  | .create node => some node.bare
  | _ => none

section

variable {m : Type → Type} [Monad m] {judge : Judgement m} (pass : Pass m)

/-- A judgement in which every computation gives something. -/
def Judgement.Total (judge : Judgement m) : Prop :=
  ∀ {α : Type} (action : m α), judge.gives action fun _ => True

theorem Judgement.total_plain : plain.Total :=
  fun _ => trivial

theorem Judgement.total_stateful {σ : Type} : (stateful fun _ : σ => True).Total :=
  fun _ _ _ => ⟨trivial, trivial⟩

theorem Judgement.Total.bind (htotal : judge.Total) {α β : Type} (action : m α) {next : α → m β}
    {Q : β → Prop} (hnext : ∀ x, judge.gives (next x) Q) : judge.gives (action >>= next) Q :=
  judge.bind (htotal action) fun x _ => hnext x

theorem bare_columns [LawfulMonad m] (htotal : judge.Total) (columns : List ColumnDef) :
    judge.gives (columns.mapM (columnDefTraverse pass)) fun after =>
      after.map ColumnDef.bare = columns.map ColumnDef.bare := by
  induction columns with
  | nil =>
      rw [List.mapM_nil]
      exact judge.pure rfl
  | cons c rest ih =>
      have hc : judge.gives (columnDefTraverse pass c) fun after => after.bare = c.bare :=
        htotal.bind _ fun default => judge.pure rfl
      rw [List.mapM_cons]
      refine judge.bind hc fun after hafter => judge.bind ih fun tail htail => judge.pure ?_
      rw [List.map_cons, List.map_cons, hafter, htail]

theorem accesses_query (htotal : judge.Total) (q : Query) :
    judge.gives (queryTraverse pass q) fun after => after.arrayAccesses = q.arrayAccesses := by
  obtain ⟨arrayAccesses, ctes, distinct, columns, sources, joins, filter, groupBy,
    groupByAll, having, qualify, orderBy, limit, offset, setOperator, next⟩ := q
  -- one effect for each of the thirteen fields that are traversed
  iterate 13 refine htotal.bind _ fun _ => ?_
  exact judge.pure rfl

/-- A traversal keeps the array accesses of a statement, and a created object up to the parts that
it reaches. -/
theorem bare_statement [LawfulMonad m] (htotal : judge.Total) (s : Statement) :
    judge.gives (statementTraverse pass s) fun after =>
      after.arrayAccesses = s.arrayAccesses ∧ after.bareCreate? = s.bareCreate? := by
  cases s with
  | select query =>
      refine judge.bind (accesses_query pass htotal query) fun after hafter =>
        judge.pure ⟨hafter, rfl⟩
  | create node =>
      refine htotal.bind _ fun target => judge.bind (bare_columns pass htotal node.columns)
        fun columns hc => ?_
      refine htotal.bind _ fun like => htotal.bind _ fun query => judge.pure ⟨rfl, ?_⟩
      simp only [Statement.bareCreate?, Create.bare, hc]
  | insert node =>
      exact htotal.bind _ fun _ => htotal.bind _ fun _ => htotal.bind _ fun _ =>
        judge.pure ⟨rfl, rfl⟩
  | update node =>
      exact htotal.bind _ fun _ => htotal.bind _ fun _ => htotal.bind _ fun _ =>
        htotal.bind _ fun _ =>
        judge.pure ⟨rfl, rfl⟩
  | delete node =>
      exact htotal.bind _ fun _ => htotal.bind _ fun _ => htotal.bind _ fun _ =>
        judge.pure ⟨rfl, rfl⟩
  | grant node => exact judge.pure ⟨rfl, rfl⟩
  | comment node => exact judge.pure ⟨rfl, rfl⟩
  | unrendered node => exact judge.pure ⟨rfl, rfl⟩

/-- Whether a statement is a comment. -/
def Statement.isComment : Statement → Bool
  | .comment _ => true
  | _ => false

theorem isComment_statement [LawfulMonad m] (htotal : judge.Total) (s : Statement) :
    judge.gives (statementTraverse pass s) fun after => after.isComment = s.isComment := by
  cases s with
  | select query => exact htotal.bind _ fun _ => judge.pure rfl
  | create node =>
      exact htotal.bind _ fun _ => htotal.bind _ fun _ => htotal.bind _ fun _ =>
        htotal.bind _ fun _ =>
        judge.pure rfl
  | insert node =>
      exact htotal.bind _ fun _ => htotal.bind _ fun _ => htotal.bind _ fun _ => judge.pure rfl
  | update node =>
      exact htotal.bind _ fun _ => htotal.bind _ fun _ => htotal.bind _ fun _ =>
        htotal.bind _ fun _ =>
        judge.pure rfl
  | delete node =>
      exact htotal.bind _ fun _ => htotal.bind _ fun _ => htotal.bind _ fun _ => judge.pure rfl
  | grant node => exact judge.pure rfl
  | comment node => exact judge.pure rfl
  | unrendered node => exact judge.pure rfl

end

end SqlLayout.Tree
