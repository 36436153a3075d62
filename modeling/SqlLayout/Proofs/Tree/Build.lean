import SqlLayout.Tree.Build

/-!
# Building queries

What the steps of the builder leave alone: a select is built as a query that stands in no chain, and
a set operation without an ordering and limits changes none of its operands.
-/

namespace SqlLayout.Tree

open Grammar (Dialect)

theorem bind_ok {ε α β : Type} {action : Except ε α} {next : α → Except ε β} {value : β}
    (h : action >>= next = .ok value) : ∃ found, action = .ok found ∧ next found = .ok value := by
  cases action with
  | error cause => cases h
  | ok found => exact ⟨found, rfl, h⟩

/-- A query that stands in no chain of set operations. -/
def Query.IsSingle (q : Query) : Prop :=
  q.setOperator = none ∧ q.next = none

/-! ## Chains of operands -/

theorem mapLast_cons (f : Query → Query) (q : Query) {rest : List Query} (h : rest ≠ []) :
    mapLast f (q :: rest) = q :: mapLast f rest := by
  cases rest with
  | nil => exact absurd rfl h
  | cons next rest => rfl

theorem mapLast_of_fixed {f : Query → Query} (h : ∀ q, f q = q) (chain : List Query) :
    mapLast f chain = chain := by
  induction chain with
  | nil => rfl
  | cons q rest ih =>
      cases rest with
      | nil => exact congrArg (· :: []) (h q)
      | cons next rest => exact congrArg (q :: ·) ih

theorem mapHead_of_fixed {f : Query → Query} (h : ∀ q, f q = q) (chain : List Query) :
    mapHead f chain = chain := by
  cases chain with
  | nil => rfl
  | cons q rest => exact congrArg (· :: rest) (h q)

/-- Nothing is put into the last operand when there are no ordering and no limits. -/
theorem endingOf_bare (dialect : Dialect) (chain : List Query) {clauses : Grammar.Clauses}
    (horder : clauses.order = none) (hlimit : clauses.limit = none)
    (hoffset : clauses.offset = none) :
    endingOf dialect chain clauses = .ok chain := by
  cases clauses
  subst horder hlimit hoffset
  refine congrArg Except.ok (mapLast_of_fixed ?_ chain)
  rintro ⟨⟩
  rfl

/-! ## Selects -/

section

variable {dialect : Dialect}

theorem joinsOf_single {joins : List Grammar.JoinTerm} {start q : Query}
    (h : joinsOf dialect start joins = .ok q) :
    q.setOperator = start.setOperator ∧ q.next = start.next := by
  induction joins generalizing start with
  | nil =>
      obtain rfl := Except.ok.inj h
      exact ⟨rfl, rfl⟩
  | cons join rest ih =>
      obtain ⟨method, side, kind, source, condition, shared, hasShared, comments⟩ := join
      rw [joinsOf] at h
      obtain ⟨source, -, h⟩ := bind_ok h
      obtain ⟨condition, -, h⟩ := bind_ok h
      split at h
      · exact (ih h :)
      · exact (ih h :)

theorem groupingOf_single {grouping : Option Grammar.Grouping} {start q : Query}
    (h : groupingOf dialect start grouping = .ok q) :
    q.setOperator = start.setOperator ∧ q.next = start.next := by
  match grouping with
  | none =>
      obtain rfl := Except.ok.inj h
      exact ⟨rfl, rfl⟩
  | some (.mk items byAll extra) =>
      rw [groupingOf] at h
      obtain ⟨keys, -, h⟩ := bind_ok h
      obtain rfl := Except.ok.inj h
      exact ⟨rfl, rfl⟩

/-- No clause puts a query into a chain. -/
theorem clausesOf_single {clauses : Grammar.Clauses} {start q : Query}
    (h : clausesOf dialect start clauses = .ok q) :
    q.setOperator = start.setOperator ∧ q.next = start.next := by
  cases clauses
  rw [clausesOf] at h
  obtain ⟨joined, hjoined, h⟩ := bind_ok h
  obtain ⟨filter, -, h⟩ := bind_ok h
  obtain ⟨grouped, hgrouped, h⟩ := bind_ok h
  -- the clauses behind the grouping go to fields of their own
  iterate 5 obtain ⟨_, -, h⟩ := bind_ok h
  obtain rfl := Except.ok.inj h
  have hkeep := groupingOf_single hgrouped
  have hstart := joinsOf_single hjoined
  exact ⟨hkeep.1.trans hstart.1, hkeep.2.trans hstart.2⟩

theorem selectOf_single {select : Grammar.Select} {q : Query}
    (h : selectOf dialect select = .ok q) :
    q.IsSingle := by
  cases select
  rw [selectOf] at h
  iterate 3 obtain ⟨_, -, h⟩ := bind_ok h
  exact (clausesOf_single h :)

end

end SqlLayout.Tree
