import SqlLayout.Proofs.Placeholder.Twice

/-!
# Statements without tokens

Restoring finds placeholders by the tokens of the records alone.  A statement that shows none of
them comes out as it went in, whatever the records are, save that the array accesses of the records
are attached to it.

## Implementation notes

Records need not be in the form in which the replacement steps leave them, so a token counts
wherever any pass looks for one, also if it is the token of a record of another kind.  Created
objects are changed by records without a token.
-/

namespace SqlLayout.Placeholder

open SqlLayout.Tree

/-- The name of a call. -/
def callName : Expr → List String
  | .call name _ _ => [name]
  | _ => []

/-- The column that a query groups by, if it is the only one. -/
def soleGrouping (q : Query) : List String :=
  match q.groupBy with
  | [.column name _ _] => [name]
  | _ => []

/-- The names at which restoring looks for tokens: those of calls, the labels of table sources, and
the columns that queries group by alone. -/
def tokenPlaces : View String where
  expr := callName
  query := soleGrouping
  source s := (sourceMark s).filterMap TableMarks.label

/-- A statement that shows the token of no record. -/
def Tokenless (records : List Record) (statement : Statement) : Prop :=
  ∀ name ∈ tokenPlaces.read statement.part.preorder, ∀ record ∈ records, record.token? ≠ some name

instance (records : List Record) (statement : Statement) :
    Decidable (Tokenless records statement) :=
  inferInstanceAs (Decidable (∀ name ∈ _, ∀ record ∈ records, _))

/-- The array accesses of a record list. -/
def accessRecords (records : List Record) : List ArrayAccess :=
  records.filterMap Record.arrayAccess?

/-- A statement with the array accesses of records, if there are any. -/
def withAccesses (records : List Record) (statement : Statement) : Statement :=
  if accessRecords records = [] then statement else attachAccesses (accessRecords records) statement

section

variable {records : List Record} {statement : Statement}

theorem tokenless_withAccesses :
    Tokenless records (withAccesses records statement) ↔ Tokenless records statement := by
  unfold withAccesses
  split
  · exact Iff.rfl
  · rw [Tokenless, read_attachAccesses fun _ _ => rfl, Tokenless]

/-- A name at which restoring looks for tokens is none. -/
theorem Tokenless.token_ne (h : Tokenless records statement) {part : Part}
    (hpart : part ∈ statement.part.preorder) {name : String} (hname : name ∈ tokenPlaces.part part)
    {record : Record} (hrecord : record ∈ records) :
    record.token? ≠ some name :=
  h name ((View.mem_read _).2 ⟨part, hpart, hname⟩) record hrecord

theorem restoreArrayAccesses_of_tokenless (h : Tokenless records statement) :
    (restoreArrayAccesses (arrayAccesses records) statement).statement =
      withAccesses records statement := by
  have hpicked : (arrayAccesses records).map Prod.fst = accessRecords records :=
    map_fst_pick _ records
  unfold restoreArrayAccesses
  split
  · next hempty =>
      rw [List.isEmpty_iff.1 hempty, List.map_nil] at hpicked
      rw [withAccesses, if_pos hpicked.symm]
  · next hsome =>
      have hne : accessRecords records ≠ [] := fun hempty => by
        rw [hempty, List.map_eq_nil_iff] at hpicked
        exact hsome (List.isEmpty_iff.2 hpicked)
      have hattached : attachAccesses ((arrayAccesses records).map Prod.fst) statement =
          withAccesses records statement := by
        rw [withAccesses, if_neg hne, hpicked]
      rw [hattached]
      refine returns_statement (keepsAll_indexPass fun access args bare hrecord hpart => ?_)
      exact (tokenless_withAccesses.2 h).token_ne hpart List.mem_cons_self hrecord rfl

theorem restoreGroups_of_tokenless (h : Tokenless records statement) :
    (restoreGroups (groupTokens records) statement).statement = statement := by
  refine (returns_statement (keepsAll_takeGroup fun token q qualifier quoted hrecord hpart hgroup =>
    ?_) { pending := groupTokens records } (List.Subset.refl _)).1
  have hname : token ∈ tokenPlaces.part (.query q) := by
    simp [View.part, tokenPlaces, soleGrouping, hgroup]
  exact h.token_ne hpart hname hrecord rfl

theorem restorePivots_of_tokenless (h : Tokenless records statement) :
    (restorePivots (pivots records) statement).statement = statement := by
  refine returns_statement (keepsAll_marksPass fun pivot source hrecord hpart marks hmarks hlabel =>
    ?_)
  have hname : pivot.token ∈ tokenPlaces.part (.source source) :=
    List.mem_filterMap.2 ⟨marks, hmarks, hlabel⟩
  exact h.token_ne hpart hname hrecord rfl

theorem restoreCasts_of_tokenless (h : Tokenless records statement) :
    (restoreCasts (casts records) statement).statement = statement := by
  cases hcasts : casts records with
  | nil => rfl
  | cons first rest =>
      have hrecord : .castShorthand first.1 ∈ records :=
        mem_casts.1 (List.mem_map_of_mem (hcasts ▸ List.mem_cons_self))
      refine returns_statement (keepsAll_castPass fun operand type shorthand safe bare hpart => ?_)
      exact h.token_ne hpart List.mem_cons_self hrecord rfl

/-- Restoring attaches the array accesses to a statement that shows no token and creates nothing. -/
theorem restoreStatement_of_tokenless (hcreate : ∀ node, statement ≠ .create node)
    (h : Tokenless records statement) :
    (restoreStatement records statement).statement = withAccesses records statement := by
  have hhead : (restoreHead records statement).statement = statement := by
    cases statement with
    | create node => exact absurd rfl (hcreate node)
    | _ => rfl
  have hattached := tokenless_withAccesses.2 h
  simp only [restoreStatement, Restored.andThen, hhead, restoreArrayAccesses_of_tokenless h,
    restoreGroups_of_tokenless hattached, restorePivots_of_tokenless hattached,
    restoreCasts_of_tokenless hattached]

end

/-- Restoring touches nothing of a statement that shows no token and creates nothing, save that the
array accesses of the records take the place of its own, if there are any. -/
theorem restore_touches_nothing_else (records : List Record) {statements : List Statement}
    {position : Nat} {statement : Statement} (hstatement : statements[position]? = some statement)
    (hcreate : ∀ node, statement ≠ .create node) (htokens : Tokenless records statement) :
    (restore records statements).statements[position]? =
      some (if accessRecords records = [] then statement
        else attachAccesses (accessRecords records) statement) := by
  have hmap : (restore records statements).statements =
      statements.map fun statement => (restoreStatement records statement).statement := List.map_map
  rw [hmap, List.getElem?_map, hstatement, Option.map_some,
    restoreStatement_of_tokenless hcreate htokens, withAccesses]

/-- A query with a call, a labelled table source with a pivot clause, a grouping by one column and a
cast with `::`, none of which shows a token of `nestedRecords`. -/
def restoredStatement : Statement :=
  .select
    { columns := [.mk (.index (.call "f" [.column "x" none false] false) 0) none]
      sources := [.derived (some "d") none
        { sources := [.table { name := "t", pivot := some "PIVOT (g)" }], groupByAll := true }]
      filter := some (.cast (.call "g" [] false) { name := "INT" } true false)
      groupBy := [.column "y" none false] }

theorem restore_touches_nothing_else_select :
    let records := .replaceMarker .view :: .dynamicTable { name := "v" } :: nestedRecords
    let created : Statement := .create { kind := .view, target := { name := "v" } }
    [created, restoredStatement][1]? = some restoredStatement ∧
      (∀ node, restoredStatement ≠ .create node) ∧
      Tokenless records restoredStatement ∧
      (restore records [created, restoredStatement]).statements[1]? =
        some (attachAccesses [{ token := "__ARRAYACCESS__0__f", callText := "f(x)", index := 0 }]
          restoredStatement) := by
  intro records created
  have hcreate : ∀ node, restoredStatement ≠ .create node := fun _ h => by cases h
  have htokens : Tokenless records restoredStatement := by decide
  exact ⟨rfl, hcreate, htokens, restore_touches_nothing_else records rfl hcreate htokens⟩

end SqlLayout.Placeholder
