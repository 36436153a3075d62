import SqlLayout.Proofs.Placeholder.Twice

/-!
# Reports of casts

All records of casts share one token, and restoring looks for a call with that token without asking
which record it came from.  One cast written with `::` anywhere then accounts for all records.  So
the report of unused records is all or nothing: it misses a cast whose call never reached the tree
as soon as another one did.

## Implementation notes

Calls are counted by the token of the first record, the only one that restoring reads.
-/

namespace SqlLayout.Placeholder

open SqlLayout.Tree

/-- Whether a call with this name is the placeholder of a cast. -/
def isCastName (records : List CastShorthand) (name : String) : Bool :=
  records.head?.any (name == ·.token)

/-- Whether a part is a call that stands for a cast of one of the records. -/
def isCastCall (records : List CastShorthand) : Part → Bool
  | .expr (.call name args _) => isCastName records name && castArgument args
  | _ => false

/-- How many casts of some statements are written with `::`. -/
def shorthandCount (statements : List Statement) : Nat :=
  (statements.map fun statement => statement.part.preorder.countP isShorthandCast).sum

/-- How many calls of some statements stand for a cast of one of the records. -/
def castCallCount (records : List CastShorthand) (statements : List Statement) : Nat :=
  (statements.map fun statement => statement.part.preorder.countP (isCastCall records)).sum

/-! ## One statement -/

theorem length_castMarks_part (records : List CastShorthand) (part : Part) :
    ((castMarks (isCastName records)).part part).length =
      (if isShorthandCast part then 1 else 0) + if isCastCall records part then 1 else 0 := by
  cases part with
  | expr e =>
      cases e with
      | call name args bare =>
          cases h : isCastName records name && castArgument args <;>
            simp [View.part, castMark, isShorthandCast, isCastCall, h]
      | cast operand type shorthand safe => cases shorthand <;> rfl
      | _ => rfl
  | _ => rfl

theorem length_castMarks (records : List CastShorthand) (parts : List Part) :
    ((castMarks (isCastName records)).read parts).length =
      parts.countP isShorthandCast + parts.countP (isCastCall records) := by
  induction parts with
  | nil => rfl
  | cons part rest ih =>
      rw [View.read_cons, List.length_append, length_castMarks_part, ih, List.countP_cons,
        List.countP_cons]
      omega

theorem countP_isCastCall_nil (parts : List Part) : parts.countP (isCastCall []) = 0 := by
  refine List.countP_eq_zero.2 fun part _ => ?_
  unfold isCastCall
  split <;> simp [isCastName]

/-- Restoring casts turns the calls that stand for one into casts with `::`, and keeps those that
are there. -/
theorem countP_restoreCasts (records : List CastShorthand) (statement : Statement) :
    (restoreCasts records.zipIdx statement).statement.part.preorder.countP isShorthandCast =
      statement.part.preorder.countP isShorthandCast +
        statement.part.preorder.countP (isCastCall records) := by
  cases records with
  | nil =>
      rw [countP_isCastCall_nil]
      rfl
  | cons first rest =>
      have hread := (castMarks_castPass first.token).read_statement statement
      have hplain (parts : List Part) :
          ((castMarks fun _ => false).read parts).length = parts.countP isShorthandCast := by
        rw [← Nat.add_zero (List.countP _ parts), ← countP_isCastCall_nil parts, ← length_castMarks]
        rfl
      rw [← length_castMarks, ← hplain]
      exact congrArg List.length hread

/-- On one statement, all records of casts are used or none is. -/
theorem mem_used_restoreCasts (records : List CastShorthand) (statement : Statement)
    (position : Nat) :
    position ∈ (restoreCasts records.zipIdx statement).used ↔
      position < records.length ∧
        ∃ part ∈ (restoreCasts records.zipIdx statement).statement.part.preorder,
          isShorthandCast part = true := by
  cases records with
  | nil => simp [restoreCasts]
  | cons first rest =>
      rw [← List.any_eq_true, ← List.mem_range, List.range_eq_range', ← List.zipIdx_map_snd]
      simp only [restoreCasts, List.zipIdx_cons]
      split
      · next hany => simp [hany]
      · next hnone => simp [hnone]

/-! ## All statements -/

section

variable (records : List CastShorthand) (statements : List Statement)

theorem casts_map_castShorthand : casts (records.map .castShorthand) = records.zipIdx := by
  simp [casts_eq, pick, List.zipIdx_map, List.filterMap_map, Record.castShorthand?]

/-- Records of casts call for no other pass. -/
theorem restoreStatement_castShorthand (statement : Statement) :
    restoreStatement (records.map .castShorthand) statement =
      restoreCasts records.zipIdx statement := by
  have hnone {α : Type} {f : Record → Option α} (hf : ∀ record, f (.castShorthand record) = none) :
      pick f (records.map .castShorthand) = [] := pick_map_eq_nil hf records
  have hhead : restoreHead (records.map .castShorthand) statement = { statement := statement } :=
    restoreHead_nil (hnone fun _ => rfl) (hnone fun _ => rfl) (hnone fun _ => rfl) statement
  have haccesses : arrayAccesses (records.map .castShorthand) = [] := hnone fun _ => rfl
  have hgroups : groupTokens (records.map .castShorthand) = [] := hnone fun _ => rfl
  have hpivots : pivots (records.map .castShorthand) = [] := hnone fun _ => rfl
  simp [restoreStatement, Restored.andThen, hhead, haccesses, hgroups, hpivots,
    restoreArrayAccesses, restoreGroups_nil, restorePivots_nil, casts_map_castShorthand]

theorem statements_restore_castShorthand :
    (restore (records.map .castShorthand) statements).statements =
      statements.map fun statement => (restoreCasts records.zipIdx statement).statement := by
  simp [restore, restoreStatement_castShorthand]

/-- The casts with `::` of restored statements are those that were there and those that calls stood
for. -/
theorem shorthandCount_restore :
    shorthandCount (restore (records.map .castShorthand) statements).statements =
      shorthandCount statements + castCallCount records statements := by
  rw [statements_restore_castShorthand, shorthandCount, shorthandCount,
    castCallCount, ← List.sum_map_add, List.map_map]
  exact congrArg List.sum (List.map_congr_left fun statement _ =>
    countP_restoreCasts records statement)

theorem shorthandCount_ne_zero :
    shorthandCount statements ≠ 0 ↔
      ∃ statement ∈ statements, ∃ part ∈ statement.part.preorder, isShorthandCast part = true := by
  simp [shorthandCount, List.sum_eq_zero_iff, List.countP_eq_zero]

theorem mem_used_restore (position : Nat) :
    position ∈ (statements.map (restoreStatement (records.map .castShorthand))).flatMap
      Restored.used ↔
      position < records.length ∧
        shorthandCount (restore (records.map .castShorthand) statements).statements ≠ 0 := by
  simp only [statements_restore_castShorthand, shorthandCount_ne_zero, List.mem_map,
    exists_exists_and_eq_and, List.flatMap_map, List.mem_flatMap, restoreStatement_castShorthand,
    mem_used_restoreCasts]
  exact ⟨fun ⟨statement, hmem, hposition, hpart⟩ => ⟨hposition, statement, hmem, hpart⟩,
    fun ⟨hposition, statement, hmem, hpart⟩ => ⟨statement, hmem, hposition, hpart⟩⟩

/-- Records of casts are reported together: all if no restored statement has a cast with `::`, and
else none. -/
theorem unapplied_restore_castShorthand :
    (restore (records.map .castShorthand) statements).unapplied =
      if shorthandCount (restore (records.map .castShorthand) statements).statements = 0 then
        records.map .castShorthand
      else [] := by
  have hused := mem_used_restore records statements
  set used := (statements.map (restoreStatement (records.map .castShorthand))).flatMap Restored.used
  change ((records.map Record.castShorthand).zipIdx.filterMap fun entry =>
    if used.contains entry.2 then none else some entry.1) = _
  split
  · next hzero =>
      have hnone : used = [] := List.eq_nil_iff_forall_not_mem.2 fun position hposition =>
        ((hused position).1 hposition).2 hzero
      simp [hnone]
  · next hsome =>
      refine List.filterMap_eq_nil_iff.2 fun entry hentry => if_pos ?_
      have hposition := List.snd_lt_of_mem_zipIdx hentry
      simpa using (hused entry.2).2 ⟨by simpa using hposition, hsome⟩

end

/-- A report without casts means that there are as many casts with `::` as records exactly when no
call stood for a cast, or as many as there are records. -/
theorem cast_report_sound_iff (records : List CastShorthand) {statements : List Statement}
    (hplain : shorthandCount statements = 0) :
    ((restore (records.map .castShorthand) statements).unapplied = [] →
        records.length ≤ shorthandCount
          (restore (records.map .castShorthand) statements).statements) ↔
      castCallCount records statements = 0 ∨ records.length ≤ castCallCount records statements := by
  have hcount : shorthandCount (restore (records.map .castShorthand) statements).statements =
      castCallCount records statements := by
    rw [shorthandCount_restore, hplain, Nat.zero_add]
  rw [unapplied_restore_castShorthand, hcount]
  by_cases hnone : castCallCount records statements = 0
  · -- all records are reported, so there is nothing to show unless there are no records at all
    refine iff_of_true (fun hreport => ?_) (.inl hnone)
    rw [if_pos hnone, List.map_eq_nil_iff] at hreport
    exact hreport ▸ Nat.zero_le _
  · simp [hnone]

/-- The records of a query with two casts. -/
def twoCasts : List CastShorthand :=
  [{ token := castToken, operand := "a", typeText := "INT" },
    { token := castToken, operand := "b", typeText := "DATE" }]

/-- The call that stands for the first of two casts. -/
def firstCastCall : Expr :=
  .call castToken [.cast (.column "a" none false) { name := "INT" } false false] false

theorem cast_report_sound_iff_two :
    let statement : Statement := .select
      { columns := [.mk firstCastCall none,
          .mk (.call castToken [.cast (.column "b" none false) { name := "DATE" } false false]
            false) none] }
    shorthandCount [statement] = 0 ∧ castCallCount twoCasts [statement] = 2 ∧
      ((restore (twoCasts.map .castShorthand) [statement]).unapplied = [] →
        2 ≤ shorthandCount (restore (twoCasts.map .castShorthand) [statement]).statements) := by
  intro statement
  have hplain : shorthandCount [statement] = 0 := by decide
  have htwo : castCallCount twoCasts [statement] = 2 := by decide
  exact ⟨hplain, htwo, (cast_report_sound_iff twoCasts hplain).2 (.inr htwo.ge)⟩

/-- The call for the second cast stands in an expression that is kept as text: it is not restored
and not reported. -/
theorem cast_report_misses_raw :
    let statement : Statement := .select
      { columns := [.mk firstCastCall none,
          .mk (.raw "EXTRACT(YEAR FROM __CAST_SHORTHAND__(CAST(b AS DATE)))") none]
        sources := [.table { name := "t" }] }
    shorthandCount [statement] = 0 ∧ (restore (twoCasts.map .castShorthand) [statement]).unapplied =
      [] ∧
      ¬ twoCasts.length ≤ shorthandCount
        (restore (twoCasts.map .castShorthand) [statement]).statements := by
  decide

end SqlLayout.Placeholder
