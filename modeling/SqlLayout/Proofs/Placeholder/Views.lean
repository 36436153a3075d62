import SqlLayout.Placeholder.Restore
import SqlLayout.Proofs.Tree.Groups

/-!
# What restoring reads in a tree

Four views hold everything by which the passes of restoring find placeholders: the names of calls,
the calls under an index, how queries group, the marks of table sources, and the casts that are
written, or will be written, with `::`.  Each pass leaves the views of the later passes alone, or
changes them in a way that is known from the tree before it.

## Implementation notes

`castMarks` is read with a condition on names, so that the pass over array accesses, which changes
the names of calls, changes the condition only.
-/

namespace SqlLayout.Placeholder

open SqlLayout.Tree

/-- A call under an index, with the index. -/
def callUnderIndex : Expr → List (String × Nat)
  | .index (.call name _ _) index => [(name, index)]
  | _ => []

/-- The calls of a tree that stand under an index, each with the index. -/
def indexedCalls : View (String × Nat) where
  expr := callUnderIndex

/-- How a grouping is written: `none` for all columns, and the name of a column that stands
alone. -/
def groupKeyOf (byAll : Bool) : List Expr → List (Option String)
  | [] => if byAll then [none] else []
  | [.column name _ _] => [some name]
  | _ => []

/-- How a query groups. -/
def groupKey (q : Query) : List (Option String) :=
  groupKeyOf q.groupByAll q.groupBy

/-- How the queries of a tree group. -/
def groupKeys : View (Option String) where
  query := groupKey

/-- The label and the pivot clause of a table source. -/
def sourceMark : Source → List TableMarks
  | .table table => [⟨table.label, table.pivot⟩]
  | .derived label pivot _ => [⟨label, pivot⟩]

/-- The labels and the pivot clauses of the table sources of a tree. -/
def sourceMarks : View TableMarks where
  source := sourceMark

/-- Whether the arguments of a call are one cast that is not written with `::`. -/
def castArgument : List Expr → Bool
  | [.cast _ _ false _] => true
  | _ => false

/-- A cast written with `::`, or a call with a marked name around another cast. -/
def castMark (marked : String → Bool) : Expr → List Unit
  | .call name args _ => if marked name && castArgument args then [()] else []
  | .cast _ _ true _ => [()]
  | _ => []

/-- The casts of a tree that are written with `::`, and the other casts that are the only argument
of a call whose name is marked. -/
def castMarks (marked : String → Bool) : View Unit where
  expr := castMark marked

/-- The name that a call has once its array access is restored. -/
def calledName (records : Numbered ArrayAccess) (name : String) : String :=
  match accessOf? records name with
  | some (record, _) => record.functionName
  | none => name

/-- The call under an index that an expression becomes once array accesses are restored. -/
def restoredIndex (records : Numbered ArrayAccess) : Expr → List (String × Nat)
  | .call name _ _ =>
    match accessOf? records name with
    | some (record, _) => [(record.functionName, record.index)]
    | none => []
  | .index (.call name _ _) index => if (accessOf? records name).isNone then [(name, index)] else []
  | _ => []

/-- The calls under an index once array accesses are restored. -/
def restoredIndexes (records : Numbered ArrayAccess) : View (String × Nat) where
  expr := restoredIndex records

@[simp] theorem indexedCalls_expr (e : Expr) : indexedCalls.expr e = callUnderIndex e := rfl

@[simp] theorem castMarks_expr (marked : String → Bool) (e : Expr) :
    (castMarks marked).expr e = castMark marked e := rfl

@[simp] theorem restoredIndexes_expr (records : Numbered ArrayAccess) (e : Expr) :
    (restoredIndexes records).expr e = restoredIndex records e := rfl

theorem restoredIndexes_nil : restoredIndexes [] = indexedCalls := by
  have hexpr : restoredIndex [] = callUnderIndex := by
    funext e
    cases e with
    | index base index => cases base <;> rfl
    | _ => rfl
  rw [restoredIndexes, hexpr, indexedCalls]

/-! ## The pass over array accesses -/

/-- The pass over array accesses. -/
def indexPass (records : Numbered ArrayAccess) : Pass Id :=
  { Pass.keep Id with expr := restoreIndex records }

section

variable (records : Numbered ArrayAccess)

theorem indexPass_expr (e : Expr) : ((indexPass records).expr e).run = restoreIndex records e := rfl

theorem indexPass_clears (q : Query) : ((indexPass records).clears q).run = false := rfl

theorem exprTraverse_indexPass (e : Expr) :
    (exprTraverse (indexPass records) e).run =
      restoreIndex records (descend (indexPass records) e) := by
  rw [exprTraverse_run, indexPass_expr]

theorem castArgument_indexPass (args : List Expr) :
    castArgument (exprsTraverse (indexPass records) args).run = castArgument args := by
  match args with
  | [] => rfl
  | _ :: _ :: _ => simp [exprsTraverse, castArgument]
  | [e] =>
      cases e with
      | call name args bare =>
          simp only [exprsTraverse, Id.run_bind, Id.run_pure, exprTraverse_indexPass, descend,
            restoreIndex]
          cases accessOf? records name <;> rfl
      | cast operand type shorthand safe => cases shorthand <;> rfl
      | _ => rfl

/-- An index keeps its call exactly when the name of the call is no token. -/
theorem callUnderIndex_indexPass (base : Expr) (index : Nat) :
    callUnderIndex (.index (exprTraverse (indexPass records) base).run index) =
      restoredIndex records (.index base index) := by
  rw [exprTraverse_indexPass]
  cases base with
  | call name args bare =>
      simp only [descend, restoreIndex, restoredIndex]
      cases accessOf? records name <;> rfl
  | _ => rfl

theorem indexedCalls_indexPass :
    Pulls (indexPass records) indexedCalls (restoredIndexes records) where
  column _ _ _ := rfl
  expr e := by
    rw [indexPass_expr]
    cases e with
    | call name args bare =>
        simp only [descend, restoreIndex]
        cases haccess : accessOf? records name <;>
          simp [exprWalk, exprBelow, View.part, callUnderIndex, restoredIndex, haccess]
    | index base index =>
        have hindex := callUnderIndex_indexPass records base index
        simp [descend, restoreIndex, exprWalk, exprBelow, View.part, hindex]
    | _ =>
        simp [descend, restoreIndex, exprWalk, exprBelow, View.part, callUnderIndex, restoredIndex]
  query _ := rfl
  source _ := rfl
  clears _ h := absurd h Bool.false_ne_true

theorem castMarks_indexPass (marked : String → Bool) :
    Pulls (indexPass records) (castMarks marked)
      (castMarks fun name => marked (calledName records name)) where
  column _ _ _ := rfl
  expr e := by
    rw [indexPass_expr]
    cases e with
    | call name args bare =>
        have hargs := castArgument_indexPass records args
        simp only [descend, restoreIndex]
        cases haccess : accessOf? records name <;>
          simp [exprWalk, exprBelow, View.part, castMark, calledName, haccess, hargs]
    | cast operand type shorthand safe =>
        cases shorthand <;>
          simp [descend, restoreIndex, exprWalk, exprBelow, View.part, castMark]
    | _ => simp [descend, restoreIndex, exprWalk, exprBelow, View.part, castMark]
  query _ := rfl
  source _ := rfl
  clears _ h := absurd h Bool.false_ne_true

theorem groupKeyOf_indexPass (byAll : Bool) (es : List Expr) :
    groupKeyOf byAll (exprsTraverse (indexPass records) es).run = groupKeyOf byAll es := by
  match es with
  | [] => rfl
  | _ :: _ :: _ => simp [exprsTraverse, groupKeyOf]
  | [e] =>
      cases e with
      | call name args bare =>
          simp only [exprsTraverse, Id.run_bind, Id.run_pure, exprTraverse_indexPass, descend,
            restoreIndex]
          cases accessOf? records name <;> rfl
      | _ => rfl

theorem groupKeys_indexPass : Pulls (indexPass records) groupKeys groupKeys where
  column _ _ _ := rfl
  expr e := by
    rw [indexPass_expr]
    cases e with
    | call name args bare =>
        simp only [descend, restoreIndex]
        cases accessOf? records name <;> rfl
    | _ => rfl
  query q := by
    cases q with
    | mk arrayAccesses ctes distinct columns sources joins filter groupBy groupByAll =>
        simpa [groupKeys, groupKey, queryTraverse, indexPass_clears] using
          groupKeyOf_indexPass records groupByAll groupBy
  source _ := rfl
  clears _ h := absurd h Bool.false_ne_true

theorem sourceMarks_indexPass : Pulls (indexPass records) sourceMarks sourceMarks where
  column _ _ _ := rfl
  expr e := by
    rw [indexPass_expr]
    cases e with
    | call name args bare =>
        simp only [descend, restoreIndex]
        cases accessOf? records name <;> rfl
    | _ => rfl
  query _ := rfl
  source s := by cases s <;> rfl
  clears _ h := absurd h Bool.false_ne_true

end

/-! ## Passes that keep expressions -/

section

variable {pass : Pass Id}

theorem castArgument_keep (hexpr : pass.expr = pure) (args : List Expr) :
    castArgument (exprsTraverse pass args).run = castArgument args := by
  match args with
  | [] => rfl
  | _ :: _ :: _ => simp [exprsTraverse, castArgument]
  | [e] =>
      simp only [exprsTraverse, Id.run_bind, Id.run_pure, exprTraverse_run, hexpr]
      cases e with
      | cast operand type shorthand safe => cases shorthand <;> rfl
      | _ => rfl

theorem eq_of_soleColumn {es : List Expr} (h : soleColumn es = true) :
    ∃ name qualifier quoted, es = [.column name qualifier quoted] := by
  unfold soleColumn at h
  split at h
  · exact ⟨_, _, _, rfl⟩
  · simp at h

theorem castMarks_keep (hexpr : pass.expr = pure)
    (hclears : ∀ q, (pass.clears q).run = true → soleColumn q.groupBy = true)
    (marked : String → Bool) : Pulls pass (castMarks marked) (castMarks marked) where
  column _ _ _ := by rw [hexpr, Id.run_pure]
  expr e := by
    rw [hexpr, Id.run_pure]
    cases e with
    | call name args bare =>
        have hargs := castArgument_keep hexpr args
        simp [descend, exprWalk, exprBelow, View.part, castMark, hargs]
    | cast operand type shorthand safe =>
        cases shorthand <;> simp [descend, exprWalk, exprBelow, View.part, castMark]
    | _ => simp [descend, exprWalk, exprBelow, View.part, castMark]
  query _ := rfl
  source _ := rfl
  clears q h := by
    obtain ⟨name, qualifier, quoted, hcolumn⟩ := eq_of_soleColumn (hclears q h)
    simp [hcolumn, exprsWalk, exprWalk, View.part, castMark]

theorem castMarks_ungroup (marked : String → Bool) :
    Pulls ungroup (castMarks marked) (castMarks marked) :=
  @castMarks_keep ungroup rfl (fun _ h => h) marked

theorem sourceMarks_ungroup : Pulls ungroup sourceMarks sourceMarks where
  column _ _ _ := rfl
  expr e := by cases e <;> rfl
  query _ := rfl
  source s := by cases s <;> rfl
  clears q h := by
    obtain ⟨name, qualifier, quoted, hcolumn⟩ := eq_of_soleColumn h
    rw [hcolumn]
    rfl

end

/-! ## The passes over pivot clauses and casts -/

/-- The pass over pivot clauses. -/
def marksPass (records : Numbered Pivot) : Pass Id :=
  { Pass.keep Id with marks := restoreMarks records }

theorem castMarks_marksPass (records : Numbered Pivot) (marked : String → Bool) :
    Pulls (marksPass records) (castMarks marked) (castMarks marked) :=
  @castMarks_keep (marksPass records) rfl (fun _ h => absurd h Bool.false_ne_true) marked

/-- The pass over casts. -/
def castPass (token : String) : Pass Id :=
  { Pass.keep Id with expr := restoreCast token }

theorem castPass_expr (token : String) (e : Expr) :
    ((castPass token).expr e).run = restoreCast token e := rfl

theorem castArgument_castPass (token : String) (args : List Expr) :
    castArgument (exprsTraverse (castPass token) args).run = castArgument args := by
  match args with
  | [] => rfl
  | _ :: _ :: _ => simp [exprsTraverse, castArgument]
  | [e] =>
      simp only [exprsTraverse, Id.run_bind, Id.run_pure, exprTraverse_run, castPass_expr]
      cases e with
      | call name args bare =>
          simp only [descend, restoreCast]
          split
          · split <;> simp_all [castArgument]
          · rfl
      | cast operand type shorthand safe => cases shorthand <;> rfl
      | _ => rfl

theorem restoreCast_call (token name : String) (args : List Expr) (bare : Bool) :
    (∃ operand type shorthand safe, args = [.cast operand type shorthand safe] ∧ name = token ∧
        restoreCast token (.call name args bare) = .cast operand type true safe) ∨
      ((name = token → castArgument args = false) ∧
        restoreCast token (.call name args bare) = .call name args bare) := by
  match args with
  | [] => exact .inr ⟨fun _ => rfl, rfl⟩
  | _ :: _ :: _ => exact .inr ⟨fun _ => by simp [castArgument], by simp [restoreCast]⟩
  | [e] =>
      cases e with
      | cast operand type shorthand safe =>
          by_cases hname : name = token
          · exact .inl ⟨operand, type, shorthand, safe, rfl, hname, by simp [restoreCast, hname]⟩
          · exact .inr ⟨fun h => absurd h hname, by simp [restoreCast, hname]⟩
      | _ => exact .inr ⟨fun _ => rfl, rfl⟩

/-- A marked call around a cast becomes a cast, and nothing below it is lost. -/
theorem read_restoreCast (token name : String) (args : List Expr) (bare : Bool) :
    (castMarks fun _ => false).read (exprWalk (restoreCast token (.call name args bare))) =
      (if name == token && castArgument args then [()] else []) ++
        (castMarks fun _ => false).read (exprsWalk args) := by
  obtain ⟨operand, type, shorthand, safe, rfl, rfl, hcast⟩ | ⟨hargs, hcall⟩ :=
    restoreCast_call token name args bare
  · rw [hcast]
    cases shorthand <;> simp [exprWalk, exprsWalk, View.part, castMark, castArgument]
  · rw [hcall]
    by_cases hname : name = token
    · simp [exprWalk, View.part, castMark, hname, hargs hname]
    · simp [exprWalk, View.part, castMark, hname]

theorem castMarks_castPass (token : String) :
    Pulls (castPass token) (castMarks fun _ => false) (castMarks (· == token)) where
  column _ _ _ := rfl
  expr e := by
    rw [castPass_expr]
    cases e with
    | call name args bare =>
        have hargs := castArgument_castPass token args
        simp only [descend]
        rw [read_restoreCast, hargs]
        simp [exprBelow, exprWalk, castMark]
    | cast operand type shorthand safe =>
        cases shorthand <;> simp [descend, restoreCast, exprWalk, exprBelow, View.part, castMark]
    | _ => simp [descend, restoreCast, exprWalk, exprBelow, View.part, castMark]
  query _ := rfl
  source _ := rfl
  clears _ h := absurd h Bool.false_ne_true

end SqlLayout.Placeholder
