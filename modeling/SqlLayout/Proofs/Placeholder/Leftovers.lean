import SqlLayout.Proofs.Placeholder.Groups

/-!
# No placeholder is left

A part of a tree is a placeholder when it is what a record left there: a call with the token of an
array access, a marked call around a cast, a table source labelled with the token of a pivot clause,
or a query that groups by a token alone.  Each pass of restoring takes one kind of placeholder away,
and no later pass brings that kind back.

## Implementation notes

A view reads the placeholders of one kind.  The pass that takes them away pulls the view back to one
that reads nothing, and the later passes pull it back to itself.
-/

namespace SqlLayout.Placeholder

open SqlLayout.Tree

/-- The token of a record, by which its placeholder is found in a tree. -/
def Record.token? : Record → Option String
  | .arrayAccess access => some access.token
  | .groupByAll token => some token
  | .pivot record => some record.token
  | .castShorthand record => some record.token
  | _ => none

/-- Records in the form in which the replacement steps leave them: types and tokens are the ones
that the steps write, and no function has the name of a token. -/
structure Restorable (records : List Record) : Prop where
  types : ∀ record, .customType record ∈ records → (record.keyword, record.standIn) ∈ standIns
  accessTokens : ∀ access, .arrayAccess access ∈ records →
    access.token = arrayAccessMark ++ toString access.index ++ "__" ++ access.functionName
  names : ∀ access, .arrayAccess access ∈ records →
    ∀ record ∈ records, record.token? ≠ some access.functionName
  castTokens : ∀ record, .castShorthand record ∈ records → record.token = castToken

/-- A part of a tree that is the placeholder of a record. -/
inductive IsPlaceholder (records : List Record) : Part → Prop where
  | call {access : ArrayAccess} {args : List Expr} {bare : Bool} :
      .arrayAccess access ∈ records → IsPlaceholder records (.expr (.call access.token args bare))
  | cast {record : CastShorthand} {operand : Expr} {type : DataType} {shorthand safe bare : Bool} :
      .castShorthand record ∈ records →
        IsPlaceholder records (.expr (.call castToken [.cast operand type shorthand safe] bare))
  | label {pivot : Pivot} {source : Source} {marks : TableMarks} :
      .pivot pivot ∈ records → marks ∈ sourceMark source → marks.label = some pivot.token →
        IsPlaceholder records (.source source)
  | grouping {token : String} {query : Query} {qualifier : Option String} {quoted : Bool} :
      .groupByAll token ∈ records → query.groupBy = [.column token qualifier quoted] →
        IsPlaceholder records (.query query)

/-! ## Records of one kind -/

section

variable {α : Type} {f : Record → Option α} {kind : α → Record} {records : List Record}

/-- The records of one kind are picked out of a list and no others. -/
theorem mem_fst_pick (hf : ∀ record x, f record = some x ↔ record = kind x) {x : α} :
    x ∈ (pick f records).map Prod.fst ↔ kind x ∈ records := by
  rw [map_fst_pick, List.mem_filterMap]
  simp [hf]

theorem count_fst_pick [DecidableEq α] (hf : ∀ record x, f record = some x ↔ record = kind x)
    (x : α) :
    ((pick f records).map Prod.fst).count x = records.count (kind x) := by
  rw [map_fst_pick, List.count_filterMap, List.count_eq_countP]
  refine List.countP_congr fun record _ => ?_
  simp [hf]

theorem mem_customTypes {record : CustomType} :
    record ∈ (customTypes records).map Prod.fst ↔ .customType record ∈ records :=
  mem_fst_pick (f := Record.customType?)
    fun record _ => by cases record <;> simp [Record.customType?]

theorem mem_arrayAccesses {access : ArrayAccess} :
    access ∈ (arrayAccesses records).map Prod.fst ↔ .arrayAccess access ∈ records :=
  mem_fst_pick (f := Record.arrayAccess?)
    fun record _ => by cases record <;> simp [Record.arrayAccess?]

theorem mem_pivots {record : Pivot} :
    record ∈ (pivots records).map Prod.fst ↔ .pivot record ∈ records :=
  mem_fst_pick (f := Record.pivot?) fun record _ => by cases record <;> simp [Record.pivot?]

theorem mem_casts {record : CastShorthand} :
    record ∈ (casts records).map Prod.fst ↔ .castShorthand record ∈ records :=
  mem_fst_pick (f := Record.castShorthand?) fun record _ => by
    cases record <;> simp [Record.castShorthand?]

theorem mem_groupTokens {token : String} :
    token ∈ (groupTokens records).map Prod.fst ↔ .groupByAll token ∈ records :=
  mem_fst_pick (f := Record.groupByAll?)
    fun record _ => by cases record <;> simp [Record.groupByAll?]

theorem count_groupTokens (token : String) :
    ((groupTokens records).map Prod.fst).count token = records.count (.groupByAll token) :=
  count_fst_pick (f := Record.groupByAll?)
    (fun record _ => by cases record <;> simp [Record.groupByAll?])
    token

end

/-! ## Calls -/

/-- A call whose name is marked. -/
def markedCall (marked : String → Bool) : Expr → List Unit
  | .call name _ _ => if marked name then [()] else []
  | _ => []

/-- The calls of a tree whose name is marked. -/
def markedCalls (marked : String → Bool) : View Unit where
  expr := markedCall marked

@[simp] theorem markedCalls_expr (marked : String → Bool) (e : Expr) :
    (markedCalls marked).expr e = markedCall marked e := rfl

theorem markedCalls_indexPass (records : Numbered ArrayAccess) (marked : String → Bool) :
    Pulls (indexPass records) (markedCalls marked)
      (markedCalls fun name => marked (calledName records name)) where
  column _ _ _ := rfl
  expr e := by
    rw [indexPass_expr]
    cases e with
    | call name args bare =>
        simp only [descend, restoreIndex]
        cases haccess : accessOf? records name <;>
          simp [exprWalk, exprBelow, View.part, markedCall, calledName, haccess]
    | _ => simp [descend, restoreIndex, exprWalk, exprBelow, View.part, markedCall]
  query _ := rfl
  source _ := rfl
  clears _ h := absurd h Bool.false_ne_true

theorem markedCalls_keep {pass : Pass Id} (hexpr : pass.expr = pure)
    (hclears : ∀ q, (pass.clears q).run = true → soleColumn q.groupBy = true)
    (marked : String → Bool) : Pulls pass (markedCalls marked) (markedCalls marked) where
  column _ _ _ := by rw [hexpr, Id.run_pure]
  expr e := by
    rw [hexpr, Id.run_pure]
    cases e <;> simp [descend, exprWalk, exprBelow, View.part, markedCall]
  query _ := rfl
  source _ := rfl
  clears q h := by
    obtain ⟨name, qualifier, quoted, hcolumn⟩ := eq_of_soleColumn (hclears q h)
    simp [hcolumn, exprsWalk, exprWalk, View.part, markedCall]

theorem markedCalls_ungroup (marked : String → Bool) :
    Pulls ungroup (markedCalls marked) (markedCalls marked) :=
  @markedCalls_keep ungroup rfl (fun _ h => h) marked

theorem markedCalls_marksPass (records : Numbered Pivot) (marked : String → Bool) :
    Pulls (marksPass records) (markedCalls marked) (markedCalls marked) :=
  @markedCalls_keep (marksPass records) rfl (fun _ h => absurd h Bool.false_ne_true) marked

/-! ## Marked calls around casts -/

/-- A call with a token as name around one cast. -/
def castCall (token : String) : Expr → List Unit
  | .call name [.cast _ _ _ _] _ => if name = token then [()] else []
  | _ => []

/-- The calls of a tree with a token as name around one cast. -/
def castCalls (token : String) : View Unit where
  expr := castCall token

@[simp] theorem castCalls_expr (token : String) (e : Expr) :
    (castCalls token).expr e = castCall token e := rfl

theorem castCall_restoreCast (token name : String) (args : List Expr) (bare : Bool) :
    castCall token (restoreCast token (.call name args bare)) = [] := by
  match args with
  | [] => rfl
  | _ :: _ :: _ => simp [restoreCast, castCall]
  | [e] =>
      cases e with
      | cast operand type shorthand safe =>
          by_cases hname : name = token <;> simp [restoreCast, castCall, hname]
      | _ => rfl

/-- A view that reads all casts alike reads nothing else of a call around a cast that becomes that
cast. -/
theorem read_castCall {α : Type} {v : View α}
    (hcast : ∀ operand type shorthand safe,
      v.expr (.cast operand type true safe) = v.expr (.cast operand type shorthand safe))
    (token name : String) (args : List Expr) (bare : Bool) :
    (name = token ∧ v.read (exprWalk (restoreCast token (.call name args bare))) =
        v.read (exprsWalk args)) ∨
      restoreCast token (.call name args bare) = .call name args bare := by
  obtain ⟨operand, type, shorthand, safe, rfl, rfl, h⟩ | ⟨-, h⟩ :=
    restoreCast_call token name args bare
  · refine .inl ⟨rfl, ?_⟩
    rw [h]
    simp [exprWalk, exprsWalk, View.part, ← hcast operand type shorthand safe]
  · exact .inr h

/-- The pass over casts leaves no marked call around a cast, however deep they are nested. -/
theorem castCalls_castPass (token : String) : Pulls (castPass token) (castCalls token) {} where
  column _ _ _ := rfl
  expr e := by
    rw [castPass_expr]
    cases e with
    | call name args bare =>
        have hhead := castCall_restoreCast token name (exprsTraverse (castPass token) args).run bare
        simp only [descend]
        obtain ⟨-, hread⟩ | hcall :=
          read_castCall (v := castCalls token) (fun _ _ _ _ => rfl) token name
          (exprsTraverse (castPass token) args).run bare
        · rw [hread]
          simp [exprWalk, exprBelow]
        · rw [hcall] at hhead ⊢
          simp [exprWalk, exprBelow, View.part, hhead]
    | _ => simp [descend, restoreCast, exprWalk, exprBelow, View.part, castCall]
  query _ := rfl
  source _ := rfl
  clears _ h := absurd h Bool.false_ne_true

/-- The pass over casts keeps what a view reads that reads no marked call and all casts alike. -/
theorem castPass_pulls {α : Type} {v : View α} {token : String}
    (hdescend : ∀ e, v.expr (descend (castPass token) e) = v.expr e)
    (hcast : ∀ operand type shorthand safe,
      v.expr (.cast operand type true safe) = v.expr (.cast operand type shorthand safe))
    (hcall : ∀ args bare, v.expr (.call token args bare) = [])
    (hquery : ∀ q, v.query (queryTraverse (castPass token) q).run = v.query q)
    (hsource : ∀ s, v.source (sourceTraverse (castPass token) s).run = v.source s) :
    Pulls (castPass token) v v where
  column _ _ _ := rfl
  expr e := by
    rw [castPass_expr, ← hdescend e]
    cases e with
    | call name args bare =>
        simp only [descend]
        obtain ⟨rfl, hread⟩ | h := read_castCall hcast token name
          (exprsTraverse (castPass token) args).run bare
        · rw [hread, hcall]
          simp [exprWalk, exprBelow]
        · rw [h]
          simp [exprWalk, exprBelow, View.part]
    | cast operand type shorthand safe =>
        simp [descend, restoreCast, exprWalk, exprBelow, View.part]
    | _ => simp [descend, restoreCast, exprWalk, exprBelow, View.part]
  query := hquery
  source := hsource
  clears _ h := absurd h Bool.false_ne_true

theorem markedCalls_castPass {token : String} {marked : String → Bool}
    (htoken : marked token = false) :
    Pulls (castPass token) (markedCalls marked) (markedCalls marked) := by
  refine castPass_pulls (fun e => ?_) (fun _ _ _ _ => rfl) (fun args bare => ?_) (fun _ => rfl)
    (fun _ => rfl)
  · cases e <;> rfl
  · simp [markedCall, htoken]

/-! ## Labels of table sources -/

/-- The marks of the table sources of a tree after the pass over pivot clauses. -/
def restoredMarks (records : Numbered Pivot) : View TableMarks where
  source s := (sourceMark s).map (restoreMarks records)

theorem sourceMarks_marksPass (records : Numbered Pivot) :
    Pulls (marksPass records) sourceMarks (restoredMarks records) where
  column _ _ _ := rfl
  expr e := by cases e <;> rfl
  query _ := rfl
  source s := by cases s <;> rfl
  clears _ h := absurd h Bool.false_ne_true

theorem sourceMarks_castPass (token : String) : Pulls (castPass token) sourceMarks sourceMarks :=
  castPass_pulls (fun _ => rfl) (fun _ _ _ _ => rfl) (fun _ _ => rfl) (fun _ => rfl)
    (fun s => by cases s <;> rfl)

/-- No label is a token once all pivot clauses are restored. -/
theorem label_restoreMarks (records : Numbered Pivot) (marks : TableMarks) :
    (restoreMarks records marks).label = none ∨
      (restoreMarks records marks).label = marks.label ∧
        ∀ entry ∈ records, marks.label ≠ some entry.1.token := by
  induction records generalizing marks with
  | nil => exact .inr ⟨rfl, by simp⟩
  | cons entry rest ih =>
      rw [restoreMarks, List.foldl_cons]
      change (restoreMarks rest (restorePivot marks entry.1)).label = none ∨
        (restoreMarks rest (restorePivot marks entry.1)).label = marks.label ∧ _
      by_cases hlabel : marks.label = some entry.1.token
      · refine .inl ?_
        rw [restorePivot_of_label hlabel]
        exact (ih _).elim id fun h => h.1
      · rw [restorePivot_of_label_ne hlabel]
        exact (ih marks).imp_right fun h => ⟨h.1, List.forall_mem_cons.2 ⟨hlabel, h.2⟩⟩

/-! ## Groupings -/

theorem groupKeyOf_castPass (token : String) (byAll : Bool) (es : List Expr) :
    groupKeyOf byAll (exprsTraverse (castPass token) es).run = groupKeyOf byAll es := by
  match es with
  | [] => rfl
  | _ :: _ :: _ => simp [exprsTraverse, groupKeyOf]
  | [e] =>
      cases e with
      | call name args bare =>
          simp only [exprsTraverse, Id.run_bind, Id.run_pure, exprTraverse_run,
            castPass_expr, descend]
          obtain ⟨operand, type, shorthand, safe, -, -, hcast⟩ | ⟨-, hcall⟩ :=
            restoreCast_call token name (exprsTraverse (castPass token) args).run bare
          · rw [hcast]
            rfl
          · rw [hcall]
            rfl
      | _ => rfl

theorem groupKeys_castPass (token : String) : Pulls (castPass token) groupKeys groupKeys := by
  refine castPass_pulls (fun _ => rfl) (fun _ _ _ _ => rfl) (fun _ _ => rfl) (fun q => ?_)
    (fun _ => rfl)
  cases q with
  | mk arrayAccesses ctes distinct columns sources joins filter groupBy groupByAll =>
      exact groupKeyOf_castPass token groupByAll groupBy

theorem groupKeyOf_marksPass (records : Numbered Pivot) (byAll : Bool) (es : List Expr) :
    groupKeyOf byAll (exprsTraverse (marksPass records) es).run = groupKeyOf byAll es := by
  match es with
  | [] => rfl
  | _ :: _ :: _ => simp [exprsTraverse, groupKeyOf]
  | [e] => cases e <;> rfl

theorem groupKeys_marksPass (records : Numbered Pivot) :
    Pulls (marksPass records) groupKeys groupKeys where
  column _ _ _ := rfl
  expr e := by cases e <;> rfl
  query q := by
    cases q with
    | mk arrayAccesses ctes distinct columns sources joins filter groupBy groupByAll =>
        exact groupKeyOf_marksPass records groupByAll groupBy
  source _ := rfl
  clears _ h := absurd h Bool.false_ne_true

/-! ## All passes -/

theorem read_restoreCasts {α : Type} {v : View α} {records : Numbered CastShorthand}
    (htoken : ∀ entry ∈ records, entry.1.token = castToken) (hv : Pulls (castPass castToken) v v)
    (statement : Statement) :
    v.read (restoreCasts records statement).statement.part.preorder =
      v.read statement.part.preorder := by
  match records with
  | [] => rfl
  | (first, position) :: rest =>
      rw [← htoken (first, position) List.mem_cons_self] at hv
      exact hv.read_statement statement

/-- The tokens of the array accesses of records. -/
def isAccessToken (records : List Record) (name : String) : Bool :=
  ((arrayAccesses records).map fun entry => entry.1.token).contains name

section

variable {records : List Record}

theorem isAccessToken_iff {name : String} :
    isAccessToken records name = true ↔ ∃ access, .arrayAccess access ∈ records ∧ access.token =
      name := by
  simp only [← mem_arrayAccesses, isAccessToken, List.contains_iff_mem, List.mem_map]
  constructor
  · rintro ⟨entry, hentry, rfl⟩
    exact ⟨entry.1, ⟨entry, hentry, rfl⟩, rfl⟩
  · rintro ⟨access, ⟨entry, hentry, rfl⟩, rfl⟩
    exact ⟨entry, hentry, rfl⟩

variable (hrecords : Restorable records)
include hrecords

theorem Restorable.cast_token : ∀ entry ∈ casts records, entry.1.token = castToken :=
  fun _ hentry => hrecords.castTokens _ (mem_casts.1 (List.mem_map_of_mem hentry))

theorem Restorable.castToken_ne : isAccessToken records castToken = false := by
  rw [Bool.eq_false_iff, Ne, isAccessToken_iff]
  rintro ⟨access, haccess, htoken⟩
  rw [hrecords.accessTokens access haccess] at htoken
  have hlist := congrArg String.toList htoken
  simp [arrayAccessMark, castToken] at hlist

/-- Restoring array accesses leaves no call with the token of one. -/
theorem Restorable.calledName_ne (name : String) :
    isAccessToken records (calledName (arrayAccesses records) name) = false := by
  rw [Bool.eq_false_iff, Ne, isAccessToken_iff]
  rintro ⟨access, haccess, htoken⟩
  unfold calledName at htoken
  split at htoken
  · next other position hother =>
      have hmem := mem_arrayAccesses.1 (List.mem_map_of_mem (accessOf?_mem hother))
      exact hrecords.names other hmem _ haccess (congrArg some htoken)
  · next hnone =>
      obtain ⟨entry, hentry, rfl⟩ := List.mem_map.1 (mem_arrayAccesses.2 haccess)
      have hall : ∀ entry ∈ arrayAccesses records, entry.1.token ≠ name := by
        simpa [accessOf?] using hnone
      exact hall entry hentry htoken

/-- No call of a restored statement has the token of an array access. -/
theorem markedCalls_restoreStatement (statement : Statement) :
    (markedCalls (isAccessToken records)).read
      (restoreStatement records statement).statement.part.preorder = [] := by
  set headed := (restoreHead records statement).statement with hheaded
  set indexed := (restoreArrayAccesses (arrayAccesses records) headed).statement with hindexed
  set grouped := (restoreGroups (groupTokens records) indexed).statement with hgrouped
  set pivoted := (restorePivots (pivots records) grouped).statement with hpivoted
  calc
    _ = (markedCalls (isAccessToken records)).read pivoted.part.preorder :=
      read_restoreCasts hrecords.cast_token (markedCalls_castPass hrecords.castToken_ne) pivoted
    _ = (markedCalls (isAccessToken records)).read grouped.part.preorder :=
      read_restorePivots (markedCalls_marksPass _ _) grouped
    _ = (markedCalls (isAccessToken records)).read indexed.part.preorder :=
      read_restoreGroups indexed (markedCalls_ungroup _)
    _ = (markedCalls fun name => isAccessToken records
      (calledName (arrayAccesses records) name)).read
        headed.part.preorder :=
      read_restoreArrayAccesses (markedCalls_indexPass _ _) (fun _ _ => rfl)
        (fun hempty => by rw [hempty]; rfl) headed
    _ = (markedCalls fun _ => false).read headed.part.preorder := by
      simp only [hrecords.calledName_ne]
    _ = [] := by
      rw [View.read, List.flatMap_eq_nil_iff]
      intro part _
      cases part with
      | expr e => cases e <;> rfl
      | _ => rfl

/-- No marked call around a cast is left in a restored statement when there are records of casts. -/
theorem castCalls_restoreStatement (hcasts : casts records ≠ []) (statement : Statement) :
    (castCalls castToken).read (restoreStatement records statement).statement.part.preorder =
      [] := by
  set pivoted := (restorePivots (pivots records) (restoreGroups (groupTokens records)
    (restoreArrayAccesses (arrayAccesses records)
      (restoreHead records statement).statement).statement).statement).statement with hpivoted
  change (castCalls castToken).read (restoreCasts (casts records) pivoted).statement.part.preorder =
    []
  obtain ⟨first, rest, hfirst⟩ := List.exists_cons_of_ne_nil hcasts
  have htoken : first.1.token = castToken := hrecords.cast_token first (hfirst ▸ List.mem_cons_self)
  have hread := (castCalls_castPass first.1.token).read_statement pivoted
  rw [← htoken, hfirst]
  refine hread.trans (List.flatMap_eq_nil_iff.2 fun part _ => ?_)
  cases part <;> rfl

/-- The labels of the table sources of a restored statement are no tokens of pivot clauses. -/
theorem sourceMarks_restoreStatement {statement : Statement} {marks : TableMarks}
    (hmarks : marks ∈ sourceMarks.read
      (restoreStatement records statement).statement.part.preorder) :
    ∃ before, marks = restoreMarks (pivots records) before := by
  set grouped := (restoreGroups (groupTokens records) (restoreArrayAccesses (arrayAccesses records)
    (restoreHead records statement).statement).statement).statement with hgrouped
  have hread : sourceMarks.read (restoreStatement records statement).statement.part.preorder =
      (restoredMarks (pivots records)).read grouped.part.preorder :=
    (read_restoreCasts hrecords.cast_token (sourceMarks_castPass _) _).trans
      ((sourceMarks_marksPass (pivots records)).read_statement grouped)
  rw [hread, View.mem_read] at hmarks
  obtain ⟨part, -, hpart⟩ := hmarks
  cases part with
  | source s =>
      obtain ⟨before, -, rfl⟩ := List.mem_map.1 hpart
      exact ⟨before, rfl⟩
  | _ => simp [View.part, restoredMarks] at hpart

/-- A restored statement groups by a token as many times less as there are records of the token. -/
theorem count_restoreStatement (statement : Statement) (token : String) :
    (groupKeys.read (restoreStatement records statement).statement.part.preorder).count
      (some token) =
      (groupKeys.read statement.part.preorder).count (some token) -
        records.count (.groupByAll token) := by
  set indexed := (restoreArrayAccesses (arrayAccesses records)
    (restoreHead records statement).statement).statement with hindexed
  set grouped := (restoreGroups (groupTokens records) indexed).statement with hgrouped
  have hbefore : groupKeys.read indexed.part.preorder = groupKeys.read statement.part.preorder :=
    (read_restoreArrayAccesses (groupKeys_indexPass _) (fun _ _ => rfl) (fun _ => rfl) _).trans
      (read_restoreHead groupKeys records statement)
  have hafter : groupKeys.read (restoreStatement records statement).statement.part.preorder =
      groupKeys.read grouped.part.preorder :=
    (read_restoreCasts hrecords.cast_token (groupKeys_castPass _) _).trans
      (read_restorePivots (groupKeys_marksPass _) grouped)
  rw [hafter, count_restoreGroups, hbefore, count_groupTokens]

/-- No part of a restored statement is a placeholder, if no token of a grouping has more queries
than records. -/
theorem not_isPlaceholder_restoreStatement {statement : Statement}
    (hgroups : ∀ token, .groupByAll token ∈ records →
      (groupKeys.read statement.part.preorder).count (some token) ≤
        records.count (.groupByAll token))
    {part : Part} (hpart : part ∈ (restoreStatement records statement).statement.part.preorder) :
    ¬ IsPlaceholder records part := by
  intro hplaceholder
  cases hplaceholder with
  | @call access args bare haccess =>
      have hnone := markedCalls_restoreStatement hrecords statement
      have hmarked : isAccessToken records access.token = true :=
        isAccessToken_iff.2 ⟨access, haccess, rfl⟩
      have hread := List.flatMap_eq_nil_iff.1 hnone _ hpart
      simp [View.part, markedCall, hmarked] at hread
  | @cast record operand type shorthand safe bare hrecord =>
      have hcasts : casts records ≠ [] := by
        intro hempty
        have hmem := mem_casts.2 hrecord
        simp [hempty] at hmem
      have hread := List.flatMap_eq_nil_iff.1 (castCalls_restoreStatement hrecords hcasts statement)
        _ hpart
      simp [View.part, castCall] at hread
  | @label record source marks hrecord hmarks hlabel =>
      obtain ⟨before, rfl⟩ := sourceMarks_restoreStatement hrecords
        ((View.mem_read _).2 ⟨.source source, hpart, hmarks⟩)
      obtain ⟨entry, hentry, rfl⟩ := List.mem_map.1 (mem_pivots.2 hrecord)
      obtain hnone | ⟨hkeep, hne⟩ := label_restoreMarks (pivots records) before
      · simp [hnone] at hlabel
      · exact hne entry hentry (hkeep.symm.trans hlabel)
  | @grouping token query qualifier quoted htoken hgroup =>
      have hcount := count_restoreStatement hrecords statement token
      have hmem : some token ∈
          groupKeys.read (restoreStatement records statement).statement.part.preorder := by
        refine (View.mem_read _).2 ⟨.query query, hpart, ?_⟩
        simp [View.part, groupKeys, groupKey, hgroup, groupKeyOf]
      have hpos := List.count_pos_iff.2 hmem
      have hle := hgroups token htoken
      omega

/-- Restoring leaves no placeholder in any statement, if the queries of each statement that group by
a token have a token each. -/
theorem restore_leaves_no_placeholder {statements : List Statement}
    (hgroups : ∀ statement ∈ statements, ∀ token, .groupByAll token ∈ records →
      (groupKeys.read statement.part.preorder).count (some token) ≤ 1) :
    ∀ restored ∈ (restore records statements).statements, ∀ part ∈ restored.part.preorder,
      ¬ IsPlaceholder records part := by
  intro restored hrestored part hpart
  obtain ⟨statement, hstatement, rfl⟩ : ∃ statement ∈ statements,
      (restoreStatement records statement).statement = restored := by
    simpa [restore] using hrestored
  refine not_isPlaceholder_restoreStatement hrecords (fun token htoken => ?_) hpart
  have hone : 1 ≤ records.count (.groupByAll token) := List.count_pos_iff.2 htoken
  exact (hgroups statement hstatement token htoken).trans hone

end

/-- Records of every kind that leaves a placeholder. -/
def nestedRecords : List Record :=
  [.arrayAccess { token := "__ARRAYACCESS__0__f", callText := "f(x)", index := 0 },
    .pivot { token := "__PIVOT_0__", clause := "PIVOT (g)" }, .groupByAll "__GROUP_BY_ALL_0__",
    .castShorthand { token := "__CAST_SHORTHAND__", operand := "f(x)[0]", typeText := "INT" },
    .castShorthand { token := "__CAST_SHORTHAND__", operand := "f(x)[0]::INT", typeText := "TEXT" }]

/-- A query with all placeholders in a named query: the filter casts an indexed call twice. -/
def nestedStatement : Statement :=
  .select
    { ctes := [.mk "c" []
        { sources := [.table { name := "t", label := some "__PIVOT_0__" }]
          filter := some (.call "__CAST_SHORTHAND__" [.cast (.call "__CAST_SHORTHAND__"
            [.cast (.call "__ARRAYACCESS__0__f" [.column "x" none false] false)
              { name := "INT" } false false] false) { name := "TEXT" } false false] false)
          groupBy := [.column "__GROUP_BY_ALL_0__" none false] }]
      sources := [.table { name := "c" }] }

theorem restorable_nested : Restorable nestedRecords where
  types _ h := by simp [nestedRecords] at h
  accessTokens access h := by
    obtain rfl : access = _ := by simpa [nestedRecords] using h
    decide
  names access h := by
    obtain rfl : access = _ := by simpa [nestedRecords] using h
    decide
  castTokens record h := by
    obtain rfl | rfl : record = _ ∨ record = _ := by simpa [nestedRecords] using h
    · rfl
    · rfl

theorem restore_leaves_no_placeholder_nested :
    Restorable nestedRecords ∧
      ∀ restored ∈ (restore nestedRecords [nestedStatement]).statements,
        ∀ part ∈ restored.part.preorder, ¬ IsPlaceholder nestedRecords part := by
  refine ⟨restorable_nested, restore_leaves_no_placeholder restorable_nested ?_⟩
  simp only [List.forall_mem_singleton]
  intro token htoken
  obtain rfl : token = _ := by simpa [nestedRecords] using htoken
  decide

end SqlLayout.Placeholder
