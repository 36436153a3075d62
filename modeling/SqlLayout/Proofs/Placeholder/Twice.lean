import SqlLayout.Proofs.Placeholder.Leftovers
import SqlLayout.Proofs.Tree.Untouched

/-!
# Restoring twice

A statement is finished when no part of it is a placeholder, its created object says what the
records say, and its array accesses are attached.  Restoring gives a finished statement back.  A
restored statement is finished, unless a token of a grouping stood in more queries than there are
records of it: then each run clears as many of them as there are records.

## Implementation notes

What the records say about a created object involves the parts only that no traversal reaches, so
the later passes keep it.
-/

namespace SqlLayout.Placeholder

open SqlLayout.Tree

/-! ## Created objects -/

/-- A created object that the records have nothing to add to. -/
structure Settled (records : List Record) (node : Create) : Prop where
  replace : ∀ entry ∈ replaceMarkers records, markerFits entry.1 node = true → node.replace = true
  dynamicTable : ∀ entry ∈ dynamicTables records,
    node.kind ≠ .view ∧ (node.dynamicOptions = some entry.1 → node.kind = .dynamicTable)
  customTypes : customTypes records ≠ [] → node.kind = .table →
    node.customTypes = (customTypes records).map Prod.fst ∧
      ∀ column ∈ node.columns, (restoreColumn (customTypes records) column).1 = column

theorem restoreColumn_bare (records : Numbered CustomType) (column : ColumnDef) :
    (restoreColumn records column.bare).1 = (restoreColumn records column).1.bare := by
  have hfits : (fun entry : CustomType × Nat => customTypeFits entry.1 column.bare) =
      fun entry => customTypeFits entry.1 column := rfl
  unfold restoreColumn
  rw [hfits]
  split <;> rfl

theorem restoreColumn_default (records : Numbered CustomType) (column : ColumnDef) :
    (restoreColumn records column).1.default = column.default := by
  unfold restoreColumn
  split <;> rfl

theorem ColumnDef.ext_bare {a b : ColumnDef} (hbare : a.bare = b.bare)
    (hdefault : a.default = b.default) :
    a = b := by
  cases a
  cases b
  simp_all [ColumnDef.bare]

theorem restoreColumn_bare_iff (records : Numbered CustomType) (column : ColumnDef) :
    (restoreColumn records column.bare).1 = column.bare ↔
      (restoreColumn records column).1 = column := by
  rw [restoreColumn_bare]
  refine ⟨fun h => ColumnDef.ext_bare h (restoreColumn_default records column), fun h => by rw [h]⟩

/-- Whether a created object is settled is told from the parts that no traversal reaches. -/
theorem settled_bare {records : List Record} {node : Create} :
    Settled records node.bare ↔ Settled records node := by
  have hcolumns : (∀ column ∈ node.bare.columns, (restoreColumn (customTypes records) column).1 =
    column) ↔
      ∀ column ∈ node.columns, (restoreColumn (customTypes records) column).1 = column := by
    simp only [Create.bare, List.forall_mem_map, restoreColumn_bare_iff]
  constructor
  · intro h
    exact ⟨h.replace, h.dynamicTable, fun hne hkind =>
      ⟨(h.customTypes hne hkind).1, hcolumns.1 (h.customTypes hne hkind).2⟩⟩
  · intro h
    exact ⟨h.replace, h.dynamicTable, fun hne hkind =>
      ⟨(h.customTypes hne hkind).1, hcolumns.2 (h.customTypes hne hkind).2⟩⟩

/-- A record of a dynamic table that changes a created object no more. -/
def DynamicFixed (node : Create) (record : DynamicTable) : Prop :=
  node.kind ≠ .view ∧ (node.dynamicOptions = some record → node.kind = .dynamicTable)

theorem asDynamicTable_cases (node : Create) (record : DynamicTable) :
    (asDynamicTable node record = node ∧ node.kind ≠ .view ∧ node.dynamicOptions ≠ some record) ∨
      (asDynamicTable node record =
          { node with kind := .dynamicTable, dynamicOptions := some record } ∧
        (node.kind = .view ∨ node.dynamicOptions = some record)) := by
  by_cases h : node.kind = .view ∨ node.dynamicOptions = some record
  · exact .inr ⟨by simp [asDynamicTable, h], h⟩
  · exact .inl ⟨by simp [asDynamicTable, h], not_or.1 h⟩

theorem dynamicFixed_self (node : Create) (record : DynamicTable) :
    DynamicFixed (asDynamicTable node record) record := by
  obtain ⟨h, hkind, hoptions⟩ | ⟨h, -⟩ := asDynamicTable_cases node record
  · rw [h]
    exact ⟨hkind, fun heq => absurd heq hoptions⟩
  · rw [h]
    exact ⟨by simp, fun _ => rfl⟩

theorem DynamicFixed.step {node : Create} {other : DynamicTable} (hfixed : DynamicFixed node other)
    (record : DynamicTable) : DynamicFixed (asDynamicTable node record) other := by
  obtain ⟨h, -⟩ | ⟨h, -⟩ := asDynamicTable_cases node record
  · rwa [h]
  · rw [h]
    exact ⟨by simp, fun _ => rfl⟩

theorem DynamicFixed.foldl {node : Create} {other : DynamicTable} (hfixed : DynamicFixed node other)
    (records : List DynamicTable) : DynamicFixed (records.foldl asDynamicTable node) other := by
  induction records generalizing node with
  | nil => exact hfixed
  | cons record rest ih => exact ih (hfixed.step record)

theorem dynamicFixed_foldl (records : List DynamicTable) (node : Create) :
    ∀ record ∈ records, DynamicFixed (records.foldl asDynamicTable node) record := by
  induction records generalizing node with
  | nil => simp
  | cons record rest ih =>
      exact List.forall_mem_cons.2 ⟨(dynamicFixed_self node record).foldl rest, ih _⟩

theorem asDynamicTable_of_fixed {node : Create} {record : DynamicTable}
    (hfixed : DynamicFixed node record) :
    asDynamicTable node record = node := by
  obtain ⟨h, -⟩ | ⟨h, hview | hoptions⟩ := asDynamicTable_cases node record
  · exact h
  · exact absurd hview hfixed.1
  · rw [h, ← hoptions, ← hfixed.2 hoptions]

theorem foldl_asDynamicTable_of_fixed {records : List DynamicTable} {node : Create}
    (hfixed : ∀ record ∈ records, DynamicFixed node record) :
    records.foldl asDynamicTable node = node := by
  induction records with
  | nil => rfl
  | cons record rest ih =>
      rw [List.forall_mem_cons] at hfixed
      rw [List.foldl_cons, asDynamicTable_of_fixed hfixed.1, ih hfixed.2]

/-- The records of dynamic tables change the kind and the properties only, and turn nothing but
views and objects with properties into dynamic tables. -/
theorem foldl_asDynamicTable (records : List DynamicTable) (node : Create) :
    ∃ kind options, records.foldl asDynamicTable node =
        { node with kind := kind, dynamicOptions := options } ∧
      (kind = node.kind ∧ options = node.dynamicOptions ∨
        kind = .dynamicTable ∧ (node.kind = .view ∨ node.dynamicOptions.isSome = true)) := by
  induction records generalizing node with
  | nil => exact ⟨node.kind, node.dynamicOptions, rfl, .inl ⟨rfl, rfl⟩⟩
  | cons record rest ih =>
      obtain ⟨kind, options, hrest, hkeep⟩ := ih (asDynamicTable node record)
      refine ⟨kind, options, ?_, ?_⟩
      · rw [List.foldl_cons, hrest]
        obtain ⟨h, -⟩ | ⟨h, -⟩ := asDynamicTable_cases node record <;> rw [h]
      · obtain ⟨h, -⟩ | ⟨h, hfits⟩ := asDynamicTable_cases node record
        · rwa [h] at hkeep
        · refine .inr ⟨?_, hfits.imp_right fun hoptions => by simp [hoptions]⟩
          rw [h] at hkeep
          exact hkeep.elim And.left And.left

/-- A marker that belongs to a created object after the dynamic tables were restored belonged to it
before. -/
theorem markerFits_of_foldl {records : List DynamicTable} {node : Create} {kind : ReplacedKind}
    (h : markerFits kind (records.foldl asDynamicTable node) = true) :
    markerFits kind node = true := by
  obtain ⟨after, options, heq, ⟨rfl, rfl⟩ | ⟨rfl, hfits⟩⟩ := foldl_asDynamicTable records node
  · rwa [heq] at h
  · -- a dynamic table has the keyword of no marker, so the marker is one of views
    have hview : kind = .view := by
      rw [heq] at h
      cases kind <;> simp_all [markerFits, ReplacedKind.keyword, ObjectKind.keyword]
    obtain hkind | hoptions := hfits
    · simp [markerFits, hview, hkind, ReplacedKind.keyword, ObjectKind.keyword]
    · simp [markerFits, hview, hoptions]

/-- Stand-ins are no keywords of replaced types, and a keyword has one stand-in. -/
theorem standIns_disjoint : ∀ a ∈ standIns, ∀ b ∈ standIns, a.1 ≠ b.2 ∧
    (a.1 = b.1 → a.2 = b.2) := by
  decide

/-- A column with a custom type. -/
def CustomType.typed (record : CustomType) (c : ColumnDef) : ColumnDef :=
  { c with type := some { name := record.keyword, length := record.length, scale := record.scale } }

theorem restoreColumn_of_find? {records : Numbered CustomType} {c : ColumnDef}
    {entry : CustomType × Nat}
    (h : records.find? (fun entry => customTypeFits entry.1 c) = some entry) :
    (restoreColumn records c).1 = entry.1.typed c := by
  simp [restoreColumn, h, CustomType.typed]

theorem customTypeFits_typed (record other : CustomType) (c : ColumnDef) :
    customTypeFits other (record.typed c) = true ↔ c.name.lowerCase = other.column.lowerCase ∧
      (record.keyword = other.standIn ∨ record.keyword = other.keyword) := by
  simp [customTypeFits, CustomType.typed]

/-- A custom type that fits a column with a restored type fitted it before. -/
theorem customTypeFits_of_typed (record other : CustomType) {c : ColumnDef}
    (hrecord : (record.keyword, record.standIn) ∈ standIns)
    (hother : (other.keyword, other.standIn) ∈ standIns) (hfits : customTypeFits record c = true)
    (hafter : customTypeFits other (record.typed c) = true) :
    customTypeFits other c = true := by
  obtain ⟨hne, hsame⟩ : record.keyword ≠ other.standIn ∧
      (record.keyword = other.keyword → record.standIn = other.standIn) :=
    standIns_disjoint _ hrecord _ hother
  obtain ⟨hname, hkeyword⟩ := (customTypeFits_typed record other c).1 hafter
  replace hkeyword := hkeyword.resolve_left hne
  cases htype : c.type with
  | none => simp [customTypeFits, htype] at hfits
  | some type =>
      simp only [customTypeFits, htype, Bool.and_eq_true, Bool.or_eq_true, beq_iff_eq] at hfits ⊢
      rw [← hkeyword, ← hsame hkeyword]
      exact ⟨hname, hfits.2⟩

theorem find?_of_imp {α : Type} {p q : α → Bool} {xs : List α} {x : α} (hfind : xs.find? p = some x)
    (hq : q x = true) (himp : ∀ y ∈ xs, q y = true → p y = true) : xs.find? q = some x := by
  obtain ⟨-, front, back, rfl, hfront⟩ := List.find?_eq_some_iff_append.1 hfind
  refine List.find?_eq_some_iff_append.2 ⟨hq, front, back, rfl, fun y hy => ?_⟩
  have hp := hfront y hy
  have himp := himp y (List.mem_append_left _ hy)
  cases hqy : q y <;> simp_all

/-- A column keeps the custom type that it got. -/
theorem restoreColumn_twice {records : Numbered CustomType}
    (htypes : ∀ entry ∈ records, (entry.1.keyword, entry.1.standIn) ∈ standIns) (c : ColumnDef) :
    (restoreColumn records (restoreColumn records c).1).1 = (restoreColumn records c).1 := by
  cases hfind : records.find? fun entry => customTypeFits entry.1 c with
  | none => simp [restoreColumn, hfind]
  | some entry =>
      have hentry : entry ∈ records := List.mem_of_find?_eq_some hfind
      have hfits : customTypeFits entry.1 c = true := by simpa using List.find?_some hfind
      have hself : customTypeFits entry.1 (entry.1.typed c) = true := by
        rw [customTypeFits_typed]
        simp only [customTypeFits, Bool.and_eq_true, beq_iff_eq] at hfits
        exact ⟨hfits.1, .inr rfl⟩
      have hearlier : ∀ other ∈ records, customTypeFits other.1 (entry.1.typed c) = true →
          customTypeFits other.1 c = true := by
        intro other hother hafter
        exact customTypeFits_of_typed entry.1 other.1 (htypes entry hentry) (htypes other hother)
          hfits hafter
      have hagain : records.find? (fun other => customTypeFits other.1 (entry.1.typed c)) =
          some entry :=
        find?_of_imp hfind hself hearlier
      rw [restoreColumn_of_find? hfind, restoreColumn_of_find? hagain]
      rfl

theorem restoreCreate_fst (records : List Record) (node : Create) :
    (restoreCreate records node).1 = (restoreCustomTypes (customTypes records)
      (restoreDynamicTables (dynamicTables records)
        (restoreReplaceMarkers (replaceMarkers records) node).1).1).1 := rfl

/-- Restoring keeps a settled created object. -/
theorem restoreCreate_of_settled {records : List Record} {node : Create}
    (h : Settled records node) :
    (restoreCreate records node).1 = node := by
  have hmarkers : (restoreReplaceMarkers (replaceMarkers records) node).1 = node := by
    rw [restoreReplaceMarkers_eq]
    cases hany : (replaceMarkers records).any fun entry => markerFits entry.1 node with
    | false => simp
    | true =>
        obtain ⟨entry, hentry, hfits⟩ := List.any_eq_true.1 hany
        simp [← h.replace entry hentry hfits]
  have hdynamic : (restoreDynamicTables (dynamicTables records) node).1 = node := by
    rw [restoreDynamicTables_fst]
    exact foldl_asDynamicTable_of_fixed (List.forall_mem_map.2 h.dynamicTable)
  have htypes : (restoreCustomTypes (customTypes records) node).1 = node := by
    unfold restoreCustomTypes
    split
    · rfl
    · next hguard =>
        obtain ⟨hne, hkind⟩ : customTypes records ≠ [] ∧ node.kind = .table := by simpa using hguard
        obtain ⟨htypes, hcolumns⟩ := h.customTypes hne hkind
        have hmap : (node.columns.map (restoreColumn (customTypes records))).map Prod.fst =
            node.columns := by
          rw [List.map_map]
          exact (List.map_congr_left hcolumns).trans (List.map_id node.columns)
        simp only [hmap, ← htypes]
  rw [restoreCreate_fst, hmarkers, hdynamic, htypes]

/-- Restoring settles a created object. -/
theorem settled_restoreCreate {records : List Record} (hrecords : Restorable records)
    (node : Create) :
    Settled records (restoreCreate records node).1 := by
  set marked := (restoreReplaceMarkers (replaceMarkers records) node).1 with hmarked
  set dynamic := ((dynamicTables records).map Prod.fst).foldl asDynamicTable marked with hdynamic
  have hcreate : (restoreCreate records node).1 =
      (restoreCustomTypes (customTypes records) dynamic).1 := by
    rw [restoreCreate_fst, restoreDynamicTables_fst]
  have hmarkers : ∀ entry ∈ replaceMarkers records, markerFits entry.1 dynamic = true →
      dynamic.replace = true := by
    intro entry hentry hfits
    have hbefore : markerFits entry.1 marked = true := markerFits_of_foldl hfits
    obtain ⟨kind, options, hkeep, -⟩ :=
      foldl_asDynamicTable ((dynamicTables records).map Prod.fst) marked
    have hany : (replaceMarkers records).any (fun entry => markerFits entry.1 node) = true :=
      List.any_eq_true.2 ⟨entry, hentry, by rwa [hmarked, restoreReplaceMarkers_eq] at hbefore⟩
    rw [hdynamic, hkeep, hmarked, restoreReplaceMarkers_eq]
    simp [hany]
  have hfixed : ∀ entry ∈ dynamicTables records, DynamicFixed dynamic entry.1 := fun entry hentry =>
    dynamicFixed_foldl _ marked entry.1 (List.mem_map_of_mem hentry)
  have htypes : ∀ entry ∈ customTypes records, (entry.1.keyword, entry.1.standIn) ∈ standIns :=
    fun entry hentry => hrecords.types _ (mem_customTypes.1 (List.mem_map_of_mem hentry))
  rw [hcreate]
  unfold restoreCustomTypes
  split
  · next hguard =>
      refine ⟨hmarkers, hfixed, fun hne hkind => absurd hguard ?_⟩
      have hkind : dynamic.kind = .table := hkind
      simp [hne, hkind]
  · next hguard =>
      refine ⟨hmarkers, hfixed, fun _ _ => ⟨rfl, ?_⟩⟩
      intro column hcolumn
      obtain ⟨before, -, rfl⟩ : ∃ before ∈ dynamic.columns,
          (restoreColumn (customTypes records) before).1 = column := by simpa using hcolumn
      exact restoreColumn_twice htypes before

/-! ## Passes without a placeholder -/

section

variable {records : List Record} {parts : List Part}

theorem keepsAll_indexPass
    (hcalls : ∀ access args bare, .arrayAccess access ∈ records →
      .expr (.call access.token args bare) ∉ parts) :
    KeepsAll Judgement.plain (indexPass (arrayAccesses records)) parts := by
  intro part hpart
  cases part with
  | expr e =>
      cases e with
      | call name args bare =>
          change restoreIndex (arrayAccesses records) (.call name args bare) = .call name args bare
          cases haccess : accessOf? (arrayAccesses records) name with
          | none => simp [restoreIndex, haccess]
          | some entry =>
              obtain rfl : entry.1.token = name := by simpa using List.find?_some haccess
              have hrecord := mem_arrayAccesses.1 (List.mem_map_of_mem (accessOf?_mem haccess))
              exact absurd hpart (hcalls entry.1 args bare hrecord)
      | _ => rfl
  | source s => cases s <;> rfl
  | _ => trivial

theorem keepsAll_marksPass
    (hlabels : ∀ pivot source, .pivot pivot ∈ records → .source source ∈ parts →
      ∀ marks ∈ sourceMark source, marks.label ≠ some pivot.token) :
    KeepsAll Judgement.plain (marksPass (pivots records)) parts := by
  intro part hpart
  cases part with
  | source s =>
      have hkeep : ∀ marks ∈ sourceMark s, restoreMarks (pivots records) marks = marks := by
        intro marks hmarks
        refine restoreMarks_of_label_ne fun entry hentry => ?_
        exact hlabels entry.1 s (mem_pivots.1 (List.mem_map_of_mem hentry)) hpart marks hmarks
      cases s <;> exact hkeep _ List.mem_cons_self
  | _ => trivial

theorem keepsAll_castPass {token : String}
    (hcalls : ∀ operand type shorthand safe bare,
      .expr (.call token [.cast operand type shorthand safe] bare) ∉ parts) :
    KeepsAll Judgement.plain (castPass token) parts := by
  intro part hpart
  cases part with
  | expr e =>
      cases e with
      | call name args bare =>
          change restoreCast token (.call name args bare) = .call name args bare
          obtain ⟨operand, type, shorthand, safe, rfl, rfl, -⟩ | ⟨-, h⟩ :=
            restoreCast_call token name args bare
          · exact absurd hpart (hcalls operand type shorthand safe bare)
          · exact h
      | _ => rfl
  | source s => cases s <;> rfl
  | _ => trivial

theorem pending_foldl_take (keys : List (Option String)) (state : GroupState) :
    (keys.foldl GroupState.take state).pending ⊆ state.pending := by
  induction keys generalizing state with
  | nil => exact fun _ h => h
  | cons key rest ih =>
      refine List.Subset.trans (ih _) ?_
      cases key with
      | none => exact fun _ h => h
      | some name =>
          rw [GroupState.take]
          split
          · exact List.erase_subset
          · exact fun _ h => h

/-- Only a grouping by a token that is left is cleared. -/
theorem takeGroup_eq_true {q : Query} {state : GroupState}
    (h : ((takeGroup q).run state).1 = true) :
    ∃ name qualifier quoted, q.groupBy = [.column name qualifier quoted] ∧
      name ∈ state.pending.map Prod.fst := by
  obtain ⟨name, qualifier, quoted, hgroup⟩ := eq_of_soleColumn ((takeGroup_run q state).2 h)
  refine ⟨name, qualifier, quoted, hgroup, ?_⟩
  have hkey := clearedKey_takeGroup q state
  rw [clearedKey, if_pos h, groupKey, hgroup, groupKeyOf] at hkey
  by_contra hname
  simp [settledKeys, settledKey, hname] at hkey

theorem keepsAll_takeGroup
    (hgroups : ∀ token query qualifier quoted, .groupByAll token ∈ records → .query query ∈ parts →
      query.groupBy ≠ [.column token qualifier quoted]) :
    KeepsAll (Judgement.stateful fun state : GroupState => state.pending ⊆ groupTokens records)
      (clearing takeGroup) parts := by
  intro part hpart
  cases part with
  | query q =>
      intro state hstate
      refine ⟨Bool.eq_false_iff.2 fun htrue => ?_, ?_⟩
      · obtain ⟨name, qualifier, quoted, hgroup, hname⟩ := takeGroup_eq_true htrue
        have hrecord := mem_groupTokens.1 (List.map_subset _ hstate hname)
        exact hgroups name q qualifier quoted hrecord hpart hgroup
      · change ((takeGroup q).run state).2.pending ⊆ groupTokens records
        rw [(takeGroup_run q state).1]
        exact List.Subset.trans (pending_foldl_take _ state) hstate
  | expr e => exact Judgement.returns_pure e
  | source s => cases s <;> exact Judgement.returns_pure _
  | _ => trivial

end

/-! ## Passes without records -/

theorem Restored.eq_of_unused {restored : Restored} {statement : Statement}
    (hstatement : restored.statement = statement) (hused : restored.used = []) :
    restored = { statement := statement } := by
  rw [← hstatement, ← hused]

theorem restoreHead_nil {records : List Record} (hmarkers : replaceMarkers records = [])
    (htables : dynamicTables records = []) (htypes : customTypes records = [])
    (statement : Statement) :
    restoreHead records statement = { statement := statement } := by
  cases statement with
  | create node =>
      rw [restoreHead, restoreCreate, hmarkers, htables, htypes]
      rfl
  | _ => rfl

theorem restoreGroups_nil (statement : Statement) :
    restoreGroups [] statement = { statement := statement } := by
  have hkeep : KeepsAll (Judgement.stateful fun state : GroupState => state.pending ⊆
    groupTokens [])
      (clearing takeGroup) statement.part.preorder :=
    keepsAll_takeGroup fun _ _ _ _ hrecord => absurd hrecord List.not_mem_nil
  have hnodup : (([] : Numbered String).map Prod.fst).Nodup := List.nodup_nil
  refine Restored.eq_of_unused (returns_statement hkeep { pending := [] } (List.Subset.refl _)).1 ?_
  refine List.eq_nil_iff_forall_not_mem.2 fun position hposition => ?_
  obtain ⟨token, htoken, -⟩ := (mem_restoreGroups hnodup statement position).1 hposition
  exact List.not_mem_nil htoken

theorem restorePivots_nil (statement : Statement) :
    restorePivots [] statement = { statement := statement } := by
  have hkeep : KeepsAll Judgement.plain (marksPass (pivots [])) statement.part.preorder :=
    keepsAll_marksPass fun _ _ hrecord => absurd hrecord List.not_mem_nil
  exact Restored.eq_of_unused (returns_statement hkeep) (List.flatMap_eq_nil_iff.2 fun _ _ => rfl)

/-! ## Statements -/

theorem attachAccesses_self (statement : Statement) :
    attachAccesses statement.arrayAccesses statement = statement := by
  cases statement with
  | select query => cases query; rfl
  | _ => rfl

theorem arrayAccesses_attachAccesses (accesses : List ArrayAccess) (statement : Statement) :
    (attachAccesses accesses statement).arrayAccesses = accesses := by
  cases statement <;> rfl

theorem bareCreate?_attachAccesses (accesses : List ArrayAccess) (statement : Statement) :
    (attachAccesses accesses statement).bareCreate? = statement.bareCreate? := by
  cases statement <;> rfl

/-- A statement that restoring has nothing to do on. -/
structure Finished (records : List Record) (statement : Statement) : Prop where
  accesses : arrayAccesses records ≠ [] →
    statement.arrayAccesses = (arrayAccesses records).map Prod.fst
  created : ∀ node, statement.bareCreate? = some node → Settled records node
  clean : ∀ part ∈ statement.part.preorder, ¬ IsPlaceholder records part

section

variable {records : List Record} {statement : Statement}

/-- Restoring gives a finished statement back. -/
theorem restoreStatement_of_finished (hrecords : Restorable records)
    (h : Finished records statement) : (restoreStatement records statement).statement =
    statement := by
  have hhead : (restoreHead records statement).statement = statement := by
    cases statement with
    | create node =>
        have hsettled : Settled records node := settled_bare.1 (h.created _ rfl)
        exact congrArg Statement.create (restoreCreate_of_settled hsettled)
    | _ => rfl
  have hindexed : (restoreArrayAccesses (arrayAccesses records) statement).statement =
      statement := by
    unfold restoreArrayAccesses
    split
    · rfl
    · next hne =>
        have hattached : attachAccesses ((arrayAccesses records).map Prod.fst) statement =
            statement := by
          rw [← h.accesses fun hempty => hne (List.isEmpty_iff.2 hempty)]
          exact attachAccesses_self statement
        rw [hattached]
        exact returns_statement (keepsAll_indexPass fun _ _ _ hrecord hpart =>
          h.clean _ hpart (.call hrecord))
  have hgrouped : (restoreGroups (groupTokens records) statement).statement = statement :=
    (returns_statement (keepsAll_takeGroup fun _ _ _ _ hrecord hpart hgroup =>
      h.clean _ hpart (.grouping hrecord hgroup)) { pending := groupTokens records }
        (List.Subset.refl _)).1
  have hpivoted : (restorePivots (pivots records) statement).statement = statement :=
    returns_statement (keepsAll_marksPass fun _ _ hrecord hpart _ hmarks hlabel =>
      h.clean _ hpart (.label hrecord hmarks hlabel))
  have hcast : (restoreCasts (casts records) statement).statement = statement := by
    cases hcasts : casts records with
    | nil => rfl
    | cons first rest =>
        have hmem : first ∈ casts records := hcasts ▸ List.mem_cons_self
        have hrecord := mem_casts.1 (List.mem_map_of_mem hmem)
        refine returns_statement (keepsAll_castPass fun _ _ _ _ _ hpart => ?_)
        rw [hrecords.cast_token first hmem] at hpart
        exact h.clean _ hpart (.cast hrecord)
  simp only [restoreStatement, Restored.andThen, hhead, hindexed, hgrouped, hpivoted, hcast]

/-- The passes keep the array accesses, once they are attached, and what the records say about a
created object. -/
theorem outline_restoreStatement (records : List Record) (statement : Statement) :
    (arrayAccesses records ≠ [] → (restoreStatement records statement).statement.arrayAccesses =
        (arrayAccesses records).map Prod.fst) ∧
      (restoreStatement records statement).statement.bareCreate? =
        (restoreHead records statement).statement.bareCreate? := by
  set headed := (restoreHead records statement).statement with hheaded
  set indexed := (restoreArrayAccesses (arrayAccesses records) headed).statement with hindexed
  set grouped := (restoreGroups (groupTokens records) indexed).statement with hgrouped
  set pivoted := (restorePivots (pivots records) grouped).statement with hpivoted
  have hindexed : (arrayAccesses records ≠ [] →
    indexed.arrayAccesses = (arrayAccesses records).map Prod.fst) ∧
      indexed.bareCreate? = headed.bareCreate? := by
    rw [hindexed]
    unfold restoreArrayAccesses
    split
    · next hempty => exact ⟨fun hne => absurd (List.isEmpty_iff.1 hempty) hne, rfl⟩
    · obtain ⟨haccesses, hbare⟩ : _ ∧ _ := bare_statement (indexPass (arrayAccesses records))
        Judgement.total_plain (attachAccesses ((arrayAccesses records).map Prod.fst) headed)
      rw [arrayAccesses_attachAccesses] at haccesses
      rw [bareCreate?_attachAccesses] at hbare
      exact ⟨fun _ => haccesses, hbare⟩
  have hgrouped : grouped.arrayAccesses = indexed.arrayAccesses ∧
      grouped.bareCreate? = indexed.bareCreate? :=
    (bare_statement (clearing takeGroup) Judgement.total_stateful indexed
      { pending := groupTokens records } trivial).1
  have hpivoted : pivoted.arrayAccesses = grouped.arrayAccesses ∧
      pivoted.bareCreate? = grouped.bareCreate? :=
    bare_statement (marksPass (pivots records)) Judgement.total_plain grouped
  have hcast : (restoreCasts (casts records) pivoted).statement.arrayAccesses =
    pivoted.arrayAccesses ∧
      (restoreCasts (casts records) pivoted).statement.bareCreate? = pivoted.bareCreate? := by
    cases casts records with
    | nil => exact ⟨rfl, rfl⟩
    | cons first rest => exact bare_statement (castPass first.1.token) Judgement.total_plain pivoted
  change (_ → (restoreCasts (casts records) pivoted).statement.arrayAccesses = _) ∧
    (restoreCasts (casts records) pivoted).statement.bareCreate? = _
  rw [hcast.1, hcast.2, hpivoted.1, hpivoted.2, hgrouped.1, hgrouped.2]
  exact hindexed

/-- Restoring makes no comment of a statement. -/
theorem isComment_restoreStatement (records : List Record) (statement : Statement) :
    (restoreStatement records statement).statement.isComment = statement.isComment := by
  have hhead : (restoreHead records statement).statement.isComment = statement.isComment := by
    cases statement <;> rfl
  have hindexed (s : Statement) :
      (restoreArrayAccesses (arrayAccesses records) s).statement.isComment = s.isComment := by
    unfold restoreArrayAccesses
    split
    · rfl
    · refine (isComment_statement (indexPass (arrayAccesses records)) Judgement.total_plain _).trans
        ?_
      cases s <;> rfl
  have hgrouped (s : Statement) : (restoreGroups (groupTokens records) s).statement.isComment =
      s.isComment :=
    (isComment_statement (clearing takeGroup) Judgement.total_stateful s
      { pending := groupTokens records } trivial).1
  have hpivoted (s : Statement) : (restorePivots (pivots records) s).statement.isComment =
      s.isComment :=
    isComment_statement (marksPass (pivots records)) Judgement.total_plain s
  have hcast (s : Statement) : (restoreCasts (casts records) s).statement.isComment =
      s.isComment := by
    cases casts records with
    | nil => rfl
    | cons first rest => exact isComment_statement (castPass first.1.token) Judgement.total_plain s
  simp only [restoreStatement, Restored.andThen, hcast, hpivoted, hgrouped, hindexed, hhead]

/-- A restored statement is finished, if no token of a grouping has more queries than records. -/
theorem finished_restoreStatement (hrecords : Restorable records)
    (hgroups : ∀ token, .groupByAll token ∈ records →
      (groupKeys.read statement.part.preorder).count (some token) ≤
        records.count (.groupByAll token)) :
    Finished records (restoreStatement records statement).statement where
  accesses := (outline_restoreStatement records statement).1
  created node hnode := by
    rw [(outline_restoreStatement records statement).2] at hnode
    cases statement with
    | create before =>
        obtain rfl : (restoreCreate records before).1.bare = node := Option.some.inj hnode
        exact settled_bare.2 (settled_restoreCreate hrecords before)
    | _ => simp [restoreHead, Statement.bareCreate?] at hnode
  clean _ hpart := not_isPlaceholder_restoreStatement hrecords hgroups hpart

/-- Restoring a statement twice is restoring it once exactly when no token of a grouping has more
queries than records. -/
theorem restoreStatement_twice_iff (hrecords : Restorable records) (statement : Statement) :
    (restoreStatement records (restoreStatement records statement).statement).statement =
        (restoreStatement records statement).statement ↔
      ∀ token, .groupByAll token ∈ records →
        (groupKeys.read statement.part.preorder).count (some token) ≤
          records.count (.groupByAll token) := by
  constructor
  · intro htwice token htoken
    have hfirst := count_restoreStatement hrecords statement token
    have hsecond := count_restoreStatement hrecords (restoreStatement records statement).statement
      token
    rw [htwice] at hsecond
    have hpos : 0 < records.count (.groupByAll token) := List.count_pos_iff.2 htoken
    omega
  · intro hgroups
    exact restoreStatement_of_finished hrecords (finished_restoreStatement hrecords hgroups)

/-- Restoring statements twice is restoring them once exactly when, in every statement, no token of
a grouping has more queries than records. -/
theorem restore_twice_iff {records : List Record} (hrecords : Restorable records)
    (statements : List Statement) :
    (restore records (restore records statements).statements).statements =
        (restore records statements).statements ↔
      ∀ statement ∈ statements, ∀ token, .groupByAll token ∈ records →
        (groupKeys.read statement.part.preorder).count (some token) ≤
          records.count (.groupByAll token) := by
  simp only [restore, List.map_map, List.map_inj_left, Function.comp_apply,
    restoreStatement_twice_iff hrecords]

theorem restore_twice_iff_nested :
    Restorable nestedRecords ∧
      (restore nestedRecords (restore nestedRecords [nestedStatement]).statements).statements =
        (restore nestedRecords [nestedStatement]).statements := by
  refine ⟨restorable_nested, (restore_twice_iff restorable_nested _).2 ?_⟩
  simp only [List.forall_mem_singleton]
  intro token htoken
  obtain rfl : token = _ := by simpa [nestedRecords] using htoken
  decide

/-- Two queries of one statement that group by the same token: the second run clears what the first
one left. -/
theorem restore_twice_union :
    Restorable [.groupByAll "__GROUP_BY_ALL_0__"] ∧
      (restore [.groupByAll "__GROUP_BY_ALL_0__"] (restore [.groupByAll "__GROUP_BY_ALL_0__"]
          [.select
            { groupBy := [.column "__GROUP_BY_ALL_0__" none false]
              setOperator := some "UNION"
              next := some { groupBy := [.column "__GROUP_BY_ALL_0__" none false] }
                }]).statements).statements ≠
        (restore [.groupByAll "__GROUP_BY_ALL_0__"]
          [.select
            { groupBy := [.column "__GROUP_BY_ALL_0__" none false]
              setOperator := some "UNION"
              next := some { groupBy := [.column "__GROUP_BY_ALL_0__" none false] }
                }]).statements := by
  refine ⟨⟨by simp, by simp, by simp, by simp⟩, fun h => ?_⟩
  have hkeys := congrArg (List.map fun statement => groupKeys.read statement.part.preorder) h
  revert hkeys
  decide

end

end SqlLayout.Placeholder
