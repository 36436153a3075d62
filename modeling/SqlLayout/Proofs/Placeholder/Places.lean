import SqlLayout.Proofs.Placeholder.Shape
import SqlLayout.Proofs.Placeholder.Views

/-!
# The place of a record in a tree

A record is used on a statement exactly when the tree holds a place for it.  The place is told from
the tree before restoring, although each pass of restoring sees the tree that the passes before it
left.

## Implementation notes

Grouping is the one pass with a state.  Its tokens are told apart, so the tokens that are still to
be found after some queries are those that none of the queries grouped by.
-/

namespace SqlLayout.Placeholder

open SqlLayout.Tree

/-! ## Created objects -/

theorem restoreReplaceMarkers_eq (records : Numbered ReplacedKind) (node : Create) :
    restoreReplaceMarkers records node =
      ({ node with replace := node.replace || records.any fun entry => markerFits entry.1 node },
        (records.filter fun entry => markerFits entry.1 node).map Prod.snd) := by
  suffices h : ∀ (replace : Bool) (used : List Nat),
      records.foldl (fun done entry =>
        if markerFits entry.1 done.1 then ({ done.1 with replace := true }, done.2 ++ [entry.2])
        else done) ({ node with replace := replace }, used) =
      ({ node with replace := replace || records.any fun entry => markerFits entry.1 node },
        used ++ (records.filter fun entry => markerFits entry.1 node).map Prod.snd) from
    h node.replace []
  induction records with
  | nil => simp
  | cons entry rest ih =>
      intro replace used
      have hfits : markerFits entry.1 { node with replace := replace } = markerFits entry.1 node :=
        rfl
      by_cases h : markerFits entry.1 node
      · simp [hfits, h, ih true]
      · simp [hfits, h, ih replace]

theorem restoreDynamicTables_of_length_le {records : Numbered DynamicTable}
    (hlength : records.length ≤ 1) (node : Create) :
    restoreDynamicTables records node =
      match records with
      | [(record, position)] =>
        if node.kind == .view || node.dynamicOptions == some record then
          ({ node with kind := .dynamicTable, dynamicOptions := some record }, [position])
        else (node, [])
      | _ => (node, []) := by
  match records with
  | [] => rfl
  | [(record, position)] => simp [restoreDynamicTables]
  | _ :: _ :: _ => simp at hlength

/-- One record of a dynamic table on a created object. -/
def asDynamicTable (node : Create) (record : DynamicTable) : Create :=
  if node.kind == .view || node.dynamicOptions == some record then
    { node with kind := .dynamicTable, dynamicOptions := some record }
  else node

theorem restoreDynamicTables_fst (records : Numbered DynamicTable) (node : Create) :
    (restoreDynamicTables records node).1 = (records.map Prod.fst).foldl asDynamicTable node := by
  rw [List.foldl_map, restoreDynamicTables]
  refine (List.foldl_hom Prod.fst ?_).symm
  rintro ⟨done, used⟩ ⟨record, position⟩
  dsimp only [asDynamicTable]
  split <;> rfl

section

variable {α : Type} (v : View α)

theorem read_restoreReplaceMarkers (records : Numbered ReplacedKind) (node : Create) :
    v.read (Part.create (restoreReplaceMarkers records node).1).preorder =
      v.read (Part.create node).preorder := by
  rw [restoreReplaceMarkers_eq]
  rfl

theorem read_restoreDynamicTables (records : Numbered DynamicTable) (node : Create) :
    v.read (Part.create (restoreDynamicTables records node).1).preorder =
      v.read (Part.create node).preorder := by
  rw [restoreDynamicTables_fst]
  induction records.map Prod.fst generalizing node with
  | nil => rfl
  | cons record rest ih =>
      rw [List.foldl_cons, ih, asDynamicTable]
      split <;> rfl

theorem read_restoreColumn (records : Numbered CustomType) (column : ColumnDef) :
    v.read (columnDefWalk (restoreColumn records column).1) = v.read (columnDefWalk column) := by
  unfold restoreColumn
  split
  · cases htype : column.type <;> simp [columnDefWalk, View.part, htype]
  · rfl

theorem read_restoreCustomTypes (records : Numbered CustomType) (node : Create) :
    v.read (Part.create (restoreCustomTypes records node).1).preorder =
      v.read (Part.create node).preorder := by
  unfold restoreCustomTypes
  split
  · rfl
  · simp [Part.preorder, View.part, List.flatMap_map, read_restoreColumn]

/-- Restoring the created object itself changes no expression, query or table source. -/
theorem read_restoreHead (records : List Record) (statement : Statement) :
    v.read (restoreHead records statement).statement.part.preorder =
      v.read statement.part.preorder := by
  cases statement with
  | create node =>
      calc
        _ = _ := read_restoreCustomTypes v (customTypes records) _
        _ = _ := read_restoreDynamicTables v (dynamicTables records) _
        _ = _ := read_restoreReplaceMarkers v (replaceMarkers records) node
  | _ => rfl

end

theorem mem_restoreReplaceMarkers (records : Numbered ReplacedKind) {node : Create}
    (hfresh : node.dynamicOptions = none) (position : Nat) :
    position ∈ (restoreReplaceMarkers records node).2 ↔
      ∃ kind, (kind, position) ∈ records ∧ kind.keyword = node.kind.keyword := by
  simp [restoreReplaceMarkers_eq, markerFits, hfresh]

theorem mem_restoreDynamicTables {records : Numbered DynamicTable} (hlength : records.length ≤ 1)
    {node : Create} (hfresh : node.dynamicOptions = none) (position : Nat) :
    position ∈ (restoreDynamicTables records node).2 ↔
      ∃ record, (record, position) ∈ records ∧ node.kind = .view := by
  rw [restoreDynamicTables_of_length_le hlength]
  match records with
  | [] => simp
  | [(record, found)] => by_cases h : node.kind = .view <;> simp [h, hfresh]
  | _ :: _ :: _ => simp at hlength

theorem restoreDynamicTables_columns {records : Numbered DynamicTable}
    (hlength : records.length ≤ 1) {node : Create} (hfresh : node.dynamicOptions = none) :
    (restoreDynamicTables records node).1.columns = node.columns ∧
      ((restoreDynamicTables records node).1.kind = .table ↔ node.kind = .table) := by
  rw [restoreDynamicTables_of_length_le hlength]
  match records with
  | [] => simp
  | [(record, found)] => by_cases h : node.kind = .view <;> simp [h, hfresh]
  | _ :: _ :: _ => simp at hlength

theorem mem_restoreCustomTypes (records : Numbered CustomType) (node : Create) (position : Nat) :
    position ∈ (restoreCustomTypes records node).2 ↔
      node.kind = .table ∧ ∃ column ∈ node.columns, ∃ record,
        records.find? (fun entry => customTypeFits entry.1 column) = some (record, position) := by
  unfold restoreCustomTypes
  split
  · next h =>
      have hnone : node.kind ≠ .table ∨ records = [] := by simpa [or_comm] using h
      rcases hnone with hkind | rfl
      · simp [hkind]
      · simp
  · next h =>
      obtain ⟨-, htable⟩ : records ≠ [] ∧ node.kind = .table := by simpa using h
      simp only [List.flatMap_map, List.mem_flatMap, htable, true_and]
      refine exists_congr fun column => and_congr_right fun _ => ?_
      unfold restoreColumn
      split
      · next record found hfound => simp [hfound, eq_comm]
      · next hfound => simp [hfound]

theorem mem_restoreCreate {records : List Record} (hshape : Shaped records) {node : Create}
    (hfresh : node.dynamicOptions = none) (position : Nat) :
    position ∈ (restoreCreate records node).2 ↔
      (∃ kind, (kind, position) ∈ replaceMarkers records ∧ kind.keyword = node.kind.keyword) ∨
      (∃ record, (record, position) ∈ dynamicTables records ∧ node.kind = .view) ∨
      node.kind = .table ∧ ∃ column ∈ node.columns, ∃ record,
        (customTypes records).find? (fun entry => customTypeFits entry.1 column) =
          some (record, position) := by
  set marked := (restoreReplaceMarkers (replaceMarkers records) node).1 with hmarked
  have hkeep : marked.dynamicOptions = none ∧ marked.kind = node.kind ∧
      marked.columns = node.columns := by
    rw [hmarked, restoreReplaceMarkers_eq]
    exact ⟨hfresh, rfl, rfl⟩
  obtain ⟨hoptions, hkind, hcolumns⟩ := hkeep
  obtain ⟨hdynamicColumns, hdynamicKind⟩ :=
    restoreDynamicTables_columns hshape.dynamicTables hoptions
  have hused : (restoreCreate records node).2 =
      (restoreReplaceMarkers (replaceMarkers records) node).2 ++
        (restoreDynamicTables (dynamicTables records) marked).2 ++
        (restoreCustomTypes (customTypes records)
          (restoreDynamicTables (dynamicTables records) marked).1).2 := rfl
  rw [hused, List.mem_append, List.mem_append, mem_restoreReplaceMarkers _ hfresh,
    mem_restoreDynamicTables hshape.dynamicTables hoptions, mem_restoreCustomTypes, hdynamicKind,
    hdynamicColumns, hkind, hcolumns, or_assoc]

/-! ## Array accesses -/

theorem read_attachAccesses {α : Type} {v : View α}
    (hquery : ∀ q accesses, v.query { q with arrayAccesses := accesses } = v.query q)
    (accesses : List ArrayAccess) (statement : Statement) :
    v.read (attachAccesses accesses statement).part.preorder = v.read statement.part.preorder := by
  cases statement with
  | select q =>
      have hwalk : ∃ below, queryWalk q = .query q :: below ∧
          queryWalk { q with arrayAccesses := accesses } =
            .query { q with arrayAccesses := accesses } :: below := by
        cases q with
        | mk => exact ⟨_, by rw [queryWalk]; rfl, by rw [queryWalk]; rfl⟩
      obtain ⟨below, hq, hattached⟩ := hwalk
      simp only [attachAccesses, Statement.part, Part.preorder, hq, hattached, View.read_cons,
        View.part, hquery]
  | _ => rfl

section

variable {records : Numbered ArrayAccess}

/-- What a view reads after the pass over array accesses. -/
theorem read_restoreArrayAccesses {α : Type} {v w : View α} (hpulls : Pulls (indexPass records) v w)
    (hquery : ∀ q accesses, w.query { q with arrayAccesses := accesses } = w.query q)
    (hempty : records = [] → v = w) (statement : Statement) :
    v.read (restoreArrayAccesses records statement).statement.part.preorder =
      w.read statement.part.preorder := by
  unfold restoreArrayAccesses
  split
  · next h => rw [hempty (List.isEmpty_iff.1 h)]
  · exact (hpulls.read_statement _).trans (read_attachAccesses hquery _ _)

theorem accessOf?_mem {name : String} {entry : ArrayAccess × Nat}
    (h : accessOf? records name = some entry) : entry ∈ records :=
  List.mem_of_find?_eq_some h

theorem usedByIndex_eq (part : Part) :
    usedByIndex records part = (indexedCalls.part part).flatMap fun call =>
      records.filterMap fun (record, position) =>
        if record.functionName == call.1 && record.index == call.2 then some position
        else none := by
  cases part with
  | expr e =>
      cases e with
      | index base index => cases base <;> simp [usedByIndex, View.part, callUnderIndex]
      | _ => rfl
  | _ => rfl

theorem mem_usedByIndex (parts : List Part) (position : Nat) :
    position ∈ parts.flatMap (usedByIndex records) ↔
      ∃ record, (record, position) ∈ records ∧
        (record.functionName, record.index) ∈ indexedCalls.read parts := by
  have hread : parts.flatMap (usedByIndex records) =
      (indexedCalls.read parts).flatMap fun call =>
        records.filterMap fun (record, position) =>
          if record.functionName == call.1 && record.index == call.2 then some position
          else none := by
    rw [View.read, List.flatMap_assoc]
    exact List.flatMap_congr fun part _ => usedByIndex_eq part
  rw [hread, List.mem_flatMap]
  constructor
  · rintro ⟨⟨name, index⟩, hcall, hmem⟩
    obtain ⟨⟨record, found⟩, hrecord, hfound⟩ := List.mem_filterMap.1 hmem
    obtain ⟨⟨rfl, rfl⟩, rfl⟩ : (record.functionName = name ∧ record.index = index) ∧
        found = position := by simpa using hfound
    exact ⟨record, hrecord, hcall⟩
  · rintro ⟨record, hrecord, hcall⟩
    exact ⟨_, hcall, List.mem_filterMap.2 ⟨_, hrecord, by simp⟩⟩

theorem mem_usedByCall {parts : List Part} {position : Nat}
    (h : position ∈ parts.flatMap (usedByCall records)) :
    ∃ record, (record, position) ∈ records ∧
      (record.functionName, record.index) ∈ (restoredIndexes records).read parts := by
  obtain ⟨part, hpart, hused⟩ := List.mem_flatMap.1 h
  unfold usedByCall at hused
  split at hused
  · next name args bare =>
      obtain ⟨⟨record, found⟩, haccess, rfl⟩ : ∃ entry, accessOf? records name = some entry ∧
          entry.2 = position := by simpa using hused
      refine ⟨record, accessOf?_mem haccess, View.mem_read _ |>.2 ⟨_, hpart, ?_⟩⟩
      simp [View.part, restoredIndex, haccess]
  · simp at hused

/-- An array access is used exactly when its call stands under its index once all are restored. -/
theorem mem_restoreArrayAccesses (statement : Statement) (position : Nat) :
    position ∈ (restoreArrayAccesses records statement).used ↔
      ∃ record, (record, position) ∈ records ∧ (record.functionName, record.index) ∈
        (restoredIndexes records).read statement.part.preorder := by
  have hread := read_restoreArrayAccesses (indexedCalls_indexPass records) (fun _ _ => rfl)
    (fun hempty => by rw [hempty, restoredIndexes_nil]) statement
  unfold restoreArrayAccesses at hread ⊢
  split
  · next h => simp [List.isEmpty_iff.1 h]
  · next h =>
      rw [if_neg h] at hread
      rw [List.mem_append, mem_usedByIndex, hread]
      exact or_iff_right_of_imp mem_usedByCall

end

/-! ## Grouping by all columns -/

/-- What one grouping does to the progress of the pass. -/
def GroupState.take (state : GroupState) : Option String → GroupState
  | none => { state with restored := state.restored + 1 }
  | some name =>
    match state.pending.find? fun entry => entry.1 == name with
    | some entry =>
      { state with pending := state.pending.erase entry, used := state.used ++ [entry.2] }
    | none => state

theorem run_get {σ : Type} (state : σ) : (get : StateM σ σ).run state = (state, state) := rfl

/-- One query: its grouping decides on the new state, and only a column that stands alone is
cleared. -/
theorem takeGroup_run (q : Query) (state : GroupState) :
    ((takeGroup q).run state).2 = (groupKey q).foldl GroupState.take state ∧
      (((takeGroup q).run state).1 = true → soleColumn q.groupBy = true) := by
  cases q with
  | mk arrayAccesses ctes distinct columns sources joins filter groupBy groupByAll =>
      match groupBy with
      | [] => cases groupByAll <;> exact ⟨rfl, fun h => absurd h Bool.false_ne_true⟩
      | e :: _ :: _ =>
          cases groupByAll <;> cases e <;> exact ⟨rfl, fun h => absurd h Bool.false_ne_true⟩
      | [e] =>
          cases e with
          | column name qualifier quoted =>
              refine ⟨?_, fun _ => rfl⟩
              simp only [takeGroup, groupKey, groupKeyOf, List.foldl_cons, List.foldl_nil,
                GroupState.take, run_bind, run_get, List.isEmpty_cons, Bool.and_false,
                Bool.false_eq_true, if_false]
              cases state.pending.find? fun entry => entry.1 == name <;> rfl
          | _ => cases groupByAll <;> exact ⟨rfl, fun h => absurd h Bool.false_ne_true⟩

theorem takeGroup_clearsColumns : ClearsColumns takeGroup :=
  fun q state => (takeGroup_run q state).2

/-- The state after the queries of a tree is told from how they group. -/
theorem afterQueries_takeGroup (parts : List Part) (state : GroupState) :
    afterQueries takeGroup parts state = (groupKeys.read parts).foldl GroupState.take state := by
  induction parts generalizing state with
  | nil => rfl
  | cons part rest ih =>
      rw [afterQueries_cons, ih, View.read_cons, List.foldl_append]
      cases part with
      | query q =>
          rw [visit, (takeGroup_run q state).1]
          rfl
      | _ => rfl

/-- The progress after some groupings: the tokens that none of them is by are still to be found. -/
structure GroupState.After (start : GroupState) (keys : List (Option String)) (state : GroupState) :
    Prop where
  pending : state.pending = start.pending.filter fun entry => some entry.1 ∉ keys
  restored : state.restored = start.restored + keys.count none
  used : ∀ position, position ∈ state.used ↔ position ∈ start.used ∨
    ∃ token, (token, position) ∈ start.pending ∧ some token ∈ keys

/-- Taking a token away leaves the other ones. -/
theorem erase_eq_filter {pending : Numbered String} (hnodup : (pending.map Prod.fst).Nodup)
    {entry : String × Nat} (hentry : entry ∈ pending) :
    pending.erase entry = pending.filter fun other => other.1 ≠ entry.1 := by
  rw [(List.Nodup.of_map _ hnodup).erase_eq_filter]
  refine List.filter_congr fun other hother => ?_
  have hinj : other = entry ↔ other.1 = entry.1 :=
    ⟨congrArg Prod.fst, List.inj_on_of_nodup_map hnodup hother hentry⟩
  rw [Bool.eq_iff_iff]
  simp [hinj]

theorem GroupState.after_take (start : GroupState) (key : Option String)
    (hnodup : (start.pending.map Prod.fst).Nodup) : start.After [key] (start.take key) := by
  cases key with
  | none => exact ⟨by simp [take], by simp [take], by simp [take]⟩
  | some name =>
      cases hfind : start.pending.find? fun entry => entry.1 == name with
      | none =>
          have hnone : ∀ entry ∈ start.pending, entry.1 ≠ name := by simpa using hfind
          refine ⟨?_, by simp [take, hfind], fun position => ?_⟩
          · rw [List.filter_eq_self.2 fun entry hentry => by simpa using hnone entry hentry]
            simp [take, hfind]
          · simp only [take, hfind, List.mem_singleton, Option.some.injEq]
            refine (or_iff_left ?_).symm
            rintro ⟨token, htoken, rfl⟩
            exact hnone _ htoken rfl
      | some entry =>
          have hentry : entry ∈ start.pending := List.mem_of_find?_eq_some hfind
          obtain rfl : entry.1 = name := by simpa using List.find?_some hfind
          refine ⟨?_, by simp [take, hfind], fun position => ?_⟩
          · simp only [take, hfind, erase_eq_filter hnodup hentry, List.mem_singleton,
              Option.some.injEq]
          · simp only [take, hfind, List.mem_append, List.mem_singleton, Option.some.injEq]
            refine or_congr_right ⟨?_, ?_⟩
            · rintro rfl
              exact ⟨entry.1, hentry, rfl⟩
            · rintro ⟨token, htoken, hname⟩
              exact congrArg Prod.snd (List.inj_on_of_nodup_map hnodup htoken hentry hname)

theorem GroupState.After.trans {start middle last : GroupState} {front back : List (Option String)}
    (hfront : start.After front middle) (hback : middle.After back last) :
    start.After (front ++ back) last where
  pending := by
    rw [hback.pending, hfront.pending, List.filter_filter]
    refine List.filter_congr fun entry _ => ?_
    simp [Bool.and_comm]
  restored := by rw [hback.restored, hfront.restored, List.count_append, Nat.add_assoc]
  used position := by
    rw [hback.used, hfront.used, hfront.pending, or_assoc]
    refine or_congr_right ⟨?_, ?_⟩
    · rintro (⟨token, htoken, hfound⟩ | ⟨token, htoken, hfound⟩)
      · exact ⟨token, htoken, List.mem_append_left _ hfound⟩
      · exact ⟨token, List.mem_of_mem_filter htoken, List.mem_append_right _ hfound⟩
    · rintro ⟨token, htoken, hfound⟩
      by_cases hearlier : some token ∈ front
      · exact .inl ⟨token, htoken, hearlier⟩
      · refine .inr ⟨token, List.mem_filter.2 ⟨htoken, by simpa using hearlier⟩, ?_⟩
        exact (List.mem_append.1 hfound).resolve_left hearlier

theorem GroupState.after_foldl (keys : List (Option String)) (start : GroupState)
    (hnodup : (start.pending.map Prod.fst).Nodup) :
    start.After keys (keys.foldl GroupState.take start) := by
  induction keys generalizing start with
  | nil => exact ⟨by simp, by simp, by simp⟩
  | cons key rest ih =>
      have hfirst := start.after_take key hnodup
      refine hfirst.trans (ih _ ?_)
      rw [hfirst.pending]
      exact hnodup.sublist (List.filter_sublist.map _)

/-- The tokens that no query of a tree groups by, as many as there are queries that group by all
columns already. -/
def spareTokens (tokens : Numbered String) (keys : List (Option String)) : Numbered String :=
  (tokens.filter fun entry => some entry.1 ∉ keys).take (keys.count none)

section

variable {tokens : Numbered String} (hnodup : (tokens.map Prod.fst).Nodup) (statement : Statement)
include hnodup

/-- A token is used exactly when a query groups by it, or when a query that groups by all columns
already accounts for it. -/
theorem mem_restoreGroups (position : Nat) :
    position ∈ (restoreGroups tokens statement).used ↔
      ∃ token, (token, position) ∈ tokens ∧
        (some token ∈ groupKeys.read statement.part.preorder ∨
          (token, position) ∈ spareTokens tokens (groupKeys.read statement.part.preorder)) := by
  set keys := groupKeys.read statement.part.preorder with hkeys
  set start : GroupState := { pending := tokens } with hstart
  have hafter : start.After keys
      ((statementTraverse (clearing takeGroup) statement).run start).2 := by
    rw [(takeGroup_clearsColumns.statement statement start).2, afterQueries_takeGroup]
    exact start.after_foldl keys hnodup
  have hused : (restoreGroups tokens statement).used =
      ((statementTraverse (clearing takeGroup) statement).run start).2.used ++
        (((statementTraverse (clearing takeGroup) statement).run start).2.pending.take
          ((statementTraverse (clearing takeGroup) statement).run start).2.restored).map Prod.snd :=
            rfl
  have hspare : (start.pending.filter fun entry => some entry.1 ∉ keys).take
      (start.restored + keys.count none) = spareTokens tokens keys := by
    rw [hstart, Nat.zero_add, spareTokens]
  rw [hused, List.mem_append, hafter.used, hafter.pending, hafter.restored, hspare]
  constructor
  · rintro ((hused | ⟨token, htoken, hkey⟩) | hused)
    · simp [hstart] at hused
    · exact ⟨token, htoken, .inl hkey⟩
    · obtain ⟨⟨token, found⟩, hmem, rfl⟩ := List.mem_map.1 hused
      exact ⟨token, List.mem_of_mem_filter (List.mem_of_mem_take hmem), .inr hmem⟩
  · rintro ⟨token, htoken, hkey | hmem⟩
    · exact .inl (.inr ⟨token, htoken, hkey⟩)
    · exact .inr (List.mem_map_of_mem hmem)

omit hnodup in
theorem read_restoreGroups {α : Type} {v : View α} (hv : Pulls ungroup v v) :
    v.read (restoreGroups tokens statement).statement.part.preorder =
      v.read statement.part.preorder :=
  takeGroup_clearsColumns.read_statement hv statement { pending := tokens }

end

/-! ## Pivot clauses -/

/-- Whether the marks of a table source ask for a pivot clause: by its token, by the token of an
earlier record with the same clause, or by the clause itself when no earlier record replaces it. -/
def PivotPlace (records : Numbered Pivot) (record : Pivot) (position : Nat) (marks : TableMarks) :
    Prop :=
  marks.label = some record.token ∨
    (∃ earlier ∈ records, earlier.2 < position ∧ marks.label = some earlier.1.token ∧
      earlier.1.clause = record.clause) ∨
    marks.pivot = some record.clause ∧
      ∀ earlier ∈ records, earlier.2 < position → marks.label ≠ some earlier.1.token

theorem restorePivot_of_label_ne {record : Pivot} {marks : TableMarks}
    (h : marks.label ≠ some record.token) : restorePivot marks record = marks := by
  simp [restorePivot, h]

theorem restorePivot_of_label {record : Pivot} {marks : TableMarks}
    (h : marks.label = some record.token) :
    restorePivot marks record = { label := none, pivot := some record.clause } := by
  simp [restorePivot, h]

theorem restoreMarks_of_label_ne {records : Numbered Pivot} {marks : TableMarks}
    (h : ∀ entry ∈ records, marks.label ≠ some entry.1.token) :
    restoreMarks records marks = marks := by
  induction records with
  | nil => rfl
  | cons entry rest ih =>
      rw [restoreMarks, List.foldl_cons, restorePivot_of_label_ne (h entry List.mem_cons_self)]
      exact ih fun other hother => h other (List.mem_cons_of_mem _ hother)

theorem restoreMarks_of_label {records : Numbered Pivot} {marks : TableMarks} {entry : Pivot × Nat}
    (hnodup : (records.map fun entry => entry.1.token).Nodup) (hentry : entry ∈ records)
    (hlabel : marks.label = some entry.1.token) :
    restoreMarks records marks = { label := none, pivot := some entry.1.clause } := by
  induction records with
  | nil => simp at hentry
  | cons first rest ih =>
      rw [List.map_cons, List.nodup_cons] at hnodup
      rw [restoreMarks, List.foldl_cons]
      rcases List.mem_cons.1 hentry with rfl | hrest
      · rw [restorePivot_of_label hlabel]
        exact restoreMarks_of_label_ne fun _ _ => by simp
      · have hne : marks.label ≠ some first.1.token := by
          intro hfirst
          refine hnodup.1 (List.mem_map.2 ⟨entry, hrest, ?_⟩)
          exact Option.some.inj (hlabel.symm.trans hfirst)
        rw [restorePivot_of_label_ne hne]
        exact ih hnodup.2 hrest

/-- A pivot clause is used on the marks that the clauses before it left. -/
theorem mem_usedByMarks (records : Numbered Pivot) (marks : TableMarks) (position : Nat) :
    position ∈ usedByMarks records marks ↔
      ∃ front, ∃ record : Pivot, ∃ back, records = front ++ (record, position) :: back ∧
        ((restoreMarks front marks).label = some record.token ∨
          (restoreMarks front marks).pivot = some record.clause) := by
  induction records generalizing marks with
  | nil => simp [usedByMarks]
  | cons entry rest ih =>
      obtain ⟨first, found⟩ := entry
      rw [usedByMarks, List.mem_append, ih]
      constructor
      · rintro (h | ⟨front, record, back, rfl, h⟩)
        · split at h
          · next hfits =>
              obtain rfl := List.mem_singleton.1 h
              exact ⟨[], first, rest, rfl, by simpa [restoreMarks] using hfits⟩
          · simp at h
        · exact ⟨(first, found) :: front, record, back, rfl, h⟩
      · rintro ⟨front, record, back, hsplit, h⟩
        cases front with
        | nil =>
            obtain ⟨⟨rfl, rfl⟩, rfl⟩ : (first = record ∧ found = position) ∧ rest = back := by
              simpa using hsplit
            exact .inl (by simpa [restoreMarks] using h)
        | cons other front =>
            obtain ⟨rfl, rfl⟩ := List.cons.inj hsplit
            exact .inr ⟨front, record, back, rfl, h⟩

theorem mem_front_iff {α : Type} {front back : Numbered α} {x : α} {position : Nat}
    (hsorted : (front ++ (x, position) :: back).Pairwise fun a b => a.2 < b.2) (entry : α × Nat) :
    entry ∈ front ↔ entry ∈ front ++ (x, position) :: back ∧ entry.2 < position := by
  obtain ⟨-, hback, hfront⟩ := List.pairwise_append.1 hsorted
  constructor
  · intro hentry
    exact ⟨List.mem_append_left _ hentry, hfront entry hentry _ List.mem_cons_self⟩
  · rintro ⟨hentry, hlt⟩
    rcases List.mem_append.1 hentry with h | h
    · exact h
    · rcases List.mem_cons.1 h with rfl | hlater
      · exact absurd hlt (lt_irrefl _)
      · exact absurd hlt (not_lt_of_gt ((List.pairwise_cons.1 hback).1 entry hlater))

/-- The marks that the clauses before a record left ask for the record exactly when the marks
did. -/
theorem pivotPlace_iff {front back : Numbered Pivot} {record : Pivot} {position : Nat}
    (hnodup : ((front ++ (record, position) :: back).map fun entry => entry.1.token).Nodup)
    (hsorted : (front ++ (record, position) :: back).Pairwise fun a b => a.2 < b.2)
    (marks : TableMarks) :
    ((restoreMarks front marks).label = some record.token ∨
        (restoreMarks front marks).pivot = some record.clause) ↔
      PivotPlace (front ++ (record, position) :: back) record position marks := by
  have hearlier := mem_front_iff hsorted
  rw [List.map_append, List.map_cons, List.nodup_append] at hnodup
  obtain ⟨hfront, -, hdisjoint⟩ := hnodup
  by_cases hlabel : ∃ entry ∈ front, marks.label = some entry.1.token
  · obtain ⟨entry, hentry, hlabel⟩ := hlabel
    have hne : entry.1.token ≠ record.token :=
      hdisjoint _ (List.mem_map_of_mem hentry) _ List.mem_cons_self
    rw [restoreMarks_of_label hfront hentry hlabel]
    constructor
    · rintro (h | h)
      · simp at h
      · obtain ⟨hmem, hlt⟩ := (hearlier entry).1 hentry
        exact .inr (.inl ⟨entry, hmem, hlt, hlabel, Option.some.inj h⟩)
    · rintro (h | ⟨other, hother, hlt, h, hclause⟩ | ⟨-, h⟩)
      · exact absurd (Option.some.inj (hlabel.symm.trans h)) hne
      · have heq : entry = other := List.inj_on_of_nodup_map hfront hentry
          ((hearlier other).2 ⟨hother, hlt⟩) (Option.some.inj (hlabel.symm.trans h))
        exact .inr (congrArg some (heq ▸ hclause))
      · obtain ⟨hmem, hlt⟩ := (hearlier entry).1 hentry
        exact absurd hlabel (h entry hmem hlt)
  · have hlabel : ∀ entry ∈ front, marks.label ≠ some entry.1.token := by simpa using hlabel
    rw [restoreMarks_of_label_ne hlabel]
    constructor
    · rintro (h | h)
      · exact .inl h
      · exact .inr (.inr ⟨h, fun other hother hlt =>
          hlabel other ((hearlier other).2 ⟨hother, hlt⟩)⟩)
    · rintro (h | ⟨other, hother, hlt, h, -⟩ | ⟨h, -⟩)
      · exact .inl h
      · exact absurd h (hlabel other ((hearlier other).2 ⟨hother, hlt⟩))
      · exact .inr h

/-- A pivot clause is used on the marks that ask for it. -/
theorem mem_usedByMarks_iff {records : Numbered Pivot}
    (hnodup : (records.map fun entry => entry.1.token).Nodup)
    (hsorted : records.Pairwise fun a b => a.2 < b.2) (marks : TableMarks) (position : Nat) :
    position ∈ usedByMarks records marks ↔
      ∃ record, (record, position) ∈ records ∧ PivotPlace records record position marks := by
  rw [mem_usedByMarks]
  constructor
  · rintro ⟨front, record, back, rfl, h⟩
    exact ⟨record, by simp, (pivotPlace_iff hnodup hsorted marks).1 h⟩
  · rintro ⟨record, hrecord, hplace⟩
    obtain ⟨front, back, rfl⟩ := List.append_of_mem hrecord
    exact ⟨front, record, back, rfl, (pivotPlace_iff hnodup hsorted marks).2 hplace⟩

theorem filterMap_marksOf? (parts : List Part) :
    parts.filterMap marksOf? = sourceMarks.read parts := by
  induction parts with
  | nil => rfl
  | cons part rest ih =>
      rw [View.read_cons, ← ih]
      cases part with
      | source source => cases source <;> rfl
      | _ => rfl

theorem mem_restorePivots {records : Numbered Pivot}
    (hnodup : (records.map fun entry => entry.1.token).Nodup)
    (hsorted : records.Pairwise fun a b => a.2 < b.2) (statement : Statement) (position : Nat) :
    position ∈ (restorePivots records statement).used ↔
      ∃ record, (record, position) ∈ records ∧
        ∃ marks ∈ sourceMarks.read statement.part.preorder,
          PivotPlace records record position marks := by
  rw [restorePivots, filterMap_marksOf?, List.mem_flatMap]
  simp only [mem_usedByMarks_iff hnodup hsorted]
  constructor
  · rintro ⟨marks, hmarks, record, hrecord, hplace⟩
    exact ⟨record, hrecord, marks, hmarks, hplace⟩
  · rintro ⟨record, hrecord, marks, hmarks, hplace⟩
    exact ⟨marks, hmarks, record, hrecord, hplace⟩

theorem read_restorePivots {α : Type} {v : View α} {records : Numbered Pivot}
    (hv : Pulls (marksPass records) v v) (statement : Statement) :
    v.read (restorePivots records statement).statement.part.preorder =
      v.read statement.part.preorder :=
  hv.read_statement statement

/-! ## Casts -/

theorem isShorthandCast_iff (part : Part) :
    isShorthandCast part = true ↔ (castMarks fun _ => false).part part ≠ [] := by
  cases part with
  | expr e =>
      cases e with
      | cast operand type shorthand safe =>
          cases shorthand <;> simp [isShorthandCast, View.part, castMark]
      | _ => simp [isShorthandCast, View.part, castMark]
  | _ => simp [isShorthandCast, View.part, castMarks]

theorem any_isShorthandCast (parts : List Part) :
    parts.any isShorthandCast = true ↔ (castMarks fun _ => false).read parts ≠ [] := by
  simp [View.read, List.any_eq_true, isShorthandCast_iff]

theorem mem_restoreCasts {records : Numbered CastShorthand}
    (htoken : ∀ entry ∈ records, entry.1.token = castToken) (statement : Statement)
    (position : Nat) :
    position ∈ (restoreCasts records statement).used ↔
      (∃ record, (record, position) ∈ records) ∧
        (castMarks (· == castToken)).read statement.part.preorder ≠ [] := by
  match records with
  | [] => simp [restoreCasts]
  | (first, found) :: rest =>
      have hfirst : first.token = castToken := htoken _ List.mem_cons_self
      have hread := (castMarks_castPass castToken).read_statement statement
      have hany : (statement.mapExprs (restoreCast castToken)).part.preorder.any isShorthandCast =
        true ↔
          (castMarks (· == castToken)).read statement.part.preorder ≠ [] := by
        rw [any_isShorthandCast, ← hread]
        rfl
      rw [← hany, restoreCasts, hfirst]
      by_cases h : (statement.mapExprs (restoreCast castToken)).part.preorder.any isShorthandCast =
        true
      · simp [h, exists_or]
      · simp [h]

/-! ## All passes -/

/-- The place that a statement tree holds for a record of its text. -/
def Place (records : List Record) (statement : Statement) (position : Nat) : Record → Prop
  | .replaceMarker kind => ∃ node, statement = .create node ∧ kind.keyword = node.kind.keyword
  | .dynamicTable _ => ∃ node, statement = .create node ∧ node.kind = .view
  | .customType record => ∃ node, statement = .create node ∧ node.kind = .table ∧
      ∃ column ∈ node.columns,
        (customTypes records).find? (fun entry => customTypeFits entry.1 column) =
          some (record, position)
  | .arrayAccess record => (record.functionName, record.index) ∈
      (restoredIndexes (arrayAccesses records)).read statement.part.preorder
  | .groupByAll token =>
      some token ∈ groupKeys.read statement.part.preorder ∨
        (token, position) ∈
          spareTokens (groupTokens records) (groupKeys.read statement.part.preorder)
  | .pivot record => ∃ marks ∈ sourceMarks.read statement.part.preorder,
      PivotPlace (pivots records) record position marks
  | .castShorthand _ =>
      (castMarks fun name => calledName (arrayAccesses records) name == castToken).read
        statement.part.preorder ≠ []

/-- A statement whose created object has no properties of a dynamic table yet. -/
def Fresh (statement : Statement) : Prop :=
  ∀ node, statement = .create node → node.dynamicOptions = none

section

variable {records : List Record} (hshape : Shaped records) {statement : Statement}
include hshape

theorem mem_restoreHead (hfresh : Fresh statement) (position : Nat) :
    position ∈ (restoreHead records statement).used ↔
      (∃ kind, (kind, position) ∈ replaceMarkers records ∧
        Place records statement position (.replaceMarker kind)) ∨
      (∃ record, (record, position) ∈ dynamicTables records ∧
        Place records statement position (.dynamicTable record)) ∨
      ∃ record, (record, position) ∈ customTypes records ∧
        Place records statement position (.customType record) := by
  cases statement with
  | create node =>
      have hmem := mem_restoreCreate hshape (hfresh node rfl) position
      have htypes : (∃ record, (record, position) ∈ customTypes records ∧
            Place records (.create node) position (.customType record)) ↔
          node.kind = .table ∧ ∃ column ∈ node.columns, ∃ record,
            (customTypes records).find? (fun entry => customTypeFits entry.1 column) =
              some (record, position) := by
        constructor
        · rintro ⟨record, -, other, hother, hkind, column, hcolumn, hfind⟩
          obtain rfl := Statement.create.inj hother
          exact ⟨hkind, column, hcolumn, record, hfind⟩
        · rintro ⟨hkind, column, hcolumn, record, hfind⟩
          exact ⟨record, List.mem_of_find?_eq_some hfind, node, rfl, hkind, column, hcolumn, hfind⟩
      rw [htypes]
      simpa [restoreHead, Place] using hmem
  | _ => simp [restoreHead, Place]

/-- The passes together, each told from the tree before all of them. -/
theorem mem_restoreStatement_used (position : Nat) :
    position ∈ (restoreStatement records statement).used ↔
      position ∈ (restoreHead records statement).used ∨
      (∃ record, (record, position) ∈ arrayAccesses records ∧
        Place records statement position (.arrayAccess record)) ∨
      (∃ token, (token, position) ∈ groupTokens records ∧
        Place records statement position (.groupByAll token)) ∨
      (∃ record, (record, position) ∈ pivots records ∧
        Place records statement position (.pivot record)) ∨
      ∃ record, (record, position) ∈ casts records ∧
        Place records statement position (.castShorthand record) := by
  set headed := (restoreHead records statement).statement with hheaded
  set indexed := (restoreArrayAccesses (arrayAccesses records) headed).statement with hindexed
  set grouped := (restoreGroups (groupTokens records) indexed).statement with hgrouped
  set pivoted := (restorePivots (pivots records) grouped).statement with hpivoted
  have hused : (restoreStatement records statement).used =
      (restoreHead records statement).used ++
        (restoreArrayAccesses (arrayAccesses records) headed).used ++
        (restoreGroups (groupTokens records) indexed).used ++
        (restorePivots (pivots records) grouped).used ++
        (restoreCasts (casts records) pivoted).used := rfl
  have hindexes := read_restoreHead (restoredIndexes (arrayAccesses records)) records statement
  have hkeys : groupKeys.read indexed.part.preorder = groupKeys.read statement.part.preorder :=
    (read_restoreArrayAccesses (groupKeys_indexPass _) (fun _ _ => rfl) (fun _ => rfl) headed).trans
      (read_restoreHead groupKeys records statement)
  have hmarks : sourceMarks.read grouped.part.preorder = sourceMarks.read statement.part.preorder :=
    calc
      _ = sourceMarks.read indexed.part.preorder := read_restoreGroups indexed sourceMarks_ungroup
      _ = sourceMarks.read headed.part.preorder :=
        read_restoreArrayAccesses (sourceMarks_indexPass _) (fun _ _ => rfl) (fun _ => rfl) headed
      _ = _ := read_restoreHead sourceMarks records statement
  have hcasts : (castMarks (· == castToken)).read pivoted.part.preorder =
      (castMarks fun name => calledName (arrayAccesses records) name == castToken).read
        statement.part.preorder :=
    calc
      _ = (castMarks (· == castToken)).read grouped.part.preorder :=
        read_restorePivots (castMarks_marksPass _ _) grouped
      _ = (castMarks (· == castToken)).read indexed.part.preorder :=
        read_restoreGroups indexed (castMarks_ungroup _)
      _ = (castMarks fun name => calledName (arrayAccesses records) name == castToken).read
          headed.part.preorder :=
        read_restoreArrayAccesses (castMarks_indexPass _ _) (fun _ _ => rfl)
          (fun hempty => by rw [hempty]; rfl) headed
      _ = _ := read_restoreHead _ records statement
  rw [hused]
  simp only [List.mem_append, or_assoc, Place]
  rw [mem_restoreArrayAccesses, hindexes, mem_restoreGroups hshape.groups, hkeys,
    mem_restorePivots hshape.pivots (pick_pairwise records), hmarks, mem_restoreCasts hshape.casts,
    hcasts, exists_and_right]

/-- A record of a statement is used on a tree exactly when the tree holds a place for it. -/
theorem mem_restoreStatement (hfresh : Fresh statement) {record : Record} {position : Nat}
    (hrecord : records[position]? = some record) :
    position ∈ (restoreStatement records statement).used ↔
      Place records statement position record := by
  rw [mem_restoreStatement_used hshape, mem_restoreHead hshape hfresh]
  simp only [replaceMarkers_eq, dynamicTables_eq, customTypes_eq, arrayAccesses_eq, groupTokens_eq,
    pivots_eq, casts_eq, mem_pick_of_getElem? hrecord]
  cases record <;>
    simp [Record.customType?, Record.replaceMarker?, Record.dynamicTable?, Record.arrayAccess?,
      Record.groupByAll?, Record.pivot?, Record.castShorthand?]

end

/-- Restoring reports exactly the records for which no tree holds a place. -/
theorem mem_unapplied {records : List Record} (hshape : Shaped records)
    {statements : List Statement} (hfresh : ∀ statement ∈ statements, Fresh statement)
    (record : Record) :
    record ∈ (restore records statements).unapplied ↔
      ∃ position, records[position]? = some record ∧
        ∀ statement ∈ statements, ¬ Place records statement position record := by
  have hused {position : Nat} (hrecord : records[position]? = some record) :
      position ∈ (statements.map (restoreStatement records)).flatMap Restored.used ↔
        ∃ statement ∈ statements, Place records statement position record := by
    rw [List.flatMap_map, List.mem_flatMap]
    refine exists_congr fun statement => and_congr_right fun hmem => ?_
    exact mem_restoreStatement hshape (hfresh statement hmem) hrecord
  simp only [restore, List.mem_filterMap, Prod.exists, List.mk_mem_zipIdx_iff_getElem?]
  constructor
  · rintro ⟨found, position, hrecord, h⟩
    split at h
    · simp at h
    · next hunused =>
        obtain rfl := Option.some.inj h
        refine ⟨position, hrecord, fun statement hmem hplace => hunused ?_⟩
        simpa using (hused hrecord).2 ⟨statement, hmem, hplace⟩
  · rintro ⟨position, hrecord, hplaces⟩
    refine ⟨record, position, hrecord, if_neg fun hcontains => ?_⟩
    obtain ⟨statement, hmem, hplace⟩ := (hused hrecord).1 (by simpa using hcontains)
    exact hplaces statement hmem hplace

end SqlLayout.Placeholder
