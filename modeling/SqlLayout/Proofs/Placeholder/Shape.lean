import Mathlib
import SqlLayout.Placeholder.Encode
import SqlLayout.Placeholder.Restore

/-!
# The shape of the records of a statement

Every replacement step leaves records of its own kind.  The records of an encoded statement are
therefore known up to the texts in them: at most one dynamic table, at most one `OR REPLACE`,
numbered tokens for pivot clauses and groupings, and one token for all casts.

## Implementation notes

Restoring tells records apart by position, so the records of one kind are compared as a list with
positions that grow.
-/

namespace SqlLayout.Placeholder

section

variable {α : Type} (f : Record → Option α)

theorem map_fst_pick (records : List Record) :
    (pick f records).map Prod.fst = records.filterMap f := by
  suffices h : ∀ start, ((records.zipIdx start).filterMap fun entry =>
      (f entry.1).map (·, entry.2)).map Prod.fst = records.filterMap f from h 0
  induction records with
  | nil => intro start; rfl
  | cons record rest ih =>
      intro start
      cases hf : f record with
      | none => simp [List.zipIdx_cons, hf, ih]
      | some x => simp [List.zipIdx_cons, hf, ih]

variable {f}

theorem mem_pick {records : List Record} {x : α} {position : Nat} :
    (x, position) ∈ pick f records ↔
      ∃ record, records[position]? = some record ∧ f record = some x := by
  simp [pick, List.mem_filterMap, List.mk_mem_zipIdx_iff_getElem?]

/-- The position of a record is found with the record itself. -/
theorem mem_pick_of_getElem? {records : List Record} {record : Record} {x : α} {position : Nat}
    (h : records[position]? = some record) :
    (x, position) ∈ pick f records ↔ f record = some x := by
  simp [mem_pick, h]

/-- Records of one kind have none of another. -/
theorem pick_map_eq_nil {β : Type} {kind : β → Record} (hf : ∀ x, f (kind x) = none) (xs : List β) :
    pick f (xs.map kind) = [] := by
  refine List.filterMap_eq_nil_iff.2 fun entry hentry => ?_
  obtain ⟨x, -, hx⟩ := List.mem_map.1 (List.fst_mem_of_mem_zipIdx hentry)
  exact Option.map_eq_none_iff.2 (hx ▸ hf x)

theorem pick_pairwise (records : List Record) :
    (pick f records).Pairwise fun a b => a.2 < b.2 := by
  rw [pick, List.pairwise_filterMap]
  have hz : records.zipIdx.Pairwise fun a b => a.2 < b.2 := by
    rw [List.pairwise_iff_getElem]
    intro i j hi hj hij
    simpa using hij
  refine hz.imp ?_
  rintro ⟨a, i⟩ ⟨b, j⟩ hij x hx y hy
  simp only [Option.map_eq_some_iff] at hx hy
  obtain ⟨_, _, rfl⟩ := hx
  obtain ⟨_, _, rfl⟩ := hy
  exact hij

end

/-! ## Records by kind -/

/-- The custom type of a record. -/
def Record.customType? : Record → Option CustomType
  | .customType x => some x
  | _ => none

/-- The object kind of a record of `OR REPLACE`. -/
def Record.replaceMarker? : Record → Option ReplacedKind
  | .replaceMarker x => some x
  | _ => none

/-- The dynamic table of a record. -/
def Record.dynamicTable? : Record → Option DynamicTable
  | .dynamicTable x => some x
  | _ => none

/-- The array access of a record. -/
def Record.arrayAccess? : Record → Option ArrayAccess
  | .arrayAccess x => some x
  | _ => none

/-- The token of a record of a grouping by all columns. -/
def Record.groupByAll? : Record → Option String
  | .groupByAll x => some x
  | _ => none

/-- The pivot clause of a record. -/
def Record.pivot? : Record → Option Pivot
  | .pivot x => some x
  | _ => none

/-- The cast of a record. -/
def Record.castShorthand? : Record → Option CastShorthand
  | .castShorthand x => some x
  | _ => none

theorem customTypes_eq (records : List Record) :
    customTypes records = pick Record.customType? records := rfl

theorem replaceMarkers_eq (records : List Record) :
    replaceMarkers records = pick Record.replaceMarker? records := rfl

theorem dynamicTables_eq (records : List Record) :
    dynamicTables records = pick Record.dynamicTable? records := rfl

theorem arrayAccesses_eq (records : List Record) :
    arrayAccesses records = pick Record.arrayAccess? records := rfl

theorem groupTokens_eq (records : List Record) :
    groupTokens records = pick Record.groupByAll? records := rfl

theorem pivots_eq (records : List Record) : pivots records = pick Record.pivot? records := rfl

theorem casts_eq (records : List Record) : casts records = pick Record.castShorthand? records := rfl

/-! ## Records and steps -/

/-- The step that leaves a record. -/
def Record.stage : Record → Stage
  | .customType _ => .customTypes
  | .replaceMarker _ => .replaceMarker
  | .dynamicTable _ => .dynamicTable
  | .arrayAccess _ => .arrayAccess
  | .groupByAll _ => .groupByAll
  | .pivot _ => .pivots
  | .castShorthand _ => .casts

theorem Record.stage_of_dynamicTable? (record : Record) (x : DynamicTable)
    (h : record.dynamicTable? = some x) : record.stage = .dynamicTable := by
  cases record <;> simp_all [Record.dynamicTable?, Record.stage]

theorem Record.stage_of_groupByAll? (record : Record) (x : String)
    (h : record.groupByAll? = some x) : record.stage = .groupByAll := by
  cases record <;> simp_all [Record.groupByAll?, Record.stage]

theorem Record.stage_of_pivot? (record : Record) (x : Pivot)
    (h : record.pivot? = some x) : record.stage = .pivots := by
  cases record <;> simp_all [Record.pivot?, Record.stage]

theorem Record.stage_of_castShorthand? (record : Record) (x : CastShorthand)
    (h : record.castShorthand? = some x) : record.stage = .casts := by
  cases record <;> simp_all [Record.castShorthand?, Record.stage]

theorem expandCasts_castShorthand (passes : Nat) (text : List Char) :
    ∀ record ∈ (expandCasts passes text).records,
      ∃ cast : CastShorthand, record = .castShorthand cast ∧ cast.token = castToken := by
  induction passes generalizing text with
  | zero => simp [expandCasts]
  | succ passes ih =>
      intro record hrecord
      rw [expandCasts] at hrecord
      split at hrecord
      · simp at hrecord
      · rcases List.mem_append.1 hrecord with h | h
        · simp only [List.map_map, List.mem_map] at h
          obtain ⟨m, _, rfl⟩ := h
          exact ⟨readCast text m, rfl, rfl⟩
        · exact ih _ record h

/-- A step leaves records of its own kind only. -/
theorem Stage.apply_stage {stage : Stage} {text : List Char} {encoded : Encoded}
    (h : stage.apply text = .ok encoded) : ∀ record ∈ encoded.records, record.stage = stage := by
  intro record hrecord
  cases stage with
  | decimals =>
      obtain rfl := Except.ok.inj h
      simp at hrecord
  | dynamicTable =>
      obtain rfl := Except.ok.inj h
      rw [encodeDynamicTable] at hrecord
      split at hrecord <;> simp_all [Record.stage]
  | replaceMarker =>
      simp only [Stage.apply, encodeReplaceMarker] at h
      split at h
      · obtain rfl := Except.ok.inj h
        simp at hrecord
      · split at h
        · simp at h
        · obtain rfl := Except.ok.inj h
          simp_all [Record.stage]
  | customTypes =>
      simp only [Stage.apply, encodeCustomTypes] at h
      split at h
      · obtain rfl := Except.ok.inj h
        simp at hrecord
      · cases hm : (customTypeColumn.findOutside text).mapM (readCustomType text) with
        | error fault => simp [hm, bind, Except.bind] at h
        | ok types =>
            simp [hm, bind, Except.bind, pure, Except.pure] at h
            obtain rfl := h
            simp only [List.mem_map] at hrecord
            obtain ⟨type, _, rfl⟩ := hrecord
            rfl
  | arrayAccess =>
      obtain rfl := Except.ok.inj h
      simp only [encodeArrayAccess, List.mem_map] at hrecord
      obtain ⟨m, _, rfl⟩ := hrecord
      rfl
  | pivots =>
      obtain rfl := Except.ok.inj h
      simp only [encodePivots, List.mem_map] at hrecord
      obtain ⟨m, _, rfl⟩ := hrecord
      rfl
  | groupByAll =>
      obtain rfl := Except.ok.inj h
      simp only [encodeGroupByAll, List.mem_map] at hrecord
      obtain ⟨m, _, rfl⟩ := hrecord
      rfl
  | casts =>
      obtain rfl := Except.ok.inj h
      obtain ⟨cast, rfl, _⟩ := expandCasts_castShorthand _ _ record hrecord
      rfl

theorem runStages_cons {stage : Stage} {rest : List Stage} {text : List Char} {encoded : Encoded}
    (h : runStages (stage :: rest) text = .ok encoded) :
    ∃ first later, stage.apply text = .ok first ∧ runStages rest first.text = .ok later ∧
      encoded = { text := later.text, records := first.records ++ later.records } := by
  rw [runStages] at h
  cases hfirst : stage.apply text with
  | error fault => simp [hfirst, bind, Except.bind] at h
  | ok first =>
      cases hlater : runStages rest first.text with
      | error fault => simp [hfirst, hlater, bind, Except.bind] at h
      | ok later =>
          simp only [hfirst, hlater, bind, Except.bind, pure, Except.pure, Except.ok.injEq] at h
          exact ⟨first, later, rfl, hlater, h.symm⟩

section

variable {α : Type} {f : Record → Option α} {stage : Stage}
  (hf : ∀ record x, f record = some x → record.stage = stage)
include hf

theorem apply_filterMap_eq_nil {other : Stage} {text : List Char} {encoded : Encoded}
    (hne : other ≠ stage) (h : other.apply text = .ok encoded) :
    encoded.records.filterMap f = [] := by
  rw [List.filterMap_eq_nil_iff]
  intro record hrecord
  refine Option.eq_none_iff_forall_ne_some.2 fun x hx => hne ?_
  rw [← Stage.apply_stage h record hrecord, hf record x hx]

theorem runStages_filterMap_eq_nil {list : List Stage} (hmem : stage ∉ list) {text : List Char}
    {encoded : Encoded} (h : runStages list text = .ok encoded) :
    encoded.records.filterMap f = [] := by
  induction list generalizing text encoded with
  | nil =>
      obtain rfl := Except.ok.inj h
      rfl
  | cons other rest ih =>
      obtain ⟨first, later, hfirst, hlater, rfl⟩ := runStages_cons h
      rw [List.mem_cons, not_or] at hmem
      rw [List.filterMap_append, apply_filterMap_eq_nil hf (Ne.symm hmem.1) hfirst,
        ih hmem.2 hlater, List.append_nil]

/-- The records of one kind are those of the one step that leaves them. -/
theorem runStages_filterMap {list : List Stage} (hnodup : list.Nodup) (hmem : stage ∈ list)
    {text : List Char} {encoded : Encoded} (h : runStages list text = .ok encoded) :
    ∃ before own, stage.apply before = .ok own ∧
      encoded.records.filterMap f = own.records.filterMap f := by
  induction list generalizing text encoded with
  | nil => simp at hmem
  | cons other rest ih =>
      obtain ⟨first, later, hfirst, hlater, rfl⟩ := runStages_cons h
      rw [List.nodup_cons] at hnodup
      by_cases hne : other = stage
      · subst hne
        refine ⟨text, first, hfirst, ?_⟩
        rw [List.filterMap_append, runStages_filterMap_eq_nil hf hnodup.1 hlater,
          List.append_nil]
      · obtain ⟨before, own, hown, heq⟩ :=
          ih hnodup.2 ((List.mem_cons.1 hmem).resolve_left (Ne.symm hne)) hlater
        refine ⟨before, own, hown, ?_⟩
        rw [List.filterMap_append, apply_filterMap_eq_nil hf hne hfirst, heq,
          List.nil_append]

theorem encode_filterMap (hmem : stage ∈ stages) {text : List Char} {encoded : Encoded}
    (h : encode text = .ok encoded) :
    ∃ before own, stage.apply before = .ok own ∧
      encoded.records.filterMap f = own.records.filterMap f :=
  runStages_filterMap hf (by decide) hmem h

end

/-! ## Tokens -/

/-- Numbers written between the same texts are told apart. -/
theorem numbered_nodup {α : Type} (front back : String) (xs : List α) :
    (xs.zipIdx.map fun entry => front ++ toString entry.2 ++ back).Nodup := by
  have hmap : (xs.zipIdx.map fun entry => front ++ toString entry.2 ++ back) =
      (xs.zipIdx.map Prod.snd).map fun number => front ++ toString number ++ back := by
    rw [List.map_map]
    rfl
  rw [hmap, List.zipIdx_map_snd]
  refine (List.nodup_range').map fun m n h => ?_
  have hrepr : toString m = toString n := by
    simpa [String.append_left_inj, String.append_right_inj] using h
  exact Nat.repr_inj.1 hrepr

/-- What restoring relies on in the records of a statement. -/
structure Shaped (records : List Record) : Prop where
  dynamicTables : (dynamicTables records).length ≤ 1
  groups : ((groupTokens records).map Prod.fst).Nodup
  pivots : ((pivots records).map fun entry => entry.1.token).Nodup
  casts : ∀ entry ∈ casts records, entry.1.token = castToken

theorem encode_dynamicTables {text : List Char} {encoded : Encoded}
    (h : encode text = .ok encoded) :
    (dynamicTables encoded.records).length ≤ 1 := by
  rw [← List.length_map (f := Prod.fst), dynamicTables_eq, map_fst_pick]
  obtain ⟨before, own, hown, heq⟩ := encode_filterMap Record.stage_of_dynamicTable? (by decide) h
  obtain rfl := Except.ok.inj hown
  refine heq ▸ (List.length_filterMap_le _ _).trans ?_
  rw [encodeDynamicTable]
  split <;> simp

theorem encode_groups {text : List Char} {encoded : Encoded} (h : encode text = .ok encoded) :
    ((groupTokens encoded.records).map Prod.fst).Nodup := by
  rw [groupTokens_eq, map_fst_pick]
  obtain ⟨before, own, hown, heq⟩ := encode_filterMap Record.stage_of_groupByAll? (by decide) h
  obtain rfl := Except.ok.inj hown
  have htokens : (encodeGroupByAll before).records.filterMap Record.groupByAll? =
      (groupByAll.findOutside before).zipIdx.map fun entry =>
        groupByAllMark ++ toString entry.2 ++ "__" := by
    rw [encodeGroupByAll, List.filterMap_map, ← List.filterMap_eq_map]
    rfl
  rw [heq, htokens]
  exact numbered_nodup groupByAllMark "__" (groupByAll.findOutside before)

theorem encode_pivots {text : List Char} {encoded : Encoded} (h : encode text = .ok encoded) :
    ((pivots encoded.records).map fun entry => entry.1.token).Nodup := by
  have hmap : ((pivots encoded.records).map fun entry => entry.1.token) =
      ((pivots encoded.records).map Prod.fst).map Pivot.token := by
    rw [List.map_map]
    rfl
  rw [hmap, pivots_eq, map_fst_pick]
  obtain ⟨before, own, hown, heq⟩ := encode_filterMap Record.stage_of_pivot? (by decide) h
  obtain rfl := Except.ok.inj hown
  have htokens : ((encodePivots before).records.filterMap Record.pivot?).map Pivot.token =
      (findPivots before).closed.zipIdx.map fun entry => pivotMark ++ toString entry.2 ++ "__" := by
    rw [encodePivots, List.map_filterMap, List.filterMap_map, List.filterMap_map,
      ← List.filterMap_eq_map]
    rfl
  rw [heq, htokens]
  exact numbered_nodup pivotMark "__" (findPivots before).closed

theorem encode_casts {text : List Char} {encoded : Encoded} (h : encode text = .ok encoded) :
    ∀ entry ∈ casts encoded.records, entry.1.token = castToken := by
  rintro ⟨cast, position⟩ hentry
  have hcast : cast ∈ (casts encoded.records).map Prod.fst := List.mem_map_of_mem hentry
  rw [casts_eq, map_fst_pick] at hcast
  obtain ⟨before, own, hown, heq⟩ := encode_filterMap Record.stage_of_castShorthand? (by decide) h
  obtain rfl := Except.ok.inj hown
  rw [heq, List.mem_filterMap] at hcast
  obtain ⟨record, hrecord, hx⟩ := hcast
  obtain ⟨other, rfl, htoken⟩ := expandCasts_castShorthand _ _ record hrecord
  obtain rfl := Option.some.inj hx
  exact htoken

/-- The records of an encoded statement have the shape that restoring relies on. -/
theorem encode_shaped {text : List Char} {encoded : Encoded} (h : encode text = .ok encoded) :
    Shaped encoded.records where
  dynamicTables := encode_dynamicTables h
  groups := encode_groups h
  pivots := encode_pivots h
  casts := encode_casts h

end SqlLayout.Placeholder
