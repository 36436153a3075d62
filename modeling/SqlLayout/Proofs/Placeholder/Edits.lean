import Mathlib
import SqlLayout.Placeholder.Encode
import SqlLayout.Proofs.Pattern.Reads
import SqlLayout.Proofs.Source.Outside
import SqlLayout.Proofs.Text.Letters

/-!
# Replacement steps and literals

Every step but the last takes its matches on the masked text and edits the text itself.  No match
begins or ends inside of a literal or a comment, and no replacement opens or closes one, so the mask
of what is kept stays as it is.

## Implementation notes

A pattern can stay outside of literals for two reasons.  It reads no quote and ends with a plain
character, which no literal shows before its closing quote; or it reads no quote from the start of
the text on.  Only the arguments of an indexed call and the properties of a dynamic table can hold
literals, and they stand between characters that no literal shows.
-/

namespace SqlLayout.Placeholder

open Pattern (Match Reads Captures slice splice)
open Source

/-! ## Patterns outside of literals -/

/-- The quotes. -/
def quotes : List Char := ['\x27', '\x22', '\x60']

/-- The characters that are not solid. -/
def unsolid : List Char := ['-', '*', '/', ' ', '\n'] ++ quotes

/-- Whether a pattern reads something, no quotes, a solid character first and a plain character
last. -/
def standsOutside (p : Pattern) : Bool :=
  p.moves && p.avoids quotes && p.avoidsFirst unsolid && p.avoidsLast ('_' :: unsolid)

theorem isQuote_of_not_mem {c : Char} (h : c ∉ quotes) : isQuote c = false := by
  simp_all [quotes, isQuote]

theorem isSolid_of_not_mem {c : Char} (h : c ∉ unsolid) : isSolid c = true := by
  simp_all [unsolid, quotes, isSolid, isInert, isQuote]

theorem isPlain_of_not_mem {c : Char} (h : c ∉ '_' :: unsolid) : isPlain c = true := by
  rw [List.mem_cons, not_or] at h
  simp [isPlain, isSolid_of_not_mem h.2, h.1]

section

variable {text : List Char} {p : Pattern} {i j : Nat} {c d : Captures}

theorem not_isQuote_of_avoids {shown : List Char} (h : Reads shown p i c j d)
    (hp : p.avoids quotes = true) : ∀ x ∈ slice shown i j, isQuote x = false :=
  fun x hx => isQuote_of_not_mem (h.avoids hp x hx)

/-- A pattern that ends with a plain character ends outside of literals. -/
theorem outside_of_last (h : Reads (mask text) p i c j d) (hmoves : p.moves = true)
    (hp : p.avoidsLast ('_' :: unsolid) = true) : Outside text j := by
  have hlt := h.lt hmoves
  obtain ⟨last, hj, hlast⟩ := (h.last hp).resolve_left (Nat.ne_of_lt hlt)
  have hplain := isPlain_of_not_mem hlast
  obtain ⟨-, -, hstop⟩ :=
    outside_of_shown hj (isSolid_of_plain hplain) (not_inLiteral_of_plain hj hplain)
  rwa [Nat.sub_add_cancel (by omega)] at hstop

/-- What such a pattern reads lies outside of literals, with both of its ends. -/
theorem outside_of_reads (h : Reads (mask text) p i c j d) (hp : standsOutside p = true) :
    Outside text i ∧ Outside text j ∧ ∀ k, i ≤ k → k < j → ¬ InLiteral .code (mask text) k := by
  simp only [standsOutside, Bool.and_eq_true] at hp
  obtain ⟨⟨⟨hmoves, hquotes⟩, hfirst⟩, hlast⟩ := hp
  have hlt := h.lt hmoves
  obtain ⟨first, hi, hsolid⟩ := (h.first hfirst).resolve_left (Nat.ne_of_lt hlt)
  obtain ⟨last, hj, hplain⟩ := (h.last hlast).resolve_left (Nat.ne_of_lt hlt)
  have hliteral : ∀ k, i ≤ k → k < j → ¬ InLiteral .code (mask text) k := by
    intro k hik hkj
    refine not_inLiteral_of_plain_after hj (isPlain_of_not_mem hplain) (by omega) fun x hx => ?_
    obtain ⟨offset, hk, hbefore, hget⟩ := Pattern.mem_slice_iff.1 hx
    exact not_isQuote_of_avoids h hquotes x
      (Pattern.mem_slice_iff.2 ⟨offset, by omega, by omega, hget⟩)
  obtain ⟨-, hstart, -⟩ :=
    outside_of_shown hi (isSolid_of_not_mem hsolid) (hliteral i (by omega) hlt)
  exact ⟨hstart, outside_of_last h hmoves hlast, hliteral⟩

/-- Where no literal is shown, what a pattern of solid characters reads on the mask is solid
text. -/
theorem solid_of_reads (h : Reads (mask text) p i c j d) (hp : p.avoids unsolid = true)
    (hliteral : ∀ k, i ≤ k → k < j → ¬ InLiteral .code (mask text) k) :
    ∀ x ∈ slice text i j, isSolid x = true := by
  intro x hx
  obtain ⟨offset, hi, hj, hget⟩ := Pattern.mem_slice_iff.1 hx
  have hlt : offset < (mask text).length := by
    rw [length_mask]
    exact (List.getElem?_eq_some_iff.1 hget).1
  have hshown := List.getElem?_eq_getElem hlt
  have hsolid := isSolid_of_not_mem (h.avoids hp _ (Pattern.mem_slice hi hj hshown))
  obtain ⟨htext, -⟩ := outside_of_shown hshown hsolid (hliteral offset hi hj)
  obtain rfl := Option.some.inj (hget.symm.trans htext)
  exact hsolid

/-- Where no literal is shown, what a pattern of solid characters reads on the mask is the text
itself. -/
theorem slice_of_reads (h : Reads (mask text) p i c j d) (hp : p.avoids unsolid = true)
    (hliteral : ∀ k, i ≤ k → k < j → ¬ InLiteral .code (mask text) k) (hj : j ≤ text.length) :
    slice text i j = slice (mask text) i j := by
  refine List.ext_getElem? fun offset => ?_
  rw [Pattern.getElem?_slice, Pattern.getElem?_slice]
  split
  · have hlt : i + offset < (mask text).length := by
      rw [length_mask]
      omega
    have hshown := List.getElem?_eq_getElem hlt
    have hsolid := isSolid_of_not_mem
      (h.avoids hp _ (Pattern.mem_slice (Nat.le_add_right i offset) (by omega) hshown))
    rw [hshown, (outside_of_shown hshown hsolid (hliteral _ (by omega) (by omega))).1]
  · rfl

/-- Whether all that a pattern captures under a group is solid. -/
def solidGroup (p : Pattern) (group : Nat) : Bool :=
  p.groups.all fun entry => entry.1 != group || entry.2.avoids unsolid

theorem solidGroup_of_all {p : Pattern}
    (h : (p.groups.all fun entry => entry.2.avoids unsolid) = true) (group : Nat) :
    solidGroup p group = true :=
  List.all_eq_true.2 fun entry hentry =>
    Bool.or_eq_true_iff.2 (.inr (List.all_eq_true.1 h entry hentry))

theorem solid_group {m : Match} (h : m.Of p (mask text)) (hp : standsOutside p = true) (group : Nat)
    (hgroup : solidGroup p group = true) : ∀ x ∈ m.group text group, isSolid x = true := by
  rw [Match.group]
  cases hspan : m.span? group with
  | none => simp
  | some span =>
      obtain ⟨a, before, after, hmem, hread, hstart, hstop⟩ := h.span hspan
      have havoids : a.avoids unsolid = true := by
        simpa using List.all_eq_true.1 hgroup _ hmem
      refine solid_of_reads hread havoids fun k hk hlt => ?_
      exact (outside_of_reads h.reads hp).2.2 k (by omega) (by omega)

/-- A group that captures solid text is shown as it is. -/
theorem group_shown {m : Match} (h : m.Of p (mask text)) (hp : standsOutside p = true) (group : Nat)
    (hgroup : solidGroup p group = true) : m.group text group = m.group (mask text) group := by
  rw [Match.group, Match.group]
  cases hspan : m.span? group with
  | none => rfl
  | some span =>
      obtain ⟨a, before, after, hmem, hread, hstart, hstop⟩ := h.span hspan
      have havoids : a.avoids unsolid = true := by
        simpa using List.all_eq_true.1 hgroup _ hmem
      have hend : m.stop ≤ text.length := length_mask text ▸ h.reads.le_length h.start_le
      refine slice_of_reads hread havoids (fun k hk hlt => ?_) (by omega)
      exact (outside_of_reads h.reads hp).2.2 k (by omega) (by omega)

end

/-! ## Inert parts -/

theorem inert_of_solid {text : List Char} (h : ∀ x ∈ text, isSolid x = true) : inert text = true :=
  List.all_eq_true.2 fun x hx => isInert_of_solid (h x hx)

theorem inert_toString (number : Nat) : inert (toString number).toList = true := by
  refine List.all_eq_true.2 fun x hx => ?_
  obtain ⟨hlow, hhigh⟩ := Text.code_of_toString number x hx
  simp only [isInert, isQuote, Bool.and_eq_true, Bool.not_eq_true', Bool.or_eq_false_iff,
    bne_iff_ne, beq_eq_false_iff_ne]
  refine ⟨⟨⟨⟨⟨?_, ?_⟩, ?_⟩, ?_⟩, ?_⟩, ?_⟩ <;> rintro rfl <;> revert hlow hhigh <;> decide

/-! ## The edits of a step -/

/-- The matches of a step, each with the text that takes its place.  Casts are expanded pass by pass
and are left out. -/
def Stage.edits (stage : Stage) (text : List Char) : List (Match × List Char) :=
  match stage with
  | .decimals =>
    (leadingDotDecimal.findOutside text).map fun m => (m, '0' :: '.' :: m.group text 1)
  | .dynamicTable =>
    ((dynamicTableHead.findOutside text).take 1).map fun m =>
      (m, (if (m.span? 1).isSome then "CREATE OR REPLACE VIEW " else "CREATE VIEW ").toList ++
        m.group text 2 ++ " AS".toList)
  | .replaceMarker =>
    ((createOrReplace.findOutside text).take 1).map fun m =>
      (m, "CREATE ".toList ++ Text.upper (m.group text 1))
  | .customTypes =>
    if (createTableHead.matchStart (mask text)).isNone then []
    else (customTypeColumn.findOutside text).filterMap fun m =>
      (readCustomType text m).toOption.map fun record => (m, record.standInText)
  | .arrayAccess =>
    (indexedCall.findOutside text).map fun m =>
      (m, (readArrayAccess text m).token.toList ++ '(' :: m.group text 2 ++ [')'])
  | .pivots =>
    (findPivots text).closed.zipIdx.map fun ((m, close), number) =>
      ({ m with stop := close + 1 }, (readPivot text number m close).token.toList)
  | .groupByAll =>
    (Placeholder.groupByAll.findOutside text).zipIdx.map fun (m, number) =>
      (m, "GROUP BY ".toList ++ (groupByAllToken number).toList)
  | .casts => []

/-- When every match has a record, the edits pair the matches with the records. -/
theorem zip_of_mapM {text : List Char} {found : List Match} {records : List CustomType}
    (h : found.mapM (readCustomType text) = .ok records) :
    (found.filterMap fun m => (readCustomType text m).toOption.map fun record =>
      (m, record.standInText)) = found.zip (records.map CustomType.standInText) := by
  induction found generalizing records with
  | nil => simp
  | cons m found ih =>
      rw [List.mapM_cons] at h
      cases hm : readCustomType text m with
      | error fault => simp [hm, bind, Except.bind] at h
      | ok record =>
          cases hrest : found.mapM (readCustomType text) with
          | error fault => simp [hm, hrest, bind, Except.bind] at h
          | ok rest =>
              obtain rfl : record :: rest = records := by
                simpa [hm, hrest, bind, Except.bind, pure, Except.pure] using h
              rw [List.filterMap_cons_some (b := (m, record.standInText)) (by rw [hm]; rfl),
                ih hrest]
              rfl

/-- A step that succeeds edits its matches. -/
theorem Stage.text_of_apply {stage : Stage} {text : List Char} {encoded : Encoded}
    (hstage : stage ≠ .casts) (h : stage.apply text = .ok encoded) :
    encoded.text = splice text 0 (stage.edits text) := by
  cases stage with
  | decimals =>
      obtain rfl := Except.ok.inj h
      rfl
  | dynamicTable =>
      obtain rfl := Except.ok.inj h
      rw [encodeDynamicTable, edits]
      cases dynamicTableHead.findOutside text <;> rfl
  | replaceMarker =>
      rw [apply, encodeReplaceMarker] at h
      rw [edits]
      cases hfound : createOrReplace.findOutside text with
      | nil =>
          rw [hfound] at h
          obtain rfl := Except.ok.inj h
          rfl
      | cons m rest =>
          simp only [hfound] at h
          split at h
          · cases h
          · obtain rfl := Except.ok.inj h
            rfl
  | customTypes =>
      rw [apply, encodeCustomTypes] at h
      rw [edits]
      split at h
      · next hhead =>
          obtain rfl := Except.ok.inj h
          rw [if_pos hhead]
          rfl
      · next hhead =>
          rw [if_neg hhead]
          cases hrecords : (customTypeColumn.findOutside text).mapM (readCustomType text) with
          | error fault => simp [hrecords, bind, Except.bind] at h
          | ok records =>
              obtain rfl : _ = encoded := by
                simpa [hrecords, bind, Except.bind, pure, Except.pure] using h
              rw [zip_of_mapM hrecords]
  | arrayAccess =>
      obtain rfl := Except.ok.inj h
      rfl
  | pivots =>
      obtain rfl := Except.ok.inj h
      simp [encodePivots, edits, Function.comp_def]
  | groupByAll =>
      obtain rfl := Except.ok.inj h
      rfl
  | casts => exact absurd rfl hstage

/-! ## Safe edits -/

section

variable {text : List Char}

/-- Edits of matches found in order are edits in order, if each match and each replacement is
safe. -/
theorem editsFrom_of_found {p : Pattern} {edits : List (Match × List Char)}
    (hfound : (edits.map Prod.fst).Sublist (p.findOutside text))
    (hsafe : ∀ edit ∈ edits, edit.1.Of p (mask text) → SafeEdit text edit) :
    EditsFrom text 0 edits where
  each := fun edit hedit =>
    have hmem : edit.1 ∈ p.findOutside text := hfound.subset (List.mem_map_of_mem hedit)
    ⟨hsafe edit hedit ((Pattern.inOrder_findAll p (mask text)).each edit.1 hmem).1, Nat.zero_le _⟩
  apart := List.pairwise_map.1 ((Pattern.inOrder_findAll p (mask text)).apart.sublist hfound)

/-- A match of a pattern that stands outside of literals can be replaced by anything that stands
alone. -/
theorem safeEdit_of_outside {p : Pattern} {edit : Match × List Char} (h : edit.1.Of p (mask text))
    (hp : standsOutside p = true) (hreplacement : Standalone edit.2) : SafeEdit text edit := by
  obtain ⟨hstart, hstop, -⟩ := outside_of_reads h.reads hp
  exact ⟨h.reads.le, hstart, hstop, hreplacement⟩

theorem editsFrom_decimals (text : List Char) : EditsFrom text 0 (Stage.decimals.edits text) := by
  refine editsFrom_of_found (p := leadingDotDecimal) (by simp [Stage.edits, Function.comp_def]) ?_
  intro edit hedit hof
  refine safeEdit_of_outside hof (by cbv) ?_
  obtain ⟨m, -, rfl⟩ := List.mem_map.1 hedit
  have hdigits := inert_of_solid (solid_group hof (by cbv) 1 (by cbv))
  refine standalone_of_inert (List.cons_ne_nil _ _) ?_
  rw [inert_cons, inert_cons]
  exact ⟨by decide, by decide, hdigits⟩

theorem editsFrom_groupByAll (text : List Char) :
    EditsFrom text 0 (Stage.groupByAll.edits text) := by
  refine editsFrom_of_found (p := groupByAll) ?_ ?_
  · rw [Stage.edits, List.map_map]
    exact (List.zipIdx_map_fst 0 _).symm ▸ List.Sublist.refl _
  intro edit hedit hof
  refine safeEdit_of_outside hof (by cbv) ?_
  obtain ⟨⟨m, number⟩, -, rfl⟩ := List.mem_map.1 hedit
  refine standalone_of_inert (by simp) ?_
  simp only [groupByAllToken, String.toList_append, inert_append]
  exact ⟨by decide, ⟨by decide, inert_toString number⟩, by decide⟩

theorem keyword_of_replacedKind {keyword : List Char} {kind : ReplacedKind}
    (h : replacedKind? keyword = some kind) : keyword = kind.keyword.toList := by
  unfold replacedKind? at h
  split at h
  · next heq =>
      obtain rfl := Option.some.inj h
      exact eq_of_beq heq
  · split at h
    · next heq =>
        obtain rfl := Option.some.inj h
        exact eq_of_beq heq
    · cases h

theorem editsFrom_replaceMarker {encoded : Encoded}
    (h : Stage.replaceMarker.apply text = .ok encoded) :
    EditsFrom text 0 (Stage.replaceMarker.edits text) := by
  refine editsFrom_of_found (p := createOrReplace)
    (by simp [Stage.edits, Function.comp_def, List.take_sublist]) ?_
  intro edit hedit hof
  refine safeEdit_of_outside hof (by cbv) ?_
  rw [Stage.apply, encodeReplaceMarker] at h
  rw [Stage.edits] at hedit
  cases hfound : createOrReplace.findOutside text with
  | nil => simp [hfound] at hedit
  | cons m rest =>
      simp only [hfound] at h
      split at h
      · cases h
      · next kind hkind =>
          obtain rfl : edit = (m, "CREATE ".toList ++ kind.keyword.toList) := by
            rw [← keyword_of_replacedKind hkind]
            simpa [hfound] using hedit
          refine standalone_of_inert (by simp) ?_
          cases kind <;> rfl

/-! ### Column types -/

theorem inert_of_lookup {keyword standIn : String} (h : standIns.lookup keyword = some standIn) :
    inert standIn.toList = true := by
  obtain ⟨front, back, hentries, -⟩ := List.lookup_eq_some_iff.1 h
  have hmem : (keyword, standIn) ∈ standIns := by simp [hentries]
  have hall : (standIns.all fun entry => inert entry.2.toList) = true := by decide
  exact List.all_eq_true.1 hall _ hmem

theorem standsOutside_customTypeColumn : standsOutside customTypeColumn = true := by cbv

theorem solidGroup_customTypeColumn (group : Nat) : solidGroup customTypeColumn group = true :=
  solidGroup_of_all (by cbv) group

theorem inert_groupText {m : Match} (hof : m.Of customTypeColumn (mask text)) {group : Nat}
    {found : String} (h : groupText? m text group = some found) : inert found.toList = true := by
  unfold groupText? at h
  dsimp only at h
  split at h
  · cases h
  · obtain rfl := Option.some.inj h
    rw [String.toList_ofList]
    exact inert_of_solid (solid_group hof standsOutside_customTypeColumn _
      (solidGroup_customTypeColumn group))

theorem inert_standInText {m : Match} (hof : m.Of customTypeColumn (mask text))
    {record : CustomType} (h : readCustomType text m = .ok record) :
    inert record.standInText = true := by
  unfold readCustomType at h
  dsimp only at h
  split at h
  · cases h
  · next standIn hlookup =>
      obtain rfl := Except.ok.inj h
      have hcolumn := inert_of_solid
        (solid_group hof standsOutside_customTypeColumn 1 (solidGroup_customTypeColumn 1))
      have hstandIn := inert_of_lookup hlookup
      simp only [CustomType.standInText, String.toList_append, String.toList_ofList, inert_append]
      refine ⟨⟨⟨hcolumn, by decide⟩, hstandIn⟩, ?_⟩
      split
      · rfl
      · next length hlength hscale =>
          have hnumber := inert_groupText hof hlength
          simp only [String.toList_append, inert_append]
          exact ⟨⟨by decide, hnumber⟩, by decide⟩
      · next length scale hlength hscale =>
          have hfirst := inert_groupText hof hlength
          have hsecond := inert_groupText hof hscale
          simp only [String.toList_append, inert_append]
          exact ⟨⟨⟨⟨by decide, hfirst⟩, by decide⟩, hsecond⟩, by decide⟩

theorem standalone_standInText {m : Match} (hof : m.Of customTypeColumn (mask text))
    {record : CustomType} (h : readCustomType text m = .ok record) :
    Standalone record.standInText :=
  standalone_of_inert (by simp [CustomType.standInText]) (inert_standInText hof h)

theorem sublist_of_filterMap {edit? : Match → Option (Match × List Char)}
    (h : ∀ m edit, edit? m = some edit → edit.1 = m) (found : List Match) :
    ((found.filterMap edit?).map Prod.fst).Sublist found := by
  induction found with
  | nil => simp
  | cons m found ih =>
      cases hm : edit? m with
      | none =>
          rw [List.filterMap_cons_none hm]
          exact ih.cons m
      | some edit =>
          rw [List.filterMap_cons_some hm, List.map_cons, h m edit hm]
          exact ih.cons_cons m

theorem editsFrom_customTypes (text : List Char) :
    EditsFrom text 0 (Stage.customTypes.edits text) := by
  rw [Stage.edits]
  split
  · exact ⟨by simp, .nil⟩
  · refine editsFrom_of_found (p := customTypeColumn) ?_ fun edit hedit hof => ?_
    · refine sublist_of_filterMap (fun m edit hedit => ?_) _
      obtain ⟨record, -, rfl⟩ := Option.map_eq_some_iff.1 hedit
      rfl
    · obtain ⟨m, -, hedit⟩ := List.mem_filterMap.1 hedit
      cases hrecord : readCustomType text m with
      | error fault => simp [hrecord, Except.toOption] at hedit
      | ok record =>
          obtain rfl : (m, record.standInText) = edit := by
            simpa [hrecord, Except.toOption] using hedit
          exact safeEdit_of_outside hof standsOutside_customTypeColumn
            (standalone_standInText hof hrecord)

/-! ### Indexed calls -/

/-- The name of an indexed call with its opening parenthesis. -/
def indexedName : List Pattern :=
  [.notAfter (fun c => Text.isWord c || c == '.'),
    .capture 1 (.seq (.one isNameStart) (.many (.one Text.isWord))), .char '(']

/-- The closing parenthesis of an indexed call with its index. -/
def indexedEnd : List Pattern :=
  [.char ')', .char '[', .capture 3 .digits, .char ']']

theorem reads_indexedName {c d : Captures} {i j : Nat}
    (h : Reads (mask text) (.all indexedName) i c j d) :
    ∃ a before, d = (1, i, a) :: before ∧ j = a + 1 ∧
      Reads (mask text) (.seq (.one isNameStart) (.many (.one Text.isWord))) i c a before := by
  obtain ⟨_, _, hbefore, h⟩ := Pattern.reads_all_cons.1 h
  obtain ⟨_, _, hcapture, h⟩ := Pattern.reads_all_cons.1 h
  obtain ⟨_, _, hopen, h⟩ := Pattern.reads_all_cons.1 h
  obtain ⟨rfl, rfl⟩ := Pattern.reads_all_nil.1 h
  cases hbefore
  cases hopen
  cases hcapture with
  | capture hname => exact ⟨_, _, rfl, rfl, hname⟩

/-- The arguments of an indexed call stand between two offsets outside of literals, right after its
name. -/
theorem indexedCall_parts {m : Match} (h : m.Of indexedCall (mask text)) :
    ∃ a b, m.span? 1 = some (m.start, a) ∧ m.span? 2 = some (a + 1, b) ∧ a + 1 ≤ b ∧
      (∀ x ∈ slice text m.start a, isSolid x = true) ∧ Outside text m.start ∧ Outside text (a + 1) ∧
      Outside text b ∧ Outside text m.stop := by
  obtain ⟨j, d, hfront, hrest⟩ :=
    (@Pattern.reads_all_append _ indexedName (.capture 2 (nestedText 1) :: indexedEnd) _ _ _ _).1
      h.reads
  obtain ⟨b, e, hargs, hback⟩ := Pattern.reads_all_cons.1 hrest
  obtain ⟨hstart, hopen, hliteral⟩ := outside_of_reads hfront (by cbv)
  obtain ⟨hclose, hstop, -⟩ := outside_of_reads hback (by cbv)
  obtain ⟨a, before, rfl, rfl, hname⟩ := reads_indexedName hfront
  cases hargs with
  | capture hargs =>
      refine ⟨a, b, ?_, ?_, hargs.le, ?_, hstart, hopen, hclose, hstop⟩
      · rw [Match.span?, hback.lookup_eq (by decide)]
        exact hargs.lookup_eq (by decide)
      · rw [Match.span?, hback.lookup_eq (by decide)]
        rfl
      · exact solid_of_reads hname (by cbv) fun k hk hlt => hliteral k hk (by omega)

/-- A call with arguments that are read alike by themselves stands alone. -/
theorem standalone_call {head args : List Char} (hhead : inert head = true)
    (hargs : modeAfter .code args = .code) : Standalone (head ++ '(' :: args ++ [')']) where
  code := by
    have hfront : (head ++ ['(']).getLast? = some '(' := by simp
    have hopen : inert (head ++ ['(']) = true := inert_append.2 ⟨hhead, by decide⟩
    have hback : modeAfter .code (args ++ [')']) = .code := by
      rw [modeAfter_append hargs]
      · rfl
      · rintro x - y hy
        obtain rfl := Option.some.inj hy
        exact joins_inert_right x (by decide)
    have hparts : head ++ '(' :: args ++ [')'] = head ++ ['('] ++ (args ++ [')']) := by simp
    rw [hparts, modeAfter_append (modeAfter_of_inert hopen) (apart_of_last hfront (by decide)),
      hback]
  first := by
    cases head with
    | nil => exact ⟨'(', rfl, by decide⟩
    | cons c rest => exact ⟨c, rfl, (inert_cons.1 hhead).1⟩
  last := ⟨')', List.getLast?_concat .., by decide⟩

theorem editsFrom_arrayAccess (text : List Char) :
    EditsFrom text 0 (Stage.arrayAccess.edits text) := by
  refine editsFrom_of_found (p := indexedCall) (by simp [Stage.edits, Function.comp_def]) ?_
  intro edit hedit hof
  obtain ⟨m, -, rfl⟩ := List.mem_map.1 hedit
  obtain ⟨a, b, hname, hargs, hle, hsolid, hstart, hopen, hclose, hstop⟩ := indexedCall_parts hof
  refine ⟨hof.reads.le, hstart, hstop, standalone_call ?_ ?_⟩
  · have hgroup : m.group text 1 = slice text m.start a := by simp [Match.group, hname]
    simp only [readArrayAccess, hgroup, String.toList_append, String.toList_ofList, inert_append]
    exact ⟨⟨⟨by decide, inert_toString _⟩, by decide⟩, inert_of_solid hsolid⟩
  · have hgroup : m.group text 2 = slice text (a + 1) b := by simp [Match.group, hargs]
    rw [hgroup]
    exact (hopen.scan_slice hclose hle).1

/-! ### Dynamic tables -/

/-- The head of a dynamic table before its name. -/
def dynamicTableStart : List Pattern :=
  [.atStart, .blanks, .word "CREATE", .blanks1,
    .optional (.capture 1 (.all [.word "OR", .blanks1, .word "REPLACE", .blanks1])),
    .word "DYNAMIC", .blanks1, .word "TABLE", .blanks1]

/-- The name of a dynamic table. -/
def dynamicTableName : Pattern :=
  .many1 (.one fun c => Text.isWord c || c == '.')

/-- The head of a dynamic table after its name. -/
def dynamicTableEnd : List Pattern :=
  [.capture 3 (.few (.one fun _ => true)), .wordEdge, .word "AS", .wordEdge]

theorem start_of_atStart {parts : List Pattern} {i j : Nat} {c d : Captures}
    (h : Reads text (.all (.atStart :: parts)) i c j d) : i = 0 := by
  obtain ⟨_, _, hstart, -⟩ := Pattern.reads_all_cons.1 h
  cases hstart
  rfl

/-- The head of a dynamic table reads no quote up to the end of the name. -/
theorem dynamicTableHead_parts {m : Match} (h : m.Of dynamicTableHead (mask text)) :
    Outside text m.start ∧ Outside text m.stop ∧ ∀ x ∈ m.group text 2, isSolid x = true := by
  obtain ⟨k, e, hfront, hback⟩ :=
    (@Pattern.reads_all_append _ (dynamicTableStart ++ [Pattern.capture 2 dynamicTableName])
      dynamicTableEnd _ _ _ _).1 h.reads
  have hzero : m.start = 0 := start_of_atStart hfront
  have hquotes := not_isQuote_of_avoids hfront (by cbv)
  obtain ⟨j, d, hstart, hrest⟩ := Pattern.reads_all_append.1 hfront
  obtain ⟨stop, captures, hcapture, hnil⟩ := Pattern.reads_all_cons.1 hrest
  obtain ⟨rfl, rfl⟩ := Pattern.reads_all_nil.1 hnil
  refine ⟨hzero ▸ outside_zero text, outside_of_last hback (by cbv) (by cbv), ?_⟩
  cases hcapture with
  | capture hname =>
      have hspan : m.span? 2 = some (j, stop) := by
        rw [Match.span?, hback.lookup_eq (by decide)]
        rfl
      rw [Match.group, hspan]
      refine solid_of_reads hname (by cbv) fun offset hj hk => ?_
      refine not_inLiteral_of_no_quote fun x hx => hquotes x ?_
      obtain ⟨place, hplace⟩ := List.mem_iff_getElem?.1 hx
      rw [List.getElem?_take] at hplace
      split at hplace
      · exact Pattern.mem_slice (by omega) (by omega) hplace
      · cases hplace

theorem editsFrom_dynamicTable (text : List Char) :
    EditsFrom text 0 (Stage.dynamicTable.edits text) := by
  refine editsFrom_of_found (p := dynamicTableHead)
    (by simp [Stage.edits, Function.comp_def, List.take_sublist]) ?_
  intro edit hedit hof
  obtain ⟨m, -, rfl⟩ := List.mem_map.1 hedit
  obtain ⟨hstart, hstop, hname⟩ := dynamicTableHead_parts hof
  refine ⟨hof.reads.le, hstart, hstop, standalone_of_inert (by simp) ?_⟩
  rw [inert_append, inert_append]
  refine ⟨⟨?_, inert_of_solid hname⟩, by decide⟩
  split <;> decide

/-! ### Pivot clauses -/

theorem close_of_closeFrom {shown : List Char} {depth : Int} {pos close : Nat}
    (h : closeFrom depth pos shown = some close) :
    pos ≤ close ∧ shown[close - pos]? = some ')' := by
  induction shown generalizing depth pos with
  | nil => cases h
  | cons c rest ih =>
      have hlater {depth : Int} (h : closeFrom depth (pos + 1) rest = some close) :
          pos ≤ close ∧ (c :: rest)[close - pos]? = some ')' := by
        obtain ⟨hle, hshown⟩ := ih h
        have hoffset : close - pos = close - (pos + 1) + 1 := by omega
        exact ⟨by omega, by rw [hoffset, List.getElem?_cons_succ, hshown]⟩
      rw [closeFrom] at h
      split at h
      · exact hlater h
      · split at h
        · next hparen =>
            split at h
            · obtain rfl := Option.some.inj h
              exact ⟨Nat.le_refl _, by simp [eq_of_beq hparen]⟩
            · exact hlater h
        · exact hlater h

theorem close_of_balanced {shown : List Char} {start close : Nat}
    (h : balancedClose shown start = some close) : start ≤ close ∧ shown[close]? = some ')' := by
  obtain ⟨hle, hclose⟩ := close_of_closeFrom h
  rw [List.getElem?_drop, Nat.add_sub_cancel' hle] at hclose
  exact ⟨hle, hclose⟩

/-- Closed pivot clauses are matches of the head that are closed, one after the other. -/
theorem pivotClauses_closed (shown : List Char) {found : List Match}
    (hfound : ∀ m ∈ found, m.start ≤ m.stop) (last : Nat) :
    (∀ clause ∈ (pivotClauses shown last found).closed, clause.1 ∈ found ∧ last ≤ clause.1.start ∧
      balancedClose shown (clause.1.stop - 1) = some clause.2) ∧
    (pivotClauses shown last found).closed.Pairwise fun a b => a.2 + 1 ≤ b.1.start := by
  induction found generalizing last with
  | nil => exact ⟨by simp [pivotClauses], .nil⟩
  | cons m rest ih =>
      obtain ⟨hm, hrest⟩ := List.forall_mem_cons.1 hfound
      rw [pivotClauses]
      split
      · obtain ⟨heach, hapart⟩ := ih hrest last
        exact ⟨fun clause h => (heach clause h).imp_left (List.mem_cons_of_mem m), hapart⟩
      · next hlast =>
          split
          · exact ⟨by simp, .nil⟩
          · next close hclose =>
              obtain ⟨heach, hapart⟩ := ih hrest (close + 1)
              have hbefore := (close_of_balanced hclose).1
              refine ⟨List.forall_mem_cons.2 ⟨⟨List.mem_cons_self, Nat.le_of_not_lt hlast, hclose⟩,
                ?_⟩, List.pairwise_cons.2 ⟨fun clause h => (heach clause h).2.1, hapart⟩⟩
              intro clause h
              obtain ⟨hmem, hle, hbalanced⟩ := heach clause h
              exact ⟨List.mem_cons_of_mem m hmem, by omega, hbalanced⟩

/-- A clause that is closed stands outside of literals with both of its ends. -/
theorem safeEdit_pivot {m : Match} {close number : Nat} (h : m.Of pivotHead (mask text))
    (hclose : balancedClose (mask text) (m.stop - 1) = some close) :
    SafeEdit text ({ m with stop := close + 1 }, (readPivot text number m close).token.toList) := by
  obtain ⟨hstart, -, -⟩ := outside_of_reads h.reads (by cbv)
  have hlt := h.reads.lt (by cbv)
  obtain ⟨hle, hparen⟩ := close_of_balanced hclose
  obtain ⟨-, -, hstop⟩ :=
    outside_of_shown hparen (by decide) (not_inLiteral_of_plain hparen (by decide))
  refine ⟨show m.start ≤ close + 1 by omega, hstart, hstop, standalone_of_inert ?_ ?_⟩
  · simp [readPivot, pivotMark]
  · simp only [readPivot, String.toList_append, inert_append]
    exact ⟨⟨by decide, inert_toString number⟩, by decide⟩

theorem editsFrom_pivots (text : List Char) : EditsFrom text 0 (Stage.pivots.edits text) := by
  have hfound := Pattern.inOrder_findAll pivotHead (mask text)
  obtain ⟨heach, hapart⟩ :=
    pivotClauses_closed (mask text) (fun m hm => (hfound.each m hm).1.reads.le) 0
  constructor
  · intro edit hedit
    obtain ⟨⟨⟨m, close⟩, number⟩, hmem, rfl⟩ := List.mem_map.1 hedit
    obtain ⟨hm, -, hclose⟩ := heach (m, close) (List.fst_mem_of_mem_zipIdx hmem)
    exact ⟨safeEdit_pivot (hfound.each m hm).1 hclose, Nat.zero_le _⟩
  · refine List.pairwise_map.2 ?_
    rw [← List.zipIdx_map_fst 0 (pivotClauses _ _ _).closed, List.pairwise_map] at hapart
    exact hapart

end

/-! ## Steps -/

/-- The edits of a step that succeeds replace spans outside of literals and comments, in order. -/
theorem Stage.editsFrom_edits {stage : Stage} {text : List Char} {encoded : Encoded}
    (h : stage.apply text = .ok encoded) : EditsFrom text 0 (stage.edits text) := by
  cases stage with
  | decimals => exact editsFrom_decimals text
  | dynamicTable => exact editsFrom_dynamicTable text
  | replaceMarker => exact editsFrom_replaceMarker h
  | customTypes => exact editsFrom_customTypes text
  | arrayAccess => exact editsFrom_arrayAccess text
  | pivots => exact editsFrom_pivots text
  | groupByAll => exact editsFrom_groupByAll text
  | casts => exact ⟨by simp [edits], .nil⟩

/-- A step other than the expansion of casts is safe for literals and comments.  Its edits cut the
text into what is kept and what is matched, in order, at offsets outside of literals and comments;
the mask of the result consists of the mask of what is kept and the masks of the replacements, and
at every offset that is kept the scanner is inside of the same thing before and after. -/
theorem Stage.apply_outside_literals {stage : Stage} {text : List Char} {encoded : Encoded}
    (hstage : stage ≠ .casts) (h : stage.apply text = .ok encoded) :
    encoded.text = splice text 0 (stage.edits text) ∧
    splice text 0 ((stage.edits text).map fun edit =>
      (edit.1, slice text edit.1.start edit.1.stop)) =
      text ∧
    ((stage.edits text).Pairwise fun a b => a.1.stop ≤ b.1.start) ∧
    (∀ edit ∈ stage.edits text,
      edit.1.start ≤ edit.1.stop ∧ Outside text edit.1.start ∧ Outside text edit.1.stop) ∧
    mask encoded.text =
      splice (mask text) 0 ((stage.edits text).map fun edit => (edit.1, mask edit.2)) ∧
    ∀ done next offset, stage.edits text = done ++ next → (∀ edit ∈ done, edit.1.stop ≤ offset) →
      (∀ edit ∈ next, offset ≤ edit.1.start) →
      splice (text.take offset) 0 done <+: encoded.text ∧
        modeAfter .code (splice (text.take offset) 0 done) =
          modeAfter .code (text.take offset) := by
  have hedits := editsFrom_edits h
  have htext := text_of_apply hstage h
  refine ⟨htext, splice_self hedits, hedits.apart, fun edit hedit => ?_, ?_, ?_⟩
  · obtain ⟨hsafe, -⟩ := hedits.each edit hedit
    exact ⟨hsafe.le, hsafe.start, hsafe.stop⟩
  · rw [htext]
    exact mask_splice (outside_zero text) hedits
  · intro done next offset hsplit hdone hnext
    rw [htext, hsplit]
    exact modeAfter_splice (outside_zero text) (hsplit ▸ hedits) (Nat.zero_le _) hdone hnext

/-- An indexed call with a literal that holds another one, before a comment that holds a third. -/
def indexedText : List Char :=
  "select f('a)[0]')[1] -- g(x)[2]".toList

/-- Only the call outside of the literal and the comment is edited. -/
theorem apply_outside_literals_indexed :
    (Stage.arrayAccess ≠ .casts ∧
      Stage.arrayAccess.apply indexedText = .ok (encodeArrayAccess indexedText)) ∧
    (Stage.arrayAccess.edits indexedText).map
        (fun edit => (edit.1.start, edit.1.stop, String.ofList edit.2)) =
      [(7, 20, "__ARRAYACCESS__1__f('a)[0]')")] ∧
    mask (encodeArrayAccess indexedText).text =
      splice (mask indexedText) 0 ((Stage.arrayAccess.edits indexedText).map fun edit =>
        (edit.1, mask edit.2)) := by
  obtain ⟨-, -, -, -, hmask, -⟩ :=
    Stage.apply_outside_literals (by decide : Stage.arrayAccess ≠ .casts)
      (rfl : Stage.arrayAccess.apply indexedText = .ok (encodeArrayAccess indexedText))
  exact ⟨⟨by decide, rfl⟩, by cbv, hmask⟩

end SqlLayout.Placeholder
