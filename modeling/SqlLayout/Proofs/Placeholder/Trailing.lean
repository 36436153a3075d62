import SqlLayout.Proofs.Pattern.Runs
import SqlLayout.Proofs.Placeholder.Edits

/-!
# What follows a statement

Blanks and semicolons after a statement do not change how it is encoded: every step finds the same
matches, makes the same records and leaves what follows the statement where it is.

## Implementation notes

No pattern of a step can end with a blank or a semicolon, and none can see one behind its end.  The
mask keeps blanks and semicolons blank or as they are, unless the statement ends inside of a
literal.  Only the expansion of casts can lead there, so for casts the literal is looked at by
itself: no colon is shown after its quote, and so no cast reaches its end.
-/

namespace SqlLayout.Placeholder

open Pattern (Match Reads Captures slice splice)
open Source

/-! ## Trailing characters -/

/-- The characters that may follow a statement: blanks and semicolons. -/
def isTrailing (c : Char) : Bool :=
  Text.isBlank c || c == ';'

/-- The trailing characters, one by one. -/
def trailingMarks : List Char :=
  ';' :: Text.blankRanges.flatMap fun range =>
    (List.range' range.1 (range.2 + 1 - range.1)).map Char.ofNat

theorem mem_trailingMarks {c : Char} (h : isTrailing c = true) : c ∈ trailingMarks := by
  obtain hblank | hsemicolon := Bool.or_eq_true_iff.1 h
  · obtain ⟨range, hrange, hfirst, hlast⟩ := Text.Ranges.has_iff.1 hblank
    refine List.mem_cons_of_mem _
      (List.mem_flatMap.2 ⟨range, hrange, List.mem_map.2 ⟨c.toNat, ?_, ?_⟩⟩)
    · rw [List.mem_range'_1]
      omega
    · exact Char.ofNat_toNat c
  · exact List.mem_cons.2 (.inl (eq_of_beq hsemicolon))

/-- A trailing character is inert and no backslash. -/
theorem inert_of_trailing {c : Char} (h : isTrailing c = true) : isInert c = true ∧ c ≠ '\\' := by
  have hall : (trailingMarks.all fun c => isInert c && c != '\\') = true := by cbv
  simpa using List.all_eq_true.1 hall c (mem_trailingMarks h)

theorem trailing_terminator : ∀ x ∈ [';'], isTrailing x = true := by
  simp [isTrailing]

section

variable {text tail : List Char}

theorem startsInert_of_trailing (htail : ∀ x ∈ tail, isTrailing x = true) :
    startsInert tail = true := by
  cases tail with
  | nil => rfl
  | cons y rest => exact startsInert_cons.2 (inert_of_trailing (htail y List.mem_cons_self))

/-- What follows a text is masked after it. -/
theorem scan_trailing (text : List Char) (htail : ∀ x ∈ tail, isTrailing x = true) :
    mask (text ++ tail) = mask text ++ maskFrom (modeAfter .code text) tail ∧
      modeAfter .code (text ++ tail) = modeAfter (modeAfter .code text) tail := by
  have hcuts : CutsAt .code text tail :=
    scan_append Mode.opened_code (.inr (startsInert_of_trailing htail)) fun x _ y hy =>
      joins_inert_right x (inert_of_trailing (htail y (List.mem_of_head? hy))).1
  exact ⟨hcuts.mask, hcuts.mode⟩

/-- Outside of literals what follows a text is shown as trailing. -/
theorem trailing_maskFrom {mode : Mode} (hmode : mode.isLiteral = false)
    (htail : ∀ x ∈ tail, isTrailing x = true) : ∀ x ∈ maskFrom mode tail, isTrailing x = true := by
  induction tail generalizing mode with
  | nil => simp [maskFrom]
  | cons c rest ih =>
      obtain ⟨hc, hrest⟩ := List.forall_mem_cons.1 htail
      have hblank : isTrailing (blankOut ' ' c) = true := by
        unfold blankOut
        split
        · exact hc
        · decide
      cases mode with
      | code =>
          rw [maskFrom_code_inert (inert_of_trailing hc).1]
          exact List.forall_mem_cons.2 ⟨hc, ih rfl hrest⟩
      | line =>
          rw [maskFrom]
          split
          · exact List.forall_mem_cons.2 ⟨hc, ih rfl hrest⟩
          · exact List.forall_mem_cons.2 ⟨by decide, ih rfl hrest⟩
      | block =>
          rw [maskFrom]
          · exact List.forall_mem_cons.2 ⟨hblank, ih rfl hrest⟩
          · rintro rest' rfl -
            exact absurd hc (by decide)
      | literal quote => cases hmode

/-- What follows a text closes no literal. -/
theorem literal_inside {quote c : Char} (hquote : isQuote quote = true) (hc : isTrailing c = true) :
    ¬(c == '\\' && quote == '\x27') = true ∧ ¬(c == quote) = true := by
  obtain ⟨hinert, hbackslash⟩ := inert_of_trailing hc
  refine ⟨by simp [hbackslash], fun heq => ?_⟩
  rw [eq_of_beq heq, isInert, hquote] at hinert
  cases hinert

/-- Inside of a literal nothing but fills is shown for what follows a text. -/
theorem fill_maskFrom {quote : Char} (hquote : isQuote quote = true)
    (htail : ∀ x ∈ tail, isTrailing x = true) :
    ∀ x ∈ maskFrom (.literal quote) tail, x ∈ ['_', '\n'] := by
  induction tail with
  | nil => simp [maskFrom]
  | cons c rest ih =>
      obtain ⟨hc, hrest⟩ := List.forall_mem_cons.1 htail
      obtain ⟨hescape, hclose⟩ := literal_inside hquote hc
      rw [maskFrom_literal_inside hescape hclose]
      refine List.forall_mem_cons.2 ⟨?_, ih hrest⟩
      unfold blankOut
      split
      · next hline => simp [eq_of_beq hline]
      · simp

theorem modeAfter_block (htail : ∀ x ∈ tail, isTrailing x = true) :
    modeAfter .block tail = .block := by
  induction tail with
  | nil => rfl
  | cons c rest ih =>
      obtain ⟨hc, hrest⟩ := List.forall_mem_cons.1 htail
      rw [modeAfter, ih hrest]
      rintro rest' rfl
      exact absurd hc (by decide)

theorem modeAfter_literal {quote : Char} (hquote : isQuote quote = true)
    (htail : ∀ x ∈ tail, isTrailing x = true) :
    modeAfter (.literal quote) tail = .literal quote := by
  induction tail with
  | nil => rfl
  | cons c rest ih =>
      obtain ⟨hc, hrest⟩ := List.forall_mem_cons.1 htail
      obtain ⟨hescape, hclose⟩ := literal_inside hquote hc
      rw [modeAfter_literal_inside hescape hclose, ih hrest]

/-! ## Matches -/

/-- Whether a pattern reads something, nothing trailing last, and cannot see what follows a text. -/
def ignoresTrailing (p : Pattern) : Bool :=
  p.steady trailingMarks && p.moves && p.avoidsLast trailingMarks

/-- The patterns of the steps. -/
def searched : List Pattern :=
  [leadingDotDecimal, dynamicTableHead, createOrReplace, createTableHead, customTypeColumn,
    indexedCall, pivotHead, groupByAll, shorthandCast]

theorem ignoresTrailing_searched {p : Pattern} (hp : p ∈ searched) :
    p.steady trailingMarks = true ∧ p.moves = true ∧ p.avoidsLast trailingMarks = true := by
  have hall : (searched.all ignoresTrailing) = true := by decide +kernel
  simpa [ignoresTrailing, and_assoc] using List.all_eq_true.1 hall p hp

/-- Nothing that such a pattern reads ends behind the text. -/
theorem le_of_searched {p : Pattern} (hp : p ∈ searched)
    (hmode : (modeAfter .code text).isLiteral = false) (htail : ∀ x ∈ tail, isTrailing x = true)
    {i j : Nat} {d : Captures}
    (h : Reads (mask text ++ maskFrom (modeAfter .code text) tail) p i [] j d) :
    j ≤ (mask text).length := by
  obtain ⟨-, hmoves, hlast⟩ := ignoresTrailing_searched hp
  refine (h.le_of_avoidsLast (fun x hx => ?_) hlast).resolve_left (Nat.ne_of_lt (h.lt hmoves))
  exact mem_trailingMarks (trailing_maskFrom hmode htail x hx)

theorem findOutside_append {p : Pattern} (hp : p ∈ searched)
    (hmode : (modeAfter .code text).isLiteral = false) (htail : ∀ x ∈ tail, isTrailing x = true) :
    p.findOutside (text ++ tail) = p.findOutside text := by
  obtain ⟨hsteady, hmoves, -⟩ := ignoresTrailing_searched hp
  rw [Pattern.findOutside, Pattern.findOutside, (scan_trailing text htail).1]
  exact Pattern.findAll_append
    (Pattern.unseen_of_steady (fun x hx => mem_trailingMarks (trailing_maskFrom hmode htail x hx))
      hsteady) hmoves
    fun i j d h => le_of_searched hp hmode htail h

theorem matchStart_append {p : Pattern} (hp : p ∈ searched)
    (hmode : (modeAfter .code text).isLiteral = false) (htail : ∀ x ∈ tail, isTrailing x = true) :
    p.matchStart (mask (text ++ tail)) = p.matchStart (mask text) := by
  obtain ⟨hsteady, -, -⟩ := ignoresTrailing_searched hp
  rw [(scan_trailing text htail).1]
  exact Pattern.matchAt_append
    (Pattern.unseen_of_steady (fun x hx => mem_trailingMarks (trailing_maskFrom hmode htail x hx))
      hsteady) (i := 0)
    (Nat.zero_le _) fun j d h => le_of_searched hp hmode htail h

theorem of_findOutside {p : Pattern} {m : Match} (h : m ∈ p.findOutside text) :
    m.Of p (mask text) ∧ m.start ≤ text.length ∧ m.stop ≤ text.length := by
  obtain ⟨hof, -⟩ := (Pattern.inOrder_findAll p (mask text)).each m h
  have hstart := hof.start_le
  have hstop := hof.reads.le_length hstart
  rw [length_mask] at hstart hstop
  exact ⟨hof, hstart, hstop⟩

/-- A group is read alike from a text, or its mask, and from a longer one. -/
theorem group_append_source {p : Pattern} {m : Match} (h : m ∈ p.findOutside text)
    {source : List Char} (hsource : text.length ≤ source.length) (after : List Char) (group : Nat) :
    m.group (source ++ after) group = m.group source group := by
  obtain ⟨hof, -, hstop⟩ := of_findOutside h
  rw [Match.group, Match.group]
  cases hspan : m.span? group with
  | none => rfl
  | some span =>
      obtain ⟨a, before, after, -, -, -, hend⟩ := hof.span hspan
      exact Pattern.slice_append _ (by omega)

theorem group_append {p : Pattern} {m : Match} (h : m ∈ p.findOutside text) (tail : List Char)
    (group : Nat) : m.group (text ++ tail) group = m.group text group :=
  group_append_source h (Nat.le_refl _) tail group

/-! ## Steps -/

/-- An encoded text with something after it. -/
def Encoded.followedBy (encoded : Encoded) (tail : List Char) : Encoded :=
  { encoded with text := encoded.text ++ tail }

theorem splice_found {p : Pattern} {edits : List (Match × List Char)}
    (h : ∀ edit ∈ edits, edit.1 ∈ p.findOutside text) (tail : List Char) :
    splice (text ++ tail) 0 edits = splice text 0 edits ++ tail :=
  Pattern.splice_append tail (Nat.zero_le _) fun edit hedit => (of_findOutside (h edit hedit)).2

theorem readCustomType_append {m : Match} (hm : m ∈ customTypeColumn.findOutside text) :
    readCustomType (text ++ tail) m = readCustomType text m := by
  simp only [readCustomType, groupText?, group_append hm]

theorem mapM_congr {ε α β : Type} {xs : List α} {f g : α → Except ε β} (h : ∀ x ∈ xs, f x = g x) :
    xs.mapM f = xs.mapM g := by
  induction xs with
  | nil => rfl
  | cons x rest ih =>
      obtain ⟨hx, hrest⟩ := List.forall_mem_cons.1 h
      rw [List.mapM_cons, List.mapM_cons, hx, ih hrest]

section

variable (hmode : (modeAfter .code text).isLiteral = false) (htail : ∀ x ∈ tail,
  isTrailing x = true)

include hmode htail

theorem normalizeDecimals_append :
    normalizeDecimals (text ++ tail) = normalizeDecimals text ++ tail := by
  have hedits : (leadingDotDecimal.findOutside text).map
        (fun m => (m, '0' :: '.' :: m.group (text ++ tail) 1)) =
      (leadingDotDecimal.findOutside text).map fun m => (m, '0' :: '.' :: m.group text 1) :=
    List.map_congr_left fun m hm => by rw [group_append hm]
  rw [normalizeDecimals, normalizeDecimals, findOutside_append (by simp [searched]) hmode htail,
    hedits]
  exact splice_found (p := leadingDotDecimal) (by simp) tail

theorem encodeDynamicTable_append :
    encodeDynamicTable (text ++ tail) = (encodeDynamicTable text).followedBy tail := by
  rw [encodeDynamicTable, encodeDynamicTable, findOutside_append (by simp [searched]) hmode htail]
  cases hfound : dynamicTableHead.findOutside text with
  | nil => rfl
  | cons m rest =>
      have hm : m ∈ dynamicTableHead.findOutside text := by simp [hfound]
      simp only [group_append hm, Encoded.followedBy]
      rw [splice_found (p := dynamicTableHead) (by simpa using hm)]

theorem encodeReplaceMarker_append :
    encodeReplaceMarker (text ++ tail) = (encodeReplaceMarker text).map (·.followedBy tail) := by
  rw [encodeReplaceMarker, encodeReplaceMarker, findOutside_append (by simp [searched]) hmode htail]
  cases hfound : createOrReplace.findOutside text with
  | nil => rfl
  | cons m rest =>
      have hm : m ∈ createOrReplace.findOutside text := by simp [hfound]
      simp only [group_append hm]
      split
      · rfl
      · rw [splice_found (p := createOrReplace) (by simpa using hm)]
        rfl

theorem encodeCustomTypes_append :
    encodeCustomTypes (text ++ tail) = (encodeCustomTypes text).map (·.followedBy tail) := by
  have hhead : createTableHead.matchStart (mask (text ++ tail)) =
      createTableHead.matchStart (mask text) :=
    matchStart_append (by simp [searched]) hmode htail
  have hrecords : (customTypeColumn.findOutside text).mapM (readCustomType (text ++ tail)) =
      (customTypeColumn.findOutside text).mapM (readCustomType text) :=
    mapM_congr fun m hm => readCustomType_append hm
  rw [encodeCustomTypes, encodeCustomTypes, hhead,
    findOutside_append (by simp [searched]) hmode htail]
  split
  · rfl
  · simp only [hrecords]
    cases (customTypeColumn.findOutside text).mapM (readCustomType text) with
    | error fault => rfl
    | ok records =>
        simp only [bind, Except.bind, pure, Except.pure]
        rw [splice_found (p := customTypeColumn)]
        · rfl
        · intro edit hedit
          exact (List.of_mem_zip hedit).1

theorem encodeArrayAccess_append :
    encodeArrayAccess (text ++ tail) = (encodeArrayAccess text).followedBy tail := by
  have hread (m : Match) (hm : m ∈ indexedCall.findOutside text) :
      readArrayAccess (text ++ tail) m = readArrayAccess text m := by
    simp only [readArrayAccess, group_append hm]
  have hedits : (indexedCall.findOutside text).map (fun m =>
        (m, (readArrayAccess (text ++ tail) m).token.toList ++
          '(' :: m.group (text ++ tail) 2 ++ [')'])) =
      (indexedCall.findOutside text).map fun m =>
        (m, (readArrayAccess text m).token.toList ++ '(' :: m.group text 2 ++ [')']) :=
    List.map_congr_left fun m hm => by rw [hread m hm, group_append hm]
  have hrecords : (indexedCall.findOutside text).map (fun m =>
        Record.arrayAccess (readArrayAccess (text ++ tail) m)) =
      (indexedCall.findOutside text).map fun m => .arrayAccess (readArrayAccess text m) :=
    List.map_congr_left fun m hm => by rw [hread m hm]
  simp only [encodeArrayAccess, findOutside_append (p := indexedCall) (by simp [searched])
    hmode htail, hedits, hrecords, Encoded.followedBy]
  rw [splice_found (p := indexedCall) (by simp)]

theorem encodeGroupByAll_append :
    encodeGroupByAll (text ++ tail) = (encodeGroupByAll text).followedBy tail := by
  simp only [encodeGroupByAll, findOutside_append (p := groupByAll) (by simp [searched])
    hmode htail, Encoded.followedBy]
  rw [splice_found (p := groupByAll)]
  intro edit hedit
  obtain ⟨⟨m, number⟩, hm, rfl⟩ := List.mem_map.1 hedit
  exact List.fst_mem_of_mem_zipIdx hm

end

/-! ### Pivot clauses -/

section

variable {shown after : List Char} (hafter : ∀ x ∈ after, x ≠ ')')

include hafter

theorem closeFrom_eq_none (depth : Int) (pos : Nat) : closeFrom depth pos after = none := by
  induction after generalizing depth pos with
  | nil => rfl
  | cons c rest ih =>
      obtain ⟨hc, hrest⟩ := List.forall_mem_cons.1 hafter
      simp [closeFrom, ih hrest, hc]

/-- No parenthesis is closed after a text without one that closes there. -/
theorem closeFrom_append (depth : Int) (pos : Nat) :
    closeFrom depth pos (shown ++ after) = closeFrom depth pos shown := by
  induction shown generalizing depth pos with
  | nil => exact closeFrom_eq_none hafter depth pos
  | cons c rest ih => simp only [List.cons_append, closeFrom, ih]

theorem pivotClauses_append {found : List Match} (hfound : ∀ m ∈ found, m.stop ≤ shown.length)
    (last : Nat) : pivotClauses (shown ++ after) last found = pivotClauses shown last found := by
  induction found generalizing last with
  | nil => rfl
  | cons m rest ih =>
      obtain ⟨hm, hrest⟩ := List.forall_mem_cons.1 hfound
      have hclose : balancedClose (shown ++ after) (m.stop - 1) =
          balancedClose shown (m.stop - 1) := by
        rw [balancedClose, balancedClose, List.drop_append_of_le_length (by omega),
          closeFrom_append hafter]
      simp only [pivotClauses, hclose, ih hrest]

end

section

variable (hmode : (modeAfter .code text).isLiteral = false) (htail : ∀ x ∈ tail,
  isTrailing x = true)

include hmode htail

theorem findPivots_append : findPivots (text ++ tail) = findPivots text := by
  rw [findPivots, findPivots, findOutside_append (by simp [searched]) hmode htail,
    (scan_trailing text htail).1]
  refine pivotClauses_append (fun x hx => ?_) (fun m hm => ?_) 0
  · rintro rfl
    exact absurd (trailing_maskFrom hmode htail _ hx) (by decide)
  · rw [length_mask]
    exact (of_findOutside hm).2.2

end

/-- A closed pivot clause ends in the text. -/
theorem le_of_closed {clause : Match × Nat} (h : clause ∈ (findPivots text).closed) :
    clause.1 ∈ pivotHead.findOutside text ∧ clause.2 + 1 ≤ text.length := by
  obtain ⟨heach, -⟩ := pivotClauses_closed (mask text)
    (fun m hm => (of_findOutside (p := pivotHead) hm).1.reads.le) 0
  obtain ⟨hmem, -, hclose⟩ := heach clause h
  refine ⟨hmem, ?_⟩
  have hlt := (List.getElem?_eq_some_iff.1 (close_of_balanced hclose).2).1
  rwa [length_mask] at hlt

theorem readPivot_append (htail : ∀ x ∈ tail, isTrailing x = true) {clause : Match × Nat}
    (h : clause ∈ (findPivots text).closed) (number : Nat) :
    readPivot (text ++ tail) number clause.1 clause.2 =
      readPivot text number clause.1 clause.2 := by
  obtain ⟨hm, hclose⟩ := le_of_closed h
  have hgroup : clause.1.group (mask (text ++ tail)) 1 = clause.1.group (mask text) 1 := by
    rw [(scan_trailing text htail).1]
    exact group_append_source hm (Nat.le_of_eq (length_mask text).symm) _ 1
  rw [readPivot, readPivot, hgroup, Pattern.slice_append tail hclose]

theorem encodePivots_append (hmode : (modeAfter .code text).isLiteral = false)
    (htail : ∀ x ∈ tail, isTrailing x = true) :
    encodePivots (text ++ tail) = (encodePivots text).followedBy tail := by
  simp only [encodePivots, findPivots_append hmode htail, Encoded.followedBy]
  rw [List.map_congr_left fun clause hclause => congrArg (clause.1.1, clause.1.2, ·)
    (readPivot_append htail (List.fst_mem_of_mem_zipIdx hclause) clause.2)]
  rw [Pattern.splice_append tail (Nat.zero_le _)]
  intro edit hedit
  obtain ⟨record, hrecord, rfl⟩ := List.mem_map.1 hedit
  obtain ⟨clause, hclause, rfl⟩ := List.mem_map.1 hrecord
  obtain ⟨hm, hclose⟩ := le_of_closed (List.fst_mem_of_mem_zipIdx hclause)
  exact ⟨(of_findOutside hm).2.1, hclose⟩

/-! ### Casts -/

/-- Without a quote the scanner gets into no literal. -/
theorem not_isLiteral_of_no_quote {mode : Mode} (hmode : mode.isLiteral = false)
    (h : ∀ x ∈ maskFrom mode text, isQuote x = false) :
    (modeAfter mode text).isLiteral = false := by
  fun_induction modeAfter mode text with
  | case1 mode => exact hmode
  | case2 rest ih => exact ih rfl (by simp_all [maskFrom])
  | case3 rest ih => exact ih rfl (by simp_all [maskFrom])
  | case4 c rest _ _ hquote ih =>
      rw [maskFrom_code_quote hquote, List.forall_mem_cons, hquote] at h
      cases h.1
  | case5 c rest hdash hslash hquote ih =>
      rw [maskFrom, if_neg hquote, List.forall_mem_cons] at h
      · exact ih rfl h.2
      · exact hdash
      · exact hslash
  | case6 c rest hline ih => exact ih rfl (by simp_all [maskFrom])
  | case7 c rest hline ih => exact ih rfl (by simp_all [maskFrom])
  | case8 rest ih => exact ih rfl (by simp_all [maskFrom])
  | case9 c rest hstar ih =>
      rw [maskFrom, List.forall_mem_cons] at h
      · exact ih rfl h.2
      · exact hstar
  | _ => cases hmode

/-- The two colons of a cast are statement text, and the type after them has no quote. -/
theorem cast_parts {i j : Nat} {d : Captures} {shown : List Char}
    (h : Reads shown shorthandCast i [] j d) :
    ∃ k, shown[k]? = some ':' ∧ k + 1 ≤ j ∧ ∀ x ∈ slice shown (k + 1) j, isQuote x = false := by
  obtain ⟨k, e, -, hrest⟩ :=
    (@Pattern.reads_all_append _
      [.notAfter (fun c => Text.isWord c || c == '$' || c == '.'), .capture 1 castOperand,
        .char ':']
      [.char ':', .capture 2 castType] _ _ _ _).1 h
  obtain ⟨_, _, hcolon, htype⟩ := Pattern.reads_all_cons.1 hrest
  cases hcolon with
  | one hk hcolon =>
      obtain rfl := eq_of_beq hcolon
      have hle := htype.le
      exact ⟨k, hk, hle, not_isQuote_of_avoids htype (by cbv)⟩

/-- A literal that is open at the end of a text was opened by a quote. -/
theorem exists_quote (hmode : (modeAfter .code text).isLiteral = true) :
    ∃ quote, modeAfter .code text = .literal quote ∧ isQuote quote = true := by
  have hopened : (modeAfter .code text).Opened := modeAfter_opened Mode.opened_code
  cases hafter : modeAfter .code text with
  | literal quote => exact ⟨quote, rfl, by rwa [hafter] at hopened⟩
  | _ =>
      rw [hafter] at hmode
      cases hmode

/-- Inside of a literal at the end of a text nothing but fills is shown for what follows. -/
theorem fill_of_isLiteral (htail : ∀ x ∈ tail, isTrailing x = true)
    (hmode : (modeAfter .code text).isLiteral = true) :
    ∀ x ∈ maskFrom (modeAfter .code text) tail, x ∈ ['_', '\n'] := by
  obtain ⟨quote, hafter, hquote⟩ := exists_quote hmode
  rw [hafter]
  exact fill_maskFrom hquote htail

/-- A text ends inside of a literal when it does so with what follows it. -/
theorem isLiteral_append (htail : ∀ x ∈ tail, isTrailing x = true)
    (hmode : (modeAfter .code (text ++ tail)).isLiteral = false) :
    (modeAfter .code text).isLiteral = false := by
  by_contra hliteral
  rw [Bool.not_eq_false] at hliteral
  obtain ⟨quote, hafter, hquote⟩ := exists_quote hliteral
  rw [(scan_trailing text htail).2, hafter, modeAfter_literal hquote htail] at hmode
  cases hmode

/-- No cast ends inside of a literal at the end of a text. -/
theorem le_of_reads_cast (htail : ∀ x ∈ tail, isTrailing x = true)
    (hmode : (modeAfter .code text).isLiteral = true) {i j : Nat} {d : Captures}
    (h : Reads (mask text ++ maskFrom (modeAfter .code text) tail) shorthandCast i [] j d) :
    j ≤ (mask text).length := by
  obtain ⟨k, hk, -, hquotes⟩ := cast_parts h
  by_contra hj
  have hcolon : (mask text)[k]? = some ':' := by
    by_cases hlt : k < (mask text).length
    · rwa [List.getElem?_append_left hlt] at hk
    · rw [List.getElem?_append_right (by omega)] at hk
      exact absurd (fill_of_isLiteral htail hmode _ (List.mem_of_getElem? hk)) (by decide)
  obtain ⟨-, -, houtside⟩ :=
    outside_of_shown hcolon (by decide) (not_inLiteral_of_plain hcolon (by decide))
  -- from the colons on the mask of the text has no quote, so the scanner gets into no literal
  have hnone : ∀ x ∈ mask (text.drop (k + 1)), isQuote x = false := by
    rw [houtside.mask_drop]
    intro x hx
    obtain ⟨offset, hoffset⟩ := List.mem_iff_getElem?.1 hx
    rw [List.getElem?_drop] at hoffset
    have hlt := (List.getElem?_eq_some_iff.1 hoffset).1
    refine hquotes x (Pattern.mem_slice (Nat.le_add_right _ offset) (by omega) ?_)
    rwa [List.getElem?_append_left hlt]
  have hnot : (modeAfter .code (text.drop (k + 1))).isLiteral = false :=
    not_isLiteral_of_no_quote rfl hnone
  rw [← houtside.modeAfter_eq, hmode] at hnot
  cases hnot

theorem findOutside_cast_append (htail : ∀ x ∈ tail, isTrailing x = true) :
    shorthandCast.findOutside (text ++ tail) = shorthandCast.findOutside text := by
  cases hmode : (modeAfter .code text).isLiteral with
  | false => exact findOutside_append (by simp [searched]) hmode htail
  | true =>
      rw [Pattern.findOutside, Pattern.findOutside, (scan_trailing text htail).1]
      exact Pattern.findAll_append (Pattern.unseen_of_steady (fill_of_isLiteral htail hmode)
        (by cbv))
        (by cbv) fun i j d h => le_of_reads_cast htail hmode h

theorem expandCasts_append (htail : ∀ x ∈ tail, isTrailing x = true) (passes : Nat) :
    expandCasts passes (text ++ tail) = (expandCasts passes text).followedBy tail := by
  induction passes generalizing text with
  | zero => rfl
  | succ passes ih =>
      rw [expandCasts, expandCasts, findOutside_cast_append htail]
      cases hfound : shorthandCast.findOutside text with
      | nil => rfl
      | cons m rest =>
          have hrecords : (m :: rest).map (readCast (text ++ tail)) =
              (m :: rest).map (readCast text) := by
            rw [← hfound]
            exact List.map_congr_left fun m hm => by simp only [readCast, group_append hm]
          simp only [hrecords]
          rw [splice_found (p := shorthandCast), ih]
          · rfl
          · intro edit hedit
            rw [hfound]
            exact (List.of_mem_zip hedit).1

theorem encodeCasts_append (htail : ∀ x ∈ tail, isTrailing x = true) :
    encodeCasts (text ++ tail) = (encodeCasts text).followedBy tail := by
  have hcount : tail.count ':' = 0 := by
    refine List.count_eq_zero.2 fun hmem => ?_
    exact absurd (htail _ hmem) (by decide)
  rw [encodeCasts, encodeCasts, List.count_append, hcount]
  exact expandCasts_append htail _

/-! ## Encoding -/

/-- A step does the same whatever follows the statement. -/
theorem Stage.apply_append {stage : Stage}
    (hmode : stage ≠ .casts → (modeAfter .code text).isLiteral = false)
    (htail : ∀ x ∈ tail, isTrailing x = true) :
    stage.apply (text ++ tail) = (stage.apply text).map (·.followedBy tail) := by
  cases stage with
  | decimals =>
      rw [apply, apply, normalizeDecimals_append (hmode (by decide)) htail]
      rfl
  | dynamicTable => exact congrArg _ (encodeDynamicTable_append (hmode (by decide)) htail)
  | replaceMarker => exact encodeReplaceMarker_append (hmode (by decide)) htail
  | customTypes => exact encodeCustomTypes_append (hmode (by decide)) htail
  | arrayAccess => exact congrArg _ (encodeArrayAccess_append (hmode (by decide)) htail)
  | pivots => exact congrArg _ (encodePivots_append (hmode (by decide)) htail)
  | groupByAll => exact congrArg _ (encodeGroupByAll_append (hmode (by decide)) htail)
  | casts => exact congrArg _ (encodeCasts_append htail)

/-- A step before the expansion of casts leaves the scanner where it was at the end of the
statement. -/
theorem Stage.modeAfter_apply {stage : Stage} {encoded : Encoded} (hstage : stage ≠ .casts)
    (h : stage.apply text = .ok encoded) :
    modeAfter .code encoded.text = modeAfter .code text := by
  have hedits : EditsFrom text 0 (stage.edits text ++ []) := by
    rw [List.append_nil]
    exact editsFrom_edits h
  have hend := (modeAfter_splice (outside_zero text) hedits (Nat.zero_le text.length)
    (fun edit hedit => ((editsFrom_edits h).each edit hedit).1.stop.le) (by simp)).2
  rwa [List.take_length, ← text_of_apply hstage h] at hend

theorem runStages_append {steps : List Stage} (hsteps : ∀ stage ∈ steps.dropLast, stage ≠ .casts)
    (hmode : (modeAfter .code text).isLiteral = false) (htail : ∀ x ∈ tail, isTrailing x = true) :
    runStages steps (text ++ tail) = (runStages steps text).map (·.followedBy tail) := by
  induction steps generalizing text with
  | nil => rfl
  | cons stage rest ih =>
      rw [runStages, runStages, Stage.apply_append (fun _ => hmode) htail]
      cases hfirst : stage.apply text with
      | error fault => rfl
      | ok first =>
          have hlater : runStages rest (first.text ++ tail) =
              (runStages rest first.text).map (·.followedBy tail) := by
            cases rest with
            | nil => rfl
            | cons next rest =>
                rw [List.dropLast_cons_of_ne_nil (List.cons_ne_nil next rest),
                  List.forall_mem_cons] at hsteps
                exact ih hsteps.2 ((congrArg _ (Stage.modeAfter_apply hsteps.1 hfirst)).trans hmode)
          simp only [Except.map, bind, Except.bind, Encoded.followedBy] at hlater ⊢
          rw [hlater]
          cases runStages rest first.text <;> rfl

/-- What follows a statement is left as it is by the encoding, and changes nothing else. -/
theorem encode_append (hmode : (modeAfter .code text).isLiteral = false)
    (htail : ∀ x ∈ tail, isTrailing x = true) :
    encode (text ++ tail) = (encode text).map (·.followedBy tail) :=
  runStages_append (by decide) hmode htail

end

end SqlLayout.Placeholder
