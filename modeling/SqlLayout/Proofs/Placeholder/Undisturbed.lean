import SqlLayout.Proofs.Placeholder.Marks
import SqlLayout.Proofs.Placeholder.Shape

/-!
# Placeholders that later steps leave alone

Every step that leaves a placeholder makes its token stand, and the steps after it leave the token
standing.  There are two exceptions.  A pivot clause is taken out with the tokens of the calls in
its group, and the type of a cast is repeated in upper case, token or not.

## Implementation notes

The casts of a statement are expanded last, in passes.  A pass replaces its casts safely as long as
their types end in statement text as they are repeated, so this is asked of all casts that are
recorded.  A type is told apart from its parameters by the matcher: a token that starts in a type
belongs to the longest word there.
-/

namespace SqlLayout.Placeholder

open Pattern (Captures Match Reads Takes placeAt slice spanEnd splice)
open Source

/-! ## The type of a cast -/

section

variable {shown text token : List Char} {m : Match} {i j colon : Nat}

/-- A type is read to the end of its first word, and then its parameters are. -/
theorem word_of_type (hm : m ∈ shorthandCast.findAll shown) (h : CastParts shown m colon) :
    ∃ c d, (∀ k, colon + 2 ≤ k → k < spanEnd shown Text.isWord (colon + 3) →
        ∃ x, shown[k]? = some x ∧ Text.isWord x = true) ∧
      Reads shown (.all [.optional (.all typeParameters)]) (spanEnd shown Text.isWord (colon + 3)) c
        m.stop d := by
  obtain ⟨found, hfound, hparts⟩ := Option.map_eq_some_iff.1 (Pattern.matchAt_of_mem hm)
  -- the matcher reads the parts before the type and goes on to the type
  have hcast : Pattern.run shown.length shorthandCast (placeAt shown m.start) []
    (fun place captures =>
      some (place.pos, captures)) = some found := hfound
  rw [show shorthandCast = .all (castFront ++ [.capture 2 castType]) from rfl,
    Pattern.run_all_append] at hcast
  obtain ⟨start, captures, hfront, htype⟩ := Pattern.follows_run _ hcast
  obtain ⟨-, other, rfl, rfl, -⟩ := reads_castFront.1 hfront
  -- then it reads a first letter, and the longest word behind it, since it can always go on from
  -- there
  have hname : Pattern.run shown.length (.one isNameStart) (placeAt shown (other + 2))
    [(1, m.start, other)]
      (fun place captures => Pattern.run shown.length (.many (.one Text.isWord)) place captures
        fun place captures =>
        Pattern.run shown.length (.all [.optional (.all typeParameters)]) place captures
          fun place captures =>
          some (place.pos, (2, other + 2, place.pos) :: captures)) = some found := htype
  obtain ⟨next, captures', hstart, hword⟩ := Pattern.follows_run _ hname
  obtain ⟨rfl, x, hfirst, hletter⟩ := Pattern.reads_one.1 hstart
  obtain rfl : next = other + 3 := hfirst.ends
  rw [Pattern.run_many_one (.inl (Pattern.isSome_orElse.2 (.inr rfl)))] at hword
  obtain ⟨stop, captures', hread, hlast⟩ := Pattern.follows_run _ hword
  obtain rfl := Option.some.inj hlast
  obtain rfl : m.stop = stop := congrArg Match.stop hparts.symm
  obtain rfl : other = colon := by
    have hspan := h.typeSpan
    rw [Match.span?, ← congrArg Match.captures hparts] at hspan
    have hstarts : other + 2 = colon + 2 := (Prod.mk.inj (Option.some.inj hspan)).1
    omega
  refine ⟨_, _, fun k hk hend => ?_, hread⟩
  obtain rfl | hlt := Nat.eq_or_lt_of_le hk
  · exact ⟨x, (Pattern.drop_eq_cons hfirst.starts).1, isWord_of_isNameStart hletter⟩
  · exact Pattern.exists_of_lt_spanEnd hlt hend

/-- A text that is shown as words is shown as it is. -/
theorem mask_of_words (h : ∀ c ∈ mask text, Text.isWord c = true) : mask text = text := by
  refine mask_of_inert ?_
  induction text with
  | nil => rfl
  | cons c rest ih =>
      have hinert (hc : Text.isWord c = true) : isInert c = true :=
        (inert_cons.1 (inert_of_isWord (List.forall_mem_singleton.2 hc))).1
      rw [mask] at h
      unfold maskFrom at h
      split at h
      · cases (List.forall_mem_cons.1 h).1
      · cases (List.forall_mem_cons.1 h).1
      · split at h
        · next hquote =>
            cases hquote.symm.trans (isQuote_of_inert (hinert (List.forall_mem_cons.1 h).1))
        · obtain ⟨hc, hrest⟩ := List.forall_mem_cons.1 h
          exact inert_cons.2 ⟨hinert hc, ih hrest⟩

/-- A token in a type stands in its first word. -/
theorem token_of_type (h : StandsAt text token i j) (htoken : IsToken token)
    (hm : m ∈ shorthandCast.findOutside text) (hparts : CastParts (mask text) m colon)
    (hi : colon + 2 ≤ i) (hstop : i < m.stop) : ∃ front back, (∀ c ∈ front, Text.isWord c = true) ∧
      m.group text 2 = front ++ token ++ back := by
  obtain ⟨c, d, hword, hread⟩ := word_of_type hm hparts
  obtain ⟨hend, houtside, -⟩ := hparts.colons
  -- no underscore stands among the parameters, so the token starts in the word and ends with it
  have hbefore := h.lt_or_le_of_reads htoken hread (by cbv)
  have hle : j ≤ spanEnd (mask text) Text.isWord (colon + 3) := by
    by_contra hlt
    obtain ⟨x, hx, hxword⟩ := h.getElem? htoken (by omega) (Nat.lt_of_not_le hlt)
    cases hxword.symm.trans (Pattern.head_spanEnd Text.isWord (colon + 3) x
      (by rwa [List.head?_drop]))
  have hstop := hread.le
  refine ⟨slice text (colon + 2) i, slice text j m.stop, ?_, ?_⟩
  · obtain ⟨-, hslice⟩ := houtside.scan_slice h.outside hi
    have hshown : ∀ c ∈ mask (slice text (colon + 2) i), Text.isWord c = true := by
      intro c hc
      rw [hslice] at hc
      obtain ⟨k, hk, hki, hget⟩ := Pattern.mem_slice_iff.1 hc
      obtain ⟨x, hx, hxword⟩ := hword k hk (by omega)
      obtain rfl := Option.some.inj (hget.symm.trans hx)
      exact hxword
    rwa [mask_of_words hshown] at hshown
  · rw [Match.group, hparts.typeSpan, ← h.takes.slice_eq, Pattern.slice_append_slice hi h.le,
      Pattern.slice_append_slice (hi.trans h.le) (hle.trans hstop)]

/-- The type of a cast is repeated with its tokens in upper case. -/
theorem typeText_of_token {front back : List Char} (htoken : IsToken token)
    (hfront : ∀ c ∈ front, Text.isWord c = true)
    (hgroup : m.group text 2 = front ++ token ++ back) :
    ∃ rest, (readCast text m).typeText.toList = Text.upper front ++ Text.upper token ++ rest := by
  have hkept {part : List Char} (hpart : ∀ c ∈ part, Text.isWord c = true) :
      part.filter (!Text.isBlank ·) = part :=
    List.filter_eq_self.2 fun c hc => by rw [not_isBlank_of_isWord (hpart c hc)]; rfl
  refine ⟨Text.upper (back.filter (!Text.isBlank ·)), ?_⟩
  rw [readCast, String.toList_ofList, hgroup, List.filter_append, List.filter_append, hkept hfront,
    hkept htoken.word, upper_append, upper_append]

/-- What stands before the operand of an expanded cast is statement text. -/
theorem code_of_head : modeAfter .code (castToken.toList ++ "(CAST(".toList) = .code :=
  modeAfter_of_inert (by decide)

/-- A token in the operand of a cast is repeated in statement text. -/
theorem expansion_of_operand (h : StandsAt text token i j)
    (hparts : CastParts (mask text) m colon) (hi : m.start ≤ i) (hj : j ≤ colon) :
    ∃ front back, (readCast text m).expansion = front ++ token ++ back ∧
      modeAfter .code front = .code := by
  have hgroup : m.group text 1 = slice text m.start i ++ token ++ slice text j colon := by
    rw [Match.group, hparts.operandSpan, ← h.takes.slice_eq, Pattern.slice_append_slice hi h.le,
      Pattern.slice_append_slice (hi.trans h.le) hj]
  refine ⟨castToken.toList ++ "(CAST(".toList ++ slice text m.start i,
    slice text j colon ++ (" AS ".toList ++ ((readCast text m).typeText.toList ++ [')', ')'])), ?_,
    ?_⟩
  · rw [expansion_eq, hgroup]
    simp only [List.append_assoc]
  · rw [modeAfter_append code_of_head (apart_of_last (x := '(') (by decide) (by decide))]
    exact (hparts.outside_start.scan_slice h.outside hi).1

/-- A token in the type of a cast is repeated in statement text, in upper case. -/
theorem expansion_of_type {front back : List Char} (htoken : IsToken token)
    (hparts : CastParts (mask text) m colon) (hfront : ∀ c ∈ front, Text.isWord c = true)
    (hgroup : m.group text 2 = front ++ token ++ back) :
    ∃ front back, (readCast text m).expansion = front ++ Text.upper token ++ back ∧
      modeAfter .code front = .code := by
  obtain ⟨rest, htype⟩ := typeText_of_token htoken hfront hgroup
  refine ⟨castToken.toList ++ "(CAST(".toList ++
    (m.group text 1 ++ (" AS ".toList ++ Text.upper front)), rest ++ [')', ')'], ?_, ?_⟩
  · rw [expansion_eq, htype]
    simp only [List.append_assoc]
  · have hinert : inert (" AS ".toList ++ Text.upper front) = true :=
      inert_append.2 ⟨by decide, inert_upper (inert_of_isWord hfront)⟩
    rw [modeAfter_append code_of_head (apart_of_last (x := '(') (by decide) (by decide)),
      modeAfter_append hparts.modeAfter_operand, modeAfter_of_inert hinert]
    rintro x - y hy
    obtain rfl : ' ' = y := Option.some.inj hy
    exact joins_inert_right x (by decide)

/-- A token stands on in a pass, as long as no type writes it in upper case. -/
theorem stands_expandOnce (h : Stands text token) (htoken : IsToken token)
    (hback : ∀ m ∈ shorthandCast.findOutside text, (readCast text m).ReadsBack)
    (hupper : Text.upper token = token ∨
      ∀ m ∈ shorthandCast.findOutside text,
      ¬ Text.upper token <:+: (readCast text m).typeText.toList) :
    Stands (expandOnce text).text token := by
  obtain ⟨i, j, h⟩ := h
  have hedits : EditsFrom text 0 (castEdits text) := by
    refine editsFrom_castEdits (.refl _) fun edit hedit => ?_
    obtain ⟨m, hm, rfl⟩ := List.mem_map.1 hedit
    exact hback m hm
  by_cases hapart : ∀ edit ∈ castEdits text, edit.1.stop ≤ i ∨ j ≤ edit.1.start
  · exact stands_splice hedits htoken h hapart
  push Not at hapart
  obtain ⟨edit, hedit, hstop, hstart⟩ := hapart
  obtain ⟨m, hm, rfl⟩ := List.mem_map.1 hedit
  dsimp only at hstop hstart
  suffices hheld : ∃ front back, (readCast text m).expansion = front ++ token ++ back ∧
    modeAfter .code front = .code by
    obtain ⟨front, back, hreplacement, hfront⟩ := hheld
    exact stands_replacement front back hedits hedit htoken hreplacement hfront
  obtain ⟨hof, -⟩ := (Pattern.inOrder_findAll shorthandCast (mask text)).each m hm
  obtain ⟨colon, hparts⟩ := cast_of hof
  have hfirst : m.start ≤ i ∨ j ≤ m.start := by
    obtain ⟨_, _, hbefore, -⟩ := Pattern.reads_all_cons.1 hof.reads
    exact h.le_or_le htoken (edge_of_notAfter hbefore fun y hy => by simp_all)
  have hlt := h.lt htoken
  have hcolon := h.lt_or_le htoken hparts.first (by decide)
  have hcolon' := h.lt_or_le htoken hparts.second (by decide)
  obtain hoperand | htype : j ≤ colon ∨ colon + 2 ≤ i := by omega
  · exact expansion_of_operand h hparts (by omega) hoperand
  · obtain ⟨front, back, hfront, hgroup⟩ := token_of_type h htoken hm hparts htype hstop
    obtain hself | hnever := hupper
    · have hexpansion := expansion_of_type htoken hparts hfront hgroup
      rwa [hself] at hexpansion
    · obtain ⟨rest, htext⟩ := typeText_of_token htoken hfront hgroup
      exact absurd ⟨Text.upper front, rest, htext.symm⟩ (hnever m hm)

/-- A token stands on while casts are expanded. -/
theorem Expands.stands {encoded : Encoded} (hexpands : Expands text encoded) (h : Stands text token)
    (htoken : IsToken token)
    (hback : ∀ cast, .castShorthand cast ∈ encoded.records → cast.ReadsBack)
    (hupper : Text.upper token = token ∨
      ∀ cast, .castShorthand cast ∈ encoded.records →
        ¬ Text.upper token <:+: cast.typeText.toList) :
    Stands encoded.text token := by
  induction hexpands with
  | done => exact h
  | @pass text rest _ _ ih =>
      have hpass {m : Match} (hm : m ∈ shorthandCast.findOutside text) :
          .castShorthand (readCast text m) ∈ (expandOnce text).records ++ rest.records :=
        List.mem_append_left _ (List.mem_map_of_mem hm)
      have hlater {cast : CastShorthand} (hcast : .castShorthand cast ∈ rest.records) :
          .castShorthand cast ∈ (expandOnce text).records ++ rest.records :=
        List.mem_append_right _ hcast
      refine ih ?_ (fun cast hcast => hback cast (hlater hcast))
        (hupper.imp_right fun hnever cast hcast =>
        hnever cast (hlater hcast))
      exact stands_expandOnce h htoken (fun m hm => hback _ (hpass hm))
        (hupper.imp_right fun hnever m hm => hnever _ (hpass hm))

end

/-! ## All steps -/

section

variable {text : List Char} {encoded : Encoded}

/-- Steps leave records of their own kinds only. -/
theorem runStages_stage {list : List Stage} (h : runStages list text = .ok encoded) :
    ∀ record ∈ encoded.records, record.stage ∈ list := by
  induction list generalizing text encoded with
  | nil =>
      obtain rfl := Except.ok.inj h
      simp
  | cons stage rest ih =>
      obtain ⟨first, later, hfirst, hlater, rfl⟩ := runStages_cons h
      refine List.forall_mem_append.2 ⟨fun record hrecord => ?_, fun record hrecord => ?_⟩
      · exact Stage.apply_stage hfirst record hrecord ▸ List.mem_cons_self
      · exact List.mem_cons_of_mem stage (ih hlater record hrecord)

theorem runStages_split {front back : List Stage}
    (h : runStages (front ++ back) text = .ok encoded) :
    ∃ first later, runStages front text = .ok first ∧ runStages back first.text = .ok later ∧
      encoded = { text := later.text, records := first.records ++ later.records } := by
  induction front generalizing text encoded with
  | nil => exact ⟨{ text := text }, encoded, rfl, h, rfl⟩
  | cons stage front ih =>
      obtain ⟨first, later, hfirst, hlater, rfl⟩ := runStages_cons h
      obtain ⟨mid, last, hmid, hlast, rfl⟩ := ih hlater
      refine ⟨{ text := mid.text, records := first.records ++ mid.records }, last, ?_, hlast, ?_⟩
      · rw [runStages, hfirst]
        simp [hmid, bind, Except.bind, pure, Except.pure]
      · simp

/-- The steps before indexed calls are folded. -/
def earlySteps : List Stage :=
  [.decimals, .dynamicTable, .replaceMarker, .customTypes]

theorem unmarked_early (h : Unmarked text) (hrun : runStages earlySteps text = .ok encoded) :
    Unmarked encoded.text := by
  obtain ⟨decimals, _, hdecimals, hrun₁, rfl⟩ := runStages_cons hrun
  obtain ⟨table, _, htable, hrun₂, rfl⟩ := runStages_cons hrun₁
  obtain ⟨marker, _, hmarker, hrun₃, rfl⟩ := runStages_cons hrun₂
  obtain ⟨types, _, htypes, hrun₄, rfl⟩ := runStages_cons hrun₃
  obtain rfl := Except.ok.inj hrun₄
  obtain rfl := Except.ok.inj hdecimals
  obtain rfl := Except.ok.inj htable
  have htext : Unmarked types.text :=
    unmarked_customTypes (unmarked_replaceMarker (unmarked_dynamicTable (unmarked_decimals h))
      hmarker) htypes
  exact htext

/-- What encoding comes to from a text on in which indexed calls are folded. -/
structure EncodedFrom (before : List Char) (encoded : Encoded) : Prop where
  text_eq : encoded.text =
    (encodeCasts (encodeGroupByAll (encodePivots (encodeArrayAccess before).text).text).text).text
  access : ∀ access, .arrayAccess access ∈ encoded.records ↔
    .arrayAccess access ∈ (encodeArrayAccess before).records
  pivot : ∀ pivot, .pivot pivot ∈ encoded.records ↔
    .pivot pivot ∈ (encodePivots (encodeArrayAccess before).text).records
  group : ∀ token, .groupByAll token ∈ encoded.records ↔
    .groupByAll token ∈ (encodeGroupByAll
      (encodePivots (encodeArrayAccess before).text).text).records
  cast : ∀ cast, .castShorthand cast ∈ encoded.records ↔ .castShorthand cast ∈
    (encodeCasts (encodeGroupByAll
      (encodePivots (encodeArrayAccess before).text).text).text).records

theorem exists_encodedFrom (h : encode text = .ok encoded) :
    ∃ before, (Unmarked text → Unmarked before) ∧ EncodedFrom before encoded := by
  have hstages : stages = earlySteps ++ [Stage.arrayAccess, .pivots, .groupByAll, .casts] := rfl
  rw [encode, hstages] at h
  obtain ⟨first, later, hfirst, hlater, rfl⟩ := runStages_split h
  obtain ⟨calls, _, hcalls, hlater₁, rfl⟩ := runStages_cons hlater
  obtain ⟨clauses, _, hclauses, hlater₂, rfl⟩ := runStages_cons hlater₁
  obtain ⟨groups, _, hgroups, hlater₃, rfl⟩ := runStages_cons hlater₂
  obtain ⟨casts, _, hcasts, hlater₄, rfl⟩ := runStages_cons hlater₃
  obtain rfl := Except.ok.inj hlater₄
  have hearly {record : Record} (hstage : record.stage ∉ earlySteps) : record ∉ first.records :=
    fun hmem => hstage (runStages_stage hfirst record hmem)
  have hother {stage : Stage} {text : List Char} {own : Encoded}
    (happly : stage.apply text = .ok own) {record : Record}
      (hstage : record.stage ≠ stage) : record ∉ own.records :=
    fun hmem => hstage (Stage.apply_stage happly record hmem)
  have hrecords {record : Record} (hstage : record.stage ∉ earlySteps) :
      record ∈ first.records ++
        (calls.records ++ (clauses.records ++ (groups.records ++ (casts.records ++ [])))) ↔
        record ∈ calls.records ∨ record ∈ clauses.records ∨ record ∈ groups.records ∨
          record ∈ casts.records := by
    simp [hearly hstage]
  obtain rfl := Except.ok.inj hcalls
  obtain rfl := Except.ok.inj hclauses
  obtain rfl := Except.ok.inj hgroups
  obtain rfl := Except.ok.inj hcasts
  refine ⟨first.text, fun hplain => unmarked_early hplain hfirst, ?_, fun access => ?_,
    fun pivot => ?_, fun token => ?_, fun cast => ?_⟩
  · dsimp only
  · have hstage : (Record.arrayAccess access).stage = .arrayAccess := rfl
    rw [hrecords (by rw [hstage]; decide)]
    simp [hother hclauses, hother hgroups, hother hcasts, hstage]
  · have hstage : (Record.pivot pivot).stage = .pivots := rfl
    rw [hrecords (by rw [hstage]; decide)]
    simp [hother hcalls, hother hgroups, hother hcasts, hstage]
  · have hstage : (Record.groupByAll token).stage = .groupByAll := rfl
    rw [hrecords (by rw [hstage]; decide)]
    simp [hother hcalls, hother hclauses, hother hcasts, hstage]
  · have hstage : (Record.castShorthand cast).stage = .casts := rfl
    rw [hrecords (by rw [hstage]; decide)]
    simp [hother hcalls, hother hclauses, hother hgroups, hstage]

/-- The token of every folded call has a mark. -/
theorem mark_of_access {before : List Char} {access : ArrayAccess}
    (h : .arrayAccess access ∈ (encodeArrayAccess before).records) :
    arrayAccessMark.toList <:+: access.token.toList := by
  obtain ⟨m, hm, heq⟩ := List.mem_map.1 h
  obtain rfl : readArrayAccess before m = access := by simpa using heq
  simp only [readArrayAccess, String.toList_append, List.append_assoc]
  exact (List.prefix_append _ _).isInfix

/-- Later steps leave the placeholders of earlier ones alone, as long as every type of a cast ends
in statement text as it is repeated.  The token of a pivot clause or a grouping then always stands
in the encoded text, and the token of a folded call does unless a pivot clause holds it or the type
of a cast writes it in upper case.  A clause of a text without marks has one exactly when it holds
the token of a folded call. -/
theorem placeholders_stand (h : encode text = .ok encoded) :
    ((∀ cast, .castShorthand cast ∈ encoded.records → cast.ReadsBack) →
      (∀ pivot, .pivot pivot ∈ encoded.records → Stands encoded.text pivot.token.toList) ∧
      (∀ token, .groupByAll token ∈ encoded.records → Stands encoded.text token.toList) ∧
      (∀ access, .arrayAccess access ∈ encoded.records →
        (∀ pivot, .pivot pivot ∈ encoded.records → ¬ access.token.toList <:+: pivot.clause.toList) →
        (Text.upper access.token.toList = access.token.toList ∨
          ∀ cast, .castShorthand cast ∈ encoded.records →
            ¬ Text.upper access.token.toList <:+: cast.typeText.toList) →
        Stands encoded.text access.token.toList)) ∧
    (Unmarked text → ∀ pivot, .pivot pivot ∈ encoded.records →
      (Unmarked pivot.clause.toList ↔
        ∀ access, .arrayAccess access ∈ encoded.records →
          ¬ access.token.toList <:+: pivot.clause.toList)) := by
  obtain ⟨before, hunmarked, hfrom⟩ := exists_encodedFrom h
  refine ⟨fun hback => ?_, fun hplain pivot hpivot => ?_⟩
  · have hcasts {token : List Char}
        (hstands : Stands (encodeGroupByAll
          (encodePivots (encodeArrayAccess before).text).text).text token)
        (htoken : IsToken token) (hupper : Text.upper token = token ∨
          ∀ cast, .castShorthand cast ∈ encoded.records →
            ¬ Text.upper token <:+: cast.typeText.toList) :
        Stands encoded.text token := by
      rw [hfrom.text_eq]
      exact (expands_expandCasts (Nat.le_refl _)).stands hstands htoken
        (fun cast hcast => hback cast ((hfrom.cast cast).2 hcast))
        (hupper.imp_right fun hnever cast hcast => hnever cast ((hfrom.cast cast).2 hcast))
    refine ⟨fun pivot hpivot => ?_, fun token htoken => ?_, fun access haccess hheld hupper => ?_⟩
    · obtain ⟨⟨number, heq⟩, hstands⟩ := stands_pivot ((hfrom.pivot pivot).1 hpivot)
      rw [heq] at hstands ⊢
      exact hcasts (stands_encodeGroupByAll hstands (isToken_pivot number)) (isToken_pivot number)
        (.inl (upper_numbered (by decide) number))
    · obtain ⟨⟨number, rfl⟩, hstands⟩ := stands_group ((hfrom.group token).1 htoken)
      exact hcasts hstands (isToken_group number) (.inl (upper_numbered (by decide) number))
    · have hfolded := (hfrom.access access).1 haccess
      have htoken := (edit_of_access hfolded).1
      refine hcasts (stands_encodeGroupByAll ?_ htoken) htoken hupper
      refine (stands_encodePivots (stands_access hfolded) htoken).resolve_right fun ⟨pivot, hpivot,
        hinside⟩ => ?_
      exact hheld pivot ((hfrom.pivot pivot).2 hpivot) hinside
  · constructor
    · intro hclause access haccess hinside
      have hmark := mark_of_access ((hfrom.access access).1 haccess)
      exact hclause _ List.mem_cons_self (hmark.trans hinside)
    · intro hheld mark hmark hinside
      obtain ⟨access, haccess, htoken⟩ :=
        token_of_clause (hunmarked hplain) ((hfrom.pivot pivot).1 hpivot) hmark hinside
      exact hheld access ((hfrom.access access).2 haccess) htoken

end

/-- A statement with an indexed call that is cast, a pivot clause and a grouping. -/
def mixedText : List Char :=
  "select f(a)[0]::int from t pivot(sum(x) for k in (1)) group by all".toList

/-- The records of the statement. -/
def mixedRecords : List Record :=
  [.arrayAccess { token := "__ARRAYACCESS__0__f", callText := "f(a)", index := 0 },
    .pivot { token := "__PIVOT_0__", clause := "PIVOT(sum(x) for k in (1))" },
    .groupByAll "__GROUP_BY_ALL_0__",
    .castShorthand { token := castToken, operand := "__ARRAYACCESS__0__f(a)", typeText := "INT" }]

theorem encode_mixedText : (encode mixedText).toOption.map Encoded.records = some mixedRecords := by
  decide +kernel

/-- All of its placeholders stand. -/
theorem placeholders_stand_mixed : ∃ encoded, encode mixedText = .ok encoded ∧
    (∀ cast, .castShorthand cast ∈ encoded.records → cast.ReadsBack) ∧
    Stands encoded.text "__PIVOT_0__".toList ∧ Stands encoded.text "__GROUP_BY_ALL_0__".toList ∧
    Stands encoded.text "__ARRAYACCESS__0__f".toList ∧
      Unmarked "PIVOT(sum(x) for k in (1))".toList := by
  obtain ⟨encoded, hencoded, hrecords⟩ : ∃ encoded, encode mixedText = .ok encoded ∧
      encoded.records = mixedRecords := by
    have hmap := encode_mixedText
    cases hencode : encode mixedText with
    | error fault => simp [hencode, Except.toOption] at hmap
    | ok encoded => exact ⟨encoded, rfl, by simpa [hencode, Except.toOption] using hmap⟩
  have hpivot {pivot : Pivot} (h : .pivot pivot ∈ encoded.records) :
      pivot = { token := "__PIVOT_0__", clause := "PIVOT(sum(x) for k in (1))" } := by
    simpa [hrecords, mixedRecords] using h
  have hcast {cast : CastShorthand} (h : .castShorthand cast ∈ encoded.records) :
      cast = { token := castToken, operand := "__ARRAYACCESS__0__f(a)", typeText := "INT" } := by
    simpa [hrecords, mixedRecords] using h
  have haccess {access : ArrayAccess} (h : .arrayAccess access ∈ encoded.records) :
      access = { token := "__ARRAYACCESS__0__f", callText := "f(a)", index := 0 } := by
    simpa [hrecords, mixedRecords] using h
  have hback : ∀ cast, .castShorthand cast ∈ encoded.records → cast.ReadsBack := by
    intro cast h
    obtain rfl := hcast h
    exact modeAfter_of_inert (by decide)
  obtain ⟨hstand, hclauses⟩ := placeholders_stand hencoded
  obtain ⟨hpivots, hgroups, haccesses⟩ := hstand hback
  refine ⟨encoded, hencoded, hback, ?_, ?_, ?_, ?_⟩
  · exact hpivots { token := "__PIVOT_0__", clause := "PIVOT(sum(x) for k in (1))" }
      (by simp [hrecords, mixedRecords])
  · exact hgroups "__GROUP_BY_ALL_0__" (by simp [hrecords, mixedRecords])
  · refine haccesses { token := "__ARRAYACCESS__0__f", callText := "f(a)", index := 0 }
      (by simp [hrecords, mixedRecords]) (fun pivot h => ?_) (.inr fun cast h => ?_)
    · obtain rfl := hpivot h
      decide
    · obtain rfl := hcast h
      decide
  · refine (hclauses (by decide +kernel)
      { token := "__PIVOT_0__", clause := "PIVOT(sum(x) for k in (1))" }
      (by simp [hrecords, mixedRecords])).2 fun access h => ?_
    obtain rfl := haccess h
    decide

/-- A statement with an indexed call in a pivot clause. -/
def swallowedText : List Char :=
  "select * from t pivot(sum(f(x)[0]) for k in (1))".toList

/-- The clause is taken out with the token of the call, which is nowhere left. -/
theorem clause_swallows_token : Unmarked swallowedText ∧
    (encode swallowedText).toOption.map
      (fun encoded => (String.ofList encoded.text, encoded.records)) =
      some ("select * from t __PIVOT_0__",
        [.arrayAccess { token := "__ARRAYACCESS__0__f", callText := "f(x)", index := 0 },
          .pivot { token := "__PIVOT_0__",
                   clause := "PIVOT(sum(__ARRAYACCESS__0__f(x)) for k in (1))" }]) ∧
    ¬ "__ARRAYACCESS__0__f".toList <:+: "select * from t __PIVOT_0__".toList ∧
    ¬ Unmarked "PIVOT(sum(__ARRAYACCESS__0__f(x)) for k in (1))".toList := by
  decide

end SqlLayout.Placeholder
