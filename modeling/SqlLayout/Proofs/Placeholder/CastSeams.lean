import SqlLayout.Proofs.Placeholder.Casts
import SqlLayout.Proofs.Source.Quotes

/-!
# Casts and literals

A cast begins and ends in statement text, and so does its operand, which is repeated as it is.  Its
type is repeated without blanks.  A comment in it that ended with its line then goes on behind the
type, and a literal or a comment can begin where a comment that has lost its blanks ends too early.
So what is kept by a pass is read as before exactly when each type, as it is repeated, ends in
statement text.

## Implementation notes

An operand can be a string literal, which starts with a quote.  That the quote opens the literal is
seen from its end, since two colons in statement text follow.  A type is looked at by itself, from
the colons before it on, where no quote is shown.
-/

namespace SqlLayout.Placeholder

open Pattern (Match Reads Captures slice splice)
open Source

/-! ## The ends of a cast -/

section

variable {text : List Char} {m : Match} {colon : Nat}

/-- A string that is followed by statement text starts in statement text. -/
theorem outside_of_string {c d : Captures} {i : Nat}
    (h : Reads (mask text) (.all castableString) i c colon d)
    (hcolon : Outside text colon) : Outside text i := by
  obtain ⟨_, _, hopen, hrest⟩ := Pattern.reads_all_cons.1 h
  obtain ⟨k, _, hinside, hrest⟩ := Pattern.reads_all_cons.1 hrest
  obtain ⟨_, _, hclose, hend⟩ := Pattern.reads_all_cons.1 hrest
  obtain ⟨rfl, -⟩ := Pattern.reads_all_nil.1 hend
  obtain ⟨-, part, hpart, hall⟩ := Pattern.reads_many_one.1 hinside
  cases hopen with
  | one hopen hquote =>
      cases hclose with
      | one hclose hquote' =>
          obtain rfl := eq_of_beq hquote
          obtain rfl := eq_of_beq hquote'
          have hle := hinside.le
          refine outside_of_literal hopen hclose (by omega) (by decide) (fun x hx => ?_) hcolon
          rw [hpart.slice_eq] at hx
          exact bne_iff_ne.1 (hall x hx)

/-- What is cast starts in statement text: it shows no quote up to its first parenthesis or up to
the colons behind it, or else it is a string. -/
theorem outside_of_operand {c d : Captures} {i : Nat}
    (h : Reads (mask text) castOperand i c colon d) (hfirst : (mask text)[colon]? = some ':')
    (hcolon : Outside text colon) : Outside text i := by
  have hbefore {p : Pattern} (hread : Reads (mask text) p i c colon d)
      (hp : standsOutside (.all [p, .char ':']) = true) : Outside text i :=
    (outside_of_reads (.seq hread (.seq (.one hfirst rfl) .empty)) hp).1
  obtain hcall | hgroup | hstring | hnumber | hname := reads_castOperand.1 h
  · obtain ⟨_, _, hhead, -⟩ :=
      (@Pattern.reads_all_append _ (castableCall.take 3) (castableCall.drop 3) _ _ _ _).1 hcall
    exact (outside_of_reads hhead (by cbv)).1
  · obtain ⟨_, _, hopen, -⟩ :=
      (@Pattern.reads_all_append _ [.char '('] (castableGroup.drop 1) _ _ _ _).1 hgroup
    exact (outside_of_reads hopen (by cbv)).1
  · exact outside_of_string hstring hcolon
  · exact hbefore hnumber (by cbv)
  · exact hbefore hname (by cbv)

/-- A type ends in statement text: from the colons before it on no quote is shown. -/
theorem outside_of_type {c d : Captures} {i j : Nat} (h : Reads (mask text) castType i c j d)
    (hi : Outside text i) :
    Outside text j := by
  have hquotes := not_isQuote_of_avoids h (by cbv)
  have hlt := h.lt (by decide)
  have hends : castType.avoidsLast unsolid = true := by cbv
  obtain ⟨last, hlast, hsolid⟩ := (h.last hends).resolve_left (Nat.ne_of_lt hlt)
  obtain ⟨k, rfl⟩ : ∃ k, j = i + k + 1 := ⟨j - i - 1, by omega⟩
  have hshown : (mask (text.drop i))[k]? = some last := by
    rw [hi.mask_drop, List.getElem?_drop]
    exact hlast
  have hnone : ¬ InLiteral .code (mask (text.drop i)) k := by
    refine not_inLiteral_of_no_quote fun x hx => hquotes x ?_
    rw [hi.mask_drop] at hx
    have hslice : slice (mask text) i (i + k + 1) = ((mask text).drop i).take (k + 1) := by
      rw [slice, Nat.add_assoc, Nat.add_sub_cancel_left]
    rw [hslice]
    exact (List.take_prefix_take_left (Nat.le_succ k)).subset hx
  obtain ⟨-, -, hafter⟩ := outside_of_shown hshown (isSolid_of_not_mem hsolid) hnone
  exact hi.of_drop hafter

namespace CastParts

theorem outside_start (h : CastParts (mask text) m colon) : Outside text m.start := by
  obtain ⟨_, _, hoperand⟩ := h.operand
  exact outside_of_operand hoperand h.first h.colons.1

theorem outside_stop (h : CastParts (mask text) m colon) : Outside text m.stop := by
  obtain ⟨_, _, htype⟩ := h.type
  exact outside_of_type htype h.colons.2.1

/-- What is cast is read alike by itself. -/
theorem modeAfter_operand (h : CastParts (mask text) m colon) :
    modeAfter .code (m.group text 1) = .code := by
  rw [Match.group, h.operandSpan]
  exact (h.outside_start.scan_slice h.colons.1 h.start_lt.le).1

end CastParts

/-! ## Types that are read back -/

theorem modeAfter_parens {mode : Mode} (hmode : mode.Opened) :
    modeAfter mode [')', ')'] = mode := by
  cases mode with
  | literal quote =>
      have hne : (')' == quote) = false := by
        refine beq_eq_false_iff_ne.2 ?_
        rintro rfl
        cases hmode
      simp [modeAfter, hne]
  | _ => rfl

theorem expansion_eq (text : List Char) (m : Match) :
    (readCast text m).expansion = (castToken.toList ++ "(CAST(".toList) ++
      (m.group text 1 ++ (" AS ".toList ++ ((readCast text m).typeText.toList ++ [')', ')']))) := by
  simp [CastShorthand.expansion, readCast]

/-- The call that takes the place of a cast ends inside of the same thing as its type. -/
theorem modeAfter_expansion (h : CastParts (mask text) m colon) :
    modeAfter .code (readCast text m).expansion =
      modeAfter .code (readCast text m).typeText.toList := by
  have hhead : inert (castToken.toList ++ "(CAST(".toList) = true := by decide
  have hmiddle : inert " AS ".toList = true := by decide
  have hright {y : Char} (hy : isInert y = true) {front back : List Char}
    (hback : back.head? = some y) :
      ∀ a ∈ front.getLast?, ∀ b ∈ back.head?, joins a b = false := by
    rintro a - b hb
    obtain rfl : y = b := Option.some.inj (hback.symm.trans hb)
    exact joins_inert_right a hy
  have htail : modeAfter .code ((readCast text m).typeText.toList ++ [')', ')']) =
      modeAfter (modeAfter .code (readCast text m).typeText.toList) [')', ')'] :=
    (scan_append Mode.opened_code (.inr (by decide)) (hright (y := ')') (by decide) rfl)).mode
  rw [expansion_eq, modeAfter_append (modeAfter_of_inert hhead)
    (apart_of_last (x := '(') (by decide) (by decide)),
    modeAfter_append h.modeAfter_operand (hright (y := ' ') (by decide) rfl),
    modeAfter_append (modeAfter_of_inert hmiddle)
      (apart_of_last (x := ' ') (by decide) (by decide)), htail,
    modeAfter_parens (modeAfter_opened Mode.opened_code)]

theorem ends_expansion (text : List Char) (m : Match) :
    (∃ y, (readCast text m).expansion.head? = some y ∧ isInert y = true) ∧
      ∃ x, (readCast text m).expansion.getLast? = some x ∧ isInert x = true := by
  refine ⟨⟨'_', ?_, by decide⟩, ⟨')', ?_, by decide⟩⟩
  · rw [expansion_eq]
    rfl
  · rw [expansion_eq]
    simp only [List.getLast?_append]
    rfl

/-- Whether a type ends in statement text as it is repeated. -/
def CastShorthand.ReadsBack (record : CastShorthand) : Prop :=
  modeAfter .code record.typeText.toList = .code

theorem standalone_expansion (hof : m.Of shorthandCast (mask text)) :
    Standalone (readCast text m).expansion ↔ (readCast text m).ReadsBack := by
  obtain ⟨colon, hparts⟩ := cast_of hof
  have hmode := modeAfter_expansion hparts
  obtain ⟨hfirst, hlast⟩ := ends_expansion text m
  exact ⟨fun h => hmode.symm.trans h.code, fun h => ⟨hmode.trans h, hfirst, hlast⟩⟩

theorem inert_upper {part : List Char} (h : inert part = true) :
    inert (Text.upper part) = true := by
  refine List.all_eq_true.2 (Text.forall_mem_upper (fun d hd => ?_) (List.all_eq_true.1 h))
  have hmarks := hd.unmarked
  simp only [Text.marks, List.mem_cons, not_or] at hmarks
  simp [isInert, isQuote, hmarks]

/-- A type in which no comment is shown is read back, whatever lines it is written in. -/
theorem readsBack_of_shown (hof : m.Of shorthandCast (mask text))
    (h : m.group (mask text) 2 = m.group text 2) :
    (readCast text m).ReadsBack := by
  obtain ⟨colon, hparts⟩ := cast_of hof
  obtain ⟨_, _, htype⟩ := hparts.type
  have hgroup : m.group text 2 = slice (mask text) (colon + 2) m.stop := by
    rw [← h, Match.group, hparts.typeSpan]
  have hinert : inert (m.group text 2) = true := by
    rw [hgroup]
    refine List.all_eq_true.2 fun x hx => ?_
    have havoids : castType.avoids (['-', '*', '/'] ++ quotes) = true := by cbv
    have hmarks := htype.avoids havoids x hx
    simp only [quotes, List.mem_append, List.mem_cons, not_or] at hmarks
    simp [isInert, isQuote, hmarks]
  have hkept : inert ((m.group text 2).filter (!Text.isBlank ·)) = true :=
    List.all_eq_true.2 fun x hx => List.all_eq_true.1 hinert x (List.mem_filter.1 hx).1
  rw [CastShorthand.ReadsBack, readCast]
  simp only [String.toList_ofList]
  exact modeAfter_of_inert (inert_upper hkept)

end

/-! ## What a pass keeps -/

section

variable {text : List Char}

theorem mem_castEdits {m : Match} (h : m ∈ shorthandCast.findOutside text) :
    (m, (readCast text m).expansion) ∈ castEdits text :=
  List.mem_map_of_mem h

theorem of_mem_castEdits {edit : Match × List Char} (h : edit ∈ castEdits text) :
    edit.1.Of shorthandCast (mask text) ∧ edit.2 = (readCast text edit.1).expansion ∧
      edit.1.start ≤ edit.1.stop ∧ Outside text edit.1.start ∧ Outside text edit.1.stop := by
  obtain ⟨m, hm, rfl⟩ := List.mem_map.1 h
  obtain ⟨hof, -⟩ := (Pattern.inOrder_findAll shorthandCast (mask text)).each m hm
  obtain ⟨colon, hparts⟩ := cast_of hof
  dsimp only
  exact ⟨hof, rfl, hof.reads.le, hparts.outside_start, hparts.outside_stop⟩

theorem pairwise_castEdits (text : List Char) :
    (castEdits text).Pairwise fun a b => a.1.stop ≤ b.1.start :=
  List.pairwise_map.2 (Pattern.inOrder_findAll shorthandCast (mask text)).apart

/-- Casts are replaced safely as long as their types are read back. -/
theorem editsFrom_castEdits {done : List (Match × List Char)}
    (hdone : done.Sublist (castEdits text)) (h : ∀ edit ∈ done, (readCast text edit.1).ReadsBack) :
    EditsFrom text 0 done where
  each := fun edit hedit => by
    obtain ⟨hof, htext, hle, hstart, hstop⟩ := of_mem_castEdits (hdone.subset hedit)
    exact ⟨⟨hle, hstart, hstop, htext ▸ (standalone_expansion hof).2 (h edit hedit)⟩, Nat.zero_le _⟩
  apart := (pairwise_castEdits text).sublist hdone

/-- The last of several replacements follows what the others make of the text before it. -/
theorem splice_concat {last : Nat} {done : List (Match × List Char)} {edit : Match × List Char}
    (hdone : ∀ earlier ∈ done, earlier.1.start ≤ edit.1.start) :
    splice text last (done ++ [edit]) =
      splice (text.take edit.1.start) last done ++ edit.2 ++ text.drop edit.1.stop := by
  induction done generalizing last with
  | nil => simp [splice, slice, List.drop_take]
  | cons earlier done ih =>
      obtain ⟨hearlier, hrest⟩ := List.forall_mem_cons.1 hdone
      rw [List.cons_append, splice, splice, ih hrest, slice_take hearlier]
      simp only [List.append_assoc]

/-- When a pass leaves every kept offset inside of what it was in, all types are read back: the
first one that is not would leave the offset behind its cast in a comment or a literal. -/
theorem readsBack_of_modes (h : ∀ done next offset, castEdits text = done ++ next →
      (∀ edit ∈ done, edit.1.stop ≤ offset) → (∀ edit ∈ next, offset ≤ edit.1.start) →
      modeAfter .code (splice (text.take offset) 0 done) = modeAfter .code (text.take offset))
    {done next : List (Match × List Char)} (hsplit : castEdits text = done ++ next) :
    ∀ edit ∈ done, (readCast text edit.1).ReadsBack := by
  induction done using List.reverseRecOn generalizing next with
  | nil => simp
  | append_singleton done edit ih =>
      rw [List.append_assoc] at hsplit
      have hearlier := ih hsplit
      have hmem : edit ∈ castEdits text := by simp [hsplit]
      obtain ⟨hof, htext, hle, hstart, hstop⟩ := of_mem_castEdits hmem
      have hapart := pairwise_castEdits text
      rw [hsplit, List.pairwise_append] at hapart
      obtain ⟨-, hlater, hbefore⟩ := hapart
      have hends : ∀ earlier ∈ done, earlier.1.stop ≤ edit.1.start :=
        fun earlier hmem => hbefore earlier hmem edit (by simp)
      have hkept : modeAfter .code (splice (text.take edit.1.start) 0 done) = .code := by
        have hsafe : EditsFrom text 0 (done ++ []) := by
          rw [List.append_nil]
          exact editsFrom_castEdits (hsplit ▸ List.sublist_append_left done _) hearlier
        exact (modeAfter_splice (outside_zero text) hsafe (Nat.zero_le _) hends (by simp)).2.trans
          hstart.code
      have hcode := h (done ++ [edit]) next edit.1.stop (by simpa using hsplit)
        (by
          refine List.forall_mem_append.2 ⟨fun earlier hmem => (hends earlier hmem).trans hle, ?_⟩
          simp)
        (List.pairwise_cons.1 hlater).1
      have hstarts : ∀ earlier ∈ done, earlier.1.start ≤ edit.1.start := fun earlier hmem => by
        have hearlier : earlier ∈ castEdits text := by simp [hsplit, hmem]
        exact (of_mem_castEdits hearlier).2.2.1.trans (hends earlier hmem)
      rw [splice_concat hstarts, List.take_take, Nat.min_eq_left hle, List.drop_take, Nat.sub_self,
        List.take_zero, List.append_nil, hstop.code, modeAfter_append hkept] at hcode
      · refine List.forall_mem_append.2 ⟨hearlier, List.forall_mem_singleton.2 ?_⟩
        obtain ⟨colon, hparts⟩ := cast_of hof
        rw [htext, modeAfter_expansion hparts] at hcode
        exact hcode
      · rintro x - y hy
        obtain ⟨⟨z, hz, hinert⟩, -⟩ := ends_expansion text edit.1
        obtain rfl : z = y := Option.some.inj (hz.symm.trans (htext ▸ hy))
        exact joins_inert_right x hinert

/-- A pass of the expansion cuts the text into what it keeps and the casts it replaces, at offsets
outside of literals and comments.  Every kept offset is inside of the same thing before and after
exactly when each type, as it is repeated, ends in statement text; then what is kept is masked as
before.  All types without a comment do, also those written in several lines. -/
theorem pass_outside_literals (text : List Char) :
    splice text 0 ((castEdits text).map fun edit => (edit.1, slice text edit.1.start edit.1.stop)) =
      text ∧
    ((castEdits text).Pairwise fun a b => a.1.stop ≤ b.1.start) ∧
    (∀ edit ∈ castEdits text,
      edit.1.start ≤ edit.1.stop ∧ Outside text edit.1.start ∧ Outside text edit.1.stop) ∧
    ((∀ done next offset, castEdits text = done ++ next → (∀ edit ∈ done, edit.1.stop ≤ offset) →
        (∀ edit ∈ next, offset ≤ edit.1.start) →
        splice (text.take offset) 0 done <+: (expandOnce text).text ∧
          modeAfter .code (splice (text.take offset) 0 done) = modeAfter .code (text.take offset)) ↔
      ∀ m ∈ shorthandCast.findOutside text, (readCast text m).ReadsBack) ∧
    ((∀ m ∈ shorthandCast.findOutside text, (readCast text m).ReadsBack) →
      mask (expandOnce text).text =
        splice (mask text) 0 ((castEdits text).map fun edit => (edit.1, mask edit.2))) ∧
    ∀ m ∈ shorthandCast.findOutside text, m.group (mask text) 2 = m.group text 2 →
      (readCast text m).ReadsBack := by
  have hsafe (h : ∀ m ∈ shorthandCast.findOutside text, (readCast text m).ReadsBack) :
      EditsFrom text 0 (castEdits text) := by
    refine editsFrom_castEdits (.refl _) fun edit hedit => ?_
    obtain ⟨m, hm, rfl⟩ := List.mem_map.1 hedit
    exact h m hm
  refine ⟨?_, pairwise_castEdits text, fun edit hedit => (of_mem_castEdits hedit).2.2,
    ⟨fun h m hm => ?_, ?_⟩, fun h => mask_splice (outside_zero text) (hsafe h),
    fun m hm hshown => ?_⟩
  · rw [castEdits, List.map_map]
    exact splice_slices (fun m hm => ⟨(of_mem_castEdits (mem_castEdits hm)).2.2.1, Nat.zero_le _⟩)
      (Pattern.inOrder_findAll shorthandCast (mask text)).apart
  · have hall := readsBack_of_modes
      (fun done next offset hsplit hdone hnext => (h done next offset hsplit hdone hnext).2)
      (List.append_nil (castEdits text)).symm
    exact hall (m, (readCast text m).expansion) (mem_castEdits hm)
  · intro h done next offset hsplit hdone hnext
    rw [expandOnce, hsplit]
    exact modeAfter_splice (outside_zero text) (hsplit ▸ hsafe h) (Nat.zero_le _) hdone hnext
  · exact readsBack_of_shown (of_mem_castEdits (mem_castEdits hm)).1 hshown

end

/-- A cast whose type has a comment up to the end of its line. -/
def commentedCast : List Char :=
  "select x::decimal(10 -- p\n, 2) from t".toList

/-- The comment of the type loses the end of its line, and what follows the cast becomes a part of
the comment. -/
theorem pass_hides_statement_text :
    (castEdits commentedCast).map (fun edit => (edit.1.start, edit.1.stop)) = [(7, 30)] ∧
    (mask commentedCast).drop 30 = " from t".toList ∧
    String.ofList (expandOnce commentedCast).text =
      "select __CAST_SHORTHAND__(CAST(x AS DECIMAL(10--P,2))) from t" ∧
    String.ofList (mask (expandOnce commentedCast).text) =
      "select __CAST_SHORTHAND__(CAST(x AS DECIMAL(10               " := by
  decide

end SqlLayout.Placeholder
