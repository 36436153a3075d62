import SqlLayout.Proofs.Placeholder.TypeWords
import SqlLayout.Proofs.Source.Cuts
import SqlLayout.Proofs.Source.Neighbours

/-!
# Zeros before leading points

A decimal that starts with its point gets a zero, and nothing else of the text changes.  The zeros
stand exactly before the leading points of the text: the points outside of literals and comments
with a number behind them, and with a blank, a mark or nothing before them.  With its zeros a text
has no leading points, so normalizing it again changes nothing.

## Implementation notes

That no new place for a zero comes up is shown on the masked text, which is read character by
character with the character before (`withZeros`).  What the digits behind a point are followed by
does not change, because no zero is written behind a point or a digit.
-/

namespace SqlLayout.Placeholder

open Pattern (Captures Match Reads Takes slice splice spanEnd matchAt placeAt)
open Source

/-! ## Where a decimal starts -/

/-- Whether a text starts with digits that no identifier character follows. -/
def startsNumber (text : List Char) : Bool :=
  text.head?.any Text.isDigit && !(text.dropWhile Text.isDigit).head?.any Text.isWord

/-- Whether a text behind a character, or at the start, begins with the point of a decimal. -/
def startsDecimal (before : Option Char) (text : List Char) : Bool :=
  text.head? == some '.' && before.all canPrecedeDecimal && startsNumber text.tail

section

variable {shown part : List Char} {i j : Nat} {c d : Captures} {x : Char}

theorem apart_of_canPrecede (h : canPrecedeDecimal x = true) : Text.isWord x = false ∧ x ≠ '.' := by
  obtain hblank | hmark := Bool.or_eq_true_iff.1 h
  · refine ⟨not_isWord_of_isBlank hblank, ?_⟩
    rintro rfl
    exact absurd hblank (by decide)
  · have hmarks : ("(+-*/=<>,;".toList.all fun mark => !Text.isWord mark && mark != '.') =
        true := by decide
    have hx := List.all_eq_true.1 hmarks x (List.contains_iff_mem.1 hmark)
    simpa using hx

theorem not_canPrecede_of_isWord (h : Text.isWord x = true) : canPrecedeDecimal x = false := by
  refine Bool.eq_false_iff.2 fun hprecedes => ?_
  cases h.symm.trans (apart_of_canPrecede hprecedes).1

/-- Whether a decimal starts at an offset. -/
def startsAt (shown : List Char) (i : Nat) : Bool :=
  startsDecimal (shown.take i).getLast? (shown.drop i)

/-- A decimal starts at a point that nothing but a blank or a mark stands before, and a number
behind. -/
theorem startsAt_iff : startsAt shown i = true ↔
    shown[i]? = some '.' ∧ (∀ y ∈ (shown.take i).getLast?, canPrecedeDecimal y = true) ∧
      (∃ y, shown[i + 1]? = some y ∧ Text.isDigit y = true) ∧
      ∀ y ∈ (shown.drop (spanEnd shown Text.isDigit (i + 1))).head?, Text.isWord y = false := by
  have hends {rest : List Char} :
      (!rest.head?.any Text.isWord) = true ↔
        ∀ y ∈ rest.head?, Text.isWord y = false := by cases rest <;> simp
  simp only [startsAt, startsDecimal, startsNumber, Bool.and_eq_true, and_assoc, hends,
    Pattern.drop_spanEnd, List.head?_drop, List.tail_drop, beq_iff_eq, Option.all_eq_true,
    Option.any_eq_true, Option.mem_def]

/-- Before the point nothing is read, but the character there is looked at. -/
theorem reads_decimalStart (hi : i < shown.length) :
    Reads shown (.any [.atStart, .after canPrecedeDecimal]) i c j d ↔
      i = j ∧ c = d ∧ ∀ y ∈ (shown.take i).getLast?, canPrecedeDecimal y = true := by
  constructor
  · intro h
    obtain hstart | hafter : Reads shown .atStart i c j d ∨
        Reads shown (.after canPrecedeDecimal) i c j d := by
      simpa using (Pattern.reads_any (by simp)).1 h
    · cases hstart
      exact ⟨rfl, rfl, by simp⟩
    · cases hafter with
      | after hbefore => exact ⟨rfl, rfl, fun y hy => by rwa [hy] at hbefore⟩
  · rintro ⟨rfl, rfl, hbefore⟩
    cases hlast : (shown.take i).getLast? with
    | none =>
        have hnil : i = 0 ∨ shown = [] := List.take_eq_nil_iff.1 (List.getLast?_eq_none_iff.1 hlast)
        obtain rfl : i = 0 := hnil.resolve_right (List.ne_nil_of_length_pos (Nat.zero_lt_of_lt hi))
        exact .left .atStart
    | some y => exact .right (.after (by rw [hlast]; exact hbefore y hlast))

/-- The digits of a number are read up to the last one, and no identifier character follows it. -/
theorem reads_number : Reads shown (.all [.capture 1 .digits, .wordEdge]) i c j d ↔
    (∃ y, shown[i]? = some y ∧ Text.isDigit y = true) ∧
      (∀ y ∈ (shown.drop (spanEnd shown Text.isDigit i)).head?, Text.isWord y = false) ∧
      j = spanEnd shown Text.isDigit i ∧ d = (1, i, j) :: c := by
  have hedge {part : List Char} {j : Nat} (htakes : Takes shown part i j) (hne : part ≠ [])
      (hpart : ∀ x ∈ part, Text.isDigit x = true) :=
    htakes.isWordEdge_end hne fun x hx => Text.isWord_of_isDigit (hpart x hx)
  constructor
  · intro h
    obtain ⟨_, _, hcapture, h⟩ := Pattern.reads_all_cons.1 h
    obtain ⟨_, _, hword, h⟩ := Pattern.reads_all_cons.1 h
    obtain ⟨rfl, rfl⟩ := Pattern.reads_all_nil.1 h
    obtain ⟨rfl, rfl, hplace⟩ := Pattern.reads_wordEdge.1 hword
    obtain ⟨_, rfl, hdigits⟩ := Pattern.reads_capture.1 hcapture
    obtain ⟨rfl, part, htakes, hne, hpart⟩ := Pattern.reads_many1_one.1 hdigits
    have hbehind := (hedge htakes hne hpart).1 hplace
    have hend : spanEnd shown Text.isDigit i = i + part.length := by
      refine Pattern.spanEnd_eq htakes.starts hpart fun y hy => Bool.eq_false_iff.2 fun hdigit => ?_
      cases (Text.isWord_of_isDigit hdigit).symm.trans (hbehind y hy)
    rw [← htakes.ends] at hend
    obtain ⟨x, part, rfl⟩ := List.exists_cons_of_ne_nil hne
    rw [hend]
    exact ⟨⟨x, (Pattern.takes_cons.1 htakes).1, hpart x List.mem_cons_self⟩, hbehind, rfl, rfl⟩
  · rintro ⟨⟨x, hx, hdigit⟩, hbehind, rfl, rfl⟩
    have htakes := @Pattern.takes_spanEnd shown Text.isDigit i
    have hpart : ∀ y ∈ (shown.drop i).takeWhile Text.isDigit, Text.isDigit y = true :=
      List.all_eq_true.1 List.all_takeWhile
    have hne : (shown.drop i).takeWhile Text.isDigit ≠ [] := by
      obtain ⟨hlt, rfl⟩ := List.getElem?_eq_some_iff.1 hx
      rw [List.drop_eq_getElem_cons hlt, List.takeWhile_cons_of_pos hdigit]
      exact List.cons_ne_nil _ _
    refine Pattern.reads_all_cons.2 ⟨_, _,
      .capture (Pattern.reads_many1_one.2 ⟨rfl, _, htakes, hne, hpart⟩), ?_⟩
    exact Pattern.reads_all_cons.2 ⟨_, _, .wordEdge ((hedge htakes hne hpart).2 hbehind), .empty⟩

/-- The search reads such a point with the digits behind it. -/
theorem reads_leadingDotDecimal : Reads shown leadingDotDecimal i c j d ↔
    startsAt shown i = true ∧ j = spanEnd shown Text.isDigit (i + 1) ∧ d = (1, i + 1, j) :: c := by
  rw [startsAt_iff]
  constructor
  · intro h
    obtain ⟨_, _, hbefore, h⟩ := Pattern.reads_all_cons.1 h
    obtain ⟨_, _, hone, hnumber⟩ := Pattern.reads_all_cons.1 h
    obtain ⟨rfl, x, htakes, heq⟩ := Pattern.reads_one.1 hone
    obtain ⟨hpoint, rfl⟩ := Pattern.takes_single.1 htakes
    obtain rfl := eq_of_beq heq
    have hlt := (List.getElem?_eq_some_iff.1 hpoint).1
    obtain ⟨rfl, rfl, hprecedes⟩ :=
      (reads_decimalStart (Nat.lt_of_le_of_lt hbefore.le hlt)).1 hbefore
    obtain ⟨hdigit, hends, rfl, rfl⟩ := reads_number.1 hnumber
    exact ⟨⟨hpoint, hprecedes, hdigit, hends⟩, rfl, rfl⟩
  · rintro ⟨⟨hpoint, hbefore, hdigit, hends⟩, rfl, rfl⟩
    have hlt := (List.getElem?_eq_some_iff.1 hpoint).1
    refine Pattern.reads_all_cons.2 ⟨i, c, (reads_decimalStart hlt).2 ⟨rfl, rfl, hbefore⟩, ?_⟩
    exact Pattern.reads_all_cons.2 ⟨i + 1, c, .one hpoint (by decide),
      reads_number.2 ⟨hdigit, hends, rfl, rfl⟩⟩

end

/-! ## The points that are found -/

section

variable {shown : List Char} {i j k : Nat} {d : Captures} {m : Match}

/-- A match is known from the place where it starts. -/
theorem reads_of_mem (h : m ∈ Pattern.findAll leadingDotDecimal shown) :
    startsAt shown m.start = true ∧ m.stop = spanEnd shown Text.isDigit (m.start + 1) ∧
      m.captures = [(1, m.start + 1, m.stop)] :=
  reads_leadingDotDecimal.1 ((Pattern.inOrder_findAll leadingDotDecimal shown).each m h).1.reads

/-- What is read from a point on ends before the next point, since only digits stand behind the
first one. -/
theorem stop_le_of_point (h : Reads shown leadingDotDecimal i [] j d) (hik : i < k)
    (hk : shown[k]? = some '.') :
    j ≤ k := by
  obtain ⟨-, rfl, -⟩ := reads_leadingDotDecimal.1 h
  by_contra hend
  obtain ⟨x, hx, hdigit⟩ := Pattern.exists_of_lt_spanEnd (show i + 1 ≤ k from hik)
    (Nat.lt_of_not_le hend)
  obtain rfl := Option.some.inj (hk.symm.trans hx)
  exact absurd hdigit (by decide)

/-- Every place where a decimal starts is found. -/
theorem mem_starts_iff :
    i ∈ (Pattern.findAll leadingDotDecimal shown).map Match.start ↔ startsAt shown i = true := by
  constructor
  · intro h
    obtain ⟨m, hm, rfl⟩ := List.mem_map.1 h
    exact (reads_of_mem hm).1
  · intro h
    have hpoint := (startsAt_iff.1 h).1
    have hlt := (List.getElem?_eq_some_iff.1 hpoint).1
    have hread : Reads shown leadingDotDecimal i [] _ _ := reads_leadingDotDecimal.2 ⟨h, rfl, rfl⟩
    have hsome := Pattern.isSome_matchAt_of_reads (by decide) hread (Nat.le_of_lt hlt)
    obtain ⟨m, hm⟩ := Option.isSome_iff_exists.1 hsome
    obtain ⟨rfl, hof⟩ := Pattern.of_matchAt hm
    refine List.mem_map.2 ⟨m, ?_, rfl⟩
    exact Pattern.mem_foundFrom (Nat.zero_le _) hm (hof.lt (by decide)) (Nat.le_of_lt hlt)
      fun hother hless => ⟨hother.lt (by decide), stop_le_of_point hother hless hpoint⟩

end

/-! ## Zeros before points -/

/-- A text behind a character, or at the start, with a zero before each point that starts a
decimal. -/
def withZeros (before : Option Char) : List Char → List Char
  | [] => []
  | c :: rest =>
    if startsDecimal before (c :: rest) then '0' :: c :: withZeros (some c) rest
    else c :: withZeros (some c) rest

/-- Whether no decimal starts anywhere in a text behind a character, or at the start. -/
def DecimalFree (before : Option Char) : List Char → Prop
  | [] => True
  | c :: rest => startsDecimal before (c :: rest) = false ∧ DecimalFree (some c) rest

section

variable {before : Option Char} {text : List Char} {c : Char}

theorem startsDecimal_of_ne (h : c ≠ '.') : startsDecimal before (c :: text) = false := by
  simp [startsDecimal, h]

theorem startsDecimal_of_not_canPrecede (h : canPrecedeDecimal c = false) :
    startsDecimal (some c) text = false := by
  simp [startsDecimal, h]

/-- No zero is written behind a character that precedes no decimal. -/
theorem withZeros_cons_of_not_canPrecede (h : canPrecedeDecimal c = false) (x : Char)
    (text : List Char) :
    withZeros (some c) (x :: text) = x :: withZeros (some x) text := by
  rw [withZeros, if_neg (by simp [startsDecimal_of_not_canPrecede h])]

/-- Digits behind a point or a digit are kept, with the character that ends them. -/
theorem dropWhile_withZeros (h : canPrecedeDecimal c = false) (text : List Char) :
    ((withZeros (some c) text).dropWhile Text.isDigit).head? =
      (text.dropWhile Text.isDigit).head? := by
  induction text generalizing c with
  | nil => rfl
  | cons x text ih =>
      rw [withZeros_cons_of_not_canPrecede h]
      by_cases hdigit : Text.isDigit x = true
      · rw [List.dropWhile_cons_of_pos hdigit, List.dropWhile_cons_of_pos hdigit]
        exact ih (not_canPrecede_of_isWord (Text.isWord_of_isDigit hdigit))
      · rw [List.dropWhile_cons_of_neg hdigit, List.dropWhile_cons_of_neg hdigit]
        rfl

/-- Zeros that are written further on make no number behind a point, and take none away. -/
theorem startsNumber_withZeros (h : canPrecedeDecimal c = false) (text : List Char) :
    startsNumber (withZeros (some c) text) = startsNumber text := by
  have hhead : (withZeros (some c) text).head? = text.head? := by
    cases text with
    | nil => rfl
    | cons x text => rw [withZeros_cons_of_not_canPrecede h, List.head?_cons, List.head?_cons]
  rw [startsNumber, startsNumber, hhead, dropWhile_withZeros h]

theorem startsDecimal_withZeros (before : Option Char) (c : Char) (text : List Char) :
    startsDecimal before (c :: withZeros (some c) text) = startsDecimal before (c :: text) := by
  by_cases hpoint : c = '.'
  · subst hpoint
    rw [startsDecimal, startsDecimal, List.tail_cons, List.tail_cons,
      startsNumber_withZeros (by decide)]
    rfl
  · rw [startsDecimal_of_ne hpoint, startsDecimal_of_ne hpoint]

/-- With its zeros a text has no place left where a decimal starts. -/
theorem decimalFree_withZeros (before : Option Char) (text : List Char) :
    DecimalFree before (withZeros before text) := by
  induction text generalizing before with
  | nil => trivial
  | cons c text ih =>
      rw [withZeros]
      split
      · -- before the zero stands no point, and the zero stands before the point
        exact ⟨startsDecimal_of_ne (by decide), startsDecimal_of_not_canPrecede (by decide),
          ih (some c)⟩
      · next hnot =>
          exact ⟨(startsDecimal_withZeros before c text).trans (Bool.eq_false_iff.2 hnot),
            ih (some c)⟩

theorem DecimalFree.at (h : DecimalFree before text) (i : Nat) :
    startsDecimal ((text.take i).getLast?.or before) (text.drop i) = false := by
  induction text generalizing before i with
  | nil => simp [startsDecimal]
  | cons c text ih =>
      obtain ⟨hhere, hrest⟩ := h
      cases i with
      | zero => exact hhere
      | succ i =>
          rw [List.take_succ_cons, List.drop_succ_cons, List.getLast?_cons, Option.some_or]
          have hlater := ih hrest i
          cases hlast : (text.take i).getLast? <;> simpa [hlast] using hlater

end

/-! ## Pieces between points -/

/-- The pieces of a text from an offset on, cut at some offsets behind it. -/
def piecesAt (text : List Char) (last : Nat) : List Nat → List (List Char)
  | [] => [text.drop last]
  | i :: points => slice text last i :: piecesAt text i points

section

variable {text shown : List Char} {points : List Nat} {i j last : Nat}

theorem piecesAt_ne_nil (text : List Char) (last : Nat) (points : List Nat) :
    piecesAt text last points ≠ [] := by
  cases points <;> exact List.cons_ne_nil _ _

/-- The pieces make up the text. -/
theorem flatten_piecesAt (hpoints : points.Pairwise (· < ·)) (hlast : ∀ k ∈ points, last ≤ k) :
    (piecesAt text last points).flatten = text.drop last := by
  induction points generalizing last with
  | nil => simp [piecesAt]
  | cons i points ih =>
      obtain ⟨hbehind, hrest⟩ := List.pairwise_cons.1 hpoints
      rw [piecesAt, List.flatten_cons, ih hrest fun k hk => Nat.le_of_lt (hbehind k hk)]
      exact Pattern.slice_append_drop (hlast i List.mem_cons_self)

/-- A start without cuts can be taken from the first piece. -/
theorem join_piecesAt (hij : i ≤ j) (hpoints : ∀ k ∈ points, j ≤ k) :
    ['0'].intercalate (piecesAt text i points) =
      slice text i j ++ ['0'].intercalate (piecesAt text j points) := by
  cases points with
  | nil => simp [piecesAt, Pattern.slice_append_drop hij]
  | cons k points =>
      have hjk := hpoints k List.mem_cons_self
      rw [piecesAt, piecesAt, List.intercalate_cons_of_ne_nil (piecesAt_ne_nil _ _ _),
        List.intercalate_cons_of_ne_nil (piecesAt_ne_nil _ _ _), ← Pattern.slice_append_slice hij
          hjk]
      simp only [List.append_assoc]

/-- A cut at the start puts a zero there. -/
theorem join_piecesAt_cons :
    ['0'].intercalate (piecesAt text last (i :: points)) =
      slice text last i ++ '0' :: ['0'].intercalate (piecesAt text i points) := by
  rw [piecesAt, List.intercalate_cons_of_ne_nil (piecesAt_ne_nil _ _ _), List.append_assoc,
    List.singleton_append]

/-- Matches with a zero in front of each are the text with a zero where each one starts. -/
theorem splice_eq_join {found : List Match} (heach : ∀ m ∈ found, m.start ≤ m.stop ∧ last ≤ m.start)
    (hapart : found.Pairwise fun a b => a.stop ≤ b.start) :
    splice text last (found.map fun m => (m, '0' :: slice text m.start m.stop)) =
      ['0'].intercalate (piecesAt text last (found.map Match.start)) := by
  induction found generalizing last with
  | nil => simp [splice, piecesAt]
  | cons m found ih =>
      obtain ⟨⟨hm, -⟩, hrest⟩ := List.forall_mem_cons.1 heach
      obtain ⟨hbehind, hlater⟩ := List.pairwise_cons.1 hapart
      have hstarts : ∀ k ∈ found.map Match.start, m.stop ≤ k := List.forall_mem_map.2 hbehind
      rw [List.map_cons, List.map_cons, splice, join_piecesAt_cons, join_piecesAt hm hstarts,
        ih (fun next hnext => ⟨(hrest next hnext).1, hbehind next hnext⟩) hlater]
      simp only [List.append_assoc, List.cons_append]

/-- Cut at all places where a decimal starts and joined with zeros, a text is the text with its
zeros. -/
theorem join_eq_withZeros {rest : List Char} (hrest : shown.drop i = rest) :
    ['0'].intercalate (piecesAt shown i ((List.range' i rest.length).filter (startsAt shown))) =
      withZeros (shown.take i).getLast? rest := by
  induction rest generalizing i with
  | nil => simp [piecesAt, hrest, withZeros]
  | cons x rest ih =>
      obtain ⟨hx, hnext⟩ := Pattern.drop_eq_cons hrest
      have hone : slice shown i (i + 1) = [x] := (Pattern.takes_single.2 ⟨hx, rfl⟩).slice_eq
      have hbefore : (shown.take (i + 1)).getLast? = some x := last_of_getElem? hx
      have hlater : ∀ k ∈ (List.range' (i + 1) rest.length).filter (startsAt shown), i + 1 ≤ k :=
        fun k hk => (List.mem_range'_1.1 (List.mem_of_mem_filter hk)).1
      have hjoin := @join_piecesAt shown _ _ _ (Nat.le_succ i) hlater
      rw [hone, ih hnext, hbefore] at hjoin
      have hhere : startsDecimal (shown.take i).getLast? (x :: rest) = startsAt shown i := by
        rw [startsAt, hrest]
      rw [List.length_cons, List.range'_succ, withZeros, hhere]
      split
      · next hstarts =>
          rw [List.filter_cons_of_pos hstarts, join_piecesAt_cons, Pattern.slice_self, hjoin]
          rfl
      · next hnot =>
          rw [List.filter_cons_of_neg hnot, hjoin]
          rfl

end

/-! ## Leading points -/

/-- The offsets of a text at which a decimal starts with its point, outside of literals and
comments. -/
def leadingPoints (text : List Char) : List Nat :=
  (List.range text.length).filter (startsAt (mask text))

/-- A decimal point with digits after it and none before it. -/
structure LeadingPoint (text : List Char) (i : Nat) : Prop where
  point : text[i]? = some '.'
  outside : ∀ cover, ¬ Inside text cover i
  digit : ∃ y, text[i + 1]? = some y ∧ Text.isDigit y = true
  /-- The digits are not followed by an identifier character. -/
  ends : ∀ y ∈ (((mask text).drop (i + 1)).dropWhile Text.isDigit).head?, Text.isWord y = false
  /-- The mask shows a blank or a mark before the point, if the point is not the start of the
  text. -/
  precedes : ∀ y ∈ ((mask text).take i).getLast?, canPrecedeDecimal y = true
  /-- No digit, letter, underscore or point stands before it in the text. -/
  apart : ∀ y ∈ (text.take i).getLast?, Text.isWord y = false ∧ y ≠ '.'

section

variable {text : List Char} {i : Nat}

/-- The mask shows the points that stand outside of literals and comments. -/
theorem shown_point_iff : (mask text)[i]? = some '.' ↔ text[i]? = some '.' ∧ ∀ cover,
    ¬ Inside text cover i :=
  cutAt_splitOutside_iff.symm.trans (cutAt_iff_outside (by decide) (by decide) (by decide))

theorem outside_of_point (h : (mask text)[i]? = some '.') : Outside text i ∧ Outside text (i + 1) :=
  (outside_of_shown h (by decide) (not_inLiteral_of_plain h (by decide))).2

/-- What stands before statement text is shown, or takes part in no word and is no point. -/
theorem apart_of_precedes (h : Outside text i)
    (hprecedes : ∀ y ∈ ((mask text).take i).getLast?, canPrecedeDecimal y = true) :
    ∀ y ∈ (text.take i).getLast?, Text.isWord y = false ∧ y ≠ '.' := by
  intro y hy
  obtain ⟨k, rfl, hk⟩ := getElem?_of_last h.le hy
  by_cases hordinary : isOrdinary y = true
  · have hinert := (startsInert_cons.1 (startsInert_of_ordinary hordinary [])).1
    have hshown := ((h.before hk hordinary).shown hk hinert).1
    exact apart_of_canPrecede (hprecedes y (last_of_getElem? hshown))
  · refine ⟨Bool.eq_false_iff.2 (mt ordinary_of_isWord hordinary), ?_⟩
    rintro rfl
    exact hordinary (by decide)

theorem leadingPoint_iff : LeadingPoint text i ↔ startsAt (mask text) i = true := by
  rw [startsAt_iff, Pattern.drop_spanEnd]
  constructor
  · intro h
    have hpoint := shown_point_iff.2 ⟨h.point, h.outside⟩
    obtain ⟨y, hy, hdigit⟩ := h.digit
    have hinert := isInert_of_solid (solid_of_isWord (Text.isWord_of_isDigit hdigit))
    have hshown := ((outside_of_point hpoint).2.shown hy hinert).1
    exact ⟨hpoint, h.precedes, ⟨y, hshown, hdigit⟩, h.ends⟩
  · rintro ⟨hpoint, hprecedes, ⟨y, hy, hdigit⟩, hends⟩
    obtain ⟨hstart, hnext⟩ := outside_of_point hpoint
    obtain ⟨htext, houtside⟩ := shown_point_iff.1 hpoint
    exact {
      point := htext
      outside := houtside
      digit := ⟨y, hnext.of_shown hy (not_isBlank_of_isDigit hdigit), hdigit⟩
      ends := hends
      precedes := hprecedes
      apart := apart_of_precedes hstart hprecedes }

theorem mem_leadingPoints : i ∈ leadingPoints text ↔ LeadingPoint text i := by
  rw [leadingPoints, List.mem_filter, List.mem_range, leadingPoint_iff, and_iff_right_iff_imp]
  intro hstarts
  have hlt := (List.getElem?_eq_some_iff.1 (startsAt_iff.1 hstarts).1).1
  rwa [length_mask] at hlt

theorem pairwise_leadingPoints (text : List Char) : (leadingPoints text).Pairwise (· < ·) :=
  List.pairwise_lt_range.filter _

/-- The matches of the search start at the leading points. -/
theorem starts_eq_leadingPoints (text : List Char) :
    (leadingDotDecimal.findOutside text).map Match.start = leadingPoints text := by
  have hfound := Pattern.inOrder_findAll leadingDotDecimal (mask text)
  have hpairwise : ((leadingDotDecimal.findOutside text).map Match.start).Pairwise (· < ·) := by
    refine List.pairwise_map.2 (hfound.apart.imp_of_mem fun {a b} ha _ hab => ?_)
    exact Nat.lt_of_lt_of_le ((hfound.each a ha).1.reads.lt (by decide)) hab
  have hmem (i : Nat) : i ∈ (leadingDotDecimal.findOutside text).map Match.start ↔
      i ∈ leadingPoints text :=
    mem_starts_iff.trans (leadingPoint_iff.symm.trans mem_leadingPoints.symm)
  have hpoints := pairwise_leadingPoints text
  have hperm := (List.perm_ext_iff_of_nodup (hpairwise.imp Nat.ne_of_lt)
    (hpoints.imp Nat.ne_of_lt)).2 hmem
  exact hperm.eq_of_pairwise (fun a b _ _ hab hba => absurd hab (Nat.lt_asymm hba))
    hpairwise hpoints

/-! ## Normalized texts -/

/-- A match is the point with the digits behind it. -/
theorem match_eq {m : Match} (h : m ∈ leadingDotDecimal.findOutside text) :
    '.' :: m.group text 1 = slice text m.start m.stop := by
  obtain ⟨hstarts, -, hcaptures⟩ := reads_of_mem h
  have hlt := ((Pattern.inOrder_findAll leadingDotDecimal (mask text)).each m h).1.reads.lt
    (by decide)
  have hpoint := (shown_point_iff.1 (startsAt_iff.1 hstarts).1).1
  have hone : slice text m.start (m.start + 1) = ['.'] :=
    (Pattern.takes_single.2 ⟨hpoint, rfl⟩).slice_eq
  have hdigits : m.group text 1 = slice text (m.start + 1) m.stop := by
    simp [Match.group, Match.span?, hcaptures]
  rw [hdigits, ← Pattern.slice_append_slice (Nat.le_succ m.start) hlt, hone, List.singleton_append]

/-- What takes the place of a match is shown as it is. -/
theorem mask_replacement {m : Match} (h : m ∈ leadingDotDecimal.findOutside text) :
    mask ('0' :: '.' :: m.group text 1) = '0' :: slice (mask text) m.start m.stop := by
  have hof := ((Pattern.inOrder_findAll leadingDotDecimal (mask text)).each m h).1
  have hstands : standsOutside leadingDotDecimal = true := by cbv
  have hstop : m.stop ≤ text.length := length_mask text ▸ hof.reads.le_length hof.start_le
  have hshown : slice text m.start m.stop = slice (mask text) m.start m.stop :=
    slice_of_reads hof.reads (by cbv) (outside_of_reads hof.reads hstands).2.2 hstop
  have hinert : inert ('0' :: '.' :: m.group text 1) = true := by
    rw [inert_cons, inert_cons]
    exact ⟨by decide, by decide, inert_of_solid (solid_group hof hstands 1 (by cbv))⟩
  rw [mask_of_inert hinert, match_eq h, hshown]

/-- The matches of the search do not overlap. -/
theorem splice_zeros (other : List Char) :
    splice other 0 ((leadingDotDecimal.findOutside text).map fun m =>
      (m, '0' :: slice other m.start m.stop)) =
      ['0'].intercalate (piecesAt other 0 (leadingPoints text)) := by
  have hfound := Pattern.inOrder_findAll leadingDotDecimal (mask text)
  have heach : ∀ m ∈ leadingDotDecimal.findOutside text, m.start ≤ m.stop ∧ 0 ≤ m.start :=
    fun m hm => ⟨(hfound.each m hm).1.reads.le, Nat.zero_le _⟩
  rw [splice_eq_join heach hfound.apart, starts_eq_leadingPoints]

/-- Zeros are written at the leading points, and nothing else is changed. -/
theorem normalizeDecimals_eq_join (text : List Char) :
    normalizeDecimals text = ['0'].intercalate (piecesAt text 0 (leadingPoints text)) := by
  have hedits : ((leadingDotDecimal.findOutside text).map fun m =>
    (m, '0' :: '.' :: m.group text 1)) =
      (leadingDotDecimal.findOutside text).map fun m => (m, '0' :: slice text m.start m.stop) :=
    List.map_congr_left fun m hm => congrArg (fun part => (m, '0' :: part)) (match_eq hm)
  rw [normalizeDecimals, hedits, splice_zeros]

/-- The mask of a normalized text is the mask of the text with its zeros. -/
theorem mask_normalizeDecimals (text : List Char) :
    mask (normalizeDecimals text) = withZeros none (mask text) := by
  have hedits : ((Stage.decimals.edits text).map fun edit => (edit.1, mask edit.2)) =
      (leadingDotDecimal.findOutside text).map fun m =>
        (m, '0' :: slice (mask text) m.start m.stop) := by
    rw [Stage.edits, List.map_map]
    exact List.map_congr_left fun m hm => congrArg (m, ·) (mask_replacement hm)
  have hpoints : leadingPoints text =
      (List.range' 0 (mask text).length).filter (startsAt (mask text)) := by
    rw [leadingPoints, List.range_eq_range', length_mask]
  calc mask (normalizeDecimals text)
      = splice (mask text) 0 ((Stage.decimals.edits text).map fun edit => (edit.1, mask edit.2)) :=
        mask_splice (outside_zero text) (editsFrom_decimals text)
    _ = ['0'].intercalate (piecesAt (mask text) 0 (leadingPoints text)) := by
      rw [hedits, splice_zeros]
    _ = withZeros none (mask text) := by
        rw [hpoints]
        exact join_eq_withZeros List.drop_zero

/-- A normalized text has no leading points. -/
theorem leadingPoints_normalizeDecimals (text : List Char) :
    leadingPoints (normalizeDecimals text) = [] := by
  refine List.eq_nil_iff_forall_not_mem.2 fun i hi => ?_
  have hstarts := leadingPoint_iff.1 (mem_leadingPoints.1 hi)
  have hfree := (decimalFree_withZeros none (mask text)).at i
  rw [Option.or_none, ← mask_normalizeDecimals] at hfree
  cases hstarts.symm.trans hfree

/-- A text without leading points is normalized. -/
theorem normalizeDecimals_eq_self (h : leadingPoints text = []) :
    normalizeDecimals text = text := by
  rw [normalizeDecimals_eq_join, h]
  simp [piecesAt]

/-- Normalization only inserts zeros.  Cut at its leading points, which are the points of decimals
without digits before them, a text falls into pieces; joined with zeros they are the normalized
text, and joined without them the text.  A normalized text is its own normalization. -/
theorem normalizeDecimals_inserts_zeros (text : List Char) :
    (leadingPoints text).Pairwise (· < ·) ∧ (∀ i, i ∈ leadingPoints text ↔ LeadingPoint text i) ∧
    normalizeDecimals text = ['0'].intercalate (piecesAt text 0 (leadingPoints text)) ∧
    (piecesAt text 0 (leadingPoints text)).flatten = text ∧
    normalizeDecimals (normalizeDecimals text) = normalizeDecimals text :=
  ⟨pairwise_leadingPoints text, fun _ => mem_leadingPoints, normalizeDecimals_eq_join text,
    flatten_piecesAt (pairwise_leadingPoints text) fun _ _ => Nat.zero_le _,
    normalizeDecimals_eq_self (leadingPoints_normalizeDecimals text)⟩

/-- A decimal behind a blank and one behind a comment, between a column, a number with an exponent,
a literal and a comment that end with the same characters. -/
example :
    let text := "select .5, t.a, .5e1, '.5' /* .5 */.25 -- .5".toList
    leadingPoints text = [7, 35] ∧
      normalizeDecimals text = "select 0.5, t.a, .5e1, '.5' /* .5 */0.25 -- .5".toList := by
  decide +kernel

end

end SqlLayout.Placeholder
