import SqlLayout.Proofs.Source.Literals
import SqlLayout.Proofs.Source.Neighbours

/-!
# Texts that open comments

A text opens a comment when one of the two marks stands in its statement text.  It does not exactly
when its mask shows every character as it is or, inside of literals, filled.  Where parts of a text
meet without a mark, the text opens a comment exactly when one of its parts does, and spaces around
line feeds make no difference.

## Implementation notes

Whether a mark opens a comment depends on what the scanner is inside of, so all is said of texts
that are read from a mode.
-/

namespace SqlLayout.Source

open SqlLayout.Layout (quoteString)

/-- Whether a text begins with a mark that opens a comment in statement text. -/
def StartsComment (text : List Char) : Prop :=
  ['-', '-'] <+: text ∨ ['/', '*'] <+: text

/-- Whether a text that is read from a mode opens a comment: one of the marks stands in statement
text. -/
def OpensFrom (mode : Mode) (text : List Char) : Prop :=
  ∃ front back, text = front ++ back ∧ modeAfter mode front = .code ∧ StartsComment back

/-- Whether a text opens a comment. -/
def OpensComment (text : List Char) : Prop :=
  OpensFrom .code text

theorem startsComment_cons {x : Char} {text : List Char} :
    StartsComment (x :: text) ↔ ∃ y ∈ text.head?, joins x y = true ∧ isQuote x = false := by
  cases text with
  | nil => simp [StartsComment]
  | cons y rest =>
      simp only [StartsComment, List.cons_prefix_cons, List.nil_prefix, and_true, List.head?_cons,
        Option.mem_some_iff, exists_eq_left', joins_iff]
      constructor
      · rintro (⟨rfl, rfl⟩ | ⟨rfl, rfl⟩) <;> decide
      · rintro ⟨(⟨rfl, rfl⟩ | ⟨rfl, rfl⟩ | ⟨hquote, -⟩), hx⟩
        · exact .inl ⟨rfl, rfl⟩
        · exact .inr ⟨rfl, rfl⟩
        · rw [hquote] at hx
          cases hx

theorem not_startsComment_nil : ¬ StartsComment [] := by
  simp [StartsComment]

theorem StartsComment.append {text : List Char} (h : StartsComment text) (back : List Char) :
    StartsComment (text ++ back) :=
  h.imp (·.trans (List.prefix_append text back)) (·.trans (List.prefix_append text back))

/-! ## Texts that meet without a mark -/

section

variable {front middle back : List Char}

theorem not_joins_inert_last (h : inert front = true) :
    ∀ x ∈ front.getLast?, ∀ y ∈ back.head?, joins x y = false := fun x hx y _ =>
  joins_inert_left (List.all_eq_true.1 h x (List.mem_of_mem_getLast? hx)) y

theorem not_joins_inert_first (h : inert back = true) :
    ∀ x ∈ front.getLast?, ∀ y ∈ back.head?, joins x y = false := fun x _ y hy =>
  joins_inert_right x (List.all_eq_true.1 h y (List.mem_of_mem_head? hy))

theorem not_joins_startsInert (h : startsInert back = true) :
    ∀ x ∈ front.getLast?, ∀ y ∈ back.head?, joins x y = false := by
  intro x _ y hy
  obtain ⟨rest, rfl⟩ := List.head?_eq_some_iff.1 hy
  exact joins_inert_right x (startsInert_cons.1 h).1

theorem not_joins_between (h : inert middle = true) (hne : middle ≠ []) :
    ∀ x ∈ front.getLast?, ∀ y ∈ (middle ++ back).head?, joins x y = false := by
  rw [List.head?_append_of_ne_nil _ hne]
  exact not_joins_inert_first h

theorem not_joins_minus (h : back.head? ≠ some '-') :
    ∀ x ∈ ['-'].getLast?, ∀ y ∈ back.head?, joins x y = false := by
  rintro x hx y hy
  obtain rfl : '-' = x := Option.some.inj hx
  have hne : y ≠ '-' := by
    rintro rfl
    exact h hy
  simp [joins, isQuote, hne]

end

/-! ## Texts that open comments -/

section

variable {mode m : Mode} {front back text : List Char} {x : Char}

theorem not_opensFrom_nil : ¬ OpensFrom mode [] := by
  rintro ⟨front, back, h, -, hstarts⟩
  obtain ⟨-, rfl⟩ := List.append_eq_nil_iff.1 h.symm
  exact not_startsComment_nil hstarts

theorem OpensFrom.append (h : OpensFrom mode front) (back : List Char) :
    OpensFrom mode (front ++ back) := by
  obtain ⟨before, after, rfl, hcode, hstarts⟩ := h
  exact ⟨before, after ++ back, List.append_assoc .., hcode, hstarts.append back⟩

/-- Where the scanner goes on from a mode behind a character, a comment is opened at the character
or behind it. -/
theorem opensFrom_cons (hnext : ∀ front, front <+: text →
    modeAfter mode (x :: front) = modeAfter m front) :
    OpensFrom mode (x :: text) ↔ (mode = .code ∧ StartsComment (x :: text)) ∨ OpensFrom m text := by
  constructor
  · rintro ⟨front, back, hparts, hcode, hstarts⟩
    cases front with
    | nil =>
        obtain rfl : x :: text = back := hparts
        exact .inl ⟨hcode, hstarts⟩
    | cons y front =>
        obtain ⟨rfl, rfl⟩ := List.cons.inj hparts
        exact .inr ⟨front, back, rfl, (hnext front (List.prefix_append _ _)).symm.trans hcode,
          hstarts⟩
  · rintro (⟨hcode, hstarts⟩ | ⟨front, back, rfl, hcode, hstarts⟩)
    · exact ⟨[], _, rfl, hcode, hstarts⟩
    · exact ⟨x :: front, back, rfl, (hnext front (List.prefix_append _ _)).trans hcode, hstarts⟩

/-- Where the scanner takes two characters together, a comment is opened behind them only. -/
theorem opensFrom_pair {y : Char} (hmode : mode ≠ .code)
    (hone : modeAfter mode [x] ≠ .code ∨ isQuote y = true)
    (hnext : ∀ front, front <+: text → modeAfter mode (x :: y :: front) = modeAfter m front) :
    OpensFrom mode (x :: y :: text) ↔ OpensFrom m text := by
  constructor
  · rintro ⟨front, back, hparts, hcode, hstarts⟩
    match front with
    | [] => exact absurd hcode hmode
    | [z] =>
        obtain ⟨rfl, rfl⟩ := List.cons.inj hparts
        refine absurd hcode (hone.resolve_right fun hquote => ?_)
        obtain ⟨-, -, -, hnot⟩ := startsComment_cons.1 hstarts
        rw [hquote] at hnot
        cases hnot
    | z :: w :: front =>
        obtain ⟨rfl, hrest⟩ := List.cons.inj hparts
        obtain ⟨rfl, rfl⟩ := List.cons.inj hrest
        exact ⟨front, back, rfl, (hnext front (List.prefix_append _ _)).symm.trans hcode, hstarts⟩
  · rintro ⟨front, back, rfl, hcode, hstarts⟩
    exact ⟨x :: y :: front, back, rfl, (hnext front (List.prefix_append _ _)).trans hcode, hstarts⟩

/-- The two sides of a cut that the scanner reads one by one, with no mark across it. -/
theorem opensFrom_append (hmode : mode.Opened)
    (h : modeAfter mode front = .code ∨ startsInert back = true)
    (hapart : ∀ x ∈ front.getLast?, ∀ y ∈ back.head?, joins x y = false) :
    OpensFrom mode (front ++ back) ↔ OpensFrom mode front ∨
      OpensFrom (modeAfter mode front) back := by
  have hscan {part : List Char} (hpart : part <+: back) :
      modeAfter mode (front ++ part) = modeAfter (modeAfter mode front) part := by
    obtain ⟨rest, rfl⟩ := hpart
    refine (scan_append hmode (h.imp_right fun hinert => ?_) fun x hx y hy => hapart x hx y ?_).mode
    · cases part with
      | nil => rfl
      | cons y part => exact hinert
    · exact List.mem_head?_append_of_mem_head? hy
  constructor
  · rintro ⟨before, after, hparts, hcode, hstarts⟩
    obtain ⟨gap, rfl, rfl⟩ | ⟨gap, rfl, rfl⟩ := List.append_eq_append_iff.1 hparts
    · exact .inr ⟨gap, after, rfl, (hscan (List.prefix_append _ _)).symm.trans hcode, hstarts⟩
    · cases gap with
      | nil => exact .inr ⟨[], back, rfl, by simpa [modeAfter] using hcode, hstarts⟩
      | cons x gap =>
          refine .inl ⟨before, x :: gap, rfl, hcode, ?_⟩
          -- a mark that begins in the front ends in it
          rw [List.cons_append, startsComment_cons] at hstarts
          obtain ⟨y, hy, hjoin, hquote⟩ := hstarts
          cases gap with
          | nil => exact absurd hjoin (by simp [hapart x (by simp) y (by simpa using hy)])
          | cons z gap => exact startsComment_cons.2 ⟨y, hy, hjoin, hquote⟩
  · rintro (hfront | ⟨before, after, rfl, hcode, hstarts⟩)
    · exact hfront.append back
    · exact ⟨front ++ before, after, (List.append_assoc ..).symm,
        (hscan (List.prefix_append _ _)).trans hcode, hstarts⟩

theorem opensFrom_before_inert (hmode : mode.Opened) (h : startsInert back = true) :
    OpensFrom mode (front ++ back) ↔ OpensFrom mode front ∨ OpensFrom (modeAfter mode front) back :=
  opensFrom_append hmode (.inr h) (not_joins_startsInert h)

theorem not_startsComment_of_inert (h : isInert x = true) : ¬ StartsComment (x :: text) := by
  rw [startsComment_cons]
  rintro ⟨y, -, hjoin, -⟩
  rw [joins_inert_left h] at hjoin
  cases hjoin

/-- Ordinary characters open no comment and let none begin behind them that would not begin
anyway. -/
theorem opensFrom_all_ordinary (hmode : mode.Opened) (h : ∀ x ∈ front, isOrdinary x = true) :
    OpensFrom mode (front ++ text) ↔ OpensFrom mode text := by
  induction front with
  | nil => rfl
  | cons x front ih =>
      obtain ⟨hx, hfront⟩ := List.forall_mem_cons.1 h
      rw [List.cons_append, opensFrom_cons fun more _ => modeAfter_ordinary hmode hx more,
        ih hfront]
      exact or_iff_right fun hstarts =>
        not_startsComment_of_inert (startsInert_cons.1 (startsInert_of_ordinary hx [])).1 hstarts.2

theorem startsInert_of_all_ordinary (h : ∀ x ∈ back, isOrdinary x = true) :
    startsInert back = true := by
  cases back with
  | nil => rfl
  | cons x back => exact startsInert_of_ordinary (h x List.mem_cons_self) back

theorem modeAfter_before_ordinary (hmode : mode.Opened) (h : ∀ x ∈ back, isOrdinary x = true) :
    modeAfter mode (front ++ back) = modeAfter mode front := by
  have hinert := startsInert_of_all_ordinary h
  have hafter : (modeAfter mode front).Opened := modeAfter_opened hmode
  have hback : modeAfter (modeAfter mode front) (back ++ []) =
      modeAfter (modeAfter mode front) [] :=
    modeAfter_all_ordinary hafter h []
  rw [List.append_nil] at hback
  exact (scan_append hmode (.inr hinert) (not_joins_startsInert hinert)).mode.trans
    (hback.trans (by simp [modeAfter]))

theorem opensFrom_before_ordinary (hmode : mode.Opened) (h : ∀ x ∈ back, isOrdinary x = true) :
    OpensFrom mode (front ++ back) ↔ OpensFrom mode front := by
  have hafter : (modeAfter mode front).Opened := modeAfter_opened hmode
  have hback : OpensFrom (modeAfter mode front) (back ++ []) ↔
      OpensFrom (modeAfter mode front) [] :=
    opensFrom_all_ordinary hafter h
  rw [List.append_nil] at hback
  rw [opensFrom_before_inert hmode (startsInert_of_all_ordinary h), hback]
  exact or_iff_left not_opensFrom_nil

/-- Behind a line feed the scanner goes on from one mode, whatever follows. -/
theorem exists_opensFrom_feed (hmode : mode.Opened) :
    ∃ next : Mode, next.Opened ∧ ∀ text, OpensFrom mode ('\n' :: text) ↔ OpensFrom next text := by
  have hinert {text : List Char} : ¬ StartsComment ('\n' :: text) :=
    not_startsComment_of_inert (by decide)
  by_cases hline : mode = .line
  · subst hline
    refine ⟨.code, trivial, fun text => ?_⟩
    rw [opensFrom_cons (m := .code) fun front _ => by simp [modeAfter]]
    exact or_iff_right fun h => hinert h.2
  · refine ⟨mode, hmode, fun text => ?_⟩
    rw [opensFrom_cons fun front _ => modeAfter_feed hmode hline front]
    exact or_iff_right fun h => hinert h.2

end

/-! ## The mask -/

/-- Whether the mask of a text blanks nothing: each character is shown as it is, or filled. -/
def FillsOnly (text : List Char) : Prop :=
  List.Forall₂ (fun shown c => shown = c ∨ shown = '_') (mask text) text

theorem blankOut_fills (c : Char) : blankOut '_' c = c ∨ blankOut '_' c = '_' := by
  rw [blankOut]
  split
  · exact .inl rfl
  · exact .inr rfl

/-- Read from statement text or from within a literal, a text opens no comment exactly when nothing
is blanked. -/
theorem forall₂_maskFrom_iff {mode : Mode} (hmode : mode.Opened)
    (hstate : mode = .code ∨ mode.isLiteral = true) (text : List Char) :
    List.Forall₂ (fun shown c => shown = c ∨ shown = '_') (maskFrom mode text) text ↔
      ¬ OpensFrom mode text := by
  fun_induction maskFrom mode text with
  | case1 mode => exact iff_of_true .nil not_opensFrom_nil
  | case2 rest ih =>
      refine iff_of_false (fun h => ?_) (not_not_intro ⟨[], _, rfl, rfl, .inl (by simp)⟩)
      exact absurd (List.forall₂_cons.1 h).1 (by decide)
  | case3 rest ih =>
      refine iff_of_false (fun h => ?_) (not_not_intro ⟨[], _, rfl, rfl, .inr (by simp)⟩)
      exact absurd (List.forall₂_cons.1 h).1 (by decide)
  | case4 c rest hdash hslash hquote ih =>
      have hstarts : ¬ StartsComment (c :: rest) := by simp [startsComment_cons, hquote]
      rw [List.forall₂_cons, ih hquote (.inr rfl),
        opensFrom_cons fun more _ => modeAfter_code_quote hquote more]
      simp [hstarts]
  | case5 c rest hdash hslash hquote ih =>
      have hapart (y : Char) (more : List Char) (hrest : rest = y :: more) : joins c y = false :=
        not_joins_of_code hdash hslash hquote y (by rw [hrest]; rfl)
      have hstarts : ¬ StartsComment (c :: rest) := by
        rw [startsComment_cons]
        rintro ⟨y, hy, hjoin, -⟩
        obtain ⟨more, hrest⟩ := List.head?_eq_some_iff.1 hy
        rw [hapart y more hrest] at hjoin
        cases hjoin
      have hnext : ∀ front, front <+: rest →
          modeAfter .code (c :: front) = modeAfter .code front := by
        rintro (_ | ⟨y, front⟩) ⟨more, hrest⟩
        · simp [modeAfter, hquote]
        · rw [modeAfter_code_cons (hapart y (front ++ more) hrest.symm), if_neg hquote]
      rw [List.forall₂_cons, ih trivial (.inl rfl), opensFrom_cons hnext]
      simp [hstarts]
  | case10 quote c hescape =>
      refine iff_of_true (by simp) ?_
      rw [opensFrom_cons (m := .literal quote) (by simp [modeAfter, hescape])]
      simp [not_opensFrom_nil]
  | case11 quote c hescape escaped rest ih =>
      have hnext : ∀ front, front <+: rest → modeAfter (.literal quote) (c :: escaped :: front) =
          modeAfter (.literal quote) front := by simp [modeAfter, hescape]
      rw [List.forall₂_cons, List.forall₂_cons, ih hmode (.inr rfl),
        opensFrom_pair (by simp) (.inl (by simp [modeAfter, hescape])) hnext]
      simp [blankOut_fills]
  | case12 quote c hescape hclose =>
      refine iff_of_true (by simp) ?_
      rw [opensFrom_cons (m := .code) (by simp [modeAfter, hescape, hclose])]
      simp [not_opensFrom_nil]
  | case13 quote c hescape hclose escaped rest hdouble ih =>
      have hnext : ∀ front, front <+: rest → modeAfter (.literal quote) (c :: escaped :: front) =
          modeAfter (.literal quote) front := by simp [modeAfter, hescape, hclose, hdouble]
      have hquote : isQuote escaped = true := eq_of_beq hdouble ▸ hmode
      rw [List.forall₂_cons, List.forall₂_cons, ih hmode (.inr rfl),
        opensFrom_pair (by simp) (.inr hquote) hnext]
      simp
  | case14 quote c hescape hclose next rest hsingle ih =>
      have hnext : ∀ front, front <+: next :: rest →
          modeAfter (.literal quote) (c :: front) = modeAfter .code front := by
        rintro (_ | ⟨y, front⟩) hfront
        · simp [modeAfter, hescape, hclose]
        · obtain rfl := (List.cons_prefix_cons.1 hfront).1
          simp [modeAfter.eq_def (.literal quote), hescape, hclose, hsingle]
      rw [List.forall₂_cons, ih trivial (.inl rfl), opensFrom_cons hnext]
      simp
  | case15 quote c rest hescape hclose ih =>
      rw [List.forall₂_cons, ih hmode (.inr rfl),
        opensFrom_cons fun more _ => modeAfter_literal_inside hescape hclose more]
      simp [blankOut_fills]
  | _ => exact absurd hstate (by simp [Mode.isLiteral])

/-- The mask of a text blanks nothing exactly when the text opens no comment. -/
theorem fillsOnly_iff (text : List Char) : FillsOnly text ↔ ¬ OpensComment text :=
  forall₂_maskFrom_iff Mode.opened_code (.inl rfl) text

instance (text : List Char) : Decidable (FillsOnly text) :=
  inferInstanceAs (Decidable (List.Forall₂ _ _ _))

instance (text : List Char) : Decidable (OpensComment text) :=
  decidable_of_iff (¬ FillsOnly text) (by rw [fillsOnly_iff, not_not])

/-! ## Statement text -/

/-- A text that opens no comment and leaves no literal open. -/
structure Stated (text : List Char) : Prop where
  code : modeAfter .code text = .code
  closed : ¬ OpensComment text

instance (text : List Char) : Decidable (Stated text) :=
  decidable_of_iff (modeAfter .code text = .code ∧ ¬ OpensComment text) ⟨fun h => ⟨h.1, h.2⟩,
    fun h => ⟨h.1, h.2⟩⟩

section

variable {front middle back text : List Char}

/-- Where two texts of which the first leaves no literal open meet without a mark. -/
theorem opensComment_append (hcode : modeAfter .code front = .code)
    (hapart : ∀ x ∈ front.getLast?, ∀ y ∈ back.head?, joins x y = false) :
    OpensComment (front ++ back) ↔ OpensComment front ∨ OpensComment back := by
  have hparts := opensFrom_append Mode.opened_code (.inl hcode) hapart
  rwa [hcode] at hparts

theorem Stated.append (hfront : Stated front) (hback : Stated back)
    (hapart : ∀ x ∈ front.getLast?, ∀ y ∈ back.head?, joins x y = false) :
    Stated (front ++ back) where
  code := (modeAfter_append hfront.code hapart).trans hback.code
  closed := by
    rw [opensComment_append hfront.code hapart]
    exact not_or_intro hfront.closed hback.closed

theorem stated_nil : Stated [] :=
  ⟨rfl, not_opensFrom_nil⟩

theorem not_opensComment_of_inert (h : inert text = true) : ¬ OpensComment text := by
  induction text with
  | nil => exact not_opensFrom_nil
  | cons x rest ih =>
      obtain ⟨hx, hrest⟩ := inert_cons.1 h
      have hsingle : inert [x] = true := inert_cons.2 ⟨hx, rfl⟩
      have hnext : ∀ front, front <+: rest → modeAfter .code (x :: front) = modeAfter .code front :=
        fun front _ =>
        modeAfter_append (modeAfter_of_inert hsingle) (not_joins_inert_last hsingle)
      rw [OpensComment, opensFrom_cons hnext]
      exact not_or_intro (fun hstarts => not_startsComment_of_inert hx hstarts.2) (ih hrest)

theorem stated_of_inert (h : inert text = true) : Stated text :=
  ⟨modeAfter_of_inert h, not_opensComment_of_inert h⟩

/-! ### Inert text between others -/

/-- Where a text that leaves no literal open is parted from another, the scanner reads them one by
one. -/
theorem modeAfter_between (h : inert middle = true) (hne : middle ≠ [])
    (hfront : modeAfter .code front = .code) :
    modeAfter .code (front ++ (middle ++ back)) = modeAfter .code back := by
  rw [modeAfter_append hfront (not_joins_between h hne),
    modeAfter_append (modeAfter_of_inert h) (not_joins_inert_last h)]

/-- Texts that are parted by inert text open a comment when one of them does. -/
theorem opensComment_between (h : inert middle = true) (hne : middle ≠ [])
    (hfront : OpensComment front ∨ modeAfter .code front = .code) :
    OpensComment (front ++ (middle ++ back)) ↔ OpensComment front ∨ OpensComment back := by
  obtain hopens | hcode := hfront
  · exact iff_of_true (hopens.append _) (.inl hopens)
  · rw [opensComment_append hcode (not_joins_between h hne),
      opensComment_append (modeAfter_of_inert h) (not_joins_inert_last h)]
    simp [not_opensComment_of_inert h]

end

/-- The inside of a printed value without backslashes is read up to its closing quote. -/
theorem stated_doubleQuotes {value : List Char} (h : '\\' ∉ value) :
    modeAfter (.literal '\x27') (doubleQuotes value ++ ['\x27']) = .code ∧
      ¬ OpensFrom (.literal '\x27') (doubleQuotes value ++ ['\x27']) := by
  induction value with
  | nil =>
      refine ⟨rfl, ?_⟩
      rw [doubleQuotes, List.flatMap_nil, List.nil_append,
        opensFrom_cons (m := .code) (by simp [modeAfter])]
      simp [not_opensFrom_nil]
  | cons c rest ih =>
      obtain ⟨hc, hrest⟩ := not_or.1 (mt List.mem_cons.2 h)
      obtain ⟨hcode, hopens⟩ := ih hrest
      by_cases hquote : c = '\x27'
      · subst hquote
        have hnext (front : List Char) : modeAfter (.literal '\x27') ('\x27' :: '\x27' :: front) =
            modeAfter (.literal '\x27') front := by simp [modeAfter]
        rw [doubleQuotes_quote, List.cons_append, List.cons_append, hnext,
          opensFrom_pair (by simp) (.inr rfl) fun front _ => hnext front]
        exact ⟨hcode, hopens⟩
      · have hinside (front : List Char) :
            modeAfter (.literal '\x27') (c :: front) = modeAfter (.literal '\x27') front :=
          modeAfter_literal_inside (by simpa using Ne.symm hc) (by simpa using hquote) front
        rw [doubleQuotes_cons hquote, List.cons_append, hinside,
          opensFrom_cons fun front _ => hinside front]
        exact ⟨hcode, not_or_intro (fun hstarts => by cases hstarts.1) hopens⟩

/-- A printed value without backslashes is a literal of its own. -/
theorem stated_quoteString {value : String} (h : '\\' ∉ value.toList) :
    Stated (quoteString value).toList := by
  obtain ⟨hcode, hopens⟩ := stated_doubleQuotes h
  have hquote : isQuote '\x27' = true := rfl
  rw [toList_quoteString]
  refine ⟨(modeAfter_code_quote hquote _).trans hcode, ?_⟩
  rw [OpensComment, opensFrom_cons fun front _ => modeAfter_code_quote hquote front]
  refine not_or_intro (fun hstarts => ?_) hopens
  obtain ⟨y, -, -, hfalse⟩ := startsComment_cons.1 hstarts.2
  cases hfalse

end SqlLayout.Source
