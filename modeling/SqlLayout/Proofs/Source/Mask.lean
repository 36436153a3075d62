import SqlLayout.Source.Mask
import Mathlib.Data.List.Forall2

/-!
# The scanner behind the masked text

The mask of a text is written by a scanner that is always inside of something: statement text, a
comment or a literal.  This module says what the mask can show for a character, in which mode the
scanner leaves a text, where a text can be cut so that its two sides are masked one by one, and
which characters of the mask can only be shown by statement text.  A semicolon is such a character:
it is visible exactly when the text before it leaves the scanner in statement text, and it separates
the masks of its two sides.

## Implementation notes

The scanner looks one character ahead: a second dash, a star, a slash or a second quote changes what
the character before it means.  Inert characters are none of these, so nothing that was decided
before one depends on it.  The mask shows blanks for comments and underscores for the inside of
literals; solid characters are inert and no blanks, and plain ones are no underscores either.  A
mode can name any character as its quote; only the modes that a real quote opened are reached.
-/

namespace SqlLayout.Source

/-- A literal is opened by a quote. -/
def Mode.Opened : Mode → Prop
  | .literal quote => isQuote quote = true
  | _ => True

theorem Mode.opened_code : Mode.code.Opened :=
  trivial

/-- The mode in which the scanner leaves a text.  A closing quote at the end closes its literal. -/
def modeAfter : Mode → List Char → Mode
  | mode, [] => mode
  | .code, c :: rest =>
    match c, rest with
    | '-', '-' :: rest' => modeAfter .line rest'
    | '/', '*' :: rest' => modeAfter .block rest'
    | c, rest => if isQuote c then modeAfter (.literal c) rest else modeAfter .code rest
  | .line, c :: rest => if c == '\n' then modeAfter .code rest else modeAfter .line rest
  | .block, c :: rest =>
    match c, rest with
    | '*', '/' :: rest' => modeAfter .code rest'
    | _, rest => modeAfter .block rest
  | .literal quote, c :: rest =>
    if c == '\\' && quote == '\x27' then
      match rest with
      | [] => .literal quote
      | _ :: rest' => modeAfter (.literal quote) rest'
    else if c == quote then
      match rest with
      | [] => .code
      | next :: rest' =>
        if next == quote then modeAfter (.literal quote) rest' else modeAfter .code (next :: rest')
    else modeAfter (.literal quote) rest

theorem modeAfter_opened {mode : Mode} {text : List Char} (hmode : mode.Opened) :
    (modeAfter mode text).Opened := by
  fun_induction modeAfter mode text with
  | case1 mode => exact hmode
  | case4 c rest _ _ hquote ih => exact ih hquote
  | case10 quote c hescape => exact hmode
  | case11 quote c hescape escaped rest ih => exact ih hmode
  | case12 => exact Mode.opened_code
  | case13 quote c hescape hclose escaped rest hdouble ih => exact ih hmode
  | case15 quote c rest hescape hclose ih => exact ih hmode
  | _ => rename_i ih; exact ih trivial

/-- Within a line a comment goes on. -/
theorem modeAfter_line {line : List Char} (hline : ∀ x ∈ line, (x != '\n') = true) :
    modeAfter .line line = .line := by
  induction line with
  | nil => rfl
  | cons x rest ih =>
      obtain ⟨hx, hrest⟩ := List.forall_mem_cons.1 hline
      rw [modeAfter, if_neg (by simpa using hx), ih hrest]

/-! ## What the mask shows -/

/-- What the mask may show for a character: the character itself, or a fill unless it is a line
feed. -/
def Covers (shown c : Char) : Prop :=
  shown = c ∨ c ≠ '\n' ∧ (shown = '_' ∨ shown = ' ')

theorem isQuote_ne_lineFeed {quote : Char} (h : isQuote quote = true) : quote ≠ '\n' := by
  rintro rfl
  exact absurd h (by decide)

theorem covers_blankOut {fill : Char} (hfill : fill = '_' ∨ fill = ' ') (c : Char) :
    Covers (blankOut fill c) c := by
  unfold blankOut
  split
  · exact Or.inl rfl
  · rename_i h
    exact Or.inr ⟨by simpa using h, hfill⟩

attribute [local simp] maskFrom in
theorem maskFrom_literal_inside {quote c : Char} (hescape : ¬(c == '\\' && quote == '\x27') = true)
    (hclose : ¬(c == quote) = true) (rest : List Char) :
    maskFrom (.literal quote) (c :: rest) = blankOut '_' c :: maskFrom (.literal quote) rest := by
  cases rest <;> simp [hescape, hclose]

/-- Every character of the mask covers the character of the text at the same offset. -/
theorem maskFrom_covers {mode : Mode} (hmode : mode.Opened) (text : List Char) :
    List.Forall₂ Covers (maskFrom mode text) text := by
  fun_induction maskFrom mode text with
  | case1 mode => exact .nil
  | case2 rest ih => simp [Covers, ih trivial]
  | case3 rest ih => simp [Covers, ih trivial]
  | case4 c rest _ _ hquote ih => exact .cons (.inl rfl) (ih hquote)
  | case5 c rest _ _ hquote ih => exact .cons (.inl rfl) (ih trivial)
  | case6 c rest hline ih => exact .cons (.inl rfl) (ih trivial)
  | case7 c rest hline ih => exact .cons (.inr ⟨by simpa using hline, .inr rfl⟩) (ih trivial)
  | case8 rest ih => simp [Covers, ih trivial]
  | case9 c rest _ ih => exact .cons (covers_blankOut (.inr rfl) c) (ih trivial)
  | case10 quote c hescape => simp_all [Covers]
  | case11 quote c hescape escaped rest ih =>
      refine .cons (.inr ⟨?_, .inl rfl⟩) (.cons (covers_blankOut (.inl rfl) escaped) (ih hmode))
      simp_all
  | case12 quote c hescape hclose => simp [Covers]
  | case13 quote c hescape hclose escaped rest hdouble ih =>
      rw [beq_iff_eq] at hclose hdouble
      subst hclose hdouble
      have hline := isQuote_ne_lineFeed hmode
      exact .cons (.inr ⟨hline, .inl rfl⟩) (.cons (.inr ⟨hline, .inl rfl⟩) (ih hmode))
  | case14 quote c hescape hclose next rest hsingle ih => exact .cons (.inl rfl) (ih trivial)
  | case15 quote c rest hescape hclose ih => exact .cons (covers_blankOut (.inl rfl) c) (ih hmode)

theorem mask_covers (text : List Char) : List.Forall₂ Covers (mask text) text :=
  maskFrom_covers Mode.opened_code text

@[simp] theorem length_mask (text : List Char) : (mask text).length = text.length :=
  (mask_covers text).length_eq

theorem covers_of_getElem? {text : List Char} {i : Nat} {shown c : Char}
    (hshown : (mask text)[i]? = some shown) (hc : text[i]? = some c) : Covers shown c := by
  obtain ⟨hmask, rfl⟩ := List.getElem?_eq_some_iff.1 hshown
  obtain ⟨htext, rfl⟩ := List.getElem?_eq_some_iff.1 hc
  exact (List.forall₂_iff_get.1 (mask_covers text)).2 i hmask htext

/-- A visible semicolon is one of the text. -/
theorem getElem?_of_visible {text : List Char} {offset : Nat}
    (h : (mask text)[offset]? = some ';') : text[offset]? = some ';' := by
  have hlen : offset < text.length := by
    rw [← length_mask]
    exact (List.getElem?_eq_some_iff.1 h).1
  have hc := List.getElem?_eq_getElem hlen
  obtain hsame | ⟨-, hfill⟩ := covers_of_getElem? h hc
  · rw [hc, hsame]
  · exact absurd hfill (by decide)

/-! ## Cuts -/

attribute [local simp] modeAfter in
theorem modeAfter_literal_inside {quote c : Char} (hescape : ¬(c == '\\' && quote == '\x27') = true)
    (hclose : ¬(c == quote) = true) (rest : List Char) :
    modeAfter (.literal quote) (c :: rest) = modeAfter (.literal quote) rest := by
  cases rest <;> simp [hescape, hclose]

/-- A character that is no quote and no part of a mark that opens or closes a comment. -/
def isInert (c : Char) : Bool :=
  !isQuote c && c != '-' && c != '*' && c != '/'

/-- Whether two characters next to each other open a comment or may double a quote. -/
def joins (x y : Char) : Bool :=
  (x == '-' && y == '-') || (x == '/' && y == '*') || (isQuote x && x == y)

theorem joins_iff {x y : Char} : joins x y = true ↔
    (x = '-' ∧ y = '-') ∨ (x = '/' ∧ y = '*') ∨ (isQuote x = true ∧ x = y) := by
  simp only [joins, Bool.or_eq_true, Bool.and_eq_true, beq_iff_eq, or_assoc]

theorem isQuote_of_inert {c : Char} (h : isInert c = true) : isQuote c = false := by
  simp only [isInert, Bool.and_eq_true, Bool.not_eq_true'] at h
  exact h.1.1.1

theorem joins_inert_left {x : Char} (h : isInert x = true) (y : Char) : joins x y = false := by
  rw [Bool.eq_false_iff, Ne, joins_iff]
  rintro (⟨rfl, -⟩ | ⟨rfl, -⟩ | ⟨hquote, -⟩)
  · exact absurd h (by decide)
  · exact absurd h (by decide)
  · exact absurd hquote (by simp [isQuote_of_inert h])

theorem joins_inert_right (x : Char) {y : Char} (h : isInert y = true) : joins x y = false := by
  rw [Bool.eq_false_iff, Ne, joins_iff]
  rintro (⟨-, rfl⟩ | ⟨-, rfl⟩ | ⟨hquote, rfl⟩)
  · exact absurd h (by decide)
  · exact absurd h (by decide)
  · exact absurd hquote (by simp [isQuote_of_inert h])

/-- Two characters of statement text that do not join are read one by one. -/
theorem maskFrom_code_cons {x y : Char} (h : joins x y = false) (rest : List Char) :
    maskFrom .code (x :: y :: rest) =
      x :: maskFrom (if isQuote x then .literal x else .code) (y :: rest) := by
  have hdash : ¬(x = '-' ∧ y = '-') := by rintro ⟨rfl, rfl⟩; simp [joins] at h
  have hslash : ¬(x = '/' ∧ y = '*') := by rintro ⟨rfl, rfl⟩; simp [joins] at h
  rw [maskFrom]
  · split <;> rfl
  · intro rest' hx hy
    exact hdash ⟨hx, (List.cons.inj hy).1⟩
  · intro rest' hx hy
    exact hslash ⟨hx, (List.cons.inj hy).1⟩

theorem modeAfter_code_cons {x y : Char} (h : joins x y = false) (rest : List Char) :
    modeAfter .code (x :: y :: rest) =
      modeAfter (if isQuote x then .literal x else .code) (y :: rest) := by
  have hdash : ¬(x = '-' ∧ y = '-') := by rintro ⟨rfl, rfl⟩; simp [joins] at h
  have hslash : ¬(x = '/' ∧ y = '*') := by rintro ⟨rfl, rfl⟩; simp [joins] at h
  rw [modeAfter]
  · split <;> rfl
  · intro rest' hx hy
    exact hdash ⟨hx, (List.cons.inj hy).1⟩
  · intro rest' hx hy
    exact hslash ⟨hx, (List.cons.inj hy).1⟩

theorem maskFrom_code_quote {x : Char} (h : isQuote x = true) (rest : List Char) :
    maskFrom .code (x :: rest) = x :: maskFrom (.literal x) rest := by
  rw [maskFrom, if_pos h]
  · rintro rest' rfl
    exact absurd h (by decide)
  · rintro rest' rfl
    exact absurd h (by decide)

theorem modeAfter_code_quote {x : Char} (h : isQuote x = true) (rest : List Char) :
    modeAfter .code (x :: rest) = modeAfter (.literal x) rest := by
  rw [modeAfter, if_pos h]
  · rintro rest' rfl
    exact absurd h (by decide)
  · rintro rest' rfl
    exact absurd h (by decide)

/-- An inert character of statement text is shown, and nothing else depends on it. -/
theorem maskFrom_code_inert {x : Char} (h : isInert x = true) (rest : List Char) :
    maskFrom .code (x :: rest) = x :: maskFrom .code rest := by
  have hquote := isQuote_of_inert h
  cases rest with
  | nil => simp [maskFrom, hquote]
  | cons y rest => rw [maskFrom_code_cons (joins_inert_left h y), hquote, if_neg Bool.false_ne_true]

/-- A character of statement text that opens nothing does not join the one after it. -/
theorem not_joins_of_code {c : Char} {rest : List Char}
    (hdash : ∀ more, c = '-' → rest = '-' :: more → False)
    (hslash : ∀ more, c = '/' → rest = '*' :: more → False) (hquote : ¬ isQuote c = true) :
    ∀ y ∈ rest.head?, joins c y = false := by
  intro y hy
  obtain ⟨more, hrest⟩ := List.head?_eq_some_iff.1 hy
  rw [Bool.eq_false_iff, Ne, joins_iff]
  rintro (⟨rfl, rfl⟩ | ⟨rfl, rfl⟩ | ⟨hquote', -⟩)
  · exact hdash more rfl hrest
  · exact hslash more rfl hrest
  · exact hquote hquote'

/-! ## Steps -/

/-- The scanner gets over a part of a text in one: it shows as many characters for it, and goes on
behind the part in another mode. -/
structure GetsOver (mode after : Mode) (front fill rest : List Char) : Prop where
  mask : maskFrom mode (front ++ rest) = fill ++ maskFrom after rest
  length : fill.length = front.length
  mode : ∀ k, modeAfter mode (front ++ rest.take k) = modeAfter after (rest.take k)

theorem GetsOver.modeAfter_eq {mode after : Mode} {front fill rest : List Char}
    (h : GetsOver mode after front fill rest) :
    modeAfter mode (front ++ rest) = modeAfter after rest := by
  simpa using h.mode rest.length

theorem cons_of_take {rest rest' : List Char} {k : Nat} {c : Char} (h : rest.take k = c :: rest') :
    ∃ more, rest = c :: more := by
  cases rest with
  | nil => simp at h
  | cons x more =>
      cases k with
      | zero => simp at h
      | succ k => exact ⟨more, congrArg (· :: more) (List.cons.inj h).1⟩

namespace GetsOver

variable {q c next : Char} {rest : List Char}

theorem lineStart : GetsOver .code .line ['-', '-'] [' ', ' '] rest :=
  ⟨rfl, rfl, fun _ => rfl⟩

theorem blockStart : GetsOver .code .block ['/', '*'] [' ', ' '] rest :=
  ⟨rfl, rfl, fun _ => rfl⟩

theorem opening (hopen : isQuote c = true) : GetsOver .code (.literal c) [c] [c] rest :=
  ⟨maskFrom_code_quote hopen rest, rfl, fun _ => modeAfter_code_quote hopen _⟩

theorem code (hdash : ∀ more, c = '-' → rest = '-' :: more → False)
    (hslash : ∀ more, c = '/' → rest = '*' :: more → False) (hopen : ¬ isQuote c = true) :
    GetsOver .code .code [c] [c] rest := by
  refine ⟨?_, rfl, fun k => ?_⟩
  · rw [List.singleton_append, maskFrom, if_neg hopen]
    · rfl
    · exact hdash
    · exact hslash
  · rw [List.singleton_append, modeAfter, if_neg hopen]
    · rintro _ rfl htake
      obtain ⟨more, hrest⟩ := cons_of_take htake
      exact hdash more rfl hrest
    · rintro _ rfl htake
      obtain ⟨more, hrest⟩ := cons_of_take htake
      exact hslash more rfl hrest

theorem lineEnd (hline : (c == '\n') = true) : GetsOver .line .code [c] [c] rest := by
  constructor <;> simp [maskFrom, modeAfter, hline]

theorem line (hline : ¬ (c == '\n') = true) : GetsOver .line .line [c] [' '] rest := by
  constructor <;> simp [maskFrom, modeAfter, hline]

theorem blockEnd : GetsOver .block .code ['*', '/'] [' ', ' '] rest :=
  ⟨rfl, rfl, fun _ => rfl⟩

theorem block (hstar : ∀ more, c = '*' → rest = '/' :: more → False) :
    GetsOver .block .block [c] [blankOut ' ' c] rest := by
  refine ⟨?_, rfl, fun k => ?_⟩
  · rw [List.singleton_append, maskFrom]
    · rfl
    · exact hstar
  · rw [List.singleton_append, modeAfter]
    rintro _ rfl htake
    obtain ⟨more, hrest⟩ := cons_of_take htake
    exact hstar more rfl hrest

theorem escape (hescape : (c == '\\' && q == '\x27') = true) :
    GetsOver (.literal q) (.literal q) [c, next] ['_', blankOut '_' next] rest := by
  constructor <;> simp [maskFrom, modeAfter, hescape]

theorem doubled (hescape : ¬ (c == '\\' && q == '\x27') = true) (hclose : (c == q) = true)
    (hdouble : (next == q) = true) :
    GetsOver (.literal q) (.literal q) [c, next] ['_', '_'] rest := by
  constructor <;> simp [maskFrom, modeAfter, hescape, hclose, hdouble]

theorem closing (hescape : ¬ (c == '\\' && q == '\x27') = true) (hclose : (c == q) = true)
    (hsingle : ¬ (next == q) = true) : GetsOver (.literal q) .code [c] [c] (next :: rest) := by
  refine ⟨?_, rfl, fun k => ?_⟩
  · rw [List.singleton_append, maskFrom.eq_def]
    simp [hescape, hclose, hsingle]
  · cases k <;> simp [modeAfter, hescape, hclose, hsingle]

theorem inside (hescape : ¬ (c == '\\' && q == '\x27') = true) (hclose : ¬ (c == q) = true) :
    GetsOver (.literal q) (.literal q) [c] [blankOut '_' c] rest :=
  ⟨maskFrom_literal_inside hescape hclose rest, rfl,
    fun _ => modeAfter_literal_inside hescape hclose _⟩

end GetsOver

/-- Two characters that do not follow each other in a text, nor where it is cut, do not follow each
other in the whole. -/
theorem apart_append {a b c : Char} {rest back : List Char}
    (hrest : ∀ more, c = a → rest = b :: more → False)
    (hback : rest = [] → c = a → ∀ y ∈ back.head?, y ≠ b) :
    ∀ more, c = a → rest ++ back = b :: more → False := by
  rintro more hc hmore
  cases rest with
  | nil => exact hback rfl hc b (by rw [← List.nil_append back, hmore]; rfl) rfl
  | cons y rest => exact hrest rest hc (by rw [(List.cons.inj hmore).1])

/-! ## Cuts between steps -/

/-- A text after which the scanner goes on as it is, whatever stands before: it starts with an inert
character, and with no backslash. -/
def startsInert (back : List Char) : Bool :=
  back.head?.all fun y => isInert y && y != '\\'

theorem startsInert_cons {y : Char} {back : List Char} :
    startsInert (y :: back) = true ↔ isInert y = true ∧ y ≠ '\\' := by
  simp [startsInert]

/-- What the scanner does on the two sides of a cut does not depend on the other side. -/
structure CutsAt (mode : Mode) (front back : List Char) : Prop where
  mask : maskFrom mode (front ++ back) = maskFrom mode front ++ maskFrom (modeAfter mode front) back
  mode : modeAfter mode (front ++ back) = modeAfter (modeAfter mode front) back

/-- A cut behind a step is one of the whole text. -/
theorem GetsOver.cutsAt {mode after : Mode} {front fill rest back : List Char}
    (hwhole : GetsOver mode after front fill (rest ++ back))
    (hfront : GetsOver mode after front fill rest) (h : CutsAt after rest back) :
    CutsAt mode (front ++ rest) back := by
  have hrest := hfront.modeAfter_eq
  constructor
  · rw [List.append_assoc, hwhole.mask, hfront.mask, hrest, h.mask, List.append_assoc]
  · rw [List.append_assoc, hwhole.modeAfter_eq, hrest, h.mode]

/-- A literal that is cut behind a backslash goes on before an inert character. -/
theorem cutsAt_escape {q c : Char} {back : List Char} (hescape : (c == '\\' && q == '\x27') = true)
    (hquote : isQuote q = true) (h : startsInert back = true) : CutsAt (.literal q) [c] back := by
  cases back with
  | nil => constructor <;> simp [maskFrom, modeAfter, hescape]
  | cons y back =>
      obtain ⟨hy, hbackslash⟩ := startsInert_cons.1 h
      have hne : ¬(y == q) = true := by
        intro heq
        rw [← eq_of_beq heq, isQuote_of_inert hy] at hquote
        cases hquote
      have hplain : ¬(y == '\\' && q == '\x27') = true := by simp [hbackslash]
      have hmode : modeAfter (.literal q) [c] = .literal q := by simp [modeAfter, hescape]
      constructor
      · rw [hmode, maskFrom_literal_inside hplain hne]
        simp [maskFrom, hescape]
      · rw [hmode, modeAfter_literal_inside hplain hne]
        simp [modeAfter, hescape]

/-- A literal that is cut behind its closing quote is closed when the quote is not doubled. -/
theorem cutsAt_closing {q c : Char} {back : List Char}
    (hescape : ¬(c == '\\' && q == '\x27') = true) (hclose : (c == q) = true)
    (hquote : isQuote q = true) (hapart : ∀ y ∈ back.head?, joins c y = false) :
    CutsAt (.literal q) [c] back := by
  cases back with
  | nil => constructor <;> simp [maskFrom, modeAfter, hescape, hclose]
  | cons y back =>
      obtain rfl := eq_of_beq hclose
      have hne : (y == c) = false := by
        have hjoin : joins c y = false := hapart y rfl
        have hcy : c ≠ y := by
          rintro rfl
          simp [joins, hquote] at hjoin
        simpa using hcy.symm
      constructor <;> simp [maskFrom, modeAfter, hescape, hne]

/-- What the scanner does on the two sides of a cut in statement text, or before an inert character,
does not depend on the other side. -/
theorem scan_append {mode : Mode} {front back : List Char} (hmode : mode.Opened)
    (h : modeAfter mode front = .code ∨ startsInert back = true)
    (hapart : ∀ x ∈ front.getLast?, ∀ y ∈ back.head?, joins x y = false) :
    CutsAt mode front back := by
  fun_induction modeAfter mode front with
  | case1 mode => constructor <;> simp [maskFrom, modeAfter]
  | case2 rest ih =>
      exact GetsOver.lineStart.cutsAt .lineStart (ih trivial h (by cases rest <;> simp_all))
  | case3 rest ih =>
      exact GetsOver.blockStart.cutsAt .blockStart (ih trivial h (by cases rest <;> simp_all))
  | case4 c rest hdash hslash hquote ih =>
      exact (GetsOver.opening hquote).cutsAt (.opening hquote)
        (ih hquote h (by cases rest <;> simp_all))
  | case5 c rest hdash hslash hquote ih =>
      have hlast : rest = [] → ∀ y ∈ back.head?, joins c y = false := by
        rintro rfl
        exact hapart c rfl
      have hwhole : GetsOver .code .code [c] [c] (rest ++ back) := by
        refine .code (apart_append hdash ?_) (apart_append hslash ?_) hquote
        · rintro hrest rfl y hy rfl
          exact absurd (hlast hrest '-' hy) (by decide)
        · rintro hrest rfl y hy rfl
          exact absurd (hlast hrest '*' hy) (by decide)
      exact hwhole.cutsAt (.code hdash hslash hquote) (ih trivial h (by cases rest <;> simp_all))
  | case6 c rest hline ih =>
      exact (GetsOver.lineEnd hline).cutsAt (.lineEnd hline)
        (ih trivial h (by cases rest <;> simp_all))
  | case7 c rest hline ih =>
      exact (GetsOver.line hline).cutsAt (.line hline) (ih trivial h (by cases rest <;> simp_all))
  | case8 rest ih =>
      exact GetsOver.blockEnd.cutsAt .blockEnd (ih trivial h (by cases rest <;> simp_all))
  | case9 c rest hstar ih =>
      have hwhole : GetsOver .block .block [c] [blankOut ' ' c] (rest ++ back) := by
        refine .block (apart_append hstar ?_)
        rintro rfl rfl y hy rfl
        -- no slash is inert, so the comment ends in front of the cut or goes on behind it
        have hinert := h.resolve_left (by simp [modeAfter])
        rw [startsInert, hy] at hinert
        exact absurd hinert (by decide)
      exact hwhole.cutsAt (.block hstar) (ih trivial h (by cases rest <;> simp_all))
  | case10 q c hescape => exact cutsAt_escape hescape hmode (h.resolve_left (by simp))
  | case11 q c hescape escaped rest ih =>
      exact (GetsOver.escape hescape).cutsAt (.escape hescape)
        (ih hmode h (by cases rest <;> simp_all))
  | case12 q c hescape hclose => exact cutsAt_closing hescape hclose hmode (hapart c rfl)
  | case13 q c hescape hclose next rest hdouble ih =>
      exact (GetsOver.doubled hescape hclose hdouble).cutsAt (.doubled hescape hclose hdouble)
        (ih hmode h (by cases rest <;> simp_all))
  | case14 q c hescape hclose next rest hsingle ih =>
      have hwhole : GetsOver (.literal q) .code [c] [c] (next :: rest ++ back) :=
        .closing hescape hclose hsingle
      exact hwhole.cutsAt (.closing hescape hclose hsingle)
        (ih trivial h (by cases rest <;> simp_all))
  | case15 q c rest hescape hclose ih =>
      exact (GetsOver.inside hescape hclose).cutsAt (.inside hescape hclose)
        (ih hmode h (by cases rest <;> simp_all))

/-! ## Shown characters -/

/-- An inert character that is neither a space nor a line feed. -/
def isSolid (c : Char) : Bool :=
  isInert c && c != ' ' && c != '\n'

/-- A solid character that fills no literal: the mask shows it for itself only. -/
def isPlain (c : Char) : Bool :=
  isSolid c && c != '_'

theorem isInert_of_solid {c : Char} (h : isSolid c = true) : isInert c = true := by
  simp only [isSolid, Bool.and_eq_true] at h
  exact h.1.1

theorem isSolid_of_plain {c : Char} (h : isPlain c = true) : isSolid c = true := by
  simp only [isPlain, Bool.and_eq_true] at h
  exact h.1

/-- Whether every plain character of a masked text stands behind a quote. -/
def buried : List Char → Bool
  | [] => true
  | c :: rest => isQuote c || (!isPlain c && buried rest)

theorem buried_cons_fill {fill : Char} (hfill : isPlain fill = false) {shown : List Char}
    (h : buried shown = true) : buried (fill :: shown) = true := by
  simp [buried, hfill, h]

theorem isPlain_blankOut {fill : Char} (hfill : isPlain fill = false) (c : Char) :
    isPlain (blankOut fill c) = false := by
  unfold blankOut
  split
  · next h =>
      rw [beq_iff_eq] at h
      rw [h]
      decide
  · exact hfill

theorem isPlain_underscore : isPlain '_' = false := by decide

/-- Inside a literal nothing plain is shown before the quote that closes it. -/
theorem buried_literal {quote : Char} (hquote : isQuote quote = true) (text : List Char) :
    buried (maskFrom (.literal quote) text) = true := by
  generalize hmode : Mode.literal quote = mode
  fun_induction maskFrom mode text with
  | case1 mode => rfl
  | case10 q c hescape => rfl
  | case11 q c hescape escaped rest ih =>
      obtain rfl := Mode.literal.inj hmode
      exact buried_cons_fill isPlain_underscore
        (buried_cons_fill (isPlain_blankOut isPlain_underscore escaped) (ih rfl))
  | case12 q c hescape hclose =>
      obtain rfl := Mode.literal.inj hmode
      have hc : isQuote c = true := by rwa [beq_iff_eq.1 hclose]
      simp [buried, hc]
  | case13 q c hescape hclose escaped rest hdouble ih =>
      exact buried_cons_fill isPlain_underscore (buried_cons_fill isPlain_underscore (ih hmode))
  | case14 q c hescape hclose next rest hsingle ih =>
      obtain rfl := Mode.literal.inj hmode
      have hc : isQuote c = true := by rwa [beq_iff_eq.1 hclose]
      simp [buried, hc]
  | case15 q c rest hescape hclose ih =>
      exact buried_cons_fill (isPlain_blankOut isPlain_underscore c) (ih hmode)
  | _ => cases hmode

/-- Whether the scanner is inside of a literal. -/
def Mode.isLiteral : Mode → Bool
  | .literal _ => true
  | _ => false

/-- Where the mask of a text shows the inside of a literal: nothing plain follows before a quote,
and the scanner was inside of a literal from the start or a quote is shown before. -/
def InLiteral (mode : Mode) (shown : List Char) (offset : Nat) : Prop :=
  buried (shown.drop offset) = true ∧
    (mode.isLiteral = true ∨ ∃ x ∈ shown.take offset, isQuote x = true)

/-- What is shown inside of a literal behind a step is shown so in the whole text. -/
theorem InLiteral.behind {mode after : Mode} {fill shown : List Char} {offset : Nat}
    (h : InLiteral after shown offset)
    (hmode : after.isLiteral = true → mode.isLiteral = true ∨ ∃ x ∈ fill, isQuote x = true) :
    InLiteral mode (fill ++ shown) (fill.length + offset) := by
  obtain ⟨hburied, hopened⟩ := h
  refine ⟨by rwa [List.drop_length_add_append], ?_⟩
  rw [List.take_length_add_append]
  obtain hliteral | ⟨y, hy, hquote⟩ := hopened
  · exact (hmode hliteral).imp_right fun ⟨x, hx, hquote⟩ =>
      ⟨x, List.mem_append_left _ hx, hquote⟩
  · exact .inr ⟨y, List.mem_append_right _ hy, hquote⟩

/-- Outside of literals only statement text shows anything but blanks. -/
theorem shown_first {mode : Mode} {back : List Char} {c s : Char}
    (h : (maskFrom mode (c :: back)).head? = some s) (hliteral : mode.isLiteral = false)
    (hblank : s ≠ ' ') (hline : s ≠ '\n') : mode = .code ∧ s = c := by
  rw [maskFrom.eq_def] at h
  grind [blankOut, Mode.isLiteral]

/-- A character behind a step is shown as it is shown behind the step alone. -/
theorem GetsOver.shown {mode after : Mode} {step fill front back : List Char} {s : Char} {p : Prop}
    (hover : GetsOver mode after step fill (front ++ back))
    (h : (maskFrom mode (step ++ front ++ back))[(step ++ front).length]? = some s)
    (hmode : after.isLiteral = true → mode.isLiteral = true ∨ ∃ x ∈ fill, isQuote x = true)
    (ih : (maskFrom after (front ++ back))[front.length]? = some s →
      p ∨ InLiteral after (maskFrom after (front ++ back)) front.length) :
    p ∨ InLiteral mode (maskFrom mode (step ++ front ++ back)) (step ++ front).length := by
  rw [List.append_assoc, hover.mask, List.length_append, ← hover.length] at h ⊢
  rw [List.getElem?_append_right (Nat.le_add_right _ _), Nat.add_sub_cancel_left] at h
  exact (ih h).imp_right fun hin => hin.behind hmode

/-- A character that is shown as no blank is not the second one of a mark that opens a comment. -/
theorem apart_of_shown_code {x c s : Char} {back : List Char}
    (h : (maskFrom .code (x :: c :: back))[1]? = some s) (hblank : s ≠ ' ') :
    (x = '-' → c ≠ '-') ∧ (x = '/' → c ≠ '*') := by
  constructor
  · rintro rfl rfl
    exact hblank (by simpa [maskFrom] using h.symm)
  · rintro rfl rfl
    exact hblank (by simpa [maskFrom] using h.symm)

/-- A character that is shown as no blank is not the second one of a mark that ends a comment. -/
theorem apart_of_shown_block {x c s : Char} {back : List Char}
    (h : (maskFrom .block (x :: c :: back))[1]? = some s) (hblank : s ≠ ' ') :
    x = '*' → c ≠ '/' := by
  rintro rfl rfl
  exact hblank (by simpa [maskFrom] using h.symm)

/-- A shown character that is neither a quote nor blank is one of statement text, or stands inside
of a literal. -/
theorem shown_cases {mode : Mode} {front back : List Char} {c s : Char} (hmode : mode.Opened)
    (h : (maskFrom mode (front ++ c :: back))[front.length]? = some s) (hblank : s ≠ ' ')
    (hline : s ≠ '\n') :
    (modeAfter mode front = .code ∧ s = c) ∨
      InLiteral mode (maskFrom mode (front ++ c :: back)) front.length := by
  fun_induction modeAfter mode front with
  | case1 mode =>
      cases hliteral : mode.isLiteral with
      | false =>
          exact .inl (shown_first (by simpa [List.head?_eq_getElem?] using h) hliteral hblank hline)
      | true =>
          cases mode with
          | literal quote => exact .inr ⟨buried_literal hmode _, .inl rfl⟩
          | _ => cases hliteral
  | case2 rest ih => exact GetsOver.lineStart.shown h (by simp [Mode.isLiteral]) (ih trivial)
  | case3 rest ih => exact GetsOver.blockStart.shown h (by simp [Mode.isLiteral]) (ih trivial)
  | case4 x rest hdash hslash hopen ih =>
      exact (GetsOver.opening hopen).shown h (fun _ => .inr ⟨x, by simp, hopen⟩) (ih hopen)
  | case5 x rest hdash hslash hopen ih =>
      have hlast : rest = [] → (x = '-' → c ≠ '-') ∧ (x = '/' → c ≠ '*') := by
        rintro rfl
        exact apart_of_shown_code h hblank
      have hwhole : GetsOver .code .code [x] [x] (rest ++ c :: back) := by
        refine .code (apart_append hdash fun hrest hx => ?_)
          (apart_append hslash fun hrest hx => ?_) hopen
        · simpa using (hlast hrest).1 hx
        · simpa using (hlast hrest).2 hx
      exact hwhole.shown h (by simp [Mode.isLiteral]) (ih trivial)
  | case6 x rest hend ih =>
      exact (GetsOver.lineEnd hend).shown h (by simp [Mode.isLiteral]) (ih trivial)
  | case7 x rest hend ih =>
      exact (GetsOver.line hend).shown h (by simp [Mode.isLiteral]) (ih trivial)
  | case8 rest ih => exact GetsOver.blockEnd.shown h (by simp [Mode.isLiteral]) (ih trivial)
  | case9 x rest hstar ih =>
      have hwhole : GetsOver .block .block [x] [blankOut ' ' x] (rest ++ c :: back) := by
        refine .block (apart_append hstar ?_)
        rintro rfl hx
        simpa using apart_of_shown_block h hblank hx
      exact hwhole.shown h (by simp [Mode.isLiteral]) (ih trivial)
  | case10 quote x hescape =>
      have hin := buried_cons_fill (isPlain_blankOut isPlain_underscore c)
        (buried_literal hmode back)
      exact .inr ⟨by simpa [maskFrom, hescape] using hin, .inl rfl⟩
  | case11 quote x hescape escaped rest ih =>
      exact (GetsOver.escape hescape).shown h .inl (ih hmode)
  | case12 quote x hescape hclose =>
      by_cases hdouble : c = quote
      · have hin := buried_cons_fill isPlain_underscore (buried_literal hmode back)
        exact .inr ⟨by simpa [maskFrom, hescape, hclose, hdouble] using hin, .inl rfl⟩
      · have hafter : maskFrom (.literal quote) ([x] ++ c :: back) =
            x :: maskFrom .code (c :: back) := by
          simp [maskFrom, hescape, hclose, hdouble]
        rw [hafter] at h
        exact .inl (shown_first (by simpa [List.head?_eq_getElem?] using h) rfl hblank hline)
  | case13 quote x hescape hclose escaped rest hdouble ih =>
      exact (GetsOver.doubled hescape hclose hdouble).shown h .inl (ih hmode)
  | case14 quote x hescape hclose next rest hsingle ih =>
      have hwhole : GetsOver (.literal quote) .code [x] [x] (next :: rest ++ c :: back) :=
        .closing hescape hclose hsingle
      exact hwhole.shown h (by simp [Mode.isLiteral]) (ih trivial)
  | case15 quote x rest hescape hclose ih =>
      exact (GetsOver.inside hescape hclose).shown h .inl (ih hmode)

theorem not_inLiteral_of_plain {mode : Mode} {shown : List Char} {offset : Nat} {s : Char}
    (h : shown[offset]? = some s) (hplain : isPlain s = true) : ¬ InLiteral mode shown offset := by
  rintro ⟨hburied, -⟩
  obtain ⟨hoffset, rfl⟩ := List.getElem?_eq_some_iff.1 h
  have hquote := isQuote_of_inert (isInert_of_solid (isSolid_of_plain hplain))
  rw [List.drop_eq_getElem_cons hoffset] at hburied
  simp [buried, hquote, hplain] at hburied

/-! ## Semicolons -/

/-- A semicolon in statement text separates what the scanner does on its two sides. -/
theorem scan_append_semicolon {mode : Mode} {front : List Char} (hmode : mode.Opened)
    (h : modeAfter mode front = .code) (back : List Char) :
    maskFrom mode (front ++ ';' :: back) = maskFrom mode front ++ ';' :: maskFrom .code back ∧
      modeAfter mode (front ++ ';' :: back) = modeAfter .code back := by
  have hapart : ∀ x ∈ front.getLast?, ∀ y ∈ (';' :: back).head?, joins x y = false := by
    rintro x - y hy
    obtain rfl : ';' = y := by simpa using hy
    exact joins_inert_right x (by decide)
  obtain ⟨hmask, hafter⟩ := scan_append hmode (.inl h) hapart
  rw [hmask, hafter, h]
  simp [maskFrom, modeAfter, isQuote]

/-- The text before a visible semicolon leaves the scanner in statement text. -/
theorem modeAfter_of_visible {mode : Mode} {front back : List Char} (hmode : mode.Opened)
    (h : (maskFrom mode (front ++ ';' :: back))[front.length]? = some ';') :
    modeAfter mode front = .code := by
  obtain ⟨hcode, -⟩ | hin := shown_cases hmode h (by decide) (by decide)
  · exact hcode
  · exact absurd hin (not_inLiteral_of_plain h (by decide))

theorem mask_append_semicolon {front : List Char} (h : modeAfter .code front = .code)
    (back : List Char) : mask (front ++ ';' :: back) = mask front ++ ';' :: mask back :=
  (scan_append_semicolon Mode.opened_code h back).1

theorem modeAfter_append_semicolon {front : List Char} (h : modeAfter .code front = .code)
    (back : List Char) : modeAfter .code (front ++ ';' :: back) = modeAfter .code back :=
  (scan_append_semicolon Mode.opened_code h back).2

theorem split_at_offset {text : List Char} {offset : Nat} {c : Char} (h : text[offset]? = some c) :
    text = text.take offset ++ c :: text.drop (offset + 1) ∧
      (text.take offset).length = offset := by
  obtain ⟨hoffset, hc⟩ := List.getElem?_eq_some_iff.mp h
  constructor
  · rw [← hc, List.getElem_cons_drop, List.take_append_drop]
  · rw [List.length_take]
    omega

/-- A semicolon is visible exactly when the text before it leaves the scanner in statement text. -/
theorem visible_semicolon_iff {text : List Char} {offset : Nat} :
    (mask text)[offset]? = some ';' ↔
      text[offset]? = some ';' ∧ modeAfter .code (text.take offset) = .code := by
  constructor
  · intro h
    have htext := getElem?_of_visible h
    obtain ⟨hsplit, hlen⟩ := split_at_offset htext
    have hvisible : (maskFrom .code (text.take offset ++ ';' :: text.drop (offset + 1)))[
        (text.take offset).length]? = some ';' := by
      rw [← hsplit, hlen]
      exact h
    exact ⟨htext, modeAfter_of_visible Mode.opened_code hvisible⟩
  · rintro ⟨htext, hmode⟩
    obtain ⟨hsplit, hlen⟩ := split_at_offset htext
    rw [← length_mask] at hlen
    rw [hsplit, mask_append_semicolon hmode, List.getElem?_append_right (by omega), hlen]
    simp

end SqlLayout.Source
