import SqlLayout.Proofs.Source.Literals

/-!
# The mask as a projection

The mask of a text has the length and the line feeds of the text, shows each character for itself or
a fill for it, and is its own mask.

## Implementation notes

The mask of a text is read again in statement text and in literals only, since its comments are
gone.  A mark that the first reading has not seen would have to be made of two characters shown next
to each other.  Both would be characters of the text then, because a fill takes part in no mark.
-/

namespace SqlLayout.Source

/-- In which mode the mask of a text is read again. -/
def Mode.again : Mode → Mode
  | .code | .line | .block => .code
  | .literal quote => .literal quote

section

variable {mode : Mode} {quote : Char} {text rest : List Char}

theorem isInert_blankOut {fill : Char} (hfill : isInert fill = true) (c : Char) :
    isInert (blankOut fill c) = true := by
  rw [blankOut]
  split
  · next hfeed =>
      rw [eq_of_beq hfeed]
      rfl
  · exact hfill

theorem blankOut_eq (c : Char) : blankOut '_' c = '_' ∨ blankOut '_' c = '\n' := by
  rw [blankOut]
  split
  · next hfeed => exact .inr (eq_of_beq hfeed)
  · exact .inl rfl

/-- A fill is shown as it is inside of a literal. -/
theorem maskFrom_literal_fill {fill : Char} (hquote : isQuote quote = true)
    (hfill : fill = '_' ∨ fill = '\n') (rest : List Char) :
    maskFrom (.literal quote) (fill :: rest) = fill :: maskFrom (.literal quote) rest := by
  have hclose : ¬(fill == quote) = true := by
    rw [beq_iff_eq]
    rintro rfl
    obtain rfl | rfl := hfill <;> exact absurd hquote (by decide)
  have hescape : ¬(fill == '\\' && quote == '\x27') = true := by obtain rfl | rfl := hfill <;> simp
  have hsame : blankOut '_' fill = fill := by obtain rfl | rfl := hfill <;> rfl
  rw [maskFrom_literal_inside hescape hclose, hsame]

theorem joins_quote (hquote : isQuote quote = true) (y : Char) :
    joins quote y = false ↔ y ≠ quote := by
  rw [Bool.eq_false_iff, Ne, joins_iff, not_iff_not]
  constructor
  · rintro (⟨rfl, -⟩ | ⟨rfl, -⟩ | ⟨-, rfl⟩)
    · exact absurd hquote (by decide)
    · exact absurd hquote (by decide)
    · rfl
  · rintro rfl
    exact .inr (.inr ⟨hquote, rfl⟩)

/-- A quote that is not doubled closes its literal. -/
theorem maskFrom_literal_close (hquote : isQuote quote = true)
    (h : ∀ y ∈ text.head?, joins quote y = false) :
    maskFrom (.literal quote) (quote :: text) = quote :: maskFrom .code text := by
  have hescape : ¬(quote == '\\' && quote == '\x27') = true := by
    rw [Bool.and_eq_true, beq_iff_eq, beq_iff_eq]
    rintro ⟨hbackslash, hsingle⟩
    exact absurd (hbackslash.symm.trans hsingle) (by decide)
  cases text with
  | nil => simp [maskFrom, hescape]
  | cons y rest =>
      have hne : y ≠ quote := (joins_quote hquote y).1 (h y rfl)
      simp [maskFrom.eq_def (.literal quote), hescape, hne]

/-- What is shown after a character does not join it where the text does not. -/
theorem not_joins_maskFrom (hmode : mode.Opened) {c : Char}
    (h : ∀ y ∈ text.head?, joins c y = false) :
    ∀ y ∈ (maskFrom mode text).head?, joins c y = false := by
  intro shown hshown
  cases text with
  | nil =>
      rw [maskFrom] at hshown
      cases hshown
  | cons y rest =>
      obtain ⟨more, hmask⟩ := List.head?_eq_some_iff.1 hshown
      have hcovers := maskFrom_covers hmode (y :: rest)
      rw [hmask, List.forall₂_cons] at hcovers
      obtain rfl | ⟨-, rfl | rfl⟩ := hcovers.1
      · exact h shown rfl
      · exact joins_inert_right c (by decide)
      · exact joins_inert_right c (by decide)

/-- Reading the mask again shows it as it is. -/
theorem maskFrom_again (hmode : mode.Opened) (text : List Char) :
    maskFrom mode.again (maskFrom mode text) = maskFrom mode text := by
  have hblank (rest : List Char) : maskFrom .code (' ' :: rest) = ' ' :: maskFrom .code rest :=
    maskFrom_code_inert (by decide) rest
  fun_induction maskFrom mode text with
  | case1 mode => rw [maskFrom]
  | case2 rest ih =>
      have hrest : maskFrom .code (maskFrom .line rest) = maskFrom .line rest := ih trivial
      rw [Mode.again, hblank, hblank, hrest]
  | case3 rest ih =>
      have hrest : maskFrom .code (maskFrom .block rest) = maskFrom .block rest := ih trivial
      rw [Mode.again, hblank, hblank, hrest]
  | case4 c rest _ _ hquote ih =>
      have hrest : maskFrom (.literal c) (maskFrom (.literal c) rest) =
          maskFrom (.literal c) rest := ih hquote
      rw [Mode.again, maskFrom_code_quote hquote, hrest]
  | case5 c rest hdash hslash hquote ih =>
      have hrest : maskFrom .code (maskFrom .code rest) = maskFrom .code rest := ih trivial
      have hapart := not_joins_maskFrom Mode.opened_code (not_joins_of_code hdash hslash hquote)
      cases hshown : maskFrom .code rest with
      | nil => simp [Mode.again, maskFrom, hquote]
      | cons y more =>
          rw [hshown] at hrest hapart
          rw [Mode.again, maskFrom_code_cons (hapart y rfl), if_neg hquote, hrest]
  | case6 c rest hfeed ih =>
      have hrest : maskFrom .code (maskFrom .code rest) = maskFrom .code rest := ih trivial
      obtain rfl := eq_of_beq hfeed
      rw [Mode.again, maskFrom_code_inert (by decide), hrest]
  | case7 c rest hfeed ih =>
      have hrest : maskFrom .code (maskFrom .line rest) = maskFrom .line rest := ih trivial
      rw [Mode.again, hblank, hrest]
  | case8 rest ih =>
      have hrest : maskFrom .code (maskFrom .code rest) = maskFrom .code rest := ih trivial
      rw [Mode.again, hblank, hblank, hrest]
  | case9 c rest _ ih =>
      have hrest : maskFrom .code (maskFrom .block rest) = maskFrom .block rest := ih trivial
      rw [Mode.again, maskFrom_code_inert (isInert_blankOut (by decide) c), hrest]
  | case10 quote c hescape => exact maskFrom_literal_fill hmode (.inl rfl) []
  | case11 quote c hescape escaped rest ih =>
      have hrest : maskFrom (.literal quote) (maskFrom (.literal quote) rest) =
          maskFrom (.literal quote) rest :=
        ih hmode
      rw [Mode.again, maskFrom_literal_fill hmode (.inl rfl),
        maskFrom_literal_fill hmode (blankOut_eq escaped), hrest]
  | case12 quote c hescape hclose => simp [Mode.again, maskFrom, hescape, hclose]
  | case13 quote c hescape hclose escaped rest hdouble ih =>
      have hrest : maskFrom (.literal quote) (maskFrom (.literal quote) rest) =
          maskFrom (.literal quote) rest :=
        ih hmode
      rw [Mode.again, maskFrom_literal_fill hmode (.inl rfl),
        maskFrom_literal_fill hmode (.inl rfl), hrest]
  | case14 quote c hescape hclose next rest hsingle ih =>
      have hrest : maskFrom .code (maskFrom .code (next :: rest)) = maskFrom .code (next :: rest) :=
        ih trivial
      obtain rfl := eq_of_beq hclose
      have hapart : ∀ y ∈ (next :: rest).head?, joins c y = false := by
        rintro y ⟨rfl⟩
        exact (joins_quote hmode next).2 (by simpa using hsingle)
      have hshown := not_joins_maskFrom Mode.opened_code hapart
      rw [Mode.again, maskFrom_literal_close hmode hshown, hrest]
  | case15 quote c rest hescape hclose ih =>
      have hrest : maskFrom (.literal quote) (maskFrom (.literal quote) rest) =
          maskFrom (.literal quote) rest :=
        ih hmode
      rw [Mode.again, maskFrom_literal_fill hmode (blankOut_eq c), hrest]

end

/-- Something is shown exactly where the text has a character. -/
theorem exists_shown_iff {text : List Char} {offset : Nat} :
    (∃ shown, (mask text)[offset]? = some shown) ↔ ∃ c, text[offset]? = some c := by
  rw [← Option.isSome_iff_exists, ← Option.isSome_iff_exists, isSome_getElem?, isSome_getElem?,
    length_mask]

/-- Masking keeps the length of a text, shows each of its characters for itself or as a fill, shows
a line feed exactly where the text has one, and does nothing more to a masked text. -/
theorem mask_projects (text : List Char) :
    (mask text).length = text.length ∧
    (∀ (offset : Nat) (c : Char), text[offset]? = some c → ∃ shown,
      (mask text)[offset]? = some shown ∧ (shown = c ∨ shown = '_' ∨ shown = ' ')) ∧
    (∀ offset : Nat, (mask text)[offset]? = some '\n' ↔ text[offset]? = some '\n') ∧
    mask (mask text) = mask text := by
  refine ⟨length_mask text, fun offset c hc => ?_, fun offset => ⟨fun hfeed => ?_, fun hfeed => ?_⟩,
    maskFrom_again Mode.opened_code text⟩
  · obtain ⟨shown, hshown⟩ := exists_shown_iff.2 ⟨c, hc⟩
    exact ⟨shown, hshown, (covers_of_getElem? hshown hc).imp_right And.right⟩
  · obtain ⟨c, hc⟩ := exists_shown_iff.1 ⟨_, hfeed⟩
    obtain rfl | ⟨-, hfill⟩ := covers_of_getElem? hfeed hc
    · exact hc
    · exact absurd hfill (by decide)
  · obtain ⟨shown, hshown⟩ := exists_shown_iff.2 ⟨_, hfeed⟩
    obtain rfl | ⟨hne, -⟩ := covers_of_getElem? hshown hfeed
    · exact hshown
    · exact absurd rfl hne

/-- A doubled quote and an escaped one in a literal with dashes, a block comment over two lines with
a quote, an identifier with the other quote, a line comment and a literal that is left open. -/
example :
    let text := "'it''s \\' -- ' /*\"\n*/\"x'y\" -- z\n`a".toList
    mask text = "'____________'    \n  \"___\"     \n`_".toList ∧ mask (mask text) = mask text := by
  decide +kernel

end SqlLayout.Source
