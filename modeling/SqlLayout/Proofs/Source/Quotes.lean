import SqlLayout.Proofs.Source.Outside

/-!
# Quotes in the masked text

The mask shows the quotes of a literal and none of those inside of it.  So each quote that it shows
opens a literal, in statement text, or closes the one that the last quote before it opened, and a
literal that is followed by statement text was opened in statement text.

## Implementation notes

The scanner is followed from any mode on, since it is inside of a literal when it gets to the quote
that closes it.  A part of the text that shows no quote leaves what a later quote does as it is.
-/

namespace SqlLayout.Source

open Pattern

/-! ## What a quote does -/

/-- A quote is shown at an offset, and it opens a literal there: the scanner is in statement text,
and the quote does not double the character before it. -/
structure OpensAt (mode : Mode) (text : List Char) (i : Nat) (quote : Char) : Prop where
  shown : (maskFrom mode text)[i]? = some quote
  code : modeAfter mode (text.take i) = .code
  apart : ∀ x ∈ (text.take i).getLast?, joins x quote = false

/-- A quote that is shown at an offset opens a literal there, or closes the one that was opened by
the last quote that is shown before, or the one in which the text starts. -/
def QuoteAt (mode : Mode) (text : List Char) (i : Nat) (quote : Char) : Prop :=
  OpensAt mode text i quote ∨
    (∃ k < i, OpensAt mode text k quote ∧ ∀ x ∈ slice (maskFrom mode text) (k + 1) i,
      isQuote x = false) ∨
    mode = .literal quote ∧ ∀ x ∈ slice (maskFrom mode text) 0 i, isQuote x = false

theorem slice_append_left {front back : List Char} {i j n : Nat} (hn : front.length = n) :
    slice (front ++ back) (n + i) (n + j) = slice back i j := by
  subst hn
  rw [slice, slice, ← List.drop_drop, List.drop_left]
  congr 1
  omega

theorem OpensAt.behind {mode after : Mode} {front rest fill : List Char} {i : Nat} {quote : Char}
    (h : OpensAt after rest i quote) (hover : GetsOver mode after front fill rest)
    (hapart : after = .code → (maskFrom after rest)[0]? = some quote → ∀ x ∈ front.getLast?,
      joins x quote = false) :
    OpensAt mode (front ++ rest) (front.length + i) quote := by
  have htake : (front ++ rest).take (front.length + i) = front ++ rest.take i := by
    rw [List.take_length_add_append]
  constructor
  · rw [hover.mask, List.getElem?_append_right (by rw [hover.length]; omega), hover.length,
      Nat.add_sub_cancel_left, h.shown]
  · rw [htake, hover.mode, h.code]
  · rw [htake, List.getLast?_append]
    cases i with
    | zero => simpa using hapart h.code h.shown
    | succ i =>
        have happart := h.apart
        cases rest with
        | nil =>
            have hnone := h.shown
            simp [maskFrom] at hnone
        | cons y rest =>
            rw [List.take_succ_cons] at happart ⊢
            simpa [List.getLast?_cons] using happart

theorem QuoteAt.behind {mode after : Mode} {front rest fill : List Char} {i : Nat} {quote : Char}
    (h : QuoteAt after rest i quote) (hover : GetsOver mode after front fill rest)
    (hapart : after = .code → (maskFrom after rest)[0]? = some quote → ∀ x ∈ front.getLast?,
      joins x quote = false)
    (hliteral : after = .literal quote →
      front = [quote] ∧ OpensAt mode (front ++ rest) 0 quote ∨
      mode = .literal quote ∧ ∀ x ∈ fill, isQuote x = false) :
    QuoteAt mode (front ++ rest) (front.length + i) quote := by
  have hslice (k j : Nat) : slice (maskFrom mode (front ++ rest)) (front.length + k)
    (front.length + j) =
      slice (maskFrom after rest) k j := by
    rw [hover.mask, slice_append_left hover.length]
  obtain hopens | ⟨k, hk, hopens, hquotes⟩ | ⟨hinside, hquotes⟩ := h
  · exact .inl (hopens.behind hover hapart)
  · refine .inr (.inl ⟨front.length + k, by omega, hopens.behind hover hapart, ?_⟩)
    rwa [Nat.add_assoc, hslice]
  · obtain ⟨rfl, hopens⟩ | ⟨hinside, hfill⟩ := hliteral hinside
    · refine .inr (.inl ⟨0, by rw [List.length_singleton]; omega, hopens, ?_⟩)
      rwa [← hslice] at hquotes
    · refine .inr (.inr ⟨hinside, ?_⟩)
      rw [← slice_append_slice (Nat.zero_le front.length) (Nat.le_add_right _ _),
        List.forall_mem_append]
      constructor
      · rw [hover.mask, slice, List.drop_zero, Nat.sub_zero, ← hover.length, List.take_left]
        exact hfill
      · rwa [← hslice, Nat.add_zero] at hquotes

/-- Characters that are shown as no quote leave a quote behind them what it is. -/
theorem quoteAt_behind {mode after : Mode} {front rest fill : List Char} {i : Nat} {quote : Char}
    (hover : GetsOver mode after front fill rest)
    (h : (maskFrom mode (front ++ rest))[i]? = some quote) (hquote : isQuote quote = true)
    (ih : ∀ {i}, (maskFrom after rest)[i]? = some quote → QuoteAt after rest i quote)
    (hapart : after = .code → ∀ x ∈ front.getLast?, isQuote x = false)
    (hliteral : after = .literal quote → mode = .literal quote)
    (hfill : ∀ x ∈ fill, isQuote x = false) : QuoteAt mode (front ++ rest) i quote := by
  have hfront : front.length ≤ i := by
    by_contra hi
    rw [hover.mask, List.getElem?_append_left (by rw [hover.length]; omega)] at h
    rw [hfill quote (List.mem_of_getElem? h)] at hquote
    cases hquote
  obtain ⟨i, rfl⟩ := Nat.exists_eq_add_of_le hfront
  rw [hover.mask, List.getElem?_append_right (by rw [hover.length]; omega), hover.length,
    Nat.add_sub_cancel_left] at h
  refine (ih h).behind hover (fun hcode _ x hx => ?_) fun hafter => .inr ⟨hliteral hafter, hfill⟩
  rw [Bool.eq_false_iff, Ne, joins_iff, hapart hcode x hx]
  rintro (⟨-, rfl⟩ | ⟨-, rfl⟩ | ⟨⟨⟩, -⟩) <;> cases hquote

theorem isQuote_fill {fill : Char} (hfill : isQuote fill = false) (c : Char) :
    isQuote (blankOut fill c) = false := by
  rw [blankOut]
  split
  · next hfeed =>
      rw [eq_of_beq hfeed]
      rfl
  · exact hfill

theorem closes_first {text shown : List Char} {q quote : Char} (h : (q :: shown)[0]? = some quote) :
    QuoteAt (.literal q) text 0 quote := by
  obtain rfl := Option.some.inj h
  exact .inr (.inr ⟨rfl, by simp [slice_self]⟩)

theorem ne_of_isQuote {quote c : Char} (h : isQuote quote = true) (hc : isQuote c = false) :
    quote ≠ c := by
  rintro rfl
  rw [h] at hc
  cases hc

/-- A quote in statement text opens a literal, and the quotes behind it are what they are in the
literal. -/
theorem quoteAt_opening {c quote : Char} {rest : List Char} {i : Nat} (hopen : isQuote c = true)
    (h : (maskFrom .code (c :: rest))[i]? = some quote)
    (ih : ∀ {i}, (maskFrom (.literal c) rest)[i]? = some quote →
      QuoteAt (.literal c) rest i quote) : QuoteAt .code (c :: rest) i quote := by
  have hopens : (maskFrom .code (c :: rest))[0]? = some quote → OpensAt .code (c :: rest) 0 quote :=
    fun hshown => ⟨hshown, rfl, by simp⟩
  cases i with
  | zero => exact .inl (hopens h)
  | succ i =>
      rw [maskFrom_code_quote hopen, List.getElem?_cons_succ] at h
      refine Nat.add_comm i 1 ▸ (ih h).behind (.opening hopen) (by simp) fun hliteral => ?_
      obtain rfl := Mode.literal.inj hliteral
      exact .inl ⟨rfl, hopens (by rw [maskFrom_code_quote hopen]; rfl)⟩

/-- The quote that ends a literal closes it, and the quotes behind it are what they are in statement
text. -/
theorem quoteAt_closing {q c next quote : Char} {rest : List Char} {i : Nat}
    (hover : GetsOver (.literal q) .code [c] [c] (next :: rest)) (hclose : c = q)
    (hsingle : next ≠ q) (h : (maskFrom (.literal q) (c :: next :: rest))[i]? = some quote)
    (hquote : isQuote quote = true)
    (ih : ∀ {i}, (maskFrom .code (next :: rest))[i]? = some quote →
      QuoteAt .code (next :: rest) i quote) :
    QuoteAt (.literal q) (c :: next :: rest) i quote := by
  have hmask : maskFrom (.literal q) (c :: next :: rest) = c :: maskFrom .code (next :: rest) :=
    hover.mask
  rw [hmask] at h
  cases i with
  | zero => exact closes_first (hclose ▸ h)
  | succ i =>
      refine Nat.add_comm i 1 ▸ (ih h).behind hover (fun _ hshown x hx => ?_) (by simp)
      obtain ⟨-, rfl⟩ := shown_first (List.head?_eq_getElem? ▸ hshown) rfl
        (ne_of_isQuote hquote (by decide)) (isQuote_ne_lineFeed hquote)
      obtain rfl := Option.some.inj hx
      -- the literal goes on only over a doubled quote
      rw [Bool.eq_false_iff, Ne, joins_iff]
      rintro (⟨-, rfl⟩ | ⟨-, rfl⟩ | ⟨-, rfl⟩)
      · cases hquote
      · cases hquote
      · exact hsingle hclose

/-- A quote that is shown opens a literal or closes one. -/
theorem quoteAt_of_shown {mode : Mode} {text : List Char} {i : Nat} {quote : Char}
    (hmode : mode.Opened) (h : (maskFrom mode text)[i]? = some quote)
    (hquote : isQuote quote = true) : QuoteAt mode text i quote := by
  fun_induction modeAfter mode text generalizing i with
  | case1 mode => simp [maskFrom] at h
  | case2 rest ih =>
      exact quoteAt_behind .lineStart h hquote (ih trivial) (by simp) (by simp) (by simp [isQuote])
  | case3 rest ih =>
      exact quoteAt_behind .blockStart h hquote (ih trivial) (by simp) (by simp) (by simp [isQuote])
  | case4 c rest hdash hslash hopen ih => exact quoteAt_opening hopen h (ih hopen)
  | case5 c rest hdash hslash hopen ih =>
      have hc := Bool.eq_false_iff.2 hopen
      exact quoteAt_behind (.code hdash hslash hopen) h hquote (ih trivial) (by simpa using hc)
        (by simp) (by simpa using hc)
  | case6 c rest hline ih =>
      have hc : isQuote c = false := by
        rw [eq_of_beq hline]
        rfl
      exact quoteAt_behind (.lineEnd hline) h hquote (ih trivial) (by simpa using hc) (by simp)
        (by simpa using hc)
  | case7 c rest hline ih =>
      exact quoteAt_behind (.line hline) h hquote (ih trivial) (by simp) (by simp)
        (by simp [isQuote])
  | case8 rest ih =>
      exact quoteAt_behind .blockEnd h hquote (ih trivial) (by simp [isQuote]) (by simp)
        (by simp [isQuote])
  | case9 c rest hstar ih =>
      exact quoteAt_behind (.block hstar) h hquote (ih trivial) (by simp) (by simp)
        (by simpa using isQuote_fill rfl c)
  | case10 q c hescape =>
      rw [maskFrom, if_pos hescape] at h
      obtain rfl : quote = '_' := by simpa using List.mem_of_getElem? h
      cases hquote
  | case11 q c hescape escaped rest ih =>
      exact quoteAt_behind (.escape hescape) h hquote (ih hmode) (by simp) id
        (by simpa using ⟨rfl, isQuote_fill rfl escaped⟩)
  | case12 q c hescape hclose =>
      rw [maskFrom, if_neg hescape, if_pos hclose] at h
      obtain rfl := eq_of_beq hclose
      cases i with
      | zero => exact closes_first h
      | succ i => simp at h
  | case13 q c hescape hclose next rest hdouble ih =>
      exact quoteAt_behind (.doubled hescape hclose hdouble) h hquote (ih hmode) (by simp) id
        (by simp [isQuote])
  | case14 q c hescape hclose next rest hsingle ih =>
      exact quoteAt_closing (.closing hescape hclose hsingle) (eq_of_beq hclose)
        (by simpa using hsingle) h hquote (ih trivial)
  | case15 q c rest hescape hclose ih =>
      exact quoteAt_behind (.inside hescape hclose) h hquote (ih hmode) (by simp) id
        (by simpa using isQuote_fill rfl c)

/-! ## Literals before statement text -/

section

variable {text : List Char} {quote : Char} {i k : Nat}

/-- A quote that is shown is one of the text. -/
theorem getElem?_of_quote (h : (mask text)[i]? = some quote) (hquote : isQuote quote = true) :
    text[i]? = some quote := by
  obtain ⟨hi, hshown⟩ := List.getElem?_eq_some_iff.1 h
  have hlt : i < text.length := by simpa using hi
  have hcovers := (List.forall₂_iff_get.1 (mask_covers text)).2 i hi hlt
  rw [List.get_eq_getElem, List.get_eq_getElem, hshown] at hcovers
  obtain rfl | ⟨-, rfl | rfl⟩ := hcovers
  · exact List.getElem?_eq_getElem hlt
  · cases hquote
  · cases hquote

theorem OpensAt.outside (h : OpensAt .code text i quote) (hquote : isQuote quote = true) :
    Outside text i := by
  have hget := getElem?_of_quote h.shown hquote
  refine ⟨Nat.le_of_lt (List.getElem?_eq_some_iff.1 hget).1, h.code, fun x hx y hy => ?_⟩
  rw [List.head?_drop, hget] at hy
  obtain rfl := Option.some.inj hy
  exact h.apart x hx

/-- Behind the quote that opens a literal the scanner is inside of it. -/
theorem OpensAt.not_outside (h : OpensAt .code text i quote) (hquote : isQuote quote = true) :
    ¬ Outside text (i + 1) := by
  intro hafter
  have hget := getElem?_of_quote h.shown hquote
  have hinside : modeAfter .code (text.take (i + 1)) = .literal quote := by
    rw [List.take_add_one, hget, Option.toList_some, modeAfter_append h.code,
      modeAfter_code_quote hquote, modeAfter]
    intro x hx y hy
    obtain rfl := Option.some.inj hy
    exact h.apart x hx
  rw [hafter.code] at hinside
  cases hinside

/-- A literal that ends in statement text starts in statement text. -/
theorem outside_of_literal (hfirst : (mask text)[i]? = some quote)
    (hlast : (mask text)[k]? = some quote) (hik : i < k) (hquote : isQuote quote = true)
    (hinside : ∀ x ∈ slice (mask text) (i + 1) k, x ≠ quote)
    (hstop : Outside text (k + 1)) : Outside text i := by
  obtain hopens | ⟨j, hj, hopens, hquotes⟩ | ⟨⟨⟩, -⟩ :=
    quoteAt_of_shown Mode.opened_code hlast hquote
  · exact absurd hstop (hopens.not_outside hquote)
  · obtain hlt | rfl | hlt := Nat.lt_trichotomy i j
    · exact absurd rfl (hinside quote (mem_slice hlt hj hopens.shown))
    · exact hopens.outside hquote
    · have hnot := hquotes quote (mem_slice hlt hik hfirst)
      rw [hquote] at hnot
      cases hnot

end

end SqlLayout.Source
