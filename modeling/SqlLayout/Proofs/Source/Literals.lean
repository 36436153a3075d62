import Mathlib.Algebra.Group.Nat.Even
import Mathlib.Data.List.TakeWhile
import SqlLayout.Layout.Query
import SqlLayout.Proofs.Source.Mask
import SqlLayout.Source.Split

/-!
# Printed literals

A string literal is printed with its quotes doubled, and the mask reads it by a rule of its own: a
doubled quote does not close a literal, and neither does a quote behind a backslash.  The two agree
on a value exactly when the backslashes in front of its quotes, and those at its end, escape each
other in pairs.

## Implementation notes

Once a backslash has taken the first quote of a doubled one, the scanner reads the second quote
together with what comes after it, and never finds back: it closes the literal too early or goes
past its end.
-/

namespace SqlLayout.Source

open SqlLayout.Layout (quoteString)

/-! ## The end of a literal -/

/-- How many characters stand before the quote that closes a literal; all of them when there is
none. -/
def insideLength (quote : Char) : List Char → Nat
  | [] => 0
  | c :: rest =>
    if c == '\\' && quote == '\x27' then
      match rest with
      | [] => 1
      | _ :: rest' => insideLength quote rest' + 2
    else if c == quote then
      match rest with
      | [] => 0
      | next :: rest' => if next == quote then insideLength quote rest' + 2 else 0
    else insideLength quote rest + 1

/-- The offset of the quote that closes the literal opened at an offset; the end of the text when
there is none. -/
def closingQuote (text : List Char) (start : Nat) : Nat :=
  match text.drop start with
  | [] => text.length
  | quote :: rest => start + 1 + insideLength quote rest

theorem insideLength_inside {quote c : Char} (hescape : ¬(c == '\\' && quote == '\x27') = true)
    (hclose : ¬(c == quote) = true) (rest : List Char) :
    insideLength quote (c :: rest) = insideLength quote rest + 1 := by
  cases rest <;> simp [insideLength, hescape, hclose]

theorem blankOut_quote {quote : Char} (h : isQuote quote = true) : blankOut '_' quote = '_' :=
  if_neg (by simpa using isQuote_ne_lineFeed h)

/-- The mask fills a literal up to its closing quote and goes on behind it in statement text. -/
theorem maskFrom_literal {quote : Char} (h : isQuote quote = true) (text : List Char) :
    maskFrom (.literal quote) text = (text.take (insideLength quote text)).map (blankOut '_') ++
      match text.drop (insideLength quote text) with
      | [] => []
      | close :: rest => close :: maskFrom .code rest := by
  fun_induction insideLength quote text with
  | case1 => rfl
  | case2 c hescape =>
      obtain ⟨rfl, rfl⟩ : c = '\\' ∧ quote = '\x27' := by simpa using hescape
      rfl
  | case3 c hescape escaped rest ih =>
      obtain ⟨rfl, -⟩ : c = '\\' ∧ quote = '\x27' := by simpa using hescape
      rw [maskFrom, if_pos hescape, ih, List.take_succ_cons, List.take_succ_cons]
      rfl
  | case4 c hescape hclose => simp [maskFrom, hescape, hclose]
  | case5 c hescape hclose next rest hdouble ih =>
      obtain rfl : next = quote := by simpa using hdouble
      obtain rfl : c = next := by simpa using hclose
      rw [maskFrom, if_neg hescape, if_pos hclose]
      simp [ih, blankOut_quote h]
  | case6 c hescape hclose next rest hsingle => simp [maskFrom, hescape, hclose, hsingle]
  | case7 c rest hescape hclose ih =>
      rw [maskFrom_literal_inside hescape hclose, ih, List.take_succ_cons]
      rfl

theorem isQuote_blankOut (c : Char) : isQuote (blankOut '_' c) = false := by
  rw [blankOut]
  split
  · next hfeed =>
      rw [eq_of_beq hfeed]
      rfl
  · rfl

theorem not_isQuote_of_fill {text : List Char} :
    ∀ c ∈ text.map (blankOut '_'), (!isQuote c) = true := by
  intro c hc
  obtain ⟨inside, -, rfl⟩ := List.mem_map.1 hc
  rw [isQuote_blankOut]
  rfl

theorem eq_quote_of_inside {quote close : Char} {text rest : List Char}
    (h : text.drop (insideLength quote text) = close :: rest) : close = quote := by
  fun_induction insideLength quote text with
  | case1 => cases h
  | case2 c hescape => cases h
  | case3 c hescape escaped rest' ih => exact ih h
  | case4 c hescape hclose =>
      rw [← (List.cons.inj h).1]
      exact eq_of_beq hclose
  | case5 c hescape hclose next rest' hdouble ih => exact ih h
  | case6 c hescape hclose next rest' hsingle =>
      rw [← (List.cons.inj h).1]
      exact eq_of_beq hclose
  | case7 c rest' hescape hclose ih => exact ih h

theorem insideLength_le (quote : Char) (text : List Char) :
    insideLength quote text ≤ text.length := by
  fun_induction insideLength quote text <;> simp_all

/-- The closing quote is the first quote that the mask shows inside of a literal. -/
theorem insideLength_eq {quote : Char} (h : isQuote quote = true) (text : List Char) :
    insideLength quote text =
      ((maskFrom (.literal quote) text).takeWhile fun c => !isQuote c).length := by
  rw [maskFrom_literal h, List.takeWhile_append_of_pos not_isQuote_of_fill, List.length_append,
    List.length_map, List.length_take_of_le (insideLength_le quote text)]
  split
  · rfl
  · next close rest hdrop => simp [eq_quote_of_inside hdrop, h]

/-! ## Values -/

/-- Whether the backslashes of a value, each taken with the character after it, spare its quotes and
its end. -/
def sparesQuotes : List Char → Bool
  | [] => true
  | c :: rest =>
    if c == '\\' then
      match rest with
      | [] => false
      | escaped :: rest' => escaped != '\x27' && sparesQuotes rest'
    else sparesQuotes rest

/-- How many backslashes stand at the end of a text. -/
def backslashesAtEnd (text : List Char) : Nat :=
  (text.reverse.takeWhile (· == '\\')).length

/-- Whether the backslashes right before every quote of a value, and those at its end, are even in
number. -/
def EvenBackslashes (value : List Char) : Prop :=
  ∀ front back, value = front ++ back → (∀ c ∈ back.head?, c = '\x27') →
    Even (backslashesAtEnd front)

section

variable {value rest front : List Char} {c : Char}

theorem backslashesAtEnd_cons (hc : c ≠ '\\') :
    backslashesAtEnd (c :: front) = backslashesAtEnd front := by
  rw [backslashesAtEnd, backslashesAtEnd, List.reverse_cons, List.takeWhile_append]
  split
  · next hall => simp [hc, hall]
  · rfl

theorem even_backslashesAtEnd_escape :
    Even (backslashesAtEnd ('\\' :: c :: front)) ↔ Even (backslashesAtEnd front) := by
  by_cases hc : c = '\\'
  · subst hc
    rw [backslashesAtEnd, backslashesAtEnd, List.reverse_cons, List.reverse_cons, List.append_assoc,
      List.takeWhile_append]
    split
    · next hall => simp [hall, Nat.even_add_one]
    · rfl
  · rw [backslashesAtEnd, List.reverse_cons, List.takeWhile_append, if_neg, ← backslashesAtEnd,
      backslashesAtEnd_cons hc]
    intro hall
    have hsame := (List.takeWhile_prefix (· == '\\')).eq_of_length hall
    have hbackslash := List.takeWhile_eq_self_iff.1 hsame c (by simp)
    exact hc (eq_of_beq hbackslash)

theorem evenBackslashes_nil : EvenBackslashes [] := by
  intro front back h _
  obtain ⟨rfl, -⟩ := List.append_eq_nil_iff.1 h.symm
  exact ⟨0, rfl⟩

theorem not_evenBackslashes_single : ¬ EvenBackslashes ['\\'] := by
  intro h
  have hone := h ['\\'] [] rfl (by simp)
  exact absurd hone (by decide)

theorem evenBackslashes_escape :
    EvenBackslashes ('\\' :: c :: rest) ↔ c ≠ '\x27' ∧ EvenBackslashes rest := by
  constructor
  · intro h
    refine ⟨?_, fun front back hrest hback => ?_⟩
    · rintro rfl
      have hone := h ['\\'] ('\x27' :: rest) rfl (by simp)
      exact absurd hone (by decide)
    · exact even_backslashesAtEnd_escape.1 (h ('\\' :: c :: front) back (by simp [hrest]) hback)
  · rintro ⟨hc, h⟩ front back hparts hback
    rcases front with - | ⟨x, - | ⟨y, front⟩⟩
    · exact ⟨0, rfl⟩
    · obtain ⟨-, rfl⟩ := List.cons.inj hparts
      exact absurd (hback c rfl) hc
    · obtain ⟨rfl, htail⟩ := List.cons.inj hparts
      obtain ⟨rfl, hrest⟩ := List.cons.inj htail
      exact even_backslashesAtEnd_escape.2 (h front back hrest hback)

theorem evenBackslashes_cons (hc : c ≠ '\\') :
    EvenBackslashes (c :: rest) ↔ EvenBackslashes rest := by
  constructor
  · intro h front back hrest hback
    rw [← backslashesAtEnd_cons hc]
    exact h (c :: front) back (by simp [hrest]) hback
  · intro h front back hparts hback
    cases front with
    | nil => exact ⟨0, rfl⟩
    | cons x front =>
        obtain ⟨rfl, hrest⟩ := List.cons.inj hparts
        rw [backslashesAtEnd_cons hc]
        exact h front back hrest hback

theorem sparesQuotes_iff (value : List Char) :
    sparesQuotes value = true ↔ EvenBackslashes value := by
  fun_induction sparesQuotes value with
  | case1 => exact iff_of_true rfl evenBackslashes_nil
  | case2 c hc =>
      obtain rfl := eq_of_beq hc
      exact iff_of_false Bool.false_ne_true not_evenBackslashes_single
  | case3 c hc escaped rest ih =>
      obtain rfl := eq_of_beq hc
      rw [evenBackslashes_escape, Bool.and_eq_true, bne_iff_ne, ih]
  | case4 c rest hc ih => rw [evenBackslashes_cons (by simpa using hc), ih]

instance (value : List Char) : Decidable (EvenBackslashes value) :=
  decidable_of_iff _ (sparesQuotes_iff value)

end

/-! ## Printed values -/

/-- A value with its quotes doubled. -/
def doubleQuotes (value : List Char) : List Char :=
  value.flatMap fun c => if c == '\x27' then [c, c] else [c]

theorem toList_quoteString (value : String) :
    (quoteString value).toList = '\x27' :: (doubleQuotes value.toList ++ ['\x27']) := by
  simp [quoteString, doubleQuotes]

section

variable {value rest : List Char} {c : Char}

theorem doubleQuotes_quote :
    doubleQuotes ('\x27' :: value) = '\x27' :: '\x27' :: doubleQuotes value := rfl

theorem doubleQuotes_cons (hc : c ≠ '\x27') :
    doubleQuotes (c :: value) = c :: doubleQuotes value := by
  simp [doubleQuotes, hc]

/-- The second quote of a doubled one, read without the first, does not lead to the end of the
literal. -/
theorem insideLength_misled (value rest : List Char) :
    insideLength '\x27' ('\x27' :: (doubleQuotes value ++ '\x27' :: rest)) ≠
      (doubleQuotes value).length + 1 := by
  induction value with
  | nil => simp [doubleQuotes, insideLength]
  | cons c value ih =>
      by_cases hc : c = '\x27'
      · subst hc
        rw [doubleQuotes_quote]
        simpa [insideLength] using ih
      · simp [doubleQuotes_cons hc, insideLength, hc]

/-- A printed value is read up to its own closing quote exactly when its backslashes spare its
quotes. -/
theorem insideLength_iff (hrest : rest.head? ≠ some '\x27') :
    insideLength '\x27' (doubleQuotes value ++ '\x27' :: rest) = (doubleQuotes value).length ↔
      sparesQuotes value = true := by
  fun_induction sparesQuotes value with
  | case1 =>
      cases rest with
      | nil => simp [doubleQuotes, insideLength]
      | cons y rest =>
          have hy : y ≠ '\x27' := by simpa using hrest
          simp [doubleQuotes, insideLength, hy]
  | case2 c hc =>
      obtain rfl := eq_of_beq hc
      simp [doubleQuotes, insideLength]
  | case3 c hc escaped more ih =>
      obtain rfl := eq_of_beq hc
      rw [doubleQuotes_cons (by decide)]
      by_cases hescaped : escaped = '\x27'
      · subst hescaped
        have hmisled := insideLength_misled more rest
        simp [doubleQuotes_quote, insideLength] at hmisled ⊢
        omega
      · simp [doubleQuotes_cons hescaped, insideLength, hescaped, ih]
  | case4 c more hc ih =>
      have hback : (c == '\\') = false := by simpa using hc
      by_cases hquote : c = '\x27'
      · subst hquote
        simp [doubleQuotes_quote, insideLength, ih]
      · rw [doubleQuotes_cons hquote, List.cons_append,
          insideLength_inside (by simp [hback]) (by simpa using hquote), List.length_cons,
          Nat.add_right_cancel_iff, ih]

end

/-- The literal that is printed for a value closes at its own end, whatever follows that is no
quote, and the mask goes on behind it as if the literal had not been there, exactly when the
backslashes before each quote of the value and at its end are even in number. -/
theorem printed_literal_closes_iff (value : String) {rest : List Char}
    (hrest : rest.head? ≠ some '\x27') :
    let literal := (quoteString value).toList
    (closingQuote (literal ++ rest) 0 = literal.length - 1 ↔ EvenBackslashes value.toList) ∧
      (mask (literal ++ rest) =
          '\x27' :: ((doubleQuotes value.toList).map (blankOut '_') ++ '\x27' :: mask rest) ↔
        EvenBackslashes value.toList) := by
  have hquote : isQuote '\x27' = true := rfl
  have hiff : insideLength '\x27' (doubleQuotes value.toList ++ '\x27' :: rest) =
      (doubleQuotes value.toList).length ↔ EvenBackslashes value.toList :=
    (insideLength_iff hrest).trans (sparesQuotes_iff value.toList)
  have htext : (quoteString value).toList ++ rest =
      '\x27' :: (doubleQuotes value.toList ++ '\x27' :: rest) := by
    simp [toList_quoteString]
  constructor
  · rw [← hiff, htext, toList_quoteString]
    simp [closingQuote]
    omega
  · rw [← hiff, htext, mask, maskFrom_code_quote hquote, List.cons_inj_right]
    constructor
    · intro hmask
      rw [insideLength_eq hquote, hmask, List.takeWhile_append_of_pos not_isQuote_of_fill]
      simp [hquote]
    · intro hinside
      rw [maskFrom_literal hquote, hinside, List.take_left, List.drop_left]
      rfl

/-- A value with a quote inside and a pair of backslashes at its end, before a semicolon. -/
theorem printed_literal_closes_iff_pair :
    let value := "it's c:\\\\"
    let literal := (quoteString value).toList
    "; b".toList.head? ≠ some '\x27' ∧ EvenBackslashes value.toList ∧
      closingQuote (literal ++ "; b".toList) 0 = literal.length - 1 := by
  have hrest : "; b".toList.head? ≠ some '\x27' := by decide +kernel
  have heven : EvenBackslashes "it's c:\\\\".toList := by decide +kernel
  exact ⟨hrest, heven, (printed_literal_closes_iff "it's c:\\\\" hrest).1.2 heven⟩

/-- A backslash at the end of a value takes the closing quote, so the literal goes on behind its end
and hides the semicolon there. -/
theorem printed_literal_left_open :
    let literal := (quoteString "a\\").toList
    closingQuote (literal ++ [';']) 0 ≠ literal.length - 1 ∧
      splitOutside ';' (literal ++ [';']) = [literal ++ [';']] := by
  decide +kernel

end SqlLayout.Source
