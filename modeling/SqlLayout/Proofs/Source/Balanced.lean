import Mathlib
import SqlLayout.Source.Balanced
import SqlLayout.Proofs.Pattern.Slice

/-!
# Groups in parentheses

A group starts with an open parenthesis and closes it where it ends, and not before.  The search for
the closing parenthesis finds the end of the group that starts at an offset, and nothing if none
starts there.

## Implementation notes

The search carries the number of open parentheses along.  What it knows of the text it has passed is
that this number was never zero behind any part of it, so both of its answers are read off the
number behind each part.
-/

namespace SqlLayout.Source

open Pattern (slice)

/-- A group in parentheses. -/
structure IsGroup (part : List Char) : Prop where
  opens : part.head? = some '('
  closed : part.count '(' = part.count ')'
  inside : ∀ k, 0 < k → k < part.length → (part.take k).count ')' < (part.take k).count '('

/-- How many parentheses are open behind a part of a text, from a number of open ones on. -/
def depthAfter (depth : Int) (part : List Char) : Int :=
  depth + part.count '(' - part.count ')'

section

variable {part other text rest : List Char} {depth : Int} {pos close start : Nat}

theorem depthAfter_nil : depthAfter depth [] = depth := by
  simp [depthAfter]

theorem depthAfter_cons (c : Char) :
    depthAfter depth (c :: part) = depthAfter (depthAfter depth [c]) part := by
  simp only [depthAfter, List.count_cons, List.count_nil]
  omega

theorem depthAfter_open : depthAfter depth ['('] = depth + 1 := by
  simp [depthAfter]

theorem depthAfter_close : depthAfter depth [')'] = depth - 1 := by
  simp [depthAfter]

theorem depthAfter_of_ne {c : Char} (hopen : c ≠ '(') (hclose : c ≠ ')') :
    depthAfter depth [c] = depth := by
  simp [depthAfter, hopen, hclose]

/-- A character closes one parenthesis at most. -/
theorem depthAfter_char (depth : Int) (c : Char) :
    (c = ')' ∧ depthAfter depth [c] = depth - 1) ∨ depth ≤ depthAfter depth [c] := by
  by_cases hclose : c = ')'
  · exact .inl ⟨hclose, hclose ▸ depthAfter_close⟩
  · by_cases hopen : c = '('
    · subst hopen
      rw [depthAfter_open]
      omega
    · exact .inr (depthAfter_of_ne hopen hclose).ge

/-- No group goes on behind a group. -/
theorem IsGroup.eq_of_prefix (h : IsGroup part) (hother : IsGroup other) (hpart : part <+: text)
    (hothers : other <+: text) : part = other := by
  wlog hle : part.length ≤ other.length generalizing part other
  · exact (this hother h hothers hpart (Nat.le_of_not_le hle)).symm
  have hprefix := List.prefix_of_prefix_length_le hpart hothers hle
  obtain hlt | heq := Nat.lt_or_eq_of_le hle
  · have hpos : 0 < part.length := by
      obtain ⟨tail, rfl⟩ := List.head?_eq_some_iff.1 h.opens
      exact Nat.succ_pos _
    have hinside := hother.inside part.length hpos hlt
    rw [← List.prefix_iff_eq_take.1 hprefix, h.closed] at hinside
    exact absurd hinside (Nat.lt_irrefl _)
  · exact hprefix.eq_of_length heq

/-! ## The search -/

/-- The search goes on behind a character that does not close the last open parenthesis. -/
theorem closeFrom_cons {c : Char} (h : depthAfter depth [c] ≠ 0) :
    closeFrom depth pos (c :: rest) = closeFrom (depthAfter depth [c]) (pos + 1) rest := by
  rw [closeFrom]
  split
  · next hopen =>
      obtain rfl := eq_of_beq hopen
      rw [depthAfter_open]
  · next hopen =>
      split
      · next hclose =>
          obtain rfl := eq_of_beq hclose
          rw [depthAfter_close] at h ⊢
          rw [if_neg fun hzero => h (eq_of_beq hzero)]
      · next hclose =>
          rw [beq_iff_eq] at hopen hclose
          rw [depthAfter_of_ne hopen hclose]

/-- The search stops behind the first part after which no parenthesis is open. -/
theorem closeFrom_spec (rest : List Char) (pos : Nat) (hdepth : 0 < depth) :
    (∃ k, closeFrom depth pos rest = some (pos + k) ∧ k < rest.length ∧
      depthAfter depth (rest.take (k + 1)) = 0 ∧ ∀ n ≤ k, 0 < depthAfter depth (rest.take n)) ∨
    closeFrom depth pos rest = none ∧ ∀ n, 0 < depthAfter depth (rest.take n) := by
  induction rest generalizing depth pos with
  | nil =>
      refine .inr ⟨rfl, fun n => ?_⟩
      rwa [List.take_nil, depthAfter_nil]
  | cons c rest ih =>
      by_cases hzero : depthAfter depth [c] = 0
      · obtain ⟨rfl, hdown⟩ | hup := depthAfter_char depth c
        · have hone : depth - 1 = 0 := hdown.symm.trans hzero
          refine .inl ⟨0, by simp [closeFrom, hone], Nat.succ_pos _, hzero, fun n hn => ?_⟩
          obtain rfl := Nat.le_zero.1 hn
          rwa [List.take_zero, depthAfter_nil]
        · omega
      · have hpos : 0 < depthAfter depth [c] := by
          obtain ⟨-, hdown⟩ | hup := depthAfter_char depth c
          · omega
          · omega
        have hpass {n : Nat} (h : ∀ k, n = k + 1 →
          0 < depthAfter (depthAfter depth [c]) (rest.take k)) :
            0 < depthAfter depth ((c :: rest).take n) := by
          cases n with
          | zero => rwa [List.take_zero, depthAfter_nil]
          | succ n =>
              rw [List.take_succ_cons, depthAfter_cons]
              exact h n rfl
        rw [closeFrom_cons hzero]
        obtain ⟨k, hfound, hlt, hclosed, hinside⟩ | ⟨hnone, hinside⟩ := ih (pos + 1) hpos
        · refine .inl ⟨k + 1, ?_, Nat.succ_lt_succ hlt, ?_,
            fun n hn => hpass fun k' hk' => hinside k' (by omega)⟩
          · rw [hfound, Nat.add_assoc, Nat.add_comm 1 k]
          · rw [List.take_succ_cons, depthAfter_cons, hclosed]
        · exact .inr ⟨hnone, fun n => hpass fun k _ => hinside k⟩

theorem slice_of_drop {c : Char} (h : text.drop start = c :: rest) (n : Nat) :
    slice text start (start + n + 1) = c :: rest.take n := by
  rw [slice, h, Nat.add_assoc, Nat.add_sub_cancel_left, List.take_succ_cons]

/-- What is open behind an open parenthesis is more than what is open without it. -/
theorem depthAfter_one (part : List Char) :
    depthAfter 1 part = (('(' :: part).count '(' : Int) - ('(' :: part).count ')' := by
  simp only [depthAfter, List.count_cons]
  simp
  ring

/-- The search from an open parenthesis on finds the end of the group that starts there, or no group
does. -/
theorem balancedClose_spec (h : text[start]? = some '(') :
    (∃ close, balancedClose text start = some close ∧ start < close ∧ close < text.length ∧
      IsGroup (slice text start (close + 1))) ∨
    balancedClose text start = none ∧ ∀ k, start < k →
      (slice text start k).count ')' < (slice text start k).count '(' := by
  obtain ⟨hlt, hget⟩ := List.getElem?_eq_some_iff.1 h
  have hdrop : text.drop start = '(' :: text.drop (start + 1) := by
    rw [List.drop_eq_getElem_cons hlt, hget]
  have hslice := slice_of_drop hdrop
  have hsearch : balancedClose text start = closeFrom 1 (start + 1) (text.drop (start + 1)) := by
    rw [balancedClose, hdrop]
    rfl
  have hopen {n : Nat} (h : 0 < depthAfter 1 ((text.drop (start + 1)).take n)) :
      (slice text start (start + n + 1)).count ')' <
        (slice text start (start + n + 1)).count '(' := by
    rw [depthAfter_one] at h
    rw [hslice]
    omega
  obtain ⟨k, hfound, hk, hclosed, hinside⟩ | ⟨hnone, hinside⟩ :=
    closeFrom_spec (text.drop (start + 1)) (start + 1) Int.one_pos
  · rw [List.length_drop] at hk
    have hgroup : slice text start (start + 1 + k + 1) =
        '(' :: (text.drop (start + 1)).take (k + 1) := by
      rw [← hslice]
      congr 1
      omega
    refine .inl ⟨start + 1 + k, hsearch.trans hfound, by omega, by omega, ?_⟩
    rw [hgroup]
    constructor
    · rfl
    · rw [depthAfter_one] at hclosed
      omega
    · intro n hn hlt
      obtain ⟨n, rfl⟩ : ∃ m, n = m + 1 := ⟨n - 1, by omega⟩
      rw [List.length_cons, List.length_take] at hlt
      have hdepth := hinside n (by omega)
      rw [depthAfter_one] at hdepth
      rw [List.take_succ_cons, List.take_take, Nat.min_eq_left (by omega)]
      omega
  · refine .inr ⟨hsearch.trans hnone, fun k hk => ?_⟩
    obtain ⟨n, rfl⟩ : ∃ n, k = start + n + 1 := ⟨k - start - 1, by omega⟩
    exact hopen (hinside n)

/-- Where the search finds nothing, no group starts. -/
theorem not_isGroup_of_balancedClose (h : text[start]? = some '(')
    (hnone : balancedClose text start = none) (hpart : part <+: text.drop start) :
    ¬ IsGroup part := by
  intro hgroup
  obtain ⟨close, hclose, -⟩ | ⟨-, hopen⟩ := balancedClose_spec h
  · cases hnone.symm.trans hclose
  · have hlength : 0 < part.length := by
      obtain ⟨tail, rfl⟩ := List.head?_eq_some_iff.1 hgroup.opens
      exact Nat.succ_pos _
    have hslice : slice text start (start + part.length) = part := by
      rw [slice, Nat.add_sub_cancel_left]
      exact (List.prefix_iff_eq_take.1 hpart).symm
    have hmore := hopen (start + part.length) (by omega)
    rw [hslice, hgroup.closed] at hmore
    exact Nat.lt_irrefl _ hmore

/-! ## Exactness -/

/-- A group that starts at an offset is opened there. -/
theorem IsGroup.open_at (h : IsGroup (slice text start close)) :
    text[start]? = some '(' ∧ start < close := by
  obtain ⟨tail, htail⟩ := List.head?_eq_some_iff.1 h.opens
  have hfirst : (slice text start close)[0]? = some '(' := by rw [htail, List.getElem?_cons_zero]
  rw [Pattern.getElem?_slice, Nat.add_zero] at hfirst
  split at hfirst
  · next hpos => exact ⟨hfirst, Nat.sub_pos_iff_lt.1 hpos⟩
  · cases hfirst

/-- The search finds the end of every group. -/
theorem IsGroup.balancedClose_eq (h : IsGroup (slice text start (close + 1)))
    (hclose : close < text.length) :
    balancedClose text start = some close := by
  have hpart (other : Nat) : slice text start (other + 1) <+: text.drop start :=
    List.take_prefix _ _
  obtain ⟨hopen, hstart⟩ := h.open_at
  obtain ⟨other, hfound, hother, hlt, hgroup⟩ | ⟨hnone, -⟩ := balancedClose_spec hopen
  · have hsame := congrArg List.length (h.eq_of_prefix hgroup (hpart close) (hpart other))
    rw [Pattern.length_slice (by omega) hclose, Pattern.length_slice (by omega) hlt] at hsame
    obtain rfl : other = close := by omega
    exact hfound
  · exact absurd h (not_isGroup_of_balancedClose hopen hnone (hpart close))

/-- The search from an open parenthesis on is exact.  It finds an offset exactly when the text up to
there, the offset included, closes as many parentheses as it opens and no shorter part does; it
finds nothing exactly when every part from there on opens more than it closes; and one offset at
most ends such a part. -/
theorem balancedClose_exact (h : text[start]? = some '(') :
    (∀ close, balancedClose text start = some close ↔
      start ≤ close ∧ close < text.length ∧ IsGroup (slice text start (close + 1))) ∧
    (balancedClose text start = none ↔ ∀ stop, start < stop → stop ≤ text.length →
      (slice text start stop).count ')' < (slice text start stop).count '(') ∧
    ∀ close other, close < text.length → other < text.length →
      IsGroup (slice text start (close + 1)) →
      IsGroup (slice text start (other + 1)) → close = other := by
  refine ⟨fun close => ⟨fun hfound => ?_,
    fun ⟨_, hclose, hgroup⟩ => hgroup.balancedClose_eq hclose⟩, ⟨fun hnone => ?_, fun hopen => ?_⟩,
    fun close other hclose hother hgroup hgroup' => ?_⟩
  · obtain ⟨other, hother, hlt, hle, hgroup⟩ | ⟨hnone, -⟩ := balancedClose_spec h
    · obtain rfl : other = close := Option.some.inj (hother.symm.trans hfound)
      exact ⟨Nat.le_of_lt hlt, hle, hgroup⟩
    · cases hnone.symm.trans hfound
  · obtain ⟨close, hclose, -⟩ | ⟨-, hopen⟩ := balancedClose_spec h
    · cases hnone.symm.trans hclose
    · exact fun stop hstop _ => hopen stop hstop
  · obtain ⟨close, -, hlt, hle, hgroup⟩ | ⟨hnone, -⟩ := balancedClose_spec h
    · have hmore := hopen (close + 1) (by omega) hle
      exact absurd hgroup.closed.symm (Nat.ne_of_lt hmore)
    · exact hnone
  · exact Option.some.inj ((hgroup.balancedClose_eq hclose).symm.trans
      (hgroup'.balancedClose_eq hother))

/-- The outer group of a text with a group inside of it, before a parenthesis that is never
closed. -/
theorem balancedClose_exact_nested :
    let text := "f(a, (b)) (".toList
    text[1]? = some '(' ∧ balancedClose text 1 = some 8 ∧ IsGroup (slice text 1 9) := by
  have hopen : "f(a, (b)) (".toList[1]? = some '(' := by decide
  have hfound : balancedClose "f(a, (b)) (".toList 1 = some 8 := by decide
  exact ⟨hopen, hfound, (((balancedClose_exact hopen).1 8).1 hfound).2.2⟩

end

end SqlLayout.Source
