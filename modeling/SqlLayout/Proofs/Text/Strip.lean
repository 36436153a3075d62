import Mathlib.Data.List.DropRight
import SqlLayout.Text.Basic

/-!
# Trimmed texts

A text is trimmed exactly when it neither begins nor ends with a blank, so trimming twice is
trimming once.  What trimming takes off a text that does not begin with a blank stands at its end.
-/

namespace SqlLayout.Text

theorem dropEndWhile_isPrefix (p : Char → Bool) (text : List Char) : dropEndWhile p text <+: text :=
  List.rdropWhile_prefix p text

theorem strip_isInfix (text : List Char) : strip text <:+: text :=
  (dropEndWhile_isPrefix _ _).isInfix.trans (List.dropWhile_suffix _).isInfix

theorem dropWhile_eq_self {p : Char → Bool} {text : List Char} (h : ∀ x ∈ text.head?, p x = false) :
    text.dropWhile p = text := by
  cases text with
  | nil => rfl
  | cons x rest => exact List.dropWhile_cons_of_neg (by simp [h x rfl])

theorem dropEndWhile_eq_self {p : Char → Bool} {text : List Char}
    (h : ∀ x ∈ text.getLast?, p x = false) :
    dropEndWhile p text = text := by
  refine List.rdropWhile_eq_self_iff.2 fun hne => ?_
  simp [h _ (List.getLast?_eq_some_getLast hne)]

/-- Characters are taken off the end of an append until one of its back stays. -/
theorem dropEndWhile_append (p : Char → Bool) (front back : List Char) :
    dropEndWhile p (front ++ back) =
    if dropEndWhile p back = [] then dropEndWhile p front else front ++ dropEndWhile p back := by
  simp only [dropEndWhile, List.reverse_append, List.dropWhile_append, List.isEmpty_iff,
    List.reverse_eq_nil_iff]
  split <;> simp

theorem dropEndWhile_congr {p q : Char → Bool} {text : List Char} (h : ∀ x ∈ text, p x = q x) :
    dropEndWhile p text = dropEndWhile q text := by
  have hdrop (back : List Char) (hback : ∀ x ∈ back, p x = q x) : back.dropWhile p =
      back.dropWhile q := by
    induction back with
    | nil => rfl
    | cons x rest ih =>
        rw [List.dropWhile_cons, List.dropWhile_cons, hback x List.mem_cons_self,
          ih fun y hy => hback y (List.mem_cons_of_mem x hy)]
  rw [dropEndWhile, dropEndWhile, hdrop _ fun x hx => h x (List.mem_reverse.1 hx)]

theorem head_strip {text : List Char} : ∀ x ∈ (strip text).head?, isBlank x = false := by
  intro x hx
  obtain ⟨back, hback⟩ := dropEndWhile_isPrefix isBlank (text.dropWhile isBlank)
  change strip text ++ back = _ at hback
  have hnot := List.head?_dropWhile_not isBlank text
  rw [← hback, List.head?_append, hx] at hnot
  exact hnot

theorem last_strip {text : List Char} : ∀ x ∈ (strip text).getLast?, isBlank x = false := by
  intro x hx
  obtain ⟨hne, rfl⟩ := List.mem_getLast?_eq_getLast hx
  exact Bool.eq_false_iff.2 (List.rdropWhile_last_not isBlank _ hne)

/-- A text is trimmed when it neither begins nor ends with a blank. -/
theorem strip_eq_self_iff {text : List Char} : strip text = text ↔
    (∀ x ∈ text.head?, isBlank x = false) ∧ ∀ x ∈ text.getLast?, isBlank x = false := by
  constructor
  · intro h
    rw [← h]
    exact ⟨head_strip, last_strip⟩
  · rintro ⟨hhead, hlast⟩
    rw [strip, dropWhile_eq_self hhead, dropEndWhile_eq_self hlast]

theorem strip_strip (text : List Char) : strip (strip text) = strip text :=
  strip_eq_self_iff.2 ⟨head_strip, last_strip⟩

theorem strip_eq_nil_iff {text : List Char} : strip text = [] ↔ ∀ x ∈ text, isBlank x = true := by
  constructor
  · intro h
    have hblank := List.rdropWhile_eq_nil_iff.1 h
    cases hdrop : text.dropWhile isBlank with
    | nil => exact List.dropWhile_eq_nil_iff.1 hdrop
    | cons x rest =>
        have hnot : isBlank x = false := by
          simpa [hdrop] using List.head?_dropWhile_not isBlank text
        rw [hdrop] at hblank
        exact absurd (hblank x List.mem_cons_self) (by simp [hnot])
  · intro h
    rw [strip, List.dropWhile_eq_nil_iff.2 h]
    rfl

/-- Trimming a text that does not begin with a blank takes the blanks off its end. -/
theorem exists_strip_append {text : List Char} (hhead : ∀ x ∈ text.head?, isBlank x = false) :
    ∃ blanks, (∀ x ∈ blanks, isBlank x = true) ∧ text = strip text ++ blanks := by
  refine ⟨text.rtakeWhile isBlank, fun x => List.mem_rtakeWhile_imp, ?_⟩
  rw [strip, dropWhile_eq_self hhead]
  exact List.rdropWhile_append_rtakeWhile.symm

/-- Blanks behind a trimmed text are taken off again. -/
theorem strip_append_blanks {text blanks : List Char} (htext : strip text = text)
    (hblanks : ∀ x ∈ blanks, isBlank x = true) : strip (text ++ blanks) = text := by
  obtain rfl | hne := eq_or_ne text []
  · exact strip_eq_nil_iff.2 hblanks
  · obtain ⟨hhead, hlast⟩ := strip_eq_self_iff.1 htext
    rw [strip, dropWhile_eq_self (by rwa [List.head?_append_of_ne_nil _ hne]), dropEndWhile,
      List.reverse_append, List.dropWhile_append_of_pos (by simpa using hblanks)]
    exact dropEndWhile_eq_self hlast

/-- A text is its trimmed form with blanks around it. -/
theorem exists_strip (text : List Char) : ∃ lead trail, (∀ x ∈ lead, isBlank x = true) ∧
    (∀ x ∈ trail, isBlank x = true) ∧ text = lead ++ (strip text ++ trail) := by
  refine ⟨text.takeWhile isBlank, (text.dropWhile isBlank).rtakeWhile isBlank,
    fun x => List.mem_takeWhile_imp, fun x => List.mem_rtakeWhile_imp, ?_⟩
  rw [strip, dropEndWhile, ← List.rdropWhile, List.rdropWhile_append_rtakeWhile,
    List.takeWhile_append_dropWhile]

/-- Blanks around a trimmed text are taken off again. -/
theorem strip_blanks {lead text trail : List Char} (hlead : ∀ x ∈ lead, isBlank x = true)
    (htrail : ∀ x ∈ trail, isBlank x = true) (htext : strip text = text) :
    strip (lead ++ (text ++ trail)) = text := by
  have hfront : strip (lead ++ (text ++ trail)) = strip (text ++ trail) := by
    rw [strip, List.dropWhile_append_of_pos hlead, ← strip]
  rw [hfront, strip_append_blanks htext htrail]

/-- Blanks around a text are taken off with its own. -/
theorem strip_between {lead text trail : List Char} (hlead : ∀ x ∈ lead, isBlank x = true)
    (htrail : ∀ x ∈ trail, isBlank x = true) : strip (lead ++ (text ++ trail)) = strip text := by
  obtain ⟨first, last, hfirst, hlast, htext⟩ := exists_strip text
  have hall := strip_blanks (List.forall_mem_append.2 ⟨hlead, hfirst⟩)
    (List.forall_mem_append.2 ⟨hlast, htrail⟩)
    (strip_strip text)
  rw [← hall]
  conv_lhs => rw [htext]
  simp only [List.append_assoc]

theorem strip_append_eq_nil {front back : List Char} :
    strip (front ++ back) = [] ↔ strip front = [] ∧ strip back = [] := by
  simp only [strip_eq_nil_iff, List.forall_mem_append]

/-- A trimmed text stays trimmed with a character that is no blank behind it. -/
theorem strip_concat {text : List Char} {c : Char} (hc : isBlank c = false)
    (htext : strip text = text) :
    strip (text ++ [c]) = text ++ [c] := by
  refine strip_eq_self_iff.2 ⟨?_, ?_⟩
  · cases text with
    | nil => simpa using hc
    | cons x rest => exact (strip_eq_self_iff.1 htext).1
  · rw [List.getLast?_concat]
    rintro x ⟨⟩
    exact hc

end SqlLayout.Text
