import Mathlib.Data.List.Basic
import SqlLayout.Text.Basic

/-!
# Lines of a text

A text is cut into lines at every kind of line end.  Cutting at line feeds alone gives longer lines,
which are cut again at the other line ends.

## Implementation notes

The pair of carriage return and line feed ends one line, and a last line without an end counts only
when it is not empty, so lines are pieces between line ends up to empty ones.
-/

namespace SqlLayout.Text

/-- When an append is cut, the last piece of its front goes on with the first piece of its back. -/
theorem exists_splitOnP_append (p : Char → Bool) (front back : List Char) :
    ∃ init last first rest, front.splitOnP p = init ++ [last] ∧ back.splitOnP p = first :: rest ∧
      (front ++ back).splitOnP p = init ++ (last ++ first) :: rest := by
  obtain ⟨first, rest, hback⟩ := List.exists_cons_of_ne_nil (List.splitOnP_ne_nil p back)
  induction front with
  | nil => exact ⟨[], [], first, rest, List.splitOnP_nil, hback, hback⟩
  | cons x front ih =>
      obtain ⟨init, last, other, more, hfront, hother, happend⟩ := ih
      simp only [List.cons_append, List.splitOnP_cons_eq_if_modifyHead]
      by_cases hx : p x = true
      · refine ⟨[] :: init, last, other, more, ?_, hother, ?_⟩
        · rw [if_pos hx, hfront, List.cons_append]
        · rw [if_pos hx, happend, List.cons_append]
      · rw [if_neg hx, if_neg hx, hfront, happend]
        cases init with
        | nil => exact ⟨[], x :: last, other, more, rfl, hother, rfl⟩
        | cons piece init => exact ⟨(x :: piece) :: init, last, other, more, rfl, hother, rfl⟩

/-- Cutting at more characters cuts each piece again. -/
theorem splitOnP_flatMap {p q : Char → Bool} (h : ∀ x, q x = true → p x = true) (text : List Char) :
    text.splitOnP p = (text.splitOnP q).flatMap fun line => line.splitOnP p := by
  induction text with
  | nil => rfl
  | cons x rest ih =>
      rw [List.splitOnP_cons_eq_if_modifyHead, List.splitOnP_cons_eq_if_modifyHead]
      obtain ⟨line, lines, hlines⟩ := List.exists_cons_of_ne_nil (List.splitOnP_ne_nil q rest)
      rw [hlines, List.flatMap_cons] at ih
      by_cases hq : q x = true
      · rw [if_pos (h x hq), if_pos hq, hlines, List.flatMap_cons, List.splitOnP_nil, ih,
          List.flatMap_cons]
        rfl
      · rw [if_neg hq, hlines, List.modifyHead_cons, List.flatMap_cons,
          List.splitOnP_cons_eq_if_modifyHead, ih]
        split
        · rfl
        · obtain ⟨piece, pieces, hpieces⟩ :=
            List.exists_cons_of_ne_nil (List.splitOnP_ne_nil p line)
          rw [hpieces]
          rfl

/-- Pieces have no character that they are cut at. -/
theorem of_mem_splitOnP (p : Char → Bool) (text : List Char) :
    ∀ piece ∈ text.splitOnP p, ∀ x ∈ piece, p x = false ∧ x ∈ text := by
  induction text with
  | nil => simp
  | cons x rest ih =>
      obtain ⟨piece, pieces, hpieces⟩ := List.exists_cons_of_ne_nil (List.splitOnP_ne_nil p rest)
      have hrest : ∀ found ∈ piece :: pieces, ∀ y ∈ found, p y = false ∧ y ∈ x :: rest := by
        rw [hpieces] at ih
        exact fun found hfound y hy => (ih found hfound y hy).imp_right (List.mem_cons_of_mem x)
      rw [List.splitOnP_cons_eq_if_modifyHead, hpieces]
      split
      · exact List.forall_mem_cons.2 ⟨by simp, hrest⟩
      · next hx =>
          rw [List.forall_mem_cons] at hrest
          rw [List.modifyHead_cons, List.forall_mem_cons, List.forall_mem_cons]
          exact ⟨⟨⟨Bool.eq_false_iff.2 hx, List.mem_cons_self⟩, hrest.1⟩, hrest.2⟩

/-- Empty lines apart, the lines of a text are its pieces between line ends. -/
theorem forall_lines_iff {P : List Char → Prop} (hnil : P []) (text : List Char) :
    (∀ line ∈ lines text, P line) ↔ ∀ piece ∈ text.splitOnP isLineEnd, P piece := by
  suffices hfrom : ∀ line, (∀ x ∈ line, isLineEnd x = false) →
      ((∀ found ∈ linesFrom line text, P found) ↔
        ∀ piece ∈ (line.reverse ++ text).splitOnP isLineEnd, P piece) from hfrom [] (by simp)
  intro line hline
  have hopen : ∀ x ∈ line.reverse, isLineEnd x = false :=
    fun x hx => hline x (List.mem_reverse.1 hx)
  induction line, text using linesFrom.induct with
  | case1 line hempty =>
      rw [linesFrom, if_pos hempty, List.isEmpty_iff.1 hempty]
      simpa using hnil
  | case2 line hne => rw [linesFrom, if_neg hne, List.append_nil, List.splitOnP_eq_singleton hopen]
  | case3 line rest ih =>
      have hrest := ih (by simp) (by simp)
      rw [linesFrom, List.splitOnP_append_cons_of_forall_mem hopen '\r' (by decide),
        List.splitOnP_cons_eq_if_modifyHead, if_pos (by decide)]
      simpa [hnil] using fun _ => hrest
  | case4 line x rest hne hend ih =>
      have hrest := ih (by simp) (by simp)
      rw [linesFrom.eq_3 _ _ _ hne, if_pos hend,
        List.splitOnP_append_cons_of_forall_mem hopen x hend]
      simpa using fun _ => hrest
  | case5 line x rest hne hend ih =>
      have hx : ∀ y ∈ x :: line, isLineEnd y = false :=
        List.forall_mem_cons.2 ⟨Bool.eq_false_iff.2 hend, hline⟩
      rw [linesFrom.eq_3 _ _ _ hne, if_neg hend]
      simpa using ih hx fun y hy => hx y (List.mem_reverse.1 hy)

theorem not_lineEnd_of_mem_lines {text line : List Char} (h : line ∈ lines text) :
    ∀ x ∈ line, isLineEnd x = false := by
  have hlines := @forall_lines_iff (fun line => ∀ x ∈ line, isLineEnd x = false) (by simp) text
  exact hlines.2 (fun piece hpiece x hx => (of_mem_splitOnP isLineEnd text piece hpiece x hx).1)
    line h

/-- Characters that end no line belong to the current one. -/
theorem linesFrom_append {text : List Char} (htext : ∀ x ∈ text, isLineEnd x = false)
    (line back : List Char) :
    linesFrom line (text ++ back) = linesFrom (text.reverse ++ line) back := by
  induction text generalizing line with
  | nil => rfl
  | cons x rest ih =>
      have hx : isLineEnd x = false := htext x List.mem_cons_self
      have hreturn : x ≠ '\r' := by
        rintro rfl
        exact absurd hx (by decide)
      rw [List.cons_append, linesFrom.eq_3 _ _ _ fun _ h _ => hreturn h, if_neg (by simp [hx]),
        ih fun y hy => htext y (List.mem_cons_of_mem x hy)]
      simp

/-- Lines that are joined by line feeds are found again. -/
theorem lines_intercalate {found : List (List Char)}
    (h : ∀ line ∈ found, line ≠ [] ∧ ∀ x ∈ line, isLineEnd x = false) :
    lines (['\n'].intercalate found) = found := by
  induction found with
  | nil => rfl
  | cons line rest ih =>
      obtain ⟨hne, hline⟩ := h line List.mem_cons_self
      cases rest with
      | nil =>
          have hlast := linesFrom_append hline [] []
          rw [List.append_nil] at hlast
          rw [List.intercalate_singleton, lines, hlast, linesFrom, List.append_nil,
            List.reverse_reverse, if_neg (by simpa using hne)]
      | cons next rest =>
          rw [List.intercalate_cons_cons, lines, List.append_assoc, linesFrom_append hline,
            List.append_nil, List.singleton_append, linesFrom.eq_3 _ _ _ (by simp),
            if_pos (by decide), List.reverse_reverse]
          exact congrArg (line :: ·) (ih fun other hother =>
            h other (List.mem_cons_of_mem line hother))

/-- Every line but the last ends with a line feed. -/
theorem intercalate_concat (init : List (List Char)) (last : List Char) :
    ['\n'].intercalate (init ++ [last]) = init.flatMap (· ++ ['\n']) ++ last := by
  induction init with
  | nil => simp
  | cons line rest ih =>
      rw [List.cons_append, List.intercalate_cons_of_ne_nil (by simp), ih, List.flatMap_cons]
      simp

end SqlLayout.Text
