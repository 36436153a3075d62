import SqlLayout.Proofs.Layout.Documents
import SqlLayout.Proofs.Text.Lines

/-!
# Printed comments

A comment is printed line by line: its text is cut at every kind of line end, and the lines are
printed without the blanks around them, with line feeds between them.  Blank lines are left out.
-/

namespace SqlLayout.Layout

open SqlLayout.Tree

/-- Texts with line breaks of the outermost level between them are written as lines. -/
theorem written_join (tabWidth : Nat) {lines : List (List Char)}
    (h : ∀ line ∈ lines, ∀ x ∈ line.getLast?, x ≠ ' ') :
    written tabWidth (joinItems 0 [.newline 0] (lines.map fun line => .text (String.ofList line))) =
      ['\n'].intercalate lines := by
  induction lines with
  | nil => rfl
  | cons line rest ih =>
      have hline : written tabWidth [.text (String.ofList line)] = line := by
        have hlast : Text.dropEndWhile (· == ' ') line = line :=
          Text.dropEndWhile_eq_self fun x hx => by simpa using h line List.mem_cons_self x hx
        simpa [written, writeItems, trimSpaces, Text.dropEndWhile] using hlast
      cases rest with
      | nil => simpa [joinItems, Doc.items] using hline
      | cons next rest =>
          have hrest := ih fun other hother => h other (List.mem_cons_of_mem line hother)
          have hbreak := written_newline tabWidth [.text (String.ofList line)]
            (joinItems 0 [.newline 0] ((next :: rest).map fun line => .text (String.ofList line)))
          rw [hline, hrest] at hbreak
          simpa [joinItems, Doc.items, List.intercalate_cons_cons] using hbreak

/-- The lines of a printed comment. -/
def printedLines (text : List Char) : List (List Char) :=
  ((Text.lines text).map Text.strip).filter fun line => !line.isEmpty

theorem mem_printedLines {text line : List Char} :
    line ∈ printedLines text ↔ (∃ found ∈ Text.lines text, Text.strip found = line) ∧
      line ≠ [] := by
  simp [printedLines]

theorem toList_comment (tabWidth : Nat) (node : Comment) :
    (statementText tabWidth (.comment node)).toList =
      ['\n'].intercalate (printedLines node.text.toList) := by
  have hparts : (Text.lines node.text.toList).filterMap (fun line =>
      if (Text.strip line).isEmpty then none
      else some (Doc.text (String.ofList (Text.strip line)))) =
        (printedLines node.text.toList).map fun line => .text (String.ofList line) := by
    rw [printedLines, List.filter_map,
      List.map_map, ← List.filterMap_eq_map, ← List.filterMap_eq_filter, List.filterMap_filterMap]
    refine List.filterMap_congr fun line _ => ?_
    cases hempty : (Text.strip line).isEmpty <;> simp [Option.guard, hempty]
  have hdoc : (commentDoc node).items 0 = joinItems 0 [.newline 0]
      ((printedLines node.text.toList).map fun line => .text (String.ofList line)) := by
    rw [← hparts]
    rfl
  have htext : statementText tabWidth (.comment node) = (commentDoc node).render tabWidth := rfl
  rw [htext, toList_render, hdoc]
  refine written_join tabWidth fun line hline x hx => ?_
  obtain ⟨⟨found, -, rfl⟩, -⟩ := mem_printedLines.1 hline
  rintro rfl
  exact absurd (Text.last_strip ' ' hx) (by decide)

theorem not_lineEnd_of_printed {text line : List Char} (h : line ∈ printedLines text) :
    ∀ x ∈ line, Text.isLineEnd x = false := by
  obtain ⟨⟨found, hfound, rfl⟩, -⟩ := mem_printedLines.1 h
  exact fun x hx => Text.not_lineEnd_of_mem_lines hfound x ((Text.strip_isInfix found).subset hx)

theorem printedLines_ne_nil {node : Comment} (h : ¬ BlankComment node) :
    printedLines node.text.toList ≠ [] := by
  simp only [BlankComment, not_forall, Bool.not_eq_true] at h
  obtain ⟨c, hmem, hc⟩ := h
  have hlines : ∃ line ∈ Text.lines node.text.toList, c ∈ line :=
    exists_mem_linesFrom hc (by simpa using hmem)
  obtain ⟨line, hline, hfound⟩ := hlines
  refine List.ne_nil_of_mem (mem_printedLines.2 ⟨⟨line, hline, rfl⟩, fun hnil => ?_⟩)
  rw [Text.strip_eq_nil_iff.1 hnil c hfound] at hc
  cases hc

/-- The lines of a printed comment are found again. -/
theorem splitOn_comment (tabWidth : Nat) {node : Comment} (h : ¬ BlankComment node) :
    (statementText tabWidth (.comment node)).toList.splitOn '\n' =
      printedLines node.text.toList := by
  rw [toList_comment]
  refine List.splitOn_intercalate '\n' (fun line hline hmem => ?_) (printedLines_ne_nil h)
  exact absurd (not_lineEnd_of_printed hline '\n' hmem) (by decide)

/-! ## A comment in front of other statements -/

/-- A comment is printed in front of the statements behind it, with a line feed after it. -/
theorem printStatements_comment (tabWidth : Nat) {node : Comment} {rest : List Statement}
    (hcomments : ∀ found, .comment found ∈ Statement.comment node :: rest → ¬ BlankComment found) :
    printStatements tabWidth (.comment node :: rest) =
      statementText tabWidth (.comment node) ++ "\n" ++ printStatements tabWidth rest := by
  have hlaid : laidOut (.comment node :: rest) = .comment node :: laidOut rest := rfl
  rw [printStatements_eq tabWidth hcomments,
    printStatements_eq tabWidth fun found hfound => hcomments found (List.mem_cons_of_mem _ hfound),
    hlaid, if_neg (List.cons_ne_nil _ _)]
  cases laidOut rest with
  | nil => simp [pageText]
  | cons next rest => simp [pageText, lineBreaks, String.append_assoc]

theorem print_comment {tabWidth : Nat} {strict : Bool} {node : Comment} {rest : List Statement}
    {out : String}
    (hcomments : ∀ found, .comment found ∈ Statement.comment node :: rest → ¬ BlankComment found)
    (h : print tabWidth strict rest = .ok out) : print tabWidth strict (.comment node :: rest) =
      .ok (statementText tabWidth (.comment node) ++ "\n" ++ out) := by
  have hdropped : dropped (.comment node :: rest) = dropped rest := rfl
  unfold print at h ⊢
  rw [hdropped]
  split at h
  · cases h
  · rw [printStatements_comment tabWidth hcomments, Except.ok.inj h]

end SqlLayout.Layout
