import SqlLayout.Proofs.Document.CommentLines

/-!
# Comments in front of a statement

The pattern of the comment lines takes as many of them as there are: every line that it takes is
blank or a comment, and what it leaves begins with neither.  So it leaves nothing exactly when the
statement has no other lines, and whatever looks at the rest sees the first token that belongs to no
comment.

## Implementation notes

The taken part ends with the blanks behind its last comment line.  They may hold line feeds, and the
line that they end in may go on in the rest, so whether anything is left is told from the lines of
the whole statement.
-/

namespace SqlLayout.Document

/-- Where the comment lines in front of a statement end. -/
def commentsEnd (statement : List Char) : Nat :=
  (commentLines.matchStart statement).elim 0 Pattern.Match.stop

/-- The comment lines in front of a statement, with the blanks behind them. -/
def leadingComments (statement : List Char) : List Char :=
  statement.take (commentsEnd statement)

/-- A statement without the comment lines in front of it. -/
def statementBody (statement : List Char) : List Char :=
  statement.drop (commentsEnd statement)

/-- A line that begins with two dashes, once the blanks around it are taken off. -/
def IsComment (line : List Char) : Prop :=
  ['-', '-'] <+: Text.strip line

instance (line : List Char) : Decidable (IsComment line) :=
  inferInstanceAs (Decidable (_ <+: _))

theorem remark_iff (line : List Char) : Remark line ↔ Text.strip line = [] ∨ IsComment line := by
  by_cases hblank : Text.strip line = []
  · exact iff_of_true (.inl (List.dropWhile_eq_nil_iff.2 (Text.strip_eq_nil_iff.1 hblank)))
      (.inl hblank)
  · rw [remark_iff_strip hblank, or_iff_right hblank, IsComment]

theorem leadingComments_append_statementBody (statement : List Char) :
    leadingComments statement ++ statementBody statement = statement :=
  List.take_append_drop _ _

theorem statementBody_eq (statement : List Char) :
    statementBody statement = pastComments statement := by
  obtain ⟨hnone, hmatch⟩ | ⟨rest, found, hsome, hmatch, -, hdrop⟩ :=
    matchStart_commentLines statement
  · rw [statementBody, commentsEnd, hmatch, pastComments_none hnone]
    rfl
  · rw [statementBody, commentsEnd, hmatch, pastComments_some hsome]
    exact hdrop

/-! ## What is taken -/

theorem remarks_leadingComments (statement : List Char) : Remarks (leadingComments statement) := by
  obtain ⟨front, htext, hremarks, -⟩ := exists_remarks statement
  have hwhole := leadingComments_append_statementBody statement
  rw [statementBody_eq] at hwhole
  rwa [List.append_cancel_right (hwhole.trans htext)]

/-- Taking comment lines off a text leaves it open whether the rest of its lines are comments. -/
theorem remarks_pastComments (text : List Char) : Remarks (pastComments text) ↔ Remarks text := by
  fun_induction pastComments text with
  | case1 text rest h ih =>
      obtain ⟨front, htext, -, hremarks⟩ := exists_remark h
      rw [ih, ← hremarks rest id, ← htext]
  | case2 text h => exact Iff.rfl

/-! ## What is left -/

theorem pastComment_pastComments (text : List Char) : pastComment? (pastComments text) = none := by
  fun_induction pastComments text with
  | case1 text rest h ih => exact ih
  | case2 text h => exact h

theorem pastComment_dashes (rest : List Char) :
    (pastComment? ('-' :: '-' :: rest)).isSome = true := rfl

/-- What is left begins with no comment. -/
theorem not_dashes_pastComments (text : List Char) : ¬ ['-', '-'] <+: pastComments text := by
  rintro ⟨rest, hrest⟩
  have hsome := pastComment_dashes rest
  rw [show '-' :: '-' :: rest = pastComments text from hrest, pastComment_pastComments] at hsome
  cases hsome

theorem first_line_isPrefix {text line : List Char} {lines : List (List Char)}
    (h : text.splitOn '\n' = line :: lines) : line <+: text := by
  have hjoin : ['\n'].intercalate (line :: lines) = text := h ▸ List.intercalate_splitOn '\n'
  rw [← hjoin]
  cases lines with
  | nil => simp
  | cons next rest => simp

/-- A text of comment lines and blank lines begins with a comment, if it begins with no blank. -/
theorem dashes_of_remarks {text : List Char} (hhead : ∀ x ∈ text.head?, Text.isBlank x = false)
    (hne : text ≠ []) (h : Remarks text) : ['-', '-'] <+: text := by
  obtain ⟨x, more, rfl⟩ := List.exists_cons_of_ne_nil hne
  have hx : Text.isBlank x = false := hhead x rfl
  have hfeed : ¬ (x == '\n') = true := fun hfeed => by
    rw [eq_of_beq hfeed] at hx
    exact absurd hx (by decide)
  obtain ⟨line, lines, hlines⟩ := List.exists_cons_of_ne_nil (List.splitOn_ne_nil '\n' more)
  have hsplit : (x :: more).splitOn '\n' = (x :: line) :: lines := by
    rw [List.splitOn_cons_eq_if_modifyHead, if_neg hfeed, hlines, List.modifyHead_cons]
  have hsolid : (x :: line).dropWhile Text.isBlank = x :: line :=
    List.dropWhile_cons_of_neg (by simp [hx])
  have hfirst : Remark (x :: line) := h _ (hsplit ▸ List.mem_cons_self)
  rw [Remark, hsolid] at hfirst
  exact (hfirst.resolve_left (List.cons_ne_nil x line)).trans (first_line_isPrefix hsplit)

section

variable {statement : List Char} (hhead : ∀ x ∈ statement.head?, Text.isBlank x = false)
include hhead

theorem head_statementBody : ∀ x ∈ (statementBody statement).head?, Text.isBlank x = false := by
  rw [statementBody_eq]
  exact head_pastComments hhead

/-- Nothing is left of a statement exactly when all its lines are comments or blank. -/
theorem statementBody_eq_nil_iff : statementBody statement = [] ↔ Remarks statement := by
  rw [← remarks_pastComments, ← statementBody_eq]
  constructor
  · intro hnil
    rw [hnil]
    exact remarks_nil
  · intro hremarks
    by_contra hne
    have hdashes := dashes_of_remarks (head_statementBody hhead) hne hremarks
    rw [statementBody_eq] at hdashes
    exact not_dashes_pastComments statement hdashes

end

/-- A statement is parsed by these two parts, both trimmed, unless there is no comment at all. -/
theorem splitComments_eq_strip (statement : List Char) :
    splitComments statement =
      if leadingComments statement = [] then (none, statementBody statement)
      else (some (Text.strip (leadingComments statement)),
        Text.strip (statementBody statement)) := by
  obtain ⟨-, hmatch⟩ | ⟨rest, found, hsome, hmatch, -, -⟩ := matchStart_commentLines statement
  · have hend : commentsEnd statement = 0 := by rw [commentsEnd, hmatch, Option.elim_none]
    rw [leadingComments, statementBody, hend, List.take_zero, if_pos rfl, splitComments, hmatch]
    rfl
  · rw [if_neg, splitComments, hmatch]
    · simp only [leadingComments, statementBody, commentsEnd, hmatch, Option.elim_some]
    · intro hnil
      have hwhole := leadingComments_append_statementBody statement
      rw [hnil, List.nil_append, statementBody_eq] at hwhole
      have hnone := pastComment_pastComments statement
      rw [hwhole, hsome] at hnone
      cases hnone

/-- Comment lines and the statement behind them, as two parts of one text. -/
structure Separated (statement comment body : List Char) : Prop where
  whole : comment ++ body = statement
  comments : ∀ line ∈ comment.splitOn '\n', Text.strip line ≠ [] → IsComment line
  noComment : ¬ IsComment body
  empty_iff : Text.strip body = [] ↔ ∀ line ∈ statement.splitOn '\n', Text.strip line = [] ∨
    IsComment line

/-- The comment lines in front of a statement and the rest of it are separated, and what is parsed
are these parts. -/
theorem leading_comments_separated {statement : List Char}
    (hhead : ∀ x ∈ statement.head?, Text.isBlank x = false) :
    Separated statement (leadingComments statement) (statementBody statement) ∧
      splitComments statement =
        if leadingComments statement = [] then (none, statementBody statement)
        else (some (Text.strip (leadingComments statement)),
          Text.strip (statementBody statement)) := by
  have hbody := head_statementBody hhead
  refine ⟨⟨leadingComments_append_statementBody statement, fun line hline hsolid => ?_,
    fun hcomment => ?_, ?_⟩, splitComments_eq_strip statement⟩
  · exact ((remark_iff line).1 (remarks_leadingComments statement line hline)).resolve_left hsolid
  · obtain ⟨blanks, -, hstrip⟩ := Text.exists_strip_append hbody
    have hdashes : ['-', '-'] <+: statementBody statement := by
      rw [hstrip]
      exact hcomment.trans (List.prefix_append _ _)
    rw [statementBody_eq] at hdashes
    exact not_dashes_pastComments statement hdashes
  · have hempty : Text.strip (statementBody statement) = [] ↔ statementBody statement = [] := by
      rw [Text.strip_eq_nil_iff, ← List.dropWhile_eq_nil_iff, Text.dropWhile_eq_self hbody]
    rw [hempty, statementBody_eq_nil_iff hhead]
    exact forall₂_congr fun line _ => remark_iff line

/-- An empty comment, a line that holds a no-break space, and a comment with blanks in front of
it. -/
theorem leading_comments_separated_blanks :
    let statement := "--\n\u00a0\n\t-- b\n  select a -- c\n".toList
    (∀ x ∈ statement.head?, Text.isBlank x = false) ∧
      leadingComments statement = "--\n\u00a0\n\t-- b\n  ".toList ∧
      Separated statement (leadingComments statement) "select a -- c\n".toList ∧
      splitComments statement = (some "--\n\u00a0\n\t-- b".toList, "select a -- c".toList) := by
  intro statement
  have hfirst : statement.head? = some '-' := by decide
  have hhead : ∀ x ∈ statement.head?, Text.isBlank x = false := by
    rw [hfirst]
    rintro x ⟨⟩
    decide
  have hcomments : leadingComments statement = "--\n\u00a0\n\t-- b\n  ".toList := by decide
  have hbody : statementBody statement = "select a -- c\n".toList := by decide
  obtain ⟨hseparated, hsplit⟩ := leading_comments_separated hhead
  rw [hbody] at hseparated
  refine ⟨hhead, hcomments, hseparated, hsplit.trans ?_⟩
  rw [hcomments, hbody]
  decide

end SqlLayout.Document
