import SqlLayout.Proofs.Document.Comments
import SqlLayout.Proofs.Document.Output
import SqlLayout.Proofs.Document.Unapplied
import SqlLayout.Proofs.Layout.Comments
import SqlLayout.Proofs.Placeholder.Twice

/-!
# Lines of comments

The comment lines in front of a statement end at line feeds, and a comment is printed with a line
for every kind of line end.  So what stands behind another line end in a comment line is printed on
a line of its own, and only there can a printed comment have a line that is no comment.
-/

namespace SqlLayout.Document

/-- A line that is blank, or begins with two dashes behind its blanks. -/
def Remark (line : List Char) : Prop :=
  line.dropWhile Text.isBlank = [] ∨ ['-', '-'] <+: line.dropWhile Text.isBlank

instance (line : List Char) : Decidable (Remark line) :=
  inferInstanceAs (Decidable (_ ∨ _))

theorem remark_blanks {blanks : List Char} (hblanks : ∀ x ∈ blanks, Text.isBlank x = true)
    (line : List Char) :
    Remark (blanks ++ line) ↔ Remark line := by
  rw [Remark, List.dropWhile_append_of_pos hblanks, Remark]

/-- A remark stays one when text without dashes is cut off its end. -/
theorem remark_of_append {line back : List Char} (h : Remark (line ++ back)) (hback : '-' ∉ back) :
    Remark line := by
  rw [Remark, List.dropWhile_append] at h
  split at h
  · next hempty => exact .inl (List.isEmpty_iff.1 hempty)
  · next hsolid =>
      refine .inr ?_
      cases hline : line.dropWhile Text.isBlank with
      | nil => simp [hline] at hsolid
      | cons x rest =>
          rw [hline] at h
          obtain ⟨rfl, hrest⟩ : '-' = x ∧ ['-'] <+: rest ++ back := by simpa using h
          cases rest with
          | nil =>
              obtain ⟨more, rfl⟩ := hrest
              simp at hback
          | cons y rest =>
              obtain rfl : '-' = y := by simpa using hrest
              exact List.prefix_append ['-', '-'] rest

theorem remark_append_blanks {line blanks : List Char} (h : Remark line)
    (hblanks : ∀ x ∈ blanks, Text.isBlank x = true) : Remark (line ++ blanks) := by
  rw [Remark, List.dropWhile_append]
  split
  · exact .inl (List.dropWhile_eq_nil_iff.2 hblanks)
  · next hsolid =>
      exact .inr ((h.resolve_left (by simpa using hsolid)).trans (List.prefix_append _ _))

theorem dash_not_mem_blanks {blanks : List Char} (hblanks : ∀ x ∈ blanks, Text.isBlank x = true) :
    '-' ∉ blanks :=
  fun hmem => absurd (hblanks '-' hmem) (by decide)

/-- A remark that is not blank is printed with two dashes in front. -/
theorem remark_iff_strip {line : List Char} (hline : Text.strip line ≠ []) :
    Remark line ↔ ['-', '-'] <+: Text.strip line := by
  obtain ⟨lead, trail, hlead, htrail, htext⟩ := Text.exists_strip line
  have hhead : (Text.strip line).dropWhile Text.isBlank = Text.strip line :=
    Text.dropWhile_eq_self Text.head_strip
  have hstrip : Remark (Text.strip line) ↔ ['-', '-'] <+: Text.strip line := by
    rw [Remark, hhead]
    exact or_iff_right hline
  rw [← hstrip]
  conv_lhs => rw [htext]
  rw [remark_blanks hlead]
  exact ⟨fun h => remark_of_append h (dash_not_mem_blanks htrail),
    fun h => remark_append_blanks h htrail⟩

/-! ## Lines between line feeds -/

/-- Whether every line of a text is a remark, where line feeds alone end a line. -/
def Remarks (text : List Char) : Prop :=
  ∀ line ∈ text.splitOn '\n', Remark line

theorem remarks_nil : Remarks [] := by
  simp [Remarks, Remark]

theorem remarks_blanks {blanks : List Char} (hblanks : ∀ x ∈ blanks, Text.isBlank x = true)
    (text : List Char) :
    Remarks (blanks ++ text) ↔ Remarks text := by
  induction blanks with
  | nil => rfl
  | cons x blanks ih =>
      rw [List.forall_mem_cons] at hblanks
      rw [← ih hblanks.2, Remarks, Remarks, List.cons_append, List.splitOn_cons_eq_if_modifyHead]
      split
      · simp [Remark]
      · obtain ⟨line, lines, hlines⟩ :=
          List.exists_cons_of_ne_nil (List.splitOn_ne_nil '\n' (blanks ++ text))
        have hline : Remark (x :: line) ↔ Remark line :=
          remark_blanks (List.forall_mem_singleton.2 hblanks.1) line
        rw [hlines, List.modifyHead_cons, List.forall_mem_cons, List.forall_mem_cons, hline]

theorem remarks_of_append {text back : List Char} (h : Remarks (text ++ back))
    (hback : '-' ∉ back) :
    Remarks text := by
  obtain ⟨init, last, first, rest, htext, hfirst, happend⟩ :=
    Text.exists_splitOnP_append (· == '\n') text back
  have hdash : '-' ∉ first := fun hmem =>
    hback (Text.of_mem_splitOnP _ back first (hfirst ▸ List.mem_cons_self) '-' hmem).2
  rw [Remarks, List.splitOn_eq_splitOnP, happend, List.forall_mem_append, List.forall_mem_cons] at h
  rw [Remarks, List.splitOn_eq_splitOnP, htext, List.forall_mem_append, List.forall_mem_singleton]
  exact ⟨h.1, remark_of_append h.2.1 hdash⟩

theorem remarks_strip {text : List Char} (h : Remarks text) : Remarks (Text.strip text) := by
  obtain ⟨lead, trail, hlead, htrail, htext⟩ := Text.exists_strip text
  rw [htext, remarks_blanks hlead] at h
  exact remarks_of_append h (dash_not_mem_blanks htrail)

/-- A comment line at the start of a text is a remark, and what stands behind its line feed begins a
new line. -/
theorem exists_remark {text rest : List Char} (h : pastComment? text = some rest) :
    ∃ front, text = front ++ rest ∧ '-' ∈ front ∧
      ∀ back, (rest = [] → back = []) → (Remarks (front ++ back) ↔ Remarks back) := by
  obtain ⟨blanks, line, gap, rfl, hblanks, hline, hgap⟩ := exists_of_pastComment h
  have hremark : Remark (blanks ++ '-' :: '-' :: line) := by
    rw [remark_blanks fun x hx => isBlank_of_lineBlank (hblanks x hx)]
    exact .inr (List.prefix_append ['-', '-'] line)
  have hone : '\n' ∉ blanks ++ '-' :: '-' :: line := by
    intro hmem
    obtain hmem | hmem := List.mem_append.1 hmem
    · exact absurd (hblanks _ hmem) (by decide)
    · have hmem : '\n' ∈ line := by simpa using hmem
      exact absurd (hline _ hmem) (by decide)
  refine ⟨blanks ++ '-' :: '-' :: (line ++ gap), by simp, by simp, fun back hback => ?_⟩
  obtain ⟨rfl, rfl⟩ | ⟨more, rfl, hmore⟩ := hgap
  · rw [hback rfl, List.append_nil, List.append_nil, Remarks, List.splitOn_eq_singleton hone]
    exact iff_of_true (List.forall_mem_singleton.2 hremark) remarks_nil
  · have htext : blanks ++ '-' :: '-' :: (line ++ '\n' :: more) ++ back =
        (blanks ++ '-' :: '-' :: line) ++ '\n' :: (more ++ back) := by simp
    rw [htext, Remarks, List.splitOn_append_cons_self_of_not_mem hone, List.forall_mem_cons,
      ← remarks_blanks hmore back]
    exact and_iff_right hremark

/-- All comment lines at the start of a text are remarks. -/
theorem exists_remarks (text : List Char) :
    ∃ front, text = front ++ pastComments text ∧ Remarks front ∧
    ((pastComment? text).isSome = true → '-' ∈ front) := by
  fun_induction pastComments text with
  | case1 text rest h ih =>
      obtain ⟨line, htext, hdash, hline⟩ := exists_remark h
      obtain ⟨front, hfront, hremarks, -⟩ := ih
      refine ⟨line ++ front, ?_, (hline front fun hrest => ?_).2 hremarks,
        fun _ => List.mem_append_left _ hdash⟩
      · rw [List.append_assoc, ← hfront, htext]
      · rw [hrest] at hfront
        exact (List.append_eq_nil_iff.1 hfront.symm).1
  | case2 text h => exact ⟨[], rfl, remarks_nil, fun hsome => by rw [h] at hsome; cases hsome⟩

theorem mem_strip_of_dash {text : List Char} (h : '-' ∈ text) : '-' ∈ Text.strip text := by
  obtain ⟨lead, trail, hlead, htrail, htext⟩ := Text.exists_strip text
  rw [htext, List.mem_append, List.mem_append] at h
  exact (h.resolve_left (dash_not_mem_blanks hlead)).resolve_right (dash_not_mem_blanks htrail)

/-- The comment in front of a statement has remarks only, and it is not blank. -/
theorem remarks_splitComments {statement comment : List Char}
    (h : (splitComments statement).1 = some comment) :
    Remarks comment ∧ '-' ∈ comment := by
  rw [splitComments_eq] at h
  split at h
  · cases h
  · next rest hrest =>
      obtain rfl := Option.some.inj h
      obtain ⟨front, htext, hremarks, hdash⟩ := exists_remarks statement
      rw [pastComments_some hrest] at htext
      have hfront : statement.take (statement.length - (pastComments rest).length) = front := by
        conv_lhs => rw [htext]
        simp
      rw [hfront]
      exact ⟨remarks_strip hremarks, mem_strip_of_dash (hdash (by rw [hrest]; rfl))⟩

theorem remarks_dropEndWhile {p : Char → Bool} (hp : p '-' = false) {text : List Char}
    (h : Remarks text ∧ '-' ∈ text) : Remarks (Text.dropEndWhile p text) ∧
    '-' ∈ Text.dropEndWhile p text := by
  have htext : text = Text.dropEndWhile p text ++ text.rtakeWhile p :=
    List.rdropWhile_append_rtakeWhile.symm
  have hdash : '-' ∉ text.rtakeWhile p := fun hmem => by
    rw [List.mem_rtakeWhile_imp hmem] at hp
    cases hp
  rw [htext] at h
  exact ⟨remarks_of_append h.1 hdash, (List.mem_append.1 h.2).resolve_right hdash⟩

theorem remarks_comment {statement comment : List Char} (h : comment? statement = some comment) :
    Remarks comment ∧ '-' ∈ comment := by
  obtain ⟨lines, hlines, rfl⟩ := Option.map_eq_some_iff.1 h
  have hremarks := remarks_splitComments hlines
  split
  · exact remarks_dropEndWhile (by decide) (remarks_dropEndWhile (by decide) hremarks)
  · exact hremarks

theorem remarks_of_mem_comments {text comment : List Char} (h : comment ∈ comments text) :
    Remarks comment ∧ '-' ∈ comment := by
  unfold comments ofPieces at h
  dsimp only at h
  split at h
  · obtain ⟨piece, -, hpiece⟩ := List.mem_filterMap.1 h
    exact remarks_comment hpiece
  · split at h
    · cases h
    · exact remarks_comment (Option.mem_toList.1 h)

/-- The comments of a document are those of its text: the grammar gives none. -/
theorem comment_mem_statements {language : Language} {text : List Char} {document : Document}
    (h : (parse language text).events.1 = .ok document) {node : Tree.Comment}
    (hnode : .comment node ∈ document.statements) : node.text.toList ∈ comments text := by
  rcases (mem_statements h (.comment node)).1 hnode with ⟨comment, hcomment, hfound⟩ | ⟨grant, -,
    hfound⟩ |
    ⟨body, -, encoded, built, -, hbuilt, hmem⟩
  · obtain rfl := Tree.Statement.comment.inj hfound
    rwa [String.toList_ofList]
  · cases hfound
  · obtain ⟨restored, hrestored, hcomment⟩ := List.mem_map.1 hmem
    obtain ⟨statement, hstatement, rfl⟩ := List.mem_map.1 hrestored
    have hnone := (Language.trees_built hbuilt statement hstatement).noComment
    rw [← Placeholder.isComment_restoreStatement encoded.records, hcomment] at hnone
    cases hnone

/-! ## Lines between all line ends -/

/-- Whether a comment has nothing but remarks behind the line ends in its lines: the vertical tabs,
form feeds, carriage returns, separators and other characters besides line feeds that end a line. -/
def Unbroken (comment : List Char) : Prop :=
  ∀ line ∈ comment.splitOn '\n', ∀ part ∈ (line.splitOnP Text.isLineEnd).tail, Remark part

instance (comment : List Char) : Decidable (Unbroken comment) :=
  inferInstanceAs (Decidable
    (∀ line ∈ comment.splitOn '\n', ∀ part ∈ (line.splitOnP Text.isLineEnd).tail, Remark part))

/-- Up to its first line end a remark is a remark. -/
theorem remark_first {line first : List Char} {rest : List (List Char)} (h : Remark line)
    (hparts : line.splitOnP Text.isLineEnd = first :: rest) : Remark first := by
  obtain hblank | ⟨after, hdashes⟩ := h
  · refine .inl (List.dropWhile_eq_nil_iff.2 fun x hx => List.dropWhile_eq_nil_iff.1 hblank x ?_)
    exact (Text.of_mem_splitOnP _ line first (hparts ▸ List.mem_cons_self) x hx).2
  · set lead := line.takeWhile Text.isBlank
    have hlead : ∀ x ∈ lead, Text.isBlank x = true := fun _ => List.mem_takeWhile_imp
    have hline : line = lead ++ '-' :: '-' :: after := by
      rw [← List.takeWhile_append_dropWhile (p := Text.isBlank) (l := line), ← hdashes]
      rfl
    obtain ⟨init, last, dashed, parts, hinit, hdashed, hcut⟩ :=
      Text.exists_splitOnP_append Text.isLineEnd lead ('-' :: '-' :: after)
    have hpieces : ∀ piece ∈ init ++ [last], ∀ x ∈ piece, Text.isBlank x = true :=
      fun piece hpiece x hx =>
      hlead x (Text.of_mem_splitOnP _ lead piece (hinit ▸ hpiece) x hx).2
    rw [hline, hcut] at hparts
    cases init with
    | cons piece init =>
        obtain rfl : piece = first := (List.cons.inj hparts).1
        exact .inl (List.dropWhile_eq_nil_iff.2 (hpieces piece List.mem_cons_self))
    | nil =>
        obtain rfl : last ++ dashed = first := (List.cons.inj hparts).1
        rw [remark_blanks (hpieces last List.mem_cons_self)]
        obtain ⟨more, tail, hmore⟩ :=
          List.exists_cons_of_ne_nil (List.splitOnP_ne_nil Text.isLineEnd after)
        have hafter : ('-' :: '-' :: after).splitOnP Text.isLineEnd =
            ('-' :: '-' :: more) :: tail := by
          rw [List.splitOnP_cons_eq_if_modifyHead, List.splitOnP_cons_eq_if_modifyHead, hmore]
          rfl
        obtain rfl : '-' :: '-' :: more = dashed := (List.cons.inj (hafter.symm.trans hdashed)).1
        exact .inr (List.prefix_append ['-', '-'] more)

/-- The lines of remarks are remarks again when those behind their other line ends are. -/
theorem forall_lines_iff_unbroken {text : List Char} (h : Remarks text) :
    (∀ line ∈ Text.lines text, Remark line) ↔ Unbroken text := by
  have hends : ∀ x, (x == '\n') = true → Text.isLineEnd x = true := by
    intro x hx
    rw [eq_of_beq hx]
    decide
  rw [Text.forall_lines_iff (.inl rfl), Text.splitOnP_flatMap hends, ← List.splitOn_eq_splitOnP]
  simp only [List.forall_mem_flatMap, Unbroken]
  refine forall₂_congr fun line hline => ?_
  obtain ⟨first, rest, hparts⟩ :=
    List.exists_cons_of_ne_nil (List.splitOnP_ne_nil Text.isLineEnd line)
  rw [hparts, List.forall_mem_cons, List.tail_cons]
  exact and_iff_right (remark_first (h line hline) hparts)

/-- Every line of a printed comment begins with two dashes exactly when nothing but remarks stand
behind the line ends in its lines. -/
theorem comment_lines_iff (tabWidth : Nat) {language : Language} {text : List Char}
    {document : Document} (h : (parse language text).events.1 = .ok document) {node : Tree.Comment}
    (hnode : .comment node ∈ document.statements) :
    (∀ line ∈ (Layout.statementText tabWidth (.comment node)).toList.splitOn '\n',
      ['-', '-'] <+: line) ↔
      Unbroken node.text.toList := by
  obtain ⟨hremarks, hdash⟩ := remarks_of_mem_comments (comment_mem_statements h hnode)
  have hsolid : ¬ Layout.BlankComment node := fun hblank => dash_not_mem_blanks hblank hdash
  rw [Layout.splitOn_comment tabWidth hsolid, ← forall_lines_iff_unbroken hremarks]
  constructor
  · intro hprinted line hline
    by_cases hblank : Text.strip line = []
    · exact .inl (List.dropWhile_eq_nil_iff.2 (Text.strip_eq_nil_iff.1 hblank))
    · exact (remark_iff_strip hblank).2
        (hprinted _ (Layout.mem_printedLines.2 ⟨⟨line, hline, rfl⟩, hblank⟩))
  · intro hlines line hline
    obtain ⟨⟨found, hfound, rfl⟩, hne⟩ := Layout.mem_printedLines.1 hline
    exact (remark_iff_strip hne).1 (hlines found hfound)

/-- Comment lines with a carriage return in front of a line feed, and with a vertical tab in front
of a line that is a comment itself. -/
theorem comment_lines_iff_returns :
    let text := "-- a\r\n-- b\x0b -- c\nselect 1"
    ∃ document node, (parse {} text.toList).events.1 = .ok document ∧
      .comment node ∈ document.statements ∧
      Unbroken node.text.toList ∧
      ∀ line ∈ (Layout.statementText 4 (.comment node)).toList.splitOn '\n',
        ['-', '-'] <+: line := by
  intro text
  have hcomments : comments text.toList = ["-- a\r\n-- b\x0b -- c".toList] := by decide
  have hparse : (parse {} text.toList).events.1.toOption.isSome = true := by decide +kernel
  obtain ⟨document, hdocument⟩ := Option.isSome_iff_exists.1 hparse
  have hok := ok_of_toOption hdocument
  let node : Tree.Comment := { text := String.ofList "-- a\r\n-- b\x0b -- c".toList }
  have hnode : .comment node ∈ document.statements :=
    (mem_statements hok _).2 (.inl ⟨_, by rw [hcomments]; exact List.mem_singleton_self _, rfl⟩)
  have hunbroken : Unbroken node.text.toList := by decide
  exact ⟨document, node, hok, hnode, hunbroken, (comment_lines_iff 4 hok hnode).2 hunbroken⟩

/-- What stands behind a vertical tab in a comment line is printed as a statement. -/
theorem comment_becomes_statement :
    let text := "-- a\x0bdrop table t"
    comments text.toList = [text.toList] ∧ ¬ Unbroken text.toList ∧
      (format {} text).events.1.toOption = some "-- a\ndrop table t\n" := by
  decide

end SqlLayout.Document
