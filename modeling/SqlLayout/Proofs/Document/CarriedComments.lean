import SqlLayout.Proofs.Document.CommentLines
import SqlLayout.Proofs.Document.Grants

/-!
# Texts of comments

Comment lines that stand alone, or in front of a semicolon and further statements, are printed at
the beginning of the output.  Spaces are taken off the end of each line, and semicolons and the
spaces before them off the end of the last one: they are taken for terminators of a statement.

## Implementation notes

The lines are those of printable ASCII, where spaces are the only blanks.  A text of at least one
line is its other lines, each with a line feed behind it, and the last one.
-/

namespace SqlLayout.Document

open Source (mask modeAfter)
open Text (dropEndWhile dropEndWhile_append)
open SqlLayout.Tree (Statement)

/-! ## Lines -/

/-- A comment line of printable ASCII. -/
structure IsNote (line : List Char) : Prop where
  dashes : ['-', '-'] <+: line
  printable : ∀ x ∈ line, 32 ≤ x.toNat ∧ x.toNat ≤ 126

instance (line : List Char) : Decidable (IsNote line) :=
  decidable_of_iff (['-', '-'].isPrefixOf line = true ∧
    (line.all fun x => 32 ≤ x.toNat && x.toNat ≤ 126) = true)
    ⟨fun h => ⟨by simpa using h.1, by simpa using h.2⟩,
      fun h => ⟨by simpa using h.dashes, by simpa using h.printable⟩⟩

/-- A line without the spaces at its end. -/
def trimmed (line : List Char) : List Char :=
  dropEndWhile (· == ' ') line

/-- A line without the spaces at its end, the semicolons in front of them, and the spaces in front
of those. -/
def unterminated (line : List Char) : List Char :=
  trimmed (dropTerminators (trimmed line))

theorem trimmed_trimmed (line : List Char) : trimmed (trimmed line) = trimmed line :=
  List.rdropWhile_idempotent _ _

theorem unterminated_isPrefix (line : List Char) : unterminated line <+: trimmed line :=
  (Text.dropEndWhile_isPrefix _ _).trans (Text.dropEndWhile_isPrefix _ _)

theorem unterminated_eq_iff (line : List Char) :
    unterminated line = trimmed line ↔ (trimmed line).getLast? ≠ some ';' := by
  have hbare : dropTerminators (trimmed line) = trimmed line ↔
      (trimmed line).getLast? ≠ some ';' := by
    refine List.rdropWhile_eq_self_iff.trans ?_
    rcases List.eq_nil_or_concat (trimmed line) with hnil | ⟨front, x, hconcat⟩
    · simp [hnil]
    · simp [hconcat]
  rw [← hbare]
  constructor
  · intro h
    -- nothing is taken off when what is left is as long as before
    have hlength :=
      (Text.dropEndWhile_isPrefix (· == ' ') (dropTerminators (trimmed line))).length_le
    have hprefix := Text.dropEndWhile_isPrefix (· == ';') (trimmed line)
    exact hprefix.eq_of_length_le ((congrArg List.length h).symm.le.trans hlength)
  · intro h
    rw [unterminated, h, trimmed_trimmed]

theorem isLineEnd_of_printable {c : Char} (h : 32 ≤ c.toNat ∧ c.toNat ≤ 126) :
    Text.isLineEnd c = false := by
  simp only [Text.isLineEnd, Bool.or_eq_false_iff, Bool.and_eq_false_iff, decide_eq_false_iff_not,
    beq_eq_false_iff_ne]
  omega

theorem isBlank_of_printable {c : Char} (h : 32 ≤ c.toNat ∧ c.toNat ≤ 126) :
    Text.isBlank c = (c == ' ') := by
  have hspace : c = ' ' ↔ c.toNat = 32 := Char.toNat_inj.symm
  rw [Bool.eq_iff_iff, beq_iff_eq, hspace]
  simp only [Text.isBlank, Text.blankRanges, Text.Ranges.has, List.any_cons, List.any_nil,
    Bool.or_eq_true, Bool.and_eq_true, decide_eq_true_eq, Bool.false_eq_true, or_false]
  omega

namespace IsNote

variable {line : List Char}

theorem ne_nil (h : IsNote line) : line ≠ [] := by
  rintro rfl
  simpa using h.dashes

/-- A note stays one when characters besides dashes are taken off its end. -/
theorem dropEndWhile (h : IsNote line) {p : Char → Bool} (hp : p '-' = false) :
    IsNote (dropEndWhile p line) where
  dashes := by
    obtain ⟨body, rfl⟩ := h.dashes
    have hstart : Text.dropEndWhile p ['-', '-'] = ['-', '-'] :=
      Text.dropEndWhile_eq_self (by simpa using hp)
    rw [dropEndWhile_append]
    split
    · rw [hstart]
    · exact List.prefix_append _ _
  printable x hx := h.printable x ((Text.dropEndWhile_isPrefix p line).subset hx)

theorem trimmed (h : IsNote line) : IsNote (trimmed line) :=
  h.dropEndWhile (by decide)

theorem unterminated (h : IsNote line) : IsNote (unterminated line) :=
  (h.trimmed.dropEndWhile (by decide)).trimmed

/-- Spaces are the only blanks of a note. -/
theorem strip_eq (h : IsNote line) : Text.strip line = Document.trimmed line := by
  obtain ⟨body, hbody⟩ := h.dashes
  rw [Text.strip, Text.dropWhile_eq_self (by rw [← hbody]; simp; decide)]
  exact Text.dropEndWhile_congr fun x hx => isBlank_of_printable (h.printable x hx)

theorem ne_newline (h : IsNote line) : ∀ x ∈ line, (x != '\n') = true := by
  intro x hx
  rw [bne_iff_ne]
  rintro rfl
  exact absurd (h.printable _ hx) (by decide)

theorem isLine (h : IsNote line) : IsLine line := by
  obtain ⟨body, rfl⟩ := h.dashes
  exact @Document.isLine [] body (by simp) fun x hx => h.ne_newline x (List.mem_append_right _ hx)

/-- The semicolons of a comment line are hidden. -/
theorem hidden (h : IsNote line) : ';' ∉ mask line := by
  refine Source.hidden_iff.2 fun front back hline => ?_
  have hdashes := hline ▸ h.dashes
  match front with
  | [] => simp at hdashes
  | [x] => simp at hdashes
  | x :: y :: more =>
      obtain ⟨rfl, rfl⟩ : '-' = x ∧ '-' = y := by simpa using hdashes
      have hmode : modeAfter .code ('-' :: '-' :: more) = .line :=
        Source.modeAfter_line fun x hx => h.ne_newline x (by simp [hline, hx])
      rw [hmode]
      simp

end IsNote

/-! ## Lines with their line feeds -/

theorem Open.append {front back : List Char} (hfront : Open front) (hback : Open back) :
    Open (front ++ back) where
  hidden := hfront.hidden_append hback.hidden
  outside := (hfront.scan back).2.trans hback.outside
  ends := by
    obtain rfl | hne := eq_or_ne back []
    · rw [List.append_nil]
      exact hfront.ends
    · rw [List.getLast?_append_of_ne_nil _ hne]
      exact hback.ends

theorem IsNote.opens {line : List Char} (h : IsNote line) : Open (line ++ ['\n']) where
  hidden := Source.hidden_append h.hidden (by decide)
  outside := h.isLine.modeAfter_append (List.forall_mem_nil _) []
  ends := by simp

theorem open_notes {lines : List (List Char)} (h : ∀ line ∈ lines, IsNote line) :
    Open (lines.flatMap (· ++ ['\n'])) := by
  induction lines with
  | nil => exact open_nil
  | cons line rest ih =>
      rw [List.flatMap_cons]
      exact (h line List.mem_cons_self).opens.append
        (ih fun other hother => h other (List.mem_cons_of_mem line hother))

theorem dashes_notes {lines : List (List Char)} (h : ∀ line ∈ lines, IsNote line)
    (hne : lines ≠ []) :
    ['-', '-'] <+: ['\n'].intercalate lines := by
  obtain ⟨line, rest, rfl⟩ := List.exists_cons_of_ne_nil hne
  refine (h line List.mem_cons_self).dashes.trans ?_
  cases rest with
  | nil => simp
  | cons next rest => simp [List.intercalate_cons_cons]

/-- Comment lines are comment lines to their end. -/
theorem pastComments_notes {lines : List (List Char)} (h : ∀ line ∈ lines, IsNote line) :
    pastComments (['\n'].intercalate lines) = [] := by
  induction lines with
  | nil => exact pastComments_none rfl
  | cons line rest ih =>
      have hline := (h line List.mem_cons_self).isLine
      have hrest := ih fun other hother => h other (List.mem_cons_of_mem line hother)
      cases rest with
      | nil =>
          have hpast := hline.past []
          rw [List.append_nil] at hpast
          rw [List.intercalate_singleton, pastComments_some hpast]
          exact hrest
      | cons next rest =>
          have hhead : ∀ x ∈ (['\n'].intercalate (next :: rest)).head?, Text.isBlank x = false := by
            obtain ⟨more, hmore⟩ := dashes_notes
              (fun other hother => h other (List.mem_cons_of_mem line hother))
              (List.cons_ne_nil next rest)
            rw [← hmore]
            simp
            decide
          rw [List.intercalate_cons_cons, List.append_assoc, List.singleton_append,
            pastComments_some (hline.past _), List.dropWhile_cons_of_neg (by decide),
            List.dropWhile_cons_of_pos (by decide),
            Text.dropWhile_eq_self hhead, hrest]

/-! ## Texts of comment lines -/

section

variable {init : List (List Char)} {last : List Char}

/-- Lines in front of a comment line stay when its end is taken off. -/
theorem dropEndWhile_notes (hlast : IsNote last) {p : Char → Bool} (hp : p '-' = false) :
    dropEndWhile p (['\n'].intercalate (init ++ [last])) =
      ['\n'].intercalate (init ++ [dropEndWhile p last]) := by
  rw [Text.intercalate_concat, Text.intercalate_concat, dropEndWhile_append,
    if_neg (hlast.dropEndWhile hp).ne_nil]

variable (h : ∀ line ∈ init ++ [last], IsNote line)

include h

theorem note_last : IsNote last :=
  h last (by simp)

theorem notes_concat {other : List Char} (hother : IsNote other) :
    ∀ line ∈ init ++ [other], IsNote line := by
  rw [List.forall_mem_append, List.forall_mem_singleton] at h ⊢
  exact ⟨h.1, hother⟩

/-- Comment lines are trimmed at their end. -/
theorem strip_notes :
    Text.strip (['\n'].intercalate (init ++ [last])) =
      ['\n'].intercalate (init ++ [trimmed last]) := by
  obtain ⟨more, hmore⟩ := dashes_notes h (by simp)
  have hlast := note_last h
  rw [Text.strip, Text.dropWhile_eq_self (by rw [← hmore]; simp; decide),
    dropEndWhile_notes hlast (by decide)]
  have hspaces : dropEndWhile Text.isBlank last = trimmed last :=
    Text.dropEndWhile_congr fun x hx => isBlank_of_printable (hlast.printable x hx)
  rw [hspaces]

theorem open_text : Open (['\n'].intercalate (init ++ [last]) ++ ['\n']) := by
  have hopen := open_notes h
  rwa [List.flatMap_append, List.flatMap_singleton, ← List.append_assoc, ← Text.intercalate_concat]
    at hopen

/-- The comment that comment lines give, with or without a semicolon behind them. -/
def noteNode (init : List (List Char)) (last : List Char) : Tree.Comment :=
  { text := String.ofList (['\n'].intercalate (init ++ [unterminated last])) }

theorem dropTerminators_notes :
    dropEndWhile Text.isBlank (dropTerminators (['\n'].intercalate (init ++ [trimmed last]))) =
      ['\n'].intercalate (init ++ [unterminated last]) := by
  have hlast := (note_last h).trimmed
  have hbare : IsNote (dropTerminators (trimmed last)) := hlast.dropEndWhile (by decide)
  have hspaces : dropEndWhile Text.isBlank (dropTerminators (trimmed last)) = unterminated last :=
    Text.dropEndWhile_congr fun x hx => isBlank_of_printable (hbare.printable x hx)
  have hfirst : dropTerminators (['\n'].intercalate (init ++ [trimmed last])) =
      ['\n'].intercalate (init ++ [dropTerminators (trimmed last)]) :=
        dropEndWhile_notes hlast (by decide)
  rw [hfirst, dropEndWhile_notes hbare (by decide), hspaces]

/-- A piece of comment lines gives one comment, with a semicolon behind them and without. -/
theorem pieceStatements_notes (language : Language) {core : List Char}
    (hcore : Text.strip (['\n'].intercalate (init ++ [last])) = core) :
    core ≠ [] ∧ Source.statements core = [core ++ [';']] ∧
      pieceStatements? language core = some [.comment (noteNode init last)] ∧
      pieceStatements? language (core ++ [';']) = some [.comment (noteNode init last)] := by
  have hstrip : Text.strip core = core := hcore ▸ Text.strip_strip _
  rw [strip_notes h] at hcore
  have hnotes := notes_concat h (note_last h).trimmed
  obtain ⟨more, hmore⟩ := dashes_notes hnotes (by simp)
  have hne : core ≠ [] := by
    rw [← hcore, ← hmore]
    simp
  have hpiece : Source.statements core = [core ++ [';']] := by
    rw [statements_hidden (hcore ▸ Source.hidden_of_append (open_text hnotes).hidden), hstrip,
      if_neg hne]
  have hsingle : Single core core [] := ⟨by simp, hstrip, hstrip, hne, hpiece, .inl rfl⟩
  have hpast : (splitComments core).2 = [] := by
    rw [splitComments_of_trimmed hstrip]
    exact hcore ▸ pastComments_notes hnotes
  obtain ⟨hterminated, back, hsplit, -⟩ := hsingle.splitComments_open hpast
  rw [hsplit] at hpast
  obtain rfl : back = [] := hpast
  have hgives {piece comment : List Char} (hcut : splitComments piece = (some comment, []))
      (hcomment : dropTerminators comment = dropTerminators core) :
      pieceStatements? language piece = some [.comment (noteNode init last)] := by
    have honly : onlyComments piece = true := onlyComments_iff.2 (by rw [hcut]; exact ⟨rfl, rfl⟩)
    have hcomment? : comment? piece = some (['\n'].intercalate (init ++ [unterminated last])) := by
      rw [comment?, hcut, Option.map_some, if_pos honly, hcomment, ← hcore, dropTerminators_notes h]
    rw [pieceStatements_eq, own?, if_pos honly, commentNodes, hcomment?]
    rfl
  exact ⟨hne, hpiece, hgives hsplit rfl, hgives hterminated (dropTerminators_append core)⟩

/-- Comment lines are printed without the spaces at their ends, the last one without its semicolons
too. -/
theorem toList_noteNode (tabWidth : Nat) :
    (Layout.statementText tabWidth (.comment (noteNode init last))).toList =
    ['\n'].intercalate (init.map trimmed ++ [unterminated last]) := by
  have hnotes := notes_concat h (note_last h).unterminated
  have hlines : Text.lines (noteNode init last).text.toList = init ++ [unterminated last] := by
    rw [noteNode, String.toList_ofList]
    refine Text.lines_intercalate fun line hline => ⟨(hnotes line hline).ne_nil, fun x hx => ?_⟩
    exact isLineEnd_of_printable ((hnotes line hline).printable x hx)
  have hstrip : (init ++ [unterminated last]).map Text.strip =
      init.map trimmed ++ [unterminated last] := by
    rw [List.map_congr_left fun line hline => (hnotes line hline).strip_eq, List.map_append,
      List.map_singleton, unterminated, trimmed_trimmed]
  have hsolid : ∀ line ∈ init.map trimmed ++ [unterminated last], (!line.isEmpty) = true := by
    rw [← hstrip]
    intro line hline
    obtain ⟨found, hfound, rfl⟩ := List.mem_map.1 hline
    rw [(hnotes found hfound).strip_eq]
    simpa using (hnotes found hfound).trimmed.ne_nil
  rw [Layout.toList_comment, Layout.printedLines, hlines, hstrip, List.filter_eq_self.2 hsolid]

end

/-! ## What stands behind comment lines -/

/-- What may stand behind comment lines, with what is printed of it: nothing, or a line feed, a
semicolon and further statements. -/
inductive Follows (language : Language) (settings : Settings) : List Char → String → Prop
  | nothing : Follows language settings [] ""
  | statements {rest : List Char} {statements : List Statement} {out : String}
      (hsome : Source.statements rest ≠ []) (hread : fromPieces? language rest = some statements)
      (hprint : (printStatements settings statements).events.1 = .ok out) :
      Follows language settings ('\n' :: ';' :: rest) out

theorem printStatements_ok_iff {settings : Settings} {statements : List Statement} {out : String} :
    (printStatements settings statements).events.1 = .ok out ↔
      Layout.print settings.tabWidth settings.strict statements = .ok out := by
  rw [events_printStatements]
  cases Layout.print settings.tabWidth settings.strict statements <;> simp [Except.mapError]

section

variable {init : List (List Char)} {last : List Char} (h : ∀ line ∈ init ++ [last], IsNote line)

include h

/-- A line feed and a semicolon behind comment lines make a piece of them. -/
theorem statements_followed (rest : List Char) :
    Source.statements (['\n'].intercalate (init ++ [last]) ++ '\n' :: ';' :: rest) =
      (Text.strip (['\n'].intercalate (init ++ [last])) ++ [';']) :: Source.statements rest := by
  have hopen := open_text h
  have hne := (pieceStatements_notes h {} rfl).1
  have hfeed : ∀ x ∈ ['\n'], Text.isBlank x = true := by
    simp
    decide
  have hpieces := statements_cons hopen.hidden hopen.outside rest
  rw [← List.nil_append (['\n'].intercalate _ ++ ['\n']), Text.strip_between (by simp) hfeed,
    if_neg hne, List.nil_append, List.append_assoc] at hpieces
  exact hpieces

/-- Comment lines are read as one comment, and what follows them by itself. -/
theorem statements_notes {language : Language} {settings : Settings} {after : List Char}
    {tail : String} (hafter : Follows language settings after tail) :
    ∃ statements, statements? language (['\n'].intercalate (init ++ [last]) ++ after) =
        some (.comment (noteNode init last) :: statements) ∧
      Layout.print settings.tabWidth settings.strict statements = .ok tail := by
  obtain ⟨hne, hpiece, hopen, hterminated⟩ := pieceStatements_notes h language rfl
  cases hafter with
  | nothing =>
      refine ⟨[], ?_, ?_⟩
      · rw [List.append_nil, statements_eq, hpiece, if_neg (by simp), if_neg hne, hopen]
      · cases settings.strict <;> rfl
  | @statements rest statements out hsome hread hprint =>
      refine ⟨statements, ?_, printStatements_ok_iff.1 hprint⟩
      have hpos := List.length_pos_iff.2 hsome
      obtain ⟨lists, hlists, rfl⟩ := Option.map_eq_some_iff.1 hread
      rw [statements_strip] at hlists
      rw [statements_eq, fromPieces?, statements_strip, statements_followed h, List.length_cons,
        if_pos (by omega), List.mapM_cons, hterminated, hlists]
      rfl

end

/-- The comments of a text that is read are not blank. -/
theorem solid_comments {language : Language} {text : List Char} {statements : List Statement}
    (h : statements? language text = some statements) :
    ∀ node, .comment node ∈ statements → ¬ Layout.BlankComment node := by
  obtain ⟨document, hdocument, rfl⟩ := Option.map_eq_some_iff.1 h
  intro node hnode hblank
  have hdash :=
    (remarks_of_mem_comments (comment_mem_statements (ok_of_toOption hdocument) hnode)).2
  exact dash_not_mem_blanks hblank hdash

/-- Comment lines stand at the beginning of the output, in front of all that follows them, and all
of their text is carried through exactly when the last one does not end with a semicolon, spaces
apart. -/
theorem comment_text_carried_iff {settings : Settings} {language : Language}
    (hlanguage : Language.named settings.dialect = .ok language) {init : List (List Char)}
    {last after : List Char} {tail : String} (h : ∀ line ∈ init ++ [last], IsNote line)
    (hafter : Follows language settings after tail) :
    ∃ out,
      (format settings (String.ofList (['\n'].intercalate (init ++ [last]) ++ after))).events.1 =
      .ok out ∧
      out.toList = ['\n'].intercalate (init.map trimmed ++ [unterminated last]) ++
        '\n' :: tail.toList ∧
      (['\n'].intercalate ((init ++ [last]).map trimmed) ++ ['\n'] <+: out.toList ↔
        (trimmed last).getLast? ≠ some ';') := by
  obtain ⟨statements, hread, hprint⟩ := statements_notes h hafter
  have hprinted := Layout.print_comment (solid_comments hread) hprint
  set out := Layout.statementText settings.tabWidth (.comment (noteNode init last)) ++ "\n" ++ tail
  have hout : out.toList = ['\n'].intercalate (init.map trimmed ++ [unterminated last]) ++
      '\n' :: tail.toList := by
    simp only [out, String.toList_append, toList_noteNode h, List.append_assoc]
    rfl
  have hprints := printStatements_ok_iff.2 hprinted
  refine ⟨out, ok_of_toOption ?_, hout, ?_⟩
  · have hvalue := value_format hlanguage
      (String.ofList (['\n'].intercalate (init ++ [last]) ++ after))
    rw [String.toList_ofList, hread, Option.bind_some] at hvalue
    exact hvalue.trans (congrArg Except.toOption hprints)
  · rw [hout, List.map_append, List.map_singleton, Text.intercalate_concat, Text.intercalate_concat,
      List.append_assoc, List.append_assoc, List.prefix_append_right_inj, ← unterminated_eq_iff]
    obtain ⟨more, hmore⟩ := unterminated_isPrefix last
    constructor
    · intro hprefix
      rw [← hmore, List.append_assoc, List.prefix_append_right_inj] at hprefix
      cases more with
      | nil => simpa using hmore
      | cons x more =>
          obtain ⟨rfl, -⟩ : x = '\n' ∧ _ := by simpa using hprefix
          have hx := (note_last h).trimmed.ne_newline '\n' (by simp [← hmore])
          simp at hx
    · intro hequal
      rw [hequal]
      simp

/-- Comment lines with spaces at an end and semicolons inside, in front of a statement. -/
theorem comment_text_carried_iff_select :
    let lines := ["-- a; b ".toList, "--;c".toList]
    let rest := "\nselect 1".toList
    Language.named ({} : Settings).dialect = .ok {} ∧ (∀ line ∈ lines, IsNote line) ∧
      Follows {} {} ('\n' :: ';' :: rest) "SELECT 1\n;\n" ∧
      ∃ out,
        (format {} (String.ofList (['\n'].intercalate lines ++ '\n' :: ';' :: rest))).events.1 =
        .ok out ∧
        "-- a; b\n--;c\n".toList <+: out.toList := by
  intro lines rest
  have hlines : ∀ line ∈ lines, IsNote line := by decide
  have hread : (fromPieces? {} rest).isSome = true := by decide +kernel
  obtain ⟨statements, hstatements⟩ := Option.isSome_iff_exists.1 hread
  have hprint : ((fromPieces? {} rest).bind fun statements =>
    (printStatements {} statements).events.1.toOption) =
      some "SELECT 1\n;\n" := by decide +kernel
  rw [hstatements, Option.bind_some] at hprint
  have hfollows : Follows {} {} ('\n' :: ';' :: rest) "SELECT 1\n;\n" :=
    .statements (by decide) hstatements (ok_of_toOption hprint)
  obtain ⟨out, hformat, -, hcarried⟩ :=
    @comment_text_carried_iff {} {} rfl ["-- a; b ".toList] "--;c".toList _ _ hlines hfollows
  exact ⟨rfl, hlines, hfollows, out, hformat, hcarried.2 (by decide)⟩

/-- A semicolon at the end of a comment is taken for a terminator and lost. -/
theorem comment_loses_semicolon :
    IsNote "-- a;".toList ∧ (format {} "-- a;").events.1.toOption = some "-- a\n" ∧
      (format {} "-- a;\n;select 1").events.1.toOption = some "-- a\nSELECT 1\n;\n" :=
  ⟨by decide +kernel, by decide +kernel, by decide +kernel⟩

end SqlLayout.Document
