import SqlLayout.Proofs.Layout.Lines

/-!
# Shifted layouts

A document in brackets stands on lines of its own, one level deeper than the brackets.  What is
printed of it there is what is printed of it alone, shifted to the right, wherever the brackets
stand.

## Implementation notes

Indentation is relative while the renderer trims whole lines, so the shift is done on the lines of a
document: a deeper level adds to the margin of every line, and a line of spaces stays empty.  The
place of the brackets is a document with a hole.

## Main results

- `lines_deepen`: a document at a deeper level has the same lines, each of them deeper.
- `Context.render_fill`: the text around a document in brackets does not depend on it, and between
  them stand its lines, shifted.
-/

namespace SqlLayout.Layout

/-! ## Deeper lines -/

namespace Lines

/-- Lines a number of levels deeper. -/
def deepen (depth : Nat) : Lines → Lines
  | last text => last text
  | line text level below => line text (level + depth) (below.deepen depth)

variable (depth : Nat) (s : List Char) (lines front back : Lines)

@[simp] theorem first_deepen : (lines.deepen depth).first = lines.first := by
  cases lines <;> rfl

@[simp] theorem rest_deepen :
    (lines.deepen depth).rest = lines.rest.map fun line => (line.1 + depth, line.2) := by
  induction lines with
  | last text => rfl
  | line text level below ih => simp [deepen, ih]

theorem deepen_behind : (lines.behind s).deepen depth = (lines.deepen depth).behind s := by
  cases lines <;> rfl

theorem deepen_append : (front ++ back).deepen depth = front.deepen depth ++ back.deepen depth := by
  induction front with
  | last text => exact deepen_behind depth text back
  | line text level below ih => exact congrArg (line text (level + depth)) ih

end Lines

theorem joinLines_cons_cons (level : Nat) (separator : Lines) (part next : Doc) (rest : List Doc) :
    joinLines level separator (part :: next :: rest) =
      part.lines level ++ (separator ++ joinLines level separator (next :: rest)) := rfl

mutual

/-- A document at a deeper level has the same lines, each of them deeper. -/
theorem lines_deepen (doc : Doc) (level depth : Nat) :
    doc.lines (level + depth) = (doc.lines level).deepen depth := by
  cases doc with
  | text s => rfl
  | hardline => rfl
  | indent contents =>
      rw [Doc.lines, Doc.lines, Nat.add_right_comm]
      exact lines_deepen contents (level + 1) depth
  | join separator parts =>
      rw [Doc.lines, Doc.lines, lines_deepen separator level depth]
      exact joinLines_deepen parts level depth (separator.lines level)
  | concat parts => exact concatLines_deepen parts level depth

theorem concatLines_deepen (parts : List Doc) (level depth : Nat) :
    concatLines (level + depth) parts = (concatLines level parts).deepen depth := by
  cases parts with
  | nil => rfl
  | cons part rest =>
      rw [concatLines, concatLines, lines_deepen part, concatLines_deepen rest, Lines.deepen_append]

theorem joinLines_deepen (parts : List Doc) (level depth : Nat) (separator : Lines) :
    joinLines (level + depth) (separator.deepen depth) parts =
      (joinLines level separator parts).deepen depth := by
  match parts with
  | [] => rfl
  | [part] => rw [joinLines, joinLines, lines_deepen part, Lines.deepen_append]; rfl
  | part :: next :: rest =>
      rw [joinLines_cons_cons, joinLines_cons_cons, lines_deepen part,
        joinLines_deepen (next :: rest), Lines.deepen_append, Lines.deepen_append]

end

/-! ## Shifted lines -/

/-- A line behind a number of spaces; an empty line stays empty. -/
def indented (count : Nat) (line : List Char) : List Char :=
  if line = [] then [] else List.replicate count ' ' ++ line

theorem indented_indented (more count : Nat) (line : List Char) :
    indented more (indented count line) = indented (more + count) line := by
  by_cases hline : line = []
  · simp [indented, hline]
  · simp [indented, hline, ← List.replicate_append_replicate]

theorem trimEnd_margin (tabWidth level : Nat) (text : List Char) :
    trimEnd (margin tabWidth level ++ text) = indented (level * tabWidth) (trimEnd text) := by
  have hspaces : trimEnd (margin tabWidth level) = [] := by
    simp [trimEnd, Text.dropEndWhile, margin]
  have happend := Text.dropEndWhile_append (· == ' ') (margin tabWidth level) text
  by_cases htext : trimEnd text = []
  · exact happend.trans ((if_pos htext).trans (hspaces.trans (if_pos htext).symm))
  · exact happend.trans ((if_neg htext).trans (if_neg htext).symm)

/-- What is printed of deeper lines is what is printed of the lines, shifted to the right. -/
theorem printed_deepen (tabWidth depth : Nat) (lines : Lines) :
    ((lines.deepen depth).behind (margin tabWidth depth)).printed tabWidth =
      (lines.printed tabWidth).map (indented (depth * tabWidth)) := by
  simp [Lines.printed, trimEnd_margin, indented_indented, Nat.add_mul, Nat.add_comm]

/-! ## Lines around a line break -/

theorem printed_append_line (tabWidth level : Nat) (text : List Char) (front below : Lines) :
    (front ++ .line text level below).printed tabWidth =
      (front ++ .last text).printed tabWidth ++
        (below.behind (margin tabWidth level)).printed tabWidth := by
  have hfirst (lines : Lines) : (lines ++ .line text level below).first =
      (lines ++ .last text).first := by
    cases lines <;> simp
  have hrest : (front ++ .line text level below).rest =
      (front ++ .last text).rest ++ (level, below.first) :: below.rest := by
    induction front with
    | last s => simp
    | line s m front ih => simp [ih, hfirst]
  simp [Lines.printed, hfirst, hrest]

theorem intercalate_append {front back : List (List Char)} (hfront : front ≠ [])
    (hback : back ≠ []) :
    ['\n'].intercalate (front ++ back) =
      ['\n'].intercalate front ++ '\n' :: ['\n'].intercalate back := by
  induction front with
  | nil => exact absurd rfl hfront
  | cons line rest ih =>
      cases rest with
      | nil => simp [List.intercalate_cons_of_ne_nil hback]
      | cons next rest =>
          have happend := ih (List.cons_ne_nil _ _)
          rw [List.cons_append, List.intercalate_cons_of_ne_nil (by simp), happend,
            List.intercalate_cons_of_ne_nil (List.cons_ne_nil _ _)]
          simp

/-- The text of lines as they are printed. -/
def Lines.written (tabWidth : Nat) (lines : Lines) : List Char :=
  ['\n'].intercalate (lines.printed tabWidth)

theorem written_append_line (tabWidth level : Nat) (text : List Char) (front below : Lines) :
    (front ++ .line text level below).written tabWidth = (front ++ .last text).written tabWidth ++
      '\n' :: (below.behind (margin tabWidth level)).written tabWidth := by
  rw [Lines.written, printed_append_line]
  exact intercalate_append (List.cons_ne_nil _ _) (List.cons_ne_nil _ _)

section

variable {c : Char}

theorem trimEnd_append_cons (hc : c ≠ ' ') (front back : List Char) :
    trimEnd (front ++ c :: back) = front ++ c :: trimEnd back := by
  have hsolid : trimEnd (front ++ [c]) = front ++ [c] := by simp [trimEnd, Text.dropEndWhile, hc]
  have happend := Text.dropEndWhile_append (· == ' ') (front ++ [c]) back
  rw [List.append_assoc, List.singleton_append] at happend
  by_cases hback : trimEnd back = []
  · rw [hback, ← hsolid]
    exact happend.trans (if_pos hback)
  · refine (happend.trans (if_neg hback)).trans ?_
    rw [List.append_assoc, List.singleton_append]
    rfl

theorem written_last (tabWidth : Nat) (text : List Char) :
    (Lines.last text).written tabWidth = trimEnd text := by
  simp [Lines.written, Lines.printed]

theorem written_line (tabWidth level : Nat) (text : List Char) (below : Lines) :
    (Lines.line text level below).written tabWidth =
      trimEnd text ++ '\n' :: (below.behind (margin tabWidth level)).written tabWidth := by
  have hline := written_append_line tabWidth level text (.last []) below
  simpa [written_last] using hline

/-- Lines that end with a sign keep it at their end. -/
theorem exists_written_append (hc : c ≠ ' ') (tabWidth : Nat) (lines : Lines) :
    ∃ front, (lines ++ .last [c]).written tabWidth = front ++ [c] := by
  suffices h : ∀ s, ∃ front, ((lines ++ .last [c]).behind s).written tabWidth = front ++ [c] by
    simpa using h []
  induction lines with
  | last text =>
      intro s
      refine ⟨s ++ text, ?_⟩
      rw [Lines.last_append, Lines.behind_last, Lines.behind_last,
        written_last, ← List.append_assoc, trimEnd_append_cons hc]
      rfl
  | line text level below ih =>
      intro s
      obtain ⟨front, hfront⟩ := ih (margin tabWidth level)
      refine ⟨trimEnd (s ++ text) ++ '\n' :: front, ?_⟩
      rw [Lines.line_append, Lines.behind_line, written_line, hfront, List.append_assoc,
        List.cons_append]

/-- Lines that begin with a sign keep it at their beginning. -/
theorem exists_written_behind (hc : c ≠ ' ') (tabWidth : Nat) (s : List Char) (lines : Lines) :
    ∃ back, (lines.behind (s ++ [c])).written tabWidth = s ++ c :: back := by
  cases lines with
  | last text =>
      refine ⟨trimEnd text, ?_⟩
      rw [Lines.behind_last, written_last, List.append_assoc, List.singleton_append,
        trimEnd_append_cons hc]
  | line text level below =>
      refine ⟨trimEnd text ++ '\n' :: (below.behind (margin tabWidth level)).written tabWidth, ?_⟩
      rw [Lines.behind_line, written_line, List.append_assoc, List.singleton_append,
        trimEnd_append_cons hc, List.append_assoc, List.cons_append]

end

/-! ## Brackets -/

/-- A document with a hole between brackets. -/
inductive Context where
  | brackets (front : List Doc) (opening : String) (back : List Doc)
  | concat (front : List Doc) (inner : Context) (back : List Doc)
  | join (separator : Doc) (front : List Doc) (inner : Context) (back : List Doc)
  | indent (inner : Context)

namespace Context

/-- The document with another one between the brackets. -/
def fill (doc : Doc) : Context → Doc
  | brackets front opening back =>
    .concat (front ++ .text (opening ++ "(") :: .concat (nestedDoc doc) :: .text ")" :: back)
  | concat front inner back => .concat (front ++ inner.fill doc :: back)
  | join separator front inner back => .join separator (front ++ inner.fill doc :: back)
  | indent inner => .indent (inner.fill doc)

/-- The level of the brackets. -/
def depth : Context → Nat
  | brackets _ _ _ => 0
  | concat _ inner _ | join _ _ inner _ => inner.depth
  | indent inner => inner.depth + 1

end Context

/-- The lines of a document between brackets, with the brackets. -/
def bracketed (level : Nat) (inner back : Lines) : Lines :=
  .line ['('] (level + 1) (inner ++ .line [] level (back.behind [')']))

theorem bracketed_append (level : Nat) (inner back more : Lines) :
    bracketed level inner back ++ more = bracketed level inner (back ++ more) := by
  rw [bracketed, bracketed, Lines.behind_append, Lines.line_append, Lines.append_assoc,
    Lines.line_append]

theorem exists_joinLines (level : Nat) (separator : Lines) (front back : List Doc) :
    ∃ before after : Lines,
    ∀ doc : Doc, joinLines level separator (front ++ doc :: back) =
      before ++ (doc.lines level ++ after) := by
  induction front with
  | nil =>
      cases back with
      | nil => exact ⟨.last [], .last [], fun doc => by simp [joinLines]⟩
      | cons next back =>
          refine ⟨.last [], separator ++ joinLines level separator (next :: back), fun doc => ?_⟩
          rw [List.nil_append, joinLines_cons_cons, Lines.last_append, Lines.behind_nil]
  | cons part front ih =>
      obtain ⟨before, after, hlines⟩ := ih
      refine ⟨part.lines level ++ (separator ++ before), after, fun doc => ?_⟩
      obtain ⟨next, rest, hrest⟩ : ∃ next rest, front ++ doc :: back = next :: rest :=
        List.exists_cons_of_ne_nil (by simp)
      have hall := hlines doc
      rw [hrest] at hall
      rw [List.cons_append, hrest, joinLines_cons_cons, hall, Lines.append_assoc,
        Lines.append_assoc]

/-- Around the document between the brackets stand the same lines, whatever it is. -/
theorem Context.exists_lines (K : Context) (level : Nat) : ∃ front back : Lines, ∀ doc : Doc,
    (K.fill doc).lines level =
      front ++ bracketed (level + K.depth) (doc.lines (level + K.depth + 1)) back := by
  induction K generalizing level with
  | brackets front opening back =>
      refine ⟨concatLines level front ++ .last opening.toList, concatLines level back,
        fun doc => ?_⟩
      rw [fill, depth, Doc.lines, concatLines_append, Lines.append_assoc, bracketed]
      simp [concatLines, Doc.lines, nestedDoc, Lines.append_assoc]
  | concat front inner back ih =>
      obtain ⟨before, after, hlines⟩ := ih level
      refine ⟨concatLines level front ++ before, after ++ concatLines level back, fun doc => ?_⟩
      rw [fill, depth, Doc.lines, concatLines_append, concatLines, hlines doc, Lines.append_assoc,
        bracketed_append, Lines.append_assoc]
  | join separator front inner back ih =>
      obtain ⟨before, after, hlines⟩ := ih level
      obtain ⟨first, last, hjoin⟩ := exists_joinLines level (separator.lines level) front back
      refine ⟨first ++ before, after ++ last, fun doc => ?_⟩
      rw [fill, depth, Doc.lines, hjoin (inner.fill doc), hlines doc, Lines.append_assoc,
        bracketed_append, Lines.append_assoc]
  | indent inner ih =>
      obtain ⟨before, after, hlines⟩ := ih (level + 1)
      refine ⟨before, after, fun doc => ?_⟩
      rw [fill, depth, Doc.lines, hlines doc, Nat.add_right_comm level 1, Nat.add_assoc level]

/-- The text of a document between brackets of a level, with the brackets: the lines of the document
on its own, each behind the indentation of the next level. -/
def bracketedText (tabWidth level : Nat) (doc : Doc) : List Char :=
  '(' :: '\n' :: ['\n'].intercalate
      (((doc.render tabWidth).toList.splitOn '\n').map (indented ((level + 1) * tabWidth))) ++
    '\n' :: (margin tabWidth level ++ [')'])

/-- The text around a document between brackets is the same for all documents, and between the
brackets stand the lines of the document. -/
theorem Context.render_fill (K : Context) (tabWidth : Nat) : ∃ front back : List Char, ∀ doc : Doc,
    (doc.lines 0).Unbroken →
      ((K.fill doc).render tabWidth).toList =
        front ++ bracketedText tabWidth K.depth doc ++ back := by
  obtain ⟨before, after, hlines⟩ := K.exists_lines 0
  obtain ⟨front, hfront⟩ := exists_written_append (c := '(') (by decide) tabWidth before
  obtain ⟨back, hback⟩ := exists_written_behind (c := ')') (by decide) tabWidth
    (margin tabWidth K.depth) after
  refine ⟨front, back, fun doc hdoc => ?_⟩
  -- the lines of the document are those that it has alone, one level deeper than the brackets
  have hinner : ((doc.lines (K.depth + 1)).behind (margin tabWidth (K.depth + 1))).printed
    tabWidth =
      ((doc.render tabWidth).toList.splitOn '\n').map (indented ((K.depth + 1) * tabWidth)) := by
    have hdeeper := lines_deepen doc 0 (K.depth + 1)
    rw [Nat.zero_add] at hdeeper
    rw [hdeeper, printed_deepen, toList_render_eq, splitOn_printed tabWidth hdoc]
  have htext : ((K.fill doc).render tabWidth).toList = ((K.fill doc).lines 0).written tabWidth :=
    toList_render_eq (K.fill doc) tabWidth
  rw [htext, hlines doc, Nat.zero_add, bracketed, written_append_line, hfront, Lines.behind_append,
    written_append_line, Lines.append_nil, Lines.behind_behind, hback, bracketedText, ← hinner]
  simp [Lines.written]

end SqlLayout.Layout
