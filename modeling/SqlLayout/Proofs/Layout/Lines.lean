import SqlLayout.Proofs.Layout.Stack

/-!
# Lines of layouts

A layout is a row of lines: the text in front of its first line break, and behind each line break
the level and the text up to the next one.  Rendering it writes these lines one below the other,
each behind its indentation and without the spaces at its end.

## Implementation notes

Lines are put together by an append that lets the last line of the front go on with the first line
of the back.  The renderer trims all that it has written at every line break.  It cannot reach
beyond the line feed before it, so it takes the spaces of the last line only.
-/

namespace SqlLayout.Layout

open Text (dropEndWhile)

/-- The lines of a layout.  Behind the text of each line but the last stands a line break with its
level. -/
inductive Lines where
  | last (text : List Char)
  | line (text : List Char) (level : Nat) (below : Lines)

namespace Lines

/-- A text in front of the first line. -/
def behind (s : List Char) : Lines → Lines
  | last text => last (s ++ text)
  | line text level below => line (s ++ text) level below

/-- Lines one after the other: the last line of the front goes on with the first line of the
back. -/
def append : Lines → Lines → Lines
  | last text, back => back.behind text
  | line text level below, back => line text level (append below back)

instance : Append Lines :=
  ⟨append⟩

/-- The text of the first line. -/
def first : Lines → List Char
  | last text => text
  | line text _ _ => text

/-- The levels and the texts of all lines but the first. -/
def rest : Lines → List (Nat × List Char)
  | last _ => []
  | line _ level below => (level, below.first) :: below.rest

variable (s t : List Char) (level : Nat) (lines front middle back : Lines)

@[simp] theorem first_last : (last s).first = s := rfl

@[simp] theorem first_line : (line s level lines).first = s := rfl

@[simp] theorem rest_last : (last s).rest = [] := rfl

@[simp] theorem rest_line : (line s level lines).rest = (level, lines.first) :: lines.rest := rfl

@[simp] theorem behind_last : (last t).behind s = last (s ++ t) := rfl

@[simp] theorem behind_line : (line t level lines).behind s = line (s ++ t) level lines := rfl

@[simp] theorem last_append : last s ++ lines = lines.behind s := rfl

@[simp] theorem line_append : line s level front ++ back = line s level (front ++ back) := rfl

@[simp] theorem first_behind : (lines.behind s).first = s ++ lines.first := by
  cases lines <;> rfl

@[simp] theorem rest_behind : (lines.behind s).rest = lines.rest := by
  cases lines <;> rfl

@[simp] theorem behind_nil : lines.behind [] = lines := by
  cases lines <;> rfl

@[simp] theorem behind_behind : (lines.behind t).behind s = lines.behind (s ++ t) := by
  cases lines <;> simp [behind]

theorem behind_append : (front ++ back).behind s = front.behind s ++ back := by
  cases front with
  | last text => exact behind_behind s text back
  | line text level below => rfl

@[simp] theorem append_nil : lines ++ last [] = lines := by
  induction lines with
  | last text => exact congrArg last (List.append_nil text)
  | line text level below ih => exact congrArg (line text level) ih

theorem append_assoc : front ++ middle ++ back = front ++ (middle ++ back) := by
  induction front with
  | last text => exact (behind_append text middle back).symm
  | line text level below ih => exact congrArg (line text level) ih

@[simp] theorem length_rest_append :
    (front ++ back).rest.length = front.rest.length + back.rest.length := by
  induction front with
  | last text => simp
  | line text level below ih => simp [ih, Nat.add_right_comm]

end Lines

/-! ## The lines of documents -/

mutual

/-- The lines of a document that begins at an indentation level. -/
def Doc.lines (level : Nat) : Doc → Lines
  | .text s => .last s.toList
  | .hardline => .line [] level (.last [])
  | .indent contents => contents.lines (level + 1)
  | .join separator parts => joinLines level (separator.lines level) parts
  | .concat parts => concatLines level parts

/-- The lines of parts one after the other. -/
def concatLines (level : Nat) : List Doc → Lines
  | [] => .last []
  | part :: rest => part.lines level ++ concatLines level rest

/-- The lines of parts with the lines of a separator between them. -/
def joinLines (level : Nat) (separator : Lines) : List Doc → Lines
  | [] => .last []
  | part :: rest =>
    part.lines level ++
      match rest with
      | [] => .last []
      | _ => separator ++ joinLines level separator rest

end

theorem concatLines_append (level : Nat) (front back : List Doc) :
    concatLines level (front ++ back) = concatLines level front ++ concatLines level back := by
  induction front with
  | nil => simp [concatLines]
  | cons part rest ih => rw [List.cons_append, concatLines, concatLines, ih, Lines.append_assoc]

/-- The lines of items. -/
def linesOf : List Item → Lines
  | [] => .last []
  | .text s :: rest => (linesOf rest).behind s.toList
  | .newline level :: rest => .line [] level (linesOf rest)

theorem linesOf_append (front back : List Item) :
    linesOf (front ++ back) = linesOf front ++ linesOf back := by
  induction front with
  | nil => simp [linesOf]
  | cons item rest ih =>
      cases item with
      | text s => rw [List.cons_append, linesOf, linesOf, ih, Lines.behind_append]
      | newline level => rw [List.cons_append, linesOf, linesOf, ih, Lines.line_append]

mutual

/-- The lines of a document are those of its items. -/
theorem linesOf_items (doc : Doc) (level : Nat) : linesOf (doc.items level) = doc.lines level := by
  cases doc with
  | text s => simp [Doc.items, Doc.lines, linesOf, Lines.behind]
  | hardline => rfl
  | indent contents => exact linesOf_items contents (level + 1)
  | join separator parts =>
      rw [Doc.items, Doc.lines, linesOf_joinItems parts, linesOf_items separator]
  | concat parts => exact linesOf_concatItems parts level

theorem linesOf_concatItems (parts : List Doc) (level : Nat) :
    linesOf (concatItems level parts) = concatLines level parts := by
  cases parts with
  | nil => rfl
  | cons part rest =>
      rw [concatItems, concatLines, linesOf_append, linesOf_items part, linesOf_concatItems rest]

theorem linesOf_joinItems (parts : List Doc) (level : Nat) (separator : List Item) :
    linesOf (joinItems level separator parts) = joinLines level (linesOf separator) parts := by
  match parts with
  | [] => rfl
  | [part] => rw [joinItems, joinLines, linesOf_append, linesOf_items part]; rfl
  | part :: next :: rest =>
      rw [joinItems, joinLines, linesOf_append, linesOf_items part, linesOf_append,
        linesOf_joinItems (next :: rest)]
      all_goals simp

end

/-! ## Rendered lines -/

/-- A text without the spaces at its end. -/
def trimEnd (text : List Char) : List Char :=
  dropEndWhile (· == ' ') text

/-- The indentation of a level. -/
def margin (tabWidth level : Nat) : List Char :=
  List.replicate (level * tabWidth) ' '

/-- The lines as they are printed. -/
def Lines.printed (tabWidth : Nat) (lines : Lines) : List (List Char) :=
  trimEnd lines.first :: lines.rest.map fun line => trimEnd (margin tabWidth line.1 ++ line.2)

/-- The pieces that the output is made of: all but the first begin with a line feed and an
indentation. -/
def Lines.segments (tabWidth : Nat) (lines : Lines) : List (List Char) :=
  lines.first :: lines.rest.map fun line => '\n' :: (margin tabWidth line.1 ++ line.2)

theorem trimEnd_newline (text : List Char) : trimEnd ('\n' :: text) = '\n' :: trimEnd text := by
  have happend := Text.dropEndWhile_append (· == ' ') ['\n'] text
  by_cases hnil : trimEnd text = []
  · exact happend.trans ((if_pos hnil).trans (congrArg ('\n' :: ·) hnil.symm))
  · exact happend.trans (if_neg hnil)

theorem last_trimEnd (text : List Char) : (trimEnd text).getLast? ≠ some ' ' := by
  intro h
  obtain ⟨hne, hlast⟩ := List.mem_getLast?_eq_getLast (Option.mem_def.2 h)
  exact List.rdropWhile_last_not (· == ' ') text hne (beq_iff_eq.2 hlast.symm)

theorem printed_behind (tabWidth level : Nat) (text : List Char) (below : Lines) :
    ((Lines.line [] level below).behind text).printed tabWidth =
      trimEnd text :: (below.behind (margin tabWidth level)).printed tabWidth := by
  simp [Lines.printed]

/-- Items that follow the beginning of a line finish it and write the further lines below it. -/
theorem writeItems_eq (tabWidth : Nat) (items : List Item) (text : List Char) :
    (writeItems tabWidth text.reverse items).reverse =
      ['\n'].intercalate (((linesOf items).behind text).printed tabWidth) := by
  induction items generalizing text with
  | nil => simp [writeItems, trimSpaces, linesOf, Lines.printed, trimEnd, dropEndWhile]
  | cons item rest ih =>
      cases item with
      | text s =>
          have hline := ih (text ++ s.toList)
          rwa [List.reverse_append, ← Lines.behind_behind] at hline
      | newline level =>
          -- what was written before the line feed is out of reach for the rest
          have hbreak : ∀ c ∈ ('\n' :: trimSpaces text.reverse).head?, c ≠ ' ' := by simp
          have hbelow := ih (margin tabWidth level)
          rw [margin, List.reverse_replicate] at hbelow
          rw [writeItems, writeItems_append tabWidth hbreak, List.reverse_append, hbelow,
            List.reverse_cons, linesOf, printed_behind,
            List.intercalate_cons_of_ne_nil (by simp [Lines.printed])]
          rfl

theorem toList_render_eq (doc : Doc) (tabWidth : Nat) :
    (doc.render tabWidth).toList = ['\n'].intercalate ((doc.lines 0).printed tabWidth) := by
  have hwritten := writeItems_eq tabWidth (doc.items 0) []
  rw [linesOf_items, Lines.behind_nil] at hwritten
  rw [toList_render]
  exact hwritten

theorem intercalate_printed (tabWidth : Nat) (lines : Lines) :
    ['\n'].intercalate (lines.printed tabWidth) = (lines.segments tabWidth).flatMap trimEnd := by
  rw [Lines.printed, Lines.segments, List.flatMap_cons]
  generalize trimEnd lines.first = text
  induction lines.rest generalizing text with
  | nil => simp
  | cons line rest ih =>
      rw [List.map_cons, List.map_cons, List.flatMap_cons, trimEnd_newline,
        List.intercalate_cons_cons, ih]
      simp

/-! ## Line feeds -/

/-- Whether no line has a line feed of its own. -/
def Lines.Unbroken (lines : Lines) : Prop :=
  '\n' ∉ lines.first ∧ ∀ line ∈ lines.rest, '\n' ∉ line.2

theorem unbroken_linesOf {items : List Item} (h : ∀ s, .text s ∈ items → '\n' ∉ s.toList) :
    (linesOf items).Unbroken := by
  induction items with
  | nil => simp [linesOf, Lines.Unbroken]
  | cons item rest ih =>
      obtain ⟨hfirst, hrest⟩ := ih fun s hs => h s (List.mem_cons_of_mem item hs)
      cases item with
      | text s =>
          have hs := h s List.mem_cons_self
          exact ⟨by simp [linesOf, hs, hfirst], by simpa [linesOf] using hrest⟩
      | newline level => exact ⟨List.not_mem_nil, List.forall_mem_cons.2 ⟨hfirst, hrest⟩⟩

theorem not_feed_of_mem_printed {tabWidth : Nat} {lines : Lines} (h : lines.Unbroken) :
    ∀ line ∈ lines.printed tabWidth, '\n' ∉ line := by
  have htrim {text : List Char} (htext : '\n' ∉ text) : '\n' ∉ trimEnd text := fun hmem =>
    htext ((Text.dropEndWhile_isPrefix _ text).subset hmem)
  refine List.forall_mem_cons.2 ⟨htrim h.1, List.forall_mem_map.2 fun line hline =>
    htrim fun hmem => ?_⟩
  obtain hspace | htext := List.mem_append.1 hmem
  · exact absurd (List.eq_of_mem_replicate hspace) (by decide)
  · exact h.2 line hline htext

theorem splitOn_printed (tabWidth : Nat) {lines : Lines} (h : lines.Unbroken) :
    (['\n'].intercalate (lines.printed tabWidth)).splitOn '\n' = lines.printed tabWidth :=
  List.splitOn_intercalate '\n' (not_feed_of_mem_printed h) (List.cons_ne_nil _ _)

/-- The number of line breaks of a document. -/
def Doc.breaks (doc : Doc) : Nat :=
  (doc.items 0).countP fun
    | .newline _ => true
    | .text _ => false

theorem length_rest_linesOf (items : List Item) : (linesOf items).rest.length = items.countP fun
    | .newline _ => true
    | .text _ => false := by
  induction items with
  | nil => rfl
  | cons item rest ih =>
      cases item with
      | text s => simpa [linesOf] using ih
      | newline level => simpa [linesOf, Lines.rest] using ih

theorem length_rest_lines (doc : Doc) : (doc.lines 0).rest.length = doc.breaks := by
  rw [← linesOf_items, length_rest_linesOf, Doc.breaks]

/-- The loop that renders a document returns its segments one after the other, without the spaces at
the end of each.  When no text has a line feed, the output has one line more than the document has
line breaks, and no line ends in a space. -/
theorem render_eq_segments (doc : Doc) (tabWidth : Nat) :
    (∀ text, Renders tabWidth [(doc, 0)] [] text ↔ text = doc.render tabWidth) ∧
      (doc.render tabWidth).toList = ((doc.lines 0).segments tabWidth).flatMap trimEnd ∧
      ((∀ s, .text s ∈ doc.items 0 → '\n' ∉ s.toList) →
        ((doc.render tabWidth).toList.splitOn '\n').length = doc.breaks + 1 ∧
          ∀ line ∈ (doc.render tabWidth).toList.splitOn '\n', line.getLast? ≠ some ' ') := by
  refine ⟨fun text => renders_iff doc,
    (toList_render_eq doc tabWidth).trans (intercalate_printed tabWidth _), fun h => ?_⟩
  have hunbroken := unbroken_linesOf h
  rw [linesOf_items] at hunbroken
  rw [toList_render_eq, splitOn_printed tabWidth hunbroken]
  constructor
  · rw [Lines.printed, List.length_cons, List.length_map, length_rest_lines]
  · exact List.forall_mem_cons.2 ⟨last_trimEnd _,
      List.forall_mem_map.2 fun line _ => last_trimEnd _⟩

/-- A joined list in an indented block with a blank line, and spaces at the ends of lines. -/
def indentedList : Doc :=
  .concat [.text "a  ", .indent (.concat [.hardline, .hardline,
    .join (.concat [.hardline, .text ", "]) [.text "b  ", .text "c", .text "  "]]), .hardline,
    .text ")"]

theorem render_eq_segments_indented :
    (∀ s, .text s ∈ indentedList.items 0 → '\n' ∉ s.toList) ∧
      ((indentedList.render 2).toList.splitOn '\n').length = indentedList.breaks + 1 := by
  have htexts : ∀ s, .text s ∈ indentedList.items 0 → '\n' ∉ s.toList := by
    simp [indentedList, Doc.items, concatItems, joinItems]
  exact ⟨htexts, ((render_eq_segments indentedList 2).2.2 htexts).1⟩

example : indentedList.render 2 = "a\n\n  b\n  , c\n  ,\n)" := by decide

end SqlLayout.Layout
