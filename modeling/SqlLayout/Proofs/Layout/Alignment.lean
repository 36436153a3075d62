import SqlLayout.Layout.Statement
import SqlLayout.Proofs.Layout.Fields
import SqlLayout.Proofs.Layout.LaidTrees
import SqlLayout.Proofs.Source.Literals
import SqlLayout.Proofs.Text.Lines
import SqlLayout.Proofs.Text.LowerCase

/-!
# Aligned lines

Printed with a tab width of four, a query has one aligned line for each of its projected columns but
the first: a line that begins with five spaces, a comma and a space.  Nested queries, conditions and
case expressions begin their lines at other columns.

## Implementation notes

All lines begin at the margin of their level, or 2, 5 or 12 spaces behind it.  The margins are
multiples of four, so five spaces stand in front of the projected columns of the outermost level
only.
-/

namespace SqlLayout.Layout

open SqlLayout.Tree
open SqlLayout.Source (doubleQuotes toList_quoteString)

/-! ## Beginnings of lines -/

/-- Whether a line begins with five spaces, a comma and a space. -/
def isAligned (line : List Char) : Bool :=
  "     , ".toList.isPrefixOf line

/-- Whether a text begins with a number of spaces and another character behind them. -/
def BeginsAt (column : Nat) (text : List Char) : Prop :=
  ∃ c back, c ≠ ' ' ∧ text = List.replicate column ' ' ++ c :: back

/-- Whether the beginning of a line tells if it is aligned, whatever follows. -/
def Decides (level : Nat) (text : List Char) (aligned : Bool) : Prop :=
  ∀ more, isAligned (trimEnd (margin 4 level ++ (text ++ more))) = aligned

section

variable {column level : Nat} {text : List Char} {aligned : Bool}

theorem BeginsAt.append (h : BeginsAt column text) (back : List Char) :
    BeginsAt column (text ++ back) := by
  obtain ⟨c, rest, hc, rfl⟩ := h
  exact ⟨c, rest ++ back, hc, by simp⟩

theorem BeginsAt.indented (h : BeginsAt column text) (tabWidth level : Nat) :
    BeginsAt (level * tabWidth + column) (margin tabWidth level ++ text) := by
  obtain ⟨c, rest, hc, rfl⟩ := h
  exact ⟨c, rest, hc, by rw [margin, ← List.append_assoc, List.replicate_append_replicate]⟩

theorem BeginsAt.trimEnd_ne_nil (h : BeginsAt column text) : trimEnd text ≠ [] := by
  obtain ⟨c, rest, hc, rfl⟩ := h
  intro hnil
  exact hc (eq_of_beq (List.rdropWhile_eq_nil_iff.1 hnil c (by simp)))

theorem not_aligned_spaces (column : Nat) (text : List Char) :
    isAligned (List.replicate (column + 6) ' ' ++ text) = false := by
  simp [isAligned, List.isPrefixOf_cons_cons, List.replicate_succ]

/-- Of the lines that do not begin behind five spaces none is aligned. -/
theorem BeginsAt.not_aligned (h : BeginsAt column text) (hcolumn : column ≠ 5) :
    isAligned text = false := by
  obtain ⟨c, rest, hc, rfl⟩ := h
  match column with
  | 0 | 1 | 2 | 3 | 4 => simp [isAligned, List.isPrefixOf_cons_cons, List.replicate, hc.symm]
  | 5 => exact absurd rfl hcolumn
  | column + 6 => exact not_aligned_spaces column (c :: rest)

/-- No line is aligned by the spaces that are cut off at its end. -/
theorem not_aligned_trimEnd (h : isAligned text = false) : isAligned (trimEnd text) = false := by
  rw [← Bool.not_eq_true, isAligned, List.isPrefixOf_iff_prefix] at h ⊢
  exact fun htrimmed => h (htrimmed.trans (Text.dropEndWhile_isPrefix _ text))

theorem Decides.append (h : Decides level text aligned) (back : List Char) :
    Decides level (text ++ back) aligned := by
  intro more
  rw [List.append_assoc]
  exact h (back ++ more)

theorem BeginsAt.decides (h : BeginsAt column text) (hcolumn : level * 4 + column ≠ 5) :
    Decides level text false :=
  fun more => not_aligned_trimEnd (((h.append more).indented 4 level).not_aligned hcolumn)

theorem decides_caseContinuation (level : Nat) : Decides level caseContinuation.toList false := by
  intro more
  refine not_aligned_trimEnd ?_
  have hspaces : caseContinuation.toList = List.replicate 12 ' ' := rfl
  rw [hspaces, margin, ← List.append_assoc, List.replicate_append_replicate]
  exact not_aligned_spaces (level * 4 + 6) more

/-- On the outermost level the start of a projected column makes an aligned line, on the others
none. -/
theorem BeginsAt.decides_column (h : BeginsAt column text) (level : Nat) :
    Decides level (columnContinuation.toList ++ text) (level == 0) := by
  by_cases hlevel : level = 0
  · subst hlevel
    intro more
    have htrim : trimEnd (columnContinuation.toList ++ (text ++ more)) =
        columnContinuation.toList ++ trimEnd (text ++ more) :=
      (Text.dropEndWhile_append _ _ _).trans (if_neg (h.append more).trimEnd_ne_nil)
    rw [margin, Nat.zero_mul, List.replicate_zero, List.nil_append, List.append_assoc, htrim,
      isAligned]
    exact List.isPrefixOf_iff_prefix.2 (List.prefix_append _ _)
  · have hbegins : BeginsAt 5 columnContinuation.toList := ⟨',', [' '], by decide, rfl⟩
    rw [beq_false_of_ne hlevel]
    exact (hbegins.decides (by omega)).append text

end

/-! ## Aligned lines -/

/-- Lines of which a given number behind the first is aligned, whatever follows them. -/
inductive Aligned : Nat → Lines → Prop
  | last {text : List Char} (htext : '\n' ∉ text) : Aligned 0 (.last text)
  | line {text : List Char} {level n : Nat} {aligned : Bool} {below : Lines} (htext : '\n' ∉ text)
      (hline : Decides level below.first aligned) (hbelow : Aligned n below) :
      Aligned (aligned.toNat + n) (.line text level below)

namespace Aligned

variable {m n : Nat} {front back lines : Lines} {s : List Char}

theorem behind (hs : '\n' ∉ s) (h : Aligned n lines) : Aligned n (lines.behind s) := by
  cases h with
  | last htext => exact .last (by simp [hs, htext])
  | line htext hline hbelow => exact .line (by simp [hs, htext]) hline hbelow

theorem append (h : Aligned m front) (hback : Aligned n back) :
    Aligned (m + n) (front ++ back) := by
  have hfirst (below : Lines) : ∃ more, (below ++ back).first = below.first ++ more := by
    cases below with
    | last text => exact ⟨back.first, Lines.first_behind text back⟩
    | line text level below => exact ⟨[], (List.append_nil text).symm⟩
  induction h with
  | last htext =>
      rw [Nat.zero_add]
      exact hback.behind htext
  | @line _ _ _ _ below htext hline _ ih =>
      obtain ⟨more, hmore⟩ := hfirst below
      rw [Nat.add_assoc]
      exact .line htext (hmore ▸ hline.append more) ih

/-- A further line that is not aligned. -/
theorem further {level : Nat} (hline : Decides level lines.first false) (h : Aligned n lines) :
    Aligned n (.line [] level lines) := by
  have hall := Aligned.line List.not_mem_nil hline h
  rwa [Bool.toNat_false, Nat.zero_add] at hall

theorem unbroken (h : Aligned n lines) : lines.Unbroken := by
  induction h with
  | last htext => exact ⟨htext, List.forall_mem_nil _⟩
  | line htext _ _ ih => exact ⟨htext, List.forall_mem_cons.2 ih⟩

/-- The number of aligned lines behind the first. -/
theorem count_rest (h : Aligned n lines) :
    (lines.rest.map fun line => trimEnd (margin 4 line.1 ++ line.2)).countP isAligned = n := by
  induction h with
  | last htext => rfl
  | @line _ _ _ aligned _ _ hline _ ih =>
      have hline := hline []
      rw [List.append_nil] at hline
      rw [Lines.rest_line, List.map_cons, List.countP_cons, ih, hline, Nat.add_comm]
      cases aligned <;> rfl

end Aligned

/-! ## Tidy parts -/

/-- A text on one line that begins with no space. -/
structure Flush (text : List Char) : Prop where
  ne_nil : text ≠ []
  unbroken : '\n' ∉ text
  head : text.head? ≠ some ' '

instance (text : List Char) : Decidable (Flush text) :=
  decidable_of_iff (text ≠ [] ∧ '\n' ∉ text ∧ text.head? ≠ some ' ')
    ⟨fun h => ⟨h.1, h.2.1, h.2.2⟩, fun h => ⟨h.ne_nil, h.unbroken, h.head⟩⟩

/-- A part whose fields are texts on one line that begin with no space; its strings can be empty and
begin with spaces. -/
structure Tidy (part : Part) : Prop where
  flush : ∀ text ∈ names part ++ fragments part, Flush text.toList
  unbroken : ∀ value ∈ strings part, '\n' ∉ value.toList

instance (part : Part) : Decidable (Tidy part) :=
  decidable_of_iff ((∀ text ∈ names part ++ fragments part, Flush text.toList) ∧
    ∀ value ∈ strings part, '\n' ∉ value.toList) ⟨fun h => ⟨h.1, h.2⟩,
    fun h => ⟨h.flush, h.unbroken⟩⟩

section

variable {text front back : List Char} {s : String} {part : Part}

theorem Flush.beginsAt (h : Flush text) : BeginsAt 0 text := by
  obtain ⟨c, rest, rfl⟩ := List.exists_cons_of_ne_nil h.ne_nil
  exact ⟨c, rest, fun hc => h.head (congrArg some hc), rfl⟩

theorem Flush.append (h : Flush front) (hback : '\n' ∉ back) : Flush (front ++ back) where
  ne_nil := List.append_ne_nil_of_left_ne_nil h.ne_nil back
  unbroken := by simp [h.unbroken, hback]
  head := by
    rw [List.head?_append_of_ne_nil _ h.ne_nil]
    exact h.head

theorem not_feed_of_sign (h : isSign s = true) : '\n' ∉ s.toList := fun hmem =>
  absurd (List.all_eq_true.1 (Bool.and_eq_true_iff.1 h).2 _ hmem) (by decide)

theorem Composed.flush {texts : List String} (htexts : ∀ s ∈ texts, Flush s.toList)
    (h : Composed texts text) :
    Flush text := by
  induction h with
  | name h => exact htexts _ h
  | upper _ ih =>
      exact ⟨Text.upper_ne_nil ih.ne_nil,
        fun hfeed => ih.unbroken (Text.mem_of_mem_upper hfeed (by decide)),
        fun hhead => ih.head (Text.head_of_head_upper hhead (by decide))⟩
  | lower _ ih =>
      exact ⟨Text.lower_ne_nil ih.ne_nil,
        fun hfeed => ih.unbroken (Text.mem_of_mem_lower hfeed (by decide)),
        fun hhead => ih.head (Text.head_of_head_lower hhead (by decide))⟩
  | trail hs _ ih => exact ih.append (not_feed_of_sign hs)
  | between hs _ _ ihfront ihback =>
      exact (ihfront.append (not_feed_of_sign hs)).append ihback.unbroken

theorem flush_quoteString {value : String} (h : '\n' ∉ value.toList) :
    Flush (quoteString value).toList := by
  have hdoubled : '\n' ∉ doubleQuotes value.toList := by
    rw [doubleQuotes, List.mem_flatMap]
    rintro ⟨c, hc, hmem⟩
    have heq : '\n' = c := by
      split at hmem <;> simpa using hmem
    exact h (heq ▸ hc)
  rw [toList_quoteString]
  exact ⟨List.cons_ne_nil _ _, by simp [hdoubled], by simp⟩

/-- A sign that starts lines begins at a column where no projected column does. -/
theorem exists_beginsAt_of_startsLine (h : startsLine s = true) :
    ∃ column, column % 4 ≠ 1 ∧ BeginsAt column s.toList := by
  obtain ⟨hsign, hstart⟩ := Bool.and_eq_true_iff.1 h
  simp only [Bool.or_eq_true, bne_iff_ne, beq_iff_eq] at hstart
  obtain (hhead | rfl) | rfl := hstart
  · have hne : s.toList ≠ [] := by simpa using (Bool.and_eq_true_iff.1 hsign).1
    exact ⟨0, by decide, Flush.beginsAt ⟨hne, not_feed_of_sign hsign, hhead⟩⟩
  · exact ⟨2, by decide, 'A', ['N', 'D'], by decide, rfl⟩
  · exact ⟨2, by decide, 'O', ['R'], by decide, rfl⟩

/-- The words of a tidy part stand on one line and can begin it. -/
theorem Tidy.word (hpart : Tidy part) (h : s ∈ words part) :
    '\n' ∉ s.toList ∧ ∃ column, column % 4 ≠ 1 ∧ BeginsAt column s.toList := by
  have hflush {text : List Char} (h : Flush text) : '\n' ∉ text ∧ ∃ column, column % 4 ≠ 1 ∧
      BeginsAt column text :=
    ⟨h.unbroken, 0, by decide, h.beginsAt⟩
  have hnames : ∀ name ∈ names part, Flush name.toList := fun name hname =>
    hpart.flush name (List.mem_append_left _ hname)
  cases spelled_of_mem_words h with
  | fragment hs => exact hflush (hpart.flush s (List.mem_append_right _ hs))
  | string hvalue => exact hflush (flush_quoteString (hpart.unbroken _ hvalue))
  | sign hs => exact ⟨not_feed_of_sign (isSign_of_startsLine hs), exists_beginsAt_of_startsLine hs⟩
  | composed hs => exact hflush (hs.flush hnames)
  | star hfront hs =>
      rw [hs]
      obtain rfl | hfront := hfront
      · exact hflush ⟨by decide, by decide, by decide⟩
      · exact hflush ((hfront.flush hnames).append (by decide))

end

/-! ## Lines of layouts -/

theorem Opening.beginsAt {p : List Part} {docs : List Doc} (h : Opening p docs)
    (hp : ∀ part ∈ p, Tidy part) (level : Nat) :
    ∃ column, column % 4 ≠ 1 ∧ BeginsAt column (concatLines level docs).first := by
  obtain ⟨s, back, hback, hs⟩ := h
  have hword : ∃ column, column % 4 ≠ 1 ∧ BeginsAt column s.toList := by
    obtain hs | ⟨part, hpart, hs⟩ := hs
    · exact exists_beginsAt_of_startsLine hs
    · exact ((hp part hpart).word hs).2
  obtain ⟨column, hcolumn, hbegins⟩ := hword
  refine ⟨column, hcolumn, ?_⟩
  rw [hback level, concatLines, Doc.lines, Lines.last_append, Lines.first_behind]
  exact hbegins.append _

/-- The lines of the outermost level that are those of projected columns. -/
def outermost (level n : Nat) : Nat :=
  if level = 0 then n else 0

theorem outermost_zero (level : Nat) : outermost level 0 = 0 :=
  ite_self 0

theorem outermost_add (level m n : Nat) :
    outermost level m + outermost level n = outermost level (m + n) := by
  unfold outermost
  split <;> rfl

/-- In the layout of tidy parts the lines of projected columns are aligned, and no others. -/
theorem Laid.aligned {p : List Part} {n : Nat} {docs : List Doc} (h : Laid p n docs)
    (hp : ∀ part ∈ p, Tidy part) (level : Nat) :
    Aligned (outermost level n) (concatLines level docs) := by
  induction h generalizing level with
  | nil =>
      rw [outermost_zero]
      exact .last List.not_mem_nil
  | @word part s hs _ =>
      rw [outermost_zero, concatLines, concatLines, Doc.lines, Lines.append_nil]
      exact .last ((hp part List.mem_cons_self).word hs).1
  | sign hs _ _ ihfront ihback =>
      obtain ⟨hp, hq⟩ := List.forall_mem_append.1 hp
      rw [← outermost_add, concatLines_append, concatLines, Doc.lines, Lines.last_append]
      exact (ihfront hp level).append ((ihback hq level).behind (not_feed_of_sign hs))
  | line hopening _ _ ihfront ihback =>
      obtain ⟨hp, hq⟩ := List.forall_mem_append.1 hp
      obtain ⟨column, hcolumn, hbegins⟩ := hopening.beginsAt hq level
      rw [← outermost_add, concatLines_append, concatLines, Doc.lines, Lines.line_append,
        Lines.last_append, Lines.behind_nil]
      exact (ihfront hp level).append ((ihback hq level).further (hbegins.decides (by omega)))
  | @column p q m n front back hopening _ _ ihfront ihback =>
      obtain ⟨hp, hq⟩ := List.forall_mem_append.1 hp
      obtain ⟨column, -, hbegins⟩ := hopening.beginsAt hq level
      have hback := (ihback hq level).behind (s := columnContinuation.toList) (by decide)
      have hdecides := hbegins.decides_column level
      rw [← Lines.first_behind] at hdecides
      have hbelow := Aligned.line List.not_mem_nil hdecides hback
      have hcount : (level == 0).toNat + outermost level n = outermost level (n + 1) := by
        by_cases hlevel : level = 0 <;> simp [outermost, hlevel, Nat.add_comm]
      rw [hcount] at hbelow
      rw [← outermost_add, concatLines_append, concatLines, concatLines, Doc.lines, Doc.lines,
        Lines.line_append, Lines.last_append, Lines.last_append, Lines.behind_nil]
      exact (ihfront hp level).append hbelow
  | @branch p q m n front back _ _ ihfront ihback =>
      obtain ⟨hp, hq⟩ := List.forall_mem_append.1 hp
      have hback := (ihback hq level).behind (s := caseContinuation.toList) (by decide)
      have hdecides := (decides_caseContinuation level).append (concatLines level back).first
      rw [← Lines.first_behind] at hdecides
      rw [← outermost_add, concatLines_append, concatLines, concatLines, Doc.lines, Doc.lines,
        Lines.line_append, Lines.last_append, Lines.last_append, Lines.behind_nil]
      exact (ihfront hp level).append (hback.further hdecides)
  | @indent _ n _ _ ih =>
      have hinner : outermost level 0 = outermost (level + 1) n :=
        (outermost_zero level).trans (if_neg (Nat.succ_ne_zero level)).symm
      rw [hinner, concatLines, concatLines, Doc.lines, Doc.lines, Lines.append_nil]
      exact ih hp (level + 1)
  | minus _ ih =>
      rw [concatLines, Doc.lines, Lines.last_append]
      exact (ih (List.forall_mem_cons.1 hp).2 level).behind (by decide)
  | recut _ hsame ih =>
      rw [← hsame level]
      exact ih hp level
  | cover hsub _ _ ih => exact ih (fun part hpart => hp part (hsub hpart)) level

/-! ## Printed queries -/

/-- A query is printed as its lines and the one of its terminator, each with a line feed at its
end. -/
theorem toList_printStatements_select (tabWidth : Nat) (q : Query) :
    (printStatements tabWidth [.select q]).toList =
    ['\n'].intercalate ((concatLines 0 (queryDoc q :: terminator)).printed tabWidth ++ [[]]) := by
  have hpage : printStatements tabWidth [.select q] =
      (Doc.concat (queryDoc q :: terminator)).render tabWidth ++ "\n" :=
    (printStatements_eq tabWidth fun node hnode => by cases List.mem_singleton.1 hnode).trans
      (if_neg (List.cons_ne_nil _ _))
  rw [hpage, String.toList_append, toList_render_eq, Doc.lines]
  obtain hnil | ⟨init, last, hlines⟩ :=
    List.eq_nil_or_concat' ((concatLines 0 (queryDoc q :: terminator)).printed tabWidth)
  · exact absurd hnil (List.cons_ne_nil _ _)
  · rw [hlines, Text.intercalate_concat, Text.intercalate_concat]
    simp

/-- The terminator of a query stands on a line of its own. -/
theorem laid_statement (q : Query) :
    Laid (queryWalk q) (columnLines q) (queryDoc q :: terminator) := by
  have hend : Laid [] 0 [.text ";"] := Laid.nil.lead (by decide)
  have hall := (Follows.line (.of_sign (by decide) []) hend).behind (laid_query q).laid
  rwa [List.append_nil] at hall

/-- Every projected column but the first has an aligned line, in each select of the chain of set
operations. -/
theorem count_aligned (q : Query) (hq : ∀ part ∈ (Part.query q).preorder, Tidy part) :
    ((printStatements 4 [.select q]).toList.splitOn '\n').countP isAligned = columnLines q := by
  have haligned := (laid_statement q).aligned hq 0
  have hopening : Opening (queryWalk q) (queryDoc q :: terminator) :=
    (laid_query q).opening.append terminator
  obtain ⟨column, hcolumn, hbegins⟩ := hopening.beginsAt hq 0
  have hfirst := not_aligned_trimEnd (hbegins.not_aligned fun heq => hcolumn (heq ▸ rfl))
  have hlines : ∀ line ∈ (concatLines 0 (queryDoc q :: terminator)).printed 4 ++ [[]],
      '\n' ∉ line :=
    List.forall_mem_append.2 ⟨not_feed_of_mem_printed haligned.unbroken, by simp⟩
  rw [toList_printStatements_select, List.splitOn_intercalate '\n' hlines (by simp),
    List.countP_append, Lines.printed, List.countP_cons, haligned.count_rest, hfirst]
  rfl

/-- A query without a set operation has one aligned line for each of its projected columns but the
first, whatever its parts print. -/
theorem aligned_lines_of_columns (q : Query) (hq : ∀ part ∈ (Part.query q).preorder, Tidy part)
    (hsingle : q.next = none ∨ nonEmpty q.setOperator = none) :
    ((printStatements 4 [.select q]).toList.splitOn '\n').countP isAligned =
      q.columns.length - 1 := by
  have hlines : columnLines q = q.columns.length - 1 := by
    obtain hnext | hoperator := hsingle
    · cases q
      simp_all [columnLines, optionalColumnLines]
    · cases q
      simp_all [columnLines]
  rw [count_aligned q hq, hlines]

/-- Three columns over a named query, a derived table and a join, with a case expression and a
nested query. -/
def report : Query :=
  let column (name : String) : Expr := .column name none false
  let pair : Query :=
    { columns := [.mk (column "a") none, .mk (column "b") (some "x")],
      sources := [.table { name := "t" }] }
  { ctes := [.mk "recent" [] pair, .mk "old" ["c", "d"] pair]
    columns := [.mk (column "a") none,
      .mk (.caseOf (some (column "b")) [.mk (.literal "1" .number) (.literal " , " .string),
        .mk (.literal "2" .number) (.subquery pair)] none) (some "kind"),
      .mk (.window (.aggregate "sum" (some (column "a")) false) [column "b"] [] none) none]
    sources := [.table { name := "recent" },
      .derived (some "d") (some "PIVOT(max(a) FOR b IN (1))") pair]
    joins := [.mk "LEFT JOIN" (.table { name := "old" })
      (some (.binary "=" (column "c") (column "a"))) []]
    filter := some (.binary "AND" (.inQuery (column "a") pair false) (.isNull (column "b") false)) }

theorem aligned_lines_of_columns_report : (∀ part ∈ (Part.query report).preorder, Tidy part) ∧
    ((printStatements 4 [.select report]).toList.splitOn '\n').countP isAligned = 2 := by
  have hreport : ∀ part ∈ (Part.query report).preorder, Tidy part := by decide
  exact ⟨hreport, aligned_lines_of_columns report hreport (.inl rfl)⟩

end SqlLayout.Layout
