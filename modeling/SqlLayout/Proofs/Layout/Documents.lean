import SqlLayout.Format
import SqlLayout.Proofs.Layout.Statements
import SqlLayout.Proofs.Text.Strip

/-!
# Printed documents

A document is printed statement by statement: the text of each statement that has a layout is what
the statement gives on its own, and the line breaks between two texts depend on these two statements
alone.  Statements without a layout leave nothing behind, or are refused when the settings are
strict.

## Implementation notes

All statements are rendered in one pass, and a line break takes away the spaces in front of it.  It
cannot reach beyond the line break before it, so what was written up to there stays as it is.  A
comment of blanks alone is the only statement with an empty text.
-/

namespace SqlLayout.Layout

open SqlLayout.Tree

/-! ## What items write -/

section

variable (tabWidth : Nat)

/-- The text that items write. -/
def written (items : List Item) : List Char :=
  (writeItems tabWidth [] items).reverse

theorem trimSpaces_append {front back : List Char} (h : ∀ c ∈ back.head?, c ≠ ' ') :
    trimSpaces (front ++ back) = trimSpaces front ++ back := by
  induction front with
  | nil => exact Text.dropWhile_eq_self fun c hc => by simpa using h c hc
  | cons c front ih =>
      rw [trimSpaces, List.cons_append, List.dropWhile_cons]
      split
      · next hspace => rw [trimSpaces, List.dropWhile_cons, if_pos hspace]; exact ih
      · next hspace => rw [trimSpaces, List.dropWhile_cons, if_neg hspace]; rfl

/-- Items never change what stands before a character that is no space. -/
theorem writeItems_append {back : List Char} (h : ∀ c ∈ back.head?, c ≠ ' ') (front : List Char)
    (items : List Item) : writeItems tabWidth (front ++ back) items =
    writeItems tabWidth front items ++ back := by
  induction items generalizing front with
  | nil => exact trimSpaces_append h
  | cons item rest ih =>
      cases item with
      | text s => rw [writeItems, writeItems, ← List.append_assoc, ih]
      | newline level =>
          rw [writeItems, writeItems, trimSpaces_append h, ← ih]
          simp

theorem writeItems_newline (out : List Char) (front back : List Item) :
    writeItems tabWidth out (front ++ .newline 0 :: back) =
      writeItems tabWidth ('\n' :: writeItems tabWidth out front) back := by
  induction front generalizing out with
  | nil => simp [writeItems]
  | cons item rest ih =>
      cases item with
      | text s => exact ih _
      | newline level => exact ih _

/-- What is written before and after a line break of the outermost level is written apart. -/
theorem written_newline (front back : List Item) :
    written tabWidth (front ++ .newline 0 :: back) =
      written tabWidth front ++ '\n' :: written tabWidth back := by
  have hbreak : ∀ c ∈ ('\n' :: writeItems tabWidth [] front).head?, c ≠ ' ' := by simp
  have hback := writeItems_append tabWidth hbreak [] back
  rw [List.nil_append] at hback
  rw [written, writeItems_newline, hback]
  simp [written]

theorem toList_render (doc : Doc) :
    (doc.render tabWidth).toList = written tabWidth (doc.items 0) := by
  rw [Doc.render, String.toList_ofList, written]

/-- A character that is no space is written when it stands in a text. -/
theorem mem_writeItems {c : Char} (hc : c ≠ ' ') {items : List Item} {out : List Char}
    (h : c ∈ out ∨ ∃ s, .text s ∈ items ∧ c ∈ s.toList) : c ∈ writeItems tabWidth out items := by
  have htrim {out : List Char} (hout : c ∈ out) : c ∈ trimSpaces out := by
    have happend := @List.takeWhile_append_dropWhile _ (· == ' ') out
    rw [← happend, List.mem_append] at hout
    refine hout.resolve_left fun hspace => hc ?_
    simpa using List.mem_takeWhile_imp hspace
  induction items generalizing out with
  | nil => exact htrim (h.resolve_right (by simp))
  | cons item rest ih =>
      cases item with
      | text s =>
          refine ih ?_
          obtain hout | ⟨t, ht, hmem⟩ := h
          · exact .inl (List.mem_append_right _ hout)
          · obtain hs | ht := List.mem_cons.1 ht
            · obtain rfl := Item.text.inj hs
              exact .inl (List.mem_append_left _ (List.mem_reverse.2 hmem))
            · exact .inr ⟨t, ht, hmem⟩
      | newline level =>
          refine ih ?_
          obtain hout | ⟨t, ht, hmem⟩ := h
          · exact .inl (List.mem_append_right _ (List.mem_cons_of_mem _ (htrim hout)))
          · exact .inr ⟨t, (List.mem_cons.1 ht).resolve_left (by simp), hmem⟩

/-- A document with a character that is no space is not rendered as the empty text. -/
theorem render_ne_empty {doc : Doc} {s : String} {c : Char} (h : .text s ∈ doc.items 0)
    (hmem : c ∈ s.toList) (hc : c ≠ ' ') : doc.render tabWidth ≠ "" := by
  intro hempty
  have hwritten : c ∈ writeItems tabWidth [] (doc.items 0) :=
    mem_writeItems tabWidth hc (.inr ⟨s, h, hmem⟩)
  have hnil := toList_render tabWidth doc
  rw [hempty, written, eq_comm, String.toList_empty, List.reverse_eq_nil_iff] at hnil
  rw [hnil] at hwritten
  cases hwritten

end

/-! ## Statements on their own -/

theorem mem_concatItems {level : Nat} {parts : List Doc} {part : Doc} {item : Item}
    (hpart : part ∈ parts) (h : item ∈ part.items level) :
    item ∈ (Doc.concat parts).items level := by
  rw [Doc.items]
  induction parts with
  | nil => cases hpart
  | cons first rest ih =>
      rw [concatItems, List.mem_append]
      obtain rfl | hrest := List.mem_cons.1 hpart
      · exact .inl h
      · exact .inr (ih hrest)

theorem mem_joinItems {level : Nat} {separator : Doc} {parts : List Doc} {part : Doc} {item : Item}
    (hpart : part ∈ parts) (h : item ∈ part.items level) :
    item ∈ (Doc.join separator parts).items level := by
  rw [Doc.items]
  induction parts with
  | nil => cases hpart
  | cons first rest ih =>
      obtain rfl | hrest := List.mem_cons.1 hpart
      · cases rest <;> exact List.mem_append_left _ h
      · cases rest with
        | nil => cases hrest
        | cons next rest => exact List.mem_append_right _ (List.mem_append_right _ (ih hrest))

/-- Whether a comment has no character besides blanks. -/
def BlankComment (node : Comment) : Prop :=
  ∀ c ∈ node.text.toList, Text.isBlank c = true

theorem isBlank_of_lineEnd {c : Char} (h : Text.isLineEnd c = true) : Text.isBlank c = true := by
  simp only [Text.isLineEnd, Bool.or_eq_true, Bool.and_eq_true, decide_eq_true_eq, beq_iff_eq] at h
  simp only [Text.isBlank, Text.blankRanges, Text.Ranges.has, List.any_cons, List.any_nil,
    Bool.or_eq_true, Bool.and_eq_true, decide_eq_true_eq, Bool.false_eq_true, or_false]
  omega

/-- A character that is no blank stands in one of the lines. -/
theorem exists_mem_linesFrom {c : Char} (hc : Text.isBlank c = false) {line text : List Char}
    (h : c ∈ line.reverse ++ text) : ∃ found ∈ Text.linesFrom line text, c ∈ found := by
  fun_induction Text.linesFrom line text with
  | case1 line hempty =>
      rw [List.isEmpty_iff.1 hempty] at h
      cases h
  | case2 line hne => exact ⟨_, List.mem_singleton_self _, by simpa using h⟩
  | case3 line rest ih =>
      have hr : c ≠ '\r' := by rintro rfl; exact absurd hc (by decide)
      have hn : c ≠ '\n' := by rintro rfl; exact absurd hc (by decide)
      simp only [List.mem_append, List.mem_reverse, List.mem_cons, hr, hn, false_or] at h
      obtain h | h := h
      · exact ⟨_, List.mem_cons_self, List.mem_reverse.2 h⟩
      · obtain ⟨found, hfound, hmem⟩ := ih (by simpa using h)
        exact ⟨found, List.mem_cons_of_mem _ hfound, hmem⟩
  | case4 line x rest hne hend ih =>
      have hx : c ≠ x := by rintro rfl; simp [isBlank_of_lineEnd hend] at hc
      simp only [List.mem_append, List.mem_reverse, List.mem_cons, hx, false_or] at h
      obtain h | h := h
      · exact ⟨_, List.mem_cons_self, List.mem_reverse.2 h⟩
      · obtain ⟨found, hfound, hmem⟩ := ih (by simpa using h)
        exact ⟨found, List.mem_cons_of_mem _ hfound, hmem⟩
  | case5 line x rest hne hend ih => exact ih (by simpa using h)

/-- A comment that is not blank has a line with a text. -/
theorem exists_mem_commentDoc {node : Comment} (h : ¬ BlankComment node) :
    ∃ (s : String) (c : Char), .text s ∈ (commentDoc node).items 0 ∧ c ∈ s.toList ∧ c ≠ ' ' := by
  simp only [BlankComment, not_forall, Bool.not_eq_true] at h
  obtain ⟨c, hmem, hc⟩ := h
  have hlines : ∃ found ∈ Text.lines node.text.toList, c ∈ found :=
    exists_mem_linesFrom hc (by simpa using hmem)
  obtain ⟨line, hline, hfound⟩ := hlines
  have hne : Text.strip line ≠ [] := by
    intro hempty
    rw [Text.strip_eq_nil_iff.1 hempty c hfound] at hc
    cases hc
  obtain ⟨d, rest, hstrip⟩ := List.exists_cons_of_ne_nil hne
  have hd : Text.isBlank d = false := Text.head_strip d (by rw [hstrip]; rfl)
  have hdoc : Item.text (String.ofList (Text.strip line)) ∈
      (Doc.text (String.ofList (Text.strip line))).items 0 :=
    List.mem_singleton_self _
  refine ⟨String.ofList (Text.strip line), d, mem_joinItems ?_ hdoc, ?_, ?_⟩
  · refine List.mem_filterMap.2 ⟨line, hline, ?_⟩
    simp [List.isEmpty_iff, hne]
  · rw [String.toList_ofList, hstrip]
    exact List.mem_cons_self
  · rintro rfl
    exact absurd hd (by decide)

theorem semicolon_mem_grantText (node : Grant) : ';' ∈ (grantText node).toList := by
  unfold grantText
  split
  · next text hverbatim =>
      split
      · next hends =>
          rw [← String.endsWith_toSlice, String.Slice.endsWith_string_iff] at hends
          obtain ⟨front, hfront⟩ := hends
          have htext : text.toList = front ++ [';'] := by simpa using hfront.symm
          simp [htext]
      · simp
  · simp

/-- Every layout ends with a terminator, except that of a comment. -/
theorem exists_mem_statementDoc {statement : Statement} {doc : Doc}
    (h : statementDoc? statement = some doc)
    (hcomment : ∀ node, statement = .comment node → ¬ BlankComment node) :
    ∃ (s : String) (c : Char), .text s ∈ doc.items 0 ∧ c ∈ s.toList ∧ c ≠ ' ' := by
  have hend {parts : List Doc} (hmem : Doc.text ";" ∈ parts) :
      ∃ (s : String) (c : Char), .text s ∈ (Doc.concat parts).items 0 ∧ c ∈ s.toList ∧ c ≠ ' ' :=
    ⟨";", ';', mem_concatItems hmem (List.mem_singleton_self _), by simp, by decide⟩
  cases statement with
  | select query =>
      obtain rfl := Option.some.inj h
      exact hend (by simp [terminator])
  | create node =>
      obtain rfl := Option.some.inj h
      exact hend (by cases hkind : node.kind <;> simp [terminator])
  | insert node =>
      obtain rfl := Option.some.inj h
      exact hend (by simp [terminator])
  | update node =>
      obtain rfl := Option.some.inj h
      exact hend (by simp [terminator])
  | delete node =>
      obtain rfl := Option.some.inj h
      exact hend (by simp [terminator])
  | grant node =>
      obtain rfl := Option.some.inj h
      exact ⟨_, ';', List.mem_singleton_self _, semicolon_mem_grantText node, by decide⟩
  | comment node =>
      obtain rfl := Option.some.inj h
      exact exists_mem_commentDoc (hcomment node rfl)
  | unrendered node => cases h

/-- The text of a statement that is printed on its own, without the line feed at the end. -/
def statementText (tabWidth : Nat) (statement : Statement) : String :=
  ((statementDoc? statement).map fun doc => doc.render tabWidth).getD ""

theorem statementText_ne_empty (tabWidth : Nat) {statement : Statement}
    (h : (statementDoc? statement).isSome = true)
    (hcomment : ∀ node, statement = .comment node → ¬ BlankComment node) :
    statementText tabWidth statement ≠ "" := by
  obtain ⟨doc, hdoc⟩ := Option.isSome_iff_exists.1 h
  obtain ⟨s, c, hmem, hc, hspace⟩ := exists_mem_statementDoc hdoc hcomment
  rw [statementText, hdoc]
  exact render_ne_empty tabWidth hmem hc hspace

/-! ## Statements one after the other -/

/-- The line feeds between the texts of two statements. -/
def lineBreaks (previous current : Statement) : String :=
  match previous, current with
  | .comment _, _ => "\n"
  | .grant _, .grant _ => "\n"
  | _, _ => "\n\n"

/-- The texts of statements, each as it is on its own, with the line feeds between neighbours. -/
def pageText (tabWidth : Nat) : List Statement → String
  | [] => ""
  | [statement] => statementText tabWidth statement
  | statement :: next :: rest =>
    statementText tabWidth statement ++ lineBreaks statement next ++
      pageText tabWidth (next :: rest)

/-- The statements that have a layout. -/
def laidOut (statements : List Statement) : List Statement :=
  statements.filter fun
    | .unrendered _ => false
    | _ => true

theorem mem_laidOut {statement : Statement} {statements : List Statement} :
    statement ∈ laidOut statements ↔ statement ∈ statements ∧ (statementDoc? statement).isSome =
      true := by
  rw [laidOut, List.mem_filter]
  cases statement <;> simp [statementDoc?]

@[simp] theorem laidOut_append (front back : List Statement) :
    laidOut (front ++ back) = laidOut front ++ laidOut back :=
  List.filter_append front back

@[simp] theorem laidOut_unrendered (node : Unrendered) (rest : List Statement) :
    laidOut (.unrendered node :: rest) = laidOut rest := rfl

/-- Statements without a layout do not show, not even in the line breaks. -/
theorem documentItems_laidOut (previous : Option Statement) (statements : List Statement) :
    documentItems previous (laidOut statements) = documentItems previous statements := by
  induction statements generalizing previous with
  | nil => rfl
  | cons statement rest ih =>
      cases statement with
      | unrendered node => exact ih previous
      | _ => exact congrArg (_ ++ _ :: ·) (ih _)

section

variable (tabWidth : Nat)

theorem written_separator (previous current : Statement) (front : List Item) (docs : List Doc) :
    written tabWidth (front ++ concatItems 0 (separator previous current ++ docs)) =
      written tabWidth front ++
        ((lineBreaks previous current).toList ++ written tabWidth (concatItems 0 docs)) := by
  have hone : written tabWidth (front ++ concatItems 0 (.hardline :: docs)) =
      written tabWidth front ++ '\n' :: written tabWidth (concatItems 0 docs) :=
    written_newline tabWidth front (concatItems 0 docs)
  have htwo : written tabWidth (front ++ concatItems 0 (.hardline :: .hardline :: docs)) =
      written tabWidth front ++ '\n' :: '\n' :: written tabWidth (concatItems 0 docs) := by
    have hsecond := written_newline tabWidth [] (concatItems 0 docs)
    refine (written_newline tabWidth front (concatItems 0 (.hardline :: docs))).trans ?_
    rw [← List.nil_append (concatItems 0 (.hardline :: docs))]
    exact congrArg (written tabWidth front ++ '\n' :: ·) hsecond
  unfold separator
  split
  · simpa [lineBreaks] using hone
  · simpa [lineBreaks] using hone
  · next hcomment hgrants =>
      have hbreaks : lineBreaks previous current = "\n\n" := lineBreaks.eq_3 _ _ hcomment hgrants
      simpa [hbreaks] using htwo

/-- The text of each statement stands by itself, whatever its neighbours are. -/
theorem written_documentItems (statement : Statement) (rest : List Statement) {doc : Doc}
    (hdoc : statementDoc? statement = some doc)
    (hrest : ∀ s ∈ rest, (statementDoc? s).isSome = true) :
    written tabWidth (concatItems 0 (doc :: documentItems (some statement) rest)) =
      (pageText tabWidth (statement :: rest)).toList := by
  have htext {s : Statement} {d : Doc} (h : statementDoc? s = some d) :
      (statementText tabWidth s).toList = written tabWidth (d.items 0) := by
    rw [statementText, h]
    exact toList_render tabWidth d
  induction rest generalizing statement doc with
  | nil =>
      rw [documentItems, concatItems, concatItems, List.append_nil, pageText, htext hdoc]
  | cons next rest ih =>
      obtain ⟨hnext, hrest⟩ := List.forall_mem_cons.1 hrest
      obtain ⟨nextDoc, hnext⟩ := Option.isSome_iff_exists.1 hnext
      simp only [documentItems, hnext, Option.map_some, Option.getD_some]
      rw [concatItems, written_separator, ih next hnext hrest, pageText, String.toList_append,
        String.toList_append, htext hdoc, List.append_assoc]

theorem render_documentDoc (statements : List Statement) :
    (documentDoc statements).render tabWidth = pageText tabWidth (laidOut statements) := by
  rw [← String.toList_inj, toList_render, documentDoc, Doc.items, ← documentItems_laidOut]
  have hall : ∀ s ∈ laidOut statements, (statementDoc? s).isSome = true :=
    fun s hs => (mem_laidOut.1 hs).2
  generalize laidOut statements = printed at hall ⊢
  cases printed with
  | nil => rfl
  | cons statement rest =>
      obtain ⟨hstatement, hrest⟩ := List.forall_mem_cons.1 hall
      obtain ⟨doc, hdoc⟩ := Option.isSome_iff_exists.1 hstatement
      simp only [documentItems, hdoc]
      exact written_documentItems tabWidth statement rest hdoc hrest

/-- The text of statements is empty when there is none, and ends with a line feed else. -/
theorem printStatements_eq {statements : List Statement}
    (hcomments : ∀ node, .comment node ∈ statements → ¬ BlankComment node) :
    printStatements tabWidth statements =
      if laidOut statements = [] then "" else pageText tabWidth (laidOut statements) ++ "\n" := by
  rw [printStatements, render_documentDoc]
  have hall : ∀ s ∈ laidOut statements, statementText tabWidth s ≠ "" := by
    intro s hs
    obtain ⟨hmem, hdoc⟩ := mem_laidOut.1 hs
    exact statementText_ne_empty tabWidth hdoc fun node hnode => hcomments node (hnode ▸ hmem)
  generalize laidOut statements = printed at hall ⊢
  match printed with
  | [] => rfl
  | [statement] =>
      have hne := hall statement List.mem_cons_self
      simp [pageText, hne]
  | statement :: next :: rest =>
      have hne := hall statement List.mem_cons_self
      simp [pageText, hne]

end

/-! ## Statements without a layout -/

theorem unrendered_not_mem_laidOut (node : Unrendered) (statements : List Statement) :
    .unrendered node ∉ laidOut statements := by
  rw [mem_laidOut]
  rintro ⟨-, hlayout⟩
  cases hlayout

/-- Either all statements have a layout, or there is a first one without. -/
theorem laidOut_or_first (statements : List Statement) :
    laidOut statements = statements ∨
      ∃ front node back, statements = front ++ Statement.unrendered node :: back ∧
        laidOut front = front := by
  induction statements with
  | nil => exact .inl rfl
  | cons statement rest ih =>
      cases statement with
      | unrendered node => exact .inr ⟨[], node, rest, rfl, rfl⟩
      | _ =>
          obtain hrest | ⟨front, node, back, rfl, hfront⟩ := ih
          · exact .inl (congrArg (_ :: ·) hrest)
          · exact .inr ⟨_ :: front, node, back, rfl, congrArg (_ :: ·) hfront⟩

theorem dropped_laidOut (statements : List Statement) : dropped (laidOut statements) = [] := by
  refine List.filterMap_eq_nil_iff.2 fun statement hmem => ?_
  cases statement with
  | unrendered node => exact (unrendered_not_mem_laidOut node statements hmem).elim
  | _ => rfl

theorem dropped_first {front : List Statement} (h : laidOut front = front) (node : Unrendered)
    (back : List Statement) : dropped (front ++ .unrendered node :: back) =
    node :: dropped back := by
  have hfront : dropped front = [] := h ▸ dropped_laidOut front
  rw [dropped, List.filterMap_append, ← dropped, hfront]
  rfl

end SqlLayout.Layout

namespace SqlLayout

open SqlLayout.Tree SqlLayout.Layout

theorem events_printStatements (settings : Settings) (statements : List Statement) :
    (printStatements settings statements).events.1 =
      (Layout.print settings.tabWidth settings.strict statements).mapError fun node =>
        .unrendered node.kind.upperCase node.sql := by
  unfold printStatements
  cases Layout.print settings.tabWidth settings.strict statements <;> rfl

theorem lenient_printStatements {settings : Settings} (h : settings.strict = false)
    (statements : List Statement) :
    (printStatements settings statements).events.1 =
      .ok (Layout.printStatements settings.tabWidth statements) := by
  rw [events_printStatements, h]
  rfl

theorem printStatements_laidOut (tabWidth : Nat) {statements others : List Statement}
    (h : laidOut others = laidOut statements) :
    Layout.printStatements tabWidth others = Layout.printStatements tabWidth statements := by
  rw [Layout.printStatements, Layout.printStatements, render_documentDoc, render_documentDoc, h]

theorem strict_printStatements_ok {settings : Settings} (h : settings.strict = true)
    {statements : List Statement} (hall : laidOut statements = statements) :
    (printStatements settings statements).events.1 =
      .ok (Layout.printStatements settings.tabWidth statements) := by
  have hnone : dropped statements = [] := hall ▸ dropped_laidOut statements
  rw [events_printStatements, h, Layout.print.eq_2 _ _ _ (by simp [hnone])]
  rfl

theorem strict_printStatements_error {settings : Settings} (h : settings.strict = true)
    {front : List Statement} (hfront : laidOut front = front) (node : Unrendered)
    (back : List Statement) :
    (printStatements settings (front ++ .unrendered node :: back)).events.1 =
      .error (.unrendered node.kind.upperCase node.sql) := by
  rw [events_printStatements, h, Layout.print.eq_1 _ _ _ _ (dropped_first hfront node back)]
  rfl

/-- A document prints as the texts that its statements have on their own.  Statements without a
layout change nothing; when the settings are strict, the first of them is the error. -/
theorem document_prints_statements (settings : Settings) (statements : List Statement)
    (hcomments : ∀ node, .comment node ∈ statements → ¬ BlankComment node) :
    (settings.strict = false →
      (printStatements settings statements).events.1 =
          .ok (if laidOut statements = [] then ""
            else pageText settings.tabWidth (laidOut statements) ++ "\n") ∧
        ∀ others, laidOut others = laidOut statements →
          (printStatements settings others).events.1 =
            (printStatements settings statements).events.1) ∧
    (settings.strict = true →
      ((∃ error, (printStatements settings statements).events.1 = .error error) ↔
        ∃ node, .unrendered node ∈ statements) ∧
      (∀ front node back, statements = front ++ .unrendered node :: back → laidOut front = front →
        (printStatements settings statements).events.1 =
          .error (.unrendered node.kind.upperCase node.sql)) ∧
      (laidOut statements = statements →
        (printStatements settings statements).events.1 =
          .ok (if statements = [] then "" else pageText settings.tabWidth statements ++
            "\n"))) := by
  refine ⟨fun hlenient => ⟨?_, fun others hothers => ?_⟩,
    fun hstrict => ⟨⟨?_, ?_⟩, ?_, fun hall => ?_⟩⟩
  · rw [lenient_printStatements hlenient, printStatements_eq settings.tabWidth hcomments]
  · rw [lenient_printStatements hlenient, lenient_printStatements hlenient,
      printStatements_laidOut _ hothers]
  · rintro ⟨error, herror⟩
    obtain hall | ⟨front, node, back, rfl, -⟩ := laidOut_or_first statements
    · rw [strict_printStatements_ok hstrict hall] at herror
      cases herror
    · exact ⟨node, List.mem_append_right _ List.mem_cons_self⟩
  · rintro ⟨node, hmem⟩
    obtain hall | ⟨front, node, back, rfl, hfront⟩ := laidOut_or_first statements
    · exact (unrendered_not_mem_laidOut node statements (hall.symm ▸ hmem)).elim
    · exact ⟨_, strict_printStatements_error hstrict hfront node back⟩
  · rintro front node back rfl hfront
    exact strict_printStatements_error hstrict hfront node back
  · rw [strict_printStatements_ok hstrict hall, printStatements_eq settings.tabWidth hcomments,
      hall]

/-- A comment, a statement without a layout, and two grants. -/
theorem document_prints_statements_grants :
    let grant : Grant := { verbatim := some "grant select on t to r" }
    let statements : List Statement :=
      [.comment { text := " -- access " }, .grant grant, .unrendered { kind := "use" },
        .grant grant]
    (∀ node, .comment node ∈ statements → ¬ BlankComment node) ∧
      (printStatements {} statements).events.1 =
        .ok "-- access\ngrant select on t to r;\ngrant select on t to r;\n" ∧
      (printStatements { strict := true } statements).events.1 = .error (.unrendered "USE" "") := by
  intro grant statements
  have hcomments : ∀ node, .comment node ∈ statements → ¬ BlankComment node := by
    intro node hmem hblank
    obtain rfl : node = { text := " -- access " } := by simpa [statements] using hmem
    exact absurd (hblank '-' (by simp)) (by decide)
  obtain ⟨hlenient, -⟩ := document_prints_statements {} statements hcomments
  obtain ⟨-, hstrict⟩ := document_prints_statements { strict := true } statements hcomments
  refine ⟨hcomments, (hlenient rfl).1.trans ?_, ?_⟩
  · decide +kernel
  · exact (hstrict rfl).2.1 [.comment { text := " -- access " }, .grant grant] { kind := "use" }
      [.grant grant] rfl rfl

end SqlLayout
