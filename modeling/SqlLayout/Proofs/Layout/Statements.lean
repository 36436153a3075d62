import SqlLayout.Proofs.Layout.Printed

/-!
# The printed texts of statements

Printed statements have a marker exactly when one of the texts that the printer takes from their
trees has one: keywords, signs and line breaks never make one, nor take one apart.
-/

namespace SqlLayout.Layout

open SqlLayout.Tree

/-! ## Texts of statements -/

/-- The printed texts of a column definition. -/
def columnDefTexts (column : ColumnDef) : List String :=
  [lowerIdentifier column.name] ++ (column.type.map typeTexts).getD [] ++
    optionalTexts column.default ++
    column.comment.toList ++ (column.references.map fun r => r.table :: r.columns).getD [] ++
    column.extraConstraints

/-- The printed texts of the refresh properties of a dynamic table. -/
def dynamicOptionsTexts (options : Placeholder.DynamicTable) : List String :=
  options.targetLag.toList ++ (nonEmpty options.refreshMode).toList ++
    (nonEmpty options.initialMode).toList ++ (nonEmpty options.warehouse).toList

/-- The printed texts of a created object. -/
def createTexts (node : Create) : List String :=
  match node.kind with
  | .schema => [node.target.qualifiedName]
  | .dynamicTable =>
    [viewName node.target] ++ (node.dynamicOptions.map dynamicOptionsTexts).getD [] ++
      optionalQueryTexts node.query
  | .view => [viewName node.target] ++ optionalQueryTexts node.query
  | .table =>
    [lowerName node.target] ++ (node.like.map TableRef.qualifiedName).toList ++
      (if node.columns.isEmpty then []
        else node.columns.flatMap columnDefTexts ++ node.primaryKey.map lowerIdentifier) ++
      optionalQueryTexts node.query

/-- The printed texts of an insertion. -/
def insertTexts (node : Insert) : List String :=
  [node.target.qualifiedName] ++ node.columns ++
    match node.query with
    | some query => queryTexts query
    | none => node.rows.flatMap exprsTexts

/-- The printed texts of an update. -/
def updateTexts (node : Update) : List String :=
  sourceTexts (.table node.target) ++
    (node.assignments.flatMap fun item => exprTexts item.column.expr ++ exprTexts item.value) ++
    sourcesTexts node.sources ++ optionalTexts node.filter

/-- The printed texts of a deletion. -/
def deleteTexts (node : Delete) : List String :=
  sourceTexts (.table node.target) ++ node.sources.flatMap sourceTexts ++ optionalTexts node.filter

/-- The printed texts of a grant. -/
def grantTexts (node : Grant) : List String :=
  match node.verbatim with
  | some text => [text]
  | none =>
    [grantPart node.privilege, grantPart node.onType, grantPart node.onName] ++
      (match nonEmpty node.inType with
        | some kind => [kind, grantPart node.inName]
        | none => []) ++
      [grantPart node.toType, grantPart node.toName]

/-- The printed texts of a statement; one without a layout has none. -/
def statementTexts : Statement → List String
  | .select query => queryTexts query
  | .create node => createTexts node
  | .insert node => insertTexts node
  | .update node => updateTexts node
  | .delete node => deleteTexts node
  | .grant node => grantTexts node
  | .comment node => [node.text]
  | .unrendered _ => []

/-! ## Layouts of statements -/

theorem attaches_terminator : Attaches terminator [] :=
  .of_trail (by decide)

theorem attaches_text {s : String} {lead : String} {parts : List String} (hlead : Fence lead.toList)
    (hs : Spells s.toList parts) : Attaches [.text (lead ++ s)] parts :=
  .of_fence (by simp [concatFlat, Doc.flat]) hlead hs

theorem attaches_option {α : Type} {f : α → Doc} {texts : α → List String}
    (h : ∀ x, Attaches [f x] (texts x)) (x : Option α) :
    Attaches (x.map f).toList ((x.map texts).getD []) := by
  cases x with
  | none => exact .nil
  | some x => exact h x

theorem exprDoc_spells (e : Expr) : Spells (exprDoc e).flat (exprTexts e) :=
  (exprShape_spells e).inline

theorem defaultDoc_spells (e : Expr) : Spells (defaultDoc e).flat (exprTexts e) := by
  unfold defaultDoc
  split
  · rename_i name args
    simp only [Doc.flat, String.toList_append]
    exact (spells_text name.upperCase).trail (by decide)
  · exact exprDoc_spells e

theorem attaches_flag (flag : Bool) {s : String} (h : Trail s.toList) :
    Attaches (if flag then [.text s] else []) [] := by
  cases flag with
  | false => exact .nil
  | true => exact .of_trail (by simpa [concatFlat, Doc.flat] using h)

theorem columnDefDoc_spells (column : ColumnDef) :
    Spells (columnDefDoc column).flat (columnDefTexts column) := by
  obtain ⟨name, type, primaryKey, notNull, default, comment, references, extra⟩ := column
  have hname : Spells (concatFlat [.text (lowerIdentifier name)]) [lowerIdentifier name] := by
    simpa [concatFlat, Doc.flat] using spells_text (lowerIdentifier name)
  have htype : Attaches (type.map fun type => Doc.text (" " ++ dataTypeText type)).toList
      ((type.map typeTexts).getD []) :=
    attaches_option (fun type => attaches_text (by decide) (spells_dataTypeText type)) type
  have hkey := attaches_flag primaryKey (show Trail " PRIMARY KEY".toList by decide)
  have hnull := attaches_flag notNull (show Trail " NOT NULL".toList by decide)
  have hcomment : Attaches (comment.map fun text =>
    Doc.text (" COMMENT " ++ quoteString text)).toList
      comment.toList := by
    cases comment with
    | none => exact .nil
    | some text => exact attaches_text (by decide) (spells_quoteString text)
  have hextra : Attaches (extra.map fun text => .text (" " ++ text)) extra := by
    induction extra with
    | nil => exact .nil
    | cons text rest ih => exact (attaches_text (by decide) (spells_text text)).append ih
  refine (((((((hname.attach htype).attach_plain hkey).attach_plain hnull).attach ?_).attach
    hcomment).attach ?_).attach hextra)
  · cases default with
    | none => exact .nil
    | some value =>
        refine .text (by decide) ?_
        simpa [concatFlat, optionalTexts] using defaultDoc_spells value
  · cases references with
    | none => exact .nil
    | some reference =>
        exact (attaches_text (by decide) (spells_text reference.table)).append
          (attaches_names (by decide) reference.columns)

theorem attaches_property {name : String} (hname : ¬ HasMarker name.toList) {f : String → String}
    (hf : ∀ text, Spells (f text).toList [text]) (value : Option String) :
    Attaches (propertyDoc name (value.map f)) value.toList := by
  cases value with
  | none => exact .nil
  | some text =>
      refine .line ?_
      simp only [concatFlat, Doc.flat, List.append_nil, String.toList_append, List.append_assoc]
      exact (spells_of_not_hasMarker hname).fence (by decide) (hf text)

theorem attaches_dynamicOptions (options : Placeholder.DynamicTable) :
    Attaches (dynamicOptionsDoc options) (dynamicOptionsTexts options) := by
  have hplain {name : String} (hname : ¬ HasMarker name.toList) (value : Option String) :
      Attaches (propertyDoc name value) value.toList := by
    simpa using attaches_property hname (f := id) spells_text value
  have hlag := attaches_property (show ¬ HasMarker "TARGET_LAG".toList by decide) spells_quoteString
    options.targetLag
  exact ((hlag.append (hplain (by decide) _)).append (hplain (by decide) _)).append
    (hplain (by decide) _)

theorem bodyDoc_spells (query : Option Query) :
    Spells (concatFlat (bodyDoc query)) (optionalQueryTexts query) := by
  cases query with
  | none => exact spells_nil
  | some query => simpa [bodyDoc, concatFlat, optionalQueryTexts] using queryDoc_spells query

theorem attaches_columnDefs (columns : List ColumnDef) (primaryKey : List String) :
    Attaches (columnDefsDoc columns primaryKey)
      (if columns.isEmpty then [] else columns.flatMap columnDefTexts ++
        primaryKey.map lowerIdentifier) := by
  cases columns with
  | nil => exact .nil
  | cons first rest =>
      have hline {start : String} (hstart : Lead start.toList) (column : ColumnDef) :
          Attaches [.hardline, .text start, columnDefDoc column] (columnDefTexts column) := by
        refine .line ?_
        simp only [concatFlat, Doc.flat, List.append_nil]
        exact (columnDefDoc_spells column).lead hstart
      have hcolumns := (hline (show Lead "  ".toList by decide) first).append
        (.flatMap fun column (_ : column ∈ rest) => hline (show Lead ", ".toList by decide) column)
      have hkey : Attaches (if primaryKey.isEmpty then [] else [.hardline,
        .text (", PRIMARY KEY (" ++
          ", ".intercalate (primaryKey.map lowerIdentifier) ++ ")")])
            (primaryKey.map lowerIdentifier) := by
        cases primaryKey with
        | nil => exact .nil
        | cons key keys =>
            exact .line (attaches_names (show Fence ", PRIMARY KEY (".toList by decide)
              ((key :: keys).map lowerIdentifier)).spells
      have hall := (hcolumns.append hkey).spells.trail (show Trail "\n)".toList by decide)
      refine .text (by decide) ?_
      simpa [concatFlat, Doc.flat, concatFlat_append] using hall

/-- The keywords before the name of a created object. -/
theorem createHead_lead (kind : ObjectKind) (replace ifNotExists : Bool) :
    Lead (concatFlat ([Doc.text "CREATE "] ++ (if replace then [Doc.text "OR REPLACE "] else []) ++
      [Doc.text (kind.keyword ++ " ")] ++
        (if ifNotExists then [Doc.text "IF NOT EXISTS "] else []))) := by
  cases kind <;> cases replace <;> cases ifNotExists <;> decide

theorem createDoc_spells (node : Create) : Spells (createDoc node).flat (createTexts node) := by
  obtain ⟨_, kind, target, replace, ifNotExists, columns, primaryKey, like, query, _, options⟩ :=
    node
  have hname (name : String) : Spells (concatFlat [.text name]) [name] := by
    simpa [concatFlat, Doc.flat] using spells_text name
  have hhead := createHead_lead kind replace ifNotExists
  rw [createDoc, Doc.flat, concatFlat_append]
  refine Spells.lead hhead ?_
  cases kind with
  | schema =>
      simp only [concatFlat, Doc.flat, List.append_nil]
      exact (spells_text target.qualifiedName).trail (by decide)
  | dynamicTable =>
      have hoptions : Attaches ((options.map dynamicOptionsDoc).getD [])
          ((options.map dynamicOptionsTexts).getD []) := by
        cases options with
        | none => exact .nil
        | some options => exact attaches_dynamicOptions options
      have hquery := ((hname (viewName target)).attach hoptions).between
        (show Fence (concatFlat [.hardline, .text "AS", .hardline]) by decide)
          (bodyDoc_spells query)
      exact hquery.attach_plain attaches_terminator
  | view =>
      have hquery := (hname (viewName target)).between
        (show Fence (concatFlat [.text " AS", .hardline]) by decide) (bodyDoc_spells query)
      exact hquery.attach_plain attaches_terminator
  | table =>
      refine ((((hname (lowerName target)).attach ?_).attach
        (attaches_columnDefs columns primaryKey)).attach ?_).attach_plain attaches_terminator
      · cases like with
        | none => exact .nil
        | some table => exact .text (by decide) (hname table.qualifiedName)
      · cases query with
        | none => exact .nil
        | some query =>
            exact .of_fence (by simp [concatFlat, Doc.flat]) (show Fence " AS\n".toList by decide)
              (queryDoc_spells query)

theorem attaches_insertColumns (columns : List String) (query : Option Query) :
    Attaches (insertColumnsDoc columns query) columns := by
  unfold insertColumnsDoc
  split
  · next hempty =>
      rw [List.isEmpty_iff.1 hempty]
      exact .nil
  · next hsome =>
      have hnames := attaches_names (show Fence " (".toList by decide) columns
      rw [if_neg hsome] at hnames
      split
      · exact hnames
      · have heach : SpellEach (columns.map Doc.text) columns := by
          simp [SpellEach, Doc.flat]
        have hlines := heach.join
          (show Fence (Doc.concat [.hardline, .text "    , "]).flat by decide)
        refine .of_fence ?_ (show Fence " (\n      ".toList by decide)
          (hlines.trail (show Trail "\n)".toList by decide))
        simp [concatFlat, Doc.flat]

theorem attaches_started {start : String} (hstart : Lead start.toList) {docs : List Doc}
    {parts : List String} (hdocs : Spells (concatFlat docs) parts) :
    Attaches ([Doc.hardline, .text start] ++ docs) parts :=
  .line (hdocs.lead hstart)

theorem attaches_rows (rows : List (List Expr)) :
    Attaches (rowsDoc rows) (rows.flatMap exprsTexts) := by
  have hrow (values : List Expr) :
      Spells (concatFlat [.text "(", .commas (exprDocs values), .text ")"])
        (exprsTexts values) := by
    simp only [concatFlat, Doc.flat, List.append_nil]
    exact (exprDocs_spells values).commas.enclose (by decide) (by decide)
  cases rows with
  | nil => exact .nil
  | cons first rest =>
      exact (attaches_started (by decide) (hrow first)).append
        (.flatMap fun values _ => attaches_started (by decide) (hrow values))

theorem insertDoc_spells (node : Insert) : Spells (insertDoc node).flat (insertTexts node) := by
  obtain ⟨_, target, columns, query, rows, overwrite⟩ := node
  have hhead : Spells (concatFlat
      [.text (if overwrite then "INSERT OVERWRITE INTO " else "INSERT INTO "),
        .text target.qualifiedName])
      [target.qualifiedName] := by
    simp only [concatFlat, Doc.flat, List.append_nil]
    exact (spells_text target.qualifiedName).lead (by cases overwrite <;> decide)
  refine ((hhead.attach (attaches_insertColumns columns query)).attach ?_).attach_plain
    attaches_terminator
  cases query with
  | none => exact attaches_rows rows
  | some query => exact .line (by simpa [concatFlat] using queryDoc_spells query)

theorem attaches_assignments (assignments : List Assignment) :
    Attaches (assignmentsDoc assignments)
      (assignments.flatMap fun item => exprTexts item.column.expr ++ exprTexts item.value) := by
  have hitem (item : Assignment) :
      Spells (concatFlat [exprDoc item.column.expr, .text " = ", exprDoc item.value])
        (exprTexts item.column.expr ++ exprTexts item.value) := by
    simp only [concatFlat, Doc.flat, List.append_nil]
    exact (exprDoc_spells item.column.expr).fence (by decide) (exprDoc_spells item.value)
  cases assignments with
  | nil => exact .nil
  | cons first rest =>
      exact (attaches_started (by decide) (hitem first)).append
        (.flatMap fun item _ => attaches_started (by decide) (hitem item))

theorem attaches_filter (filter : Option Expr) :
    Attaches (filterDoc filter) (optionalTexts filter) := by
  have hfilter := (optionalShape_spells filter).condition
    (show ¬ HasMarker "WHERE".toList by decide)
  cases filter <;> exact hfilter

theorem targetDoc_spells {keyword : String} (hkeyword : Lead keyword.toList) (target : TableRef) :
    Spells (concatFlat [.text keyword, sourceDoc (.table target)])
      (sourceTexts (.table target)) := by
  simp only [concatFlat, Doc.flat, List.append_nil]
  exact (sourceDoc_spells (.table target)).lead hkeyword

theorem updateDoc_spells (node : Update) : Spells (updateDoc node).flat (updateTexts node) := by
  obtain ⟨_, target, assignments, sources, filter⟩ := node
  have hsources := attaches_listClause (sourceDocs_spells sources)
    (show Lead "FROM ".toList by decide)
  exact ((((targetDoc_spells (by decide) target).attach (attaches_assignments assignments)).attach
    hsources).attach (attaches_filter filter)).attach_plain attaches_terminator

theorem deleteDoc_spells (node : Delete) : Spells (deleteDoc node).flat (deleteTexts node) := by
  obtain ⟨_, target, sources, filter⟩ := node
  have heach : SpellEach (sources.map sourceDoc) (sources.flatMap sourceTexts) := by
    induction sources with
    | nil => exact .nil
    | cons source rest ih => exact .cons (sourceDoc_spells source) ih
  have hsources := attaches_listClause heach (show Lead "USING ".toList by decide)
  exact (((targetDoc_spells (by decide) target).attach hsources).attach
    (attaches_filter filter)).attach_plain attaches_terminator

theorem grantText_spells (node : Grant) : Spells (grantText node).toList (grantTexts node) := by
  unfold grantText grantTexts
  cases node.verbatim with
  | some text =>
      dsimp only
      split
      · exact spells_text text
      · rw [String.toList_append]
        exact (spells_text text).trail (by decide)
  | none =>
      have hto := (spells_text (grantPart node.toType)).fence (show Fence " ".toList by decide)
        ((spells_text (grantPart node.toName)).trail (show Trail ";".toList by decide))
      have hon {text : List Char} {parts : List String}
          (htail : Spells ((grantPart node.onName).toList ++ text)
            (grantPart node.onName :: parts)) :
          Spells ("GRANT ".toList ++ ((grantPart node.privilege).toList ++ (" ON ".toList ++
            ((grantPart node.onType).toList ++
              (" ".toList ++ ((grantPart node.onName).toList ++ text))))))
            ([grantPart node.privilege, grantPart node.onType, grantPart node.onName] ++ parts) :=
        ((spells_text _).fence (by decide) ((spells_text _).fence (by decide) htail)).lead
          (by decide)
      cases nonEmpty node.inType with
      | none =>
          simp only [String.toList_append, List.append_assoc, String.toList_empty, List.nil_append]
          exact hon ((spells_text (grantPart node.onName)).fence (by decide) hto)
      | some kind =>
          simp only [String.toList_append, List.append_assoc]
          exact hon ((spells_text (grantPart node.onName)).fence (by decide)
            ((spells_text kind).fence (by decide)
              ((spells_text (grantPart node.inName)).fence (by decide) hto)))

theorem isGap_of_isBlank {c : Char} (h : Text.isBlank c = true) : IsGap c := by
  refine isGap_of_toNat ?_
  simp only [Text.isBlank, Text.blankRanges, Text.Ranges.has, List.any_cons, List.any_nil,
    Bool.or_eq_true, Bool.and_eq_true, decide_eq_true_eq, Bool.false_eq_true, or_false] at h
  omega

theorem isGap_of_isLineEnd {c : Char} (h : Text.isLineEnd c = true) : IsGap c := by
  refine isGap_of_toNat ?_
  simp only [Text.isLineEnd, Bool.or_eq_true, Bool.and_eq_true, decide_eq_true_eq, beq_iff_eq] at h
  omega

theorem hasMarker_strip (text : List Char) : HasMarker (Text.strip text) ↔ HasMarker text := by
  have hdrop : HasMarker (text.dropWhile Text.isBlank) ↔ HasMarker text := by
    induction text with
    | nil => rfl
    | cons c rest ih =>
        by_cases hc : Text.isBlank c = true
        · rw [List.dropWhile_cons_of_pos hc, ih, hasMarker_cons_gap (isGap_of_isBlank hc)]
        · rw [List.dropWhile_cons_of_neg hc]
  rw [Text.strip, Text.dropEndWhile, hasMarker_reverse_dropWhile fun _ => isGap_of_isBlank,
    List.reverse_reverse, hdrop]

theorem hasMarker_linesFrom (line text : List Char) :
    (∃ found ∈ Text.linesFrom line text, HasMarker found) ↔ HasMarker (line.reverse ++ text) := by
  fun_induction Text.linesFrom line text with
  | case1 line h => simp [List.isEmpty_iff.1 h, not_hasMarker_nil]
  | case2 line h => simp
  | case3 line rest ih =>
      rw [hasMarker_gap (by decide), hasMarker_cons_gap (by decide)]
      simp [ih]
  | case4 line c rest hne hend ih =>
      rw [hasMarker_gap (isGap_of_isLineEnd hend)]
      simp [ih]
  | case5 line c rest hne hend ih => simpa using ih

theorem commentDoc_spells (node : Comment) : Spells (commentDoc node).flat [node.text] := by
  have hlines := (hasMarker_linesFrom [] node.text.toList).trans (spells_text node.text)
  have heach : SpellEach ((Text.lines node.text.toList).filterMap fun line =>
      let stripped := Text.strip line
      if stripped.isEmpty then none else some (.text (String.ofList stripped))) [node.text] := by
    refine Iff.trans ?_ hlines
    constructor
    · rintro ⟨doc, hdoc, hmarker⟩
      obtain ⟨line, hline, hsome⟩ := List.mem_filterMap.1 hdoc
      dsimp only at hsome
      split at hsome
      · cases hsome
      · obtain rfl := Option.some.inj hsome
        rw [Doc.flat, String.toList_ofList, hasMarker_strip] at hmarker
        exact ⟨line, hline, hmarker⟩
    · rintro ⟨line, hline, hmarker⟩
      rw [← hasMarker_strip] at hmarker
      have hsome : ¬ (Text.strip line).isEmpty = true := by
        intro hempty
        rw [List.isEmpty_iff.1 hempty] at hmarker
        exact not_hasMarker_nil hmarker
      refine ⟨.text (String.ofList (Text.strip line)), ?_, ?_⟩
      · exact List.mem_filterMap.2 ⟨line, hline, if_neg hsome⟩
      · rwa [Doc.flat, String.toList_ofList]
  exact heach.join (by decide)

/-! ## Printed statements -/

/-- The layout of a statement is made of its printed texts. -/
theorem statementDoc_spells {statement : Statement} {doc : Doc}
    (h : statementDoc? statement = some doc) :
    Spells doc.flat (statementTexts statement) := by
  cases statement with
  | select query =>
      obtain rfl := Option.some.inj h
      have hselect := (queryDoc_spells query).attach_cons attaches_terminator
      rwa [List.append_nil] at hselect
  | create node => exact Option.some.inj h ▸ createDoc_spells node
  | insert node => exact Option.some.inj h ▸ insertDoc_spells node
  | update node => exact Option.some.inj h ▸ updateDoc_spells node
  | delete node => exact Option.some.inj h ▸ deleteDoc_spells node
  | grant node => exact Option.some.inj h ▸ grantText_spells node
  | comment node => exact Option.some.inj h ▸ commentDoc_spells node
  | unrendered node => cases h

theorem statementTexts_of_none {statement : Statement} (h : statementDoc? statement = none) :
    statementTexts statement = [] := by
  cases statement with
  | unrendered node => rfl
  | _ => cases h

theorem separator_fence (previous current : Statement) :
    Fence (concatFlat (separator previous current)) := by
  unfold separator
  split <;> decide

theorem attaches_documentItems (previous : Statement) (statements : List Statement) :
    Attaches (documentItems (some previous) statements) (statements.flatMap statementTexts) := by
  induction statements generalizing previous with
  | nil => exact .nil
  | cons statement rest ih =>
      rw [documentItems, List.flatMap_cons]
      cases hdoc : statementDoc? statement with
      | none =>
          rw [statementTexts_of_none hdoc]
          exact ih previous
      | some doc =>
          have hitems := (statementDoc_spells hdoc).attach_cons (ih statement)
          exact .of_fence (concatFlat_append _ _) (separator_fence previous statement) hitems

theorem documentDoc_spells (statements : List Statement) :
    Spells (documentDoc statements).flat (statements.flatMap statementTexts) := by
  rw [documentDoc, Doc.flat]
  induction statements with
  | nil => exact spells_nil
  | cons statement rest ih =>
      rw [documentItems, List.flatMap_cons]
      cases hdoc : statementDoc? statement with
      | none =>
          rw [statementTexts_of_none hdoc]
          exact ih
      | some doc =>
          exact (statementDoc_spells hdoc).attach_cons (attaches_documentItems statement rest)

/-- Printed statements have a marker exactly when one of their printed texts has one. -/
theorem hasMarker_printStatements (tabWidth : Nat) (statements : List Statement) :
    HasMarker (printStatements tabWidth statements).toList ↔
      ∃ statement ∈ statements, ∃ text ∈ statementTexts statement, HasMarker text.toList := by
  have hdocument : HasMarker ((documentDoc statements).render tabWidth).toList ↔
      ∃ statement ∈ statements, ∃ text ∈ statementTexts statement, HasMarker text.toList := by
    rw [hasMarker_render]
    refine (documentDoc_spells statements).trans ?_
    simp only [List.mem_flatMap]
    constructor
    · rintro ⟨text, ⟨statement, hstatement, htext⟩, hmarker⟩
      exact ⟨statement, hstatement, text, htext, hmarker⟩
    · rintro ⟨statement, hstatement, text, htext, hmarker⟩
      exact ⟨text, ⟨statement, hstatement, htext⟩, hmarker⟩
  unfold printStatements
  dsimp only
  split
  · next hempty =>
      rw [← hdocument, String.isEmpty_iff.1 hempty]
  · rw [← hdocument, String.toList_append]
    have hbreak := hasMarker_gap (c := '\n') (by decide)
      ((documentDoc statements).render tabWidth).toList []
    rw [or_iff_left not_hasMarker_nil] at hbreak
    exact hbreak

end SqlLayout.Layout
