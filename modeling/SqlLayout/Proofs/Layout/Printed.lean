import SqlLayout.Layout.Statement
import SqlLayout.Proofs.Layout.Marker
import SqlLayout.Proofs.Text.Letters

/-!
# The printed texts of a tree

The printer puts names, literals and raw texts of a tree on the page, each between blanks, brackets
and other signs.  This module lists those texts and shows that the layout of a tree has a marker
exactly when one of them has one.

## Implementation notes

The lists follow the printer: what it leaves out (the arguments of a bare call, a grouping next to a
grouping by all columns, an operand without an operator) is left out here too, and names are in the
letter case in which they are printed.
-/

namespace SqlLayout.Layout

open SqlLayout.Tree

/-! ## Texts -/

/-- The texts of a data type. -/
def typeTexts (type : DataType) : List String :=
  type.name.upperCase ::
    match type.length, type.scale with
    | some length, some scale => [length, scale]
    | some length, none => [length]
    | none, _ => []

/-- The texts after the name of a table source. -/
def tailTexts (label pivot : Option String) : List String :=
  (nonEmpty label).toList ++ (nonEmpty pivot).toList

mutual

/-- The printed texts of an expression. -/
def exprTexts : Expr → List String
  | .column name qualifier quoted =>
    (nonEmpty qualifier).toList ++ [if quoted then name else name.lowerCase]
  | .literal value _ => [value]
  | .star qualifier => (nonEmpty qualifier).toList
  | .call name args bare => name.upperCase :: if bare then [] else exprsTexts args
  | .aggregate name argument _ => name.upperCase :: optionalTexts argument
  | .index base _ => exprTexts base
  | .binary operator left right => exprTexts left ++ operator :: exprTexts right
  | .unary operator operand => operator :: exprTexts operand
  | .paren inner => exprTexts inner
  | .between subject low high _ => exprTexts subject ++ (exprTexts low ++ exprTexts high)
  | .inList subject values _ => exprTexts subject ++ exprsTexts values
  | .inQuery subject query _ => exprTexts subject ++ queryTexts query
  | .isNull subject _ => exprTexts subject
  | .existsIn query _ => queryTexts query
  | .caseOf operand branches otherwise =>
    optionalTexts operand ++ (branchesTexts branches ++ optionalTexts otherwise)
  | .cast operand type _ _ => exprTexts operand ++ typeTexts type
  | .window function partition order frame =>
    exprTexts function ++ (exprsTexts partition ++ (ordersTexts order ++ (nonEmpty frame).toList))
  | .subquery query => queryTexts query
  | .raw sql => [sql]

/-- The printed texts of expressions. -/
def exprsTexts : List Expr → List String
  | [] => []
  | e :: rest => exprTexts e ++ exprsTexts rest

/-- The printed texts of an expression that may be missing. -/
def optionalTexts : Option Expr → List String
  | none => []
  | some e => exprTexts e

/-- The printed texts of the branches of a case expression. -/
def branchesTexts : List Branch → List String
  | [] => []
  | .mk condition result :: rest => (exprTexts condition ++ exprTexts result) ++ branchesTexts rest

/-- The printed texts of the keys of an ordering. -/
def ordersTexts : List OrderItem → List String
  | [] => []
  | .mk key _ _ :: rest => exprTexts key ++ ordersTexts rest

/-- The printed texts of projected columns. -/
def itemsTexts : List SelectItem → List String
  | [] => []
  | .mk value label :: rest => (exprTexts value ++ (nonEmpty label).toList) ++ itemsTexts rest

/-- The printed texts of the entries of a FROM list. -/
def sourcesTexts : List Source → List String
  | [] => []
  | .table table :: rest =>
    (lowerName table :: tailTexts table.label table.pivot) ++ sourcesTexts rest
  | .derived label pivot query :: rest =>
    (queryTexts query ++ tailTexts label pivot) ++ sourcesTexts rest

/-- The printed texts of a table source on its own. -/
def sourceTexts : Source → List String
  | .table table => table.qualifiedName :: tailTexts table.label table.pivot
  | .derived label pivot query => queryTexts query ++ tailTexts label pivot

/-- The printed texts of joins. -/
def joinsTexts : List Join → List String
  | [] => []
  | .mk keyword source condition shared :: rest =>
    (keyword :: (sourceTexts source ++ if condition.isSome then optionalTexts condition
      else shared)) ++
      joinsTexts rest

/-- The printed texts of named queries. -/
def ctesTexts : List Cte → List String
  | [] => []
  | .mk name columns query :: rest => (name :: (columns ++ queryTexts query)) ++ ctesTexts rest

/-- The printed texts of a query. -/
def queryTexts : Query → List String
  | { arrayAccesses := _, ctes, distinct := _, columns, sources, joins, filter, groupBy, groupByAll,
      having, qualify, orderBy, limit, offset, setOperator, next } =>
    ctesTexts ctes ++ itemsTexts columns ++ sourcesTexts sources ++ joinsTexts joins ++
      optionalTexts filter ++ (if groupByAll then [] else exprsTexts groupBy) ++
        optionalTexts having ++
      optionalTexts qualify ++ ordersTexts orderBy ++ optionalTexts limit ++ optionalTexts offset ++
      match nonEmpty setOperator with
      | some operator => if next.isSome then operator :: optionalQueryTexts next else []
      | none => []

/-- The printed texts of a query that may be missing. -/
def optionalQueryTexts : Option Query → List String
  | none => []
  | some query => queryTexts query

end

/-! ## Rows -/

theorem spells_row {doc : Doc} {parts : List String} :
    Spells (concatFlat [doc]) parts ↔ Spells doc.flat parts := by
  rw [concatFlat, concatFlat, List.append_nil]

namespace Spells

variable {doc : Doc} {docs : List Doc} {sign : String} {parts left right : List String}

theorem word (s : String) : Spells (Doc.text s).flat [s] :=
  spells_text s

/-- A sign before the documents of a row. -/
theorem row_lead (hdocs : Spells (concatFlat docs) parts) (hsign : Lead sign.toList) :
    Spells (concatFlat (.text sign :: docs)) parts :=
  hdocs.lead hsign

/-- A sign behind a document. -/
theorem row_trail (hdoc : Spells doc.flat parts) (hsign : Trail sign.toList) :
    Spells (concatFlat [doc, .text sign]) parts := by
  simp only [concatFlat, Doc.flat, List.append_nil]
  exact hdoc.trail hsign

/-- A document between two signs. -/
theorem row_enclose {closing : String} (hdoc : Spells doc.flat parts) (hsign : Lead sign.toList)
    (hclosing : Trail closing.toList) :
    Spells (concatFlat [.text sign, doc, .text closing]) parts :=
  (hdoc.row_trail hclosing).row_lead hsign

/-- A document, a sign and the rest of a row. -/
theorem row_fence (hdoc : Spells doc.flat left) (hsign : Fence sign.toList)
    (hdocs : Spells (concatFlat docs) right) :
    Spells (concatFlat (doc :: .text sign :: docs)) (left ++ right) :=
  hdoc.fence hsign hdocs

/-- A document, and a text that begins with a sign. -/
theorem row_text {text : String} (hdoc : Spells doc.flat left) (hsign : Fence sign.toList)
    (htext : Spells text.toList right) :
    Spells (concatFlat [doc, .text (sign ++ text)]) (left ++ right) := by
  simp only [concatFlat, Doc.flat, List.append_nil, String.toList_append]
  exact hdoc.fence hsign htext

end Spells

/-! ## Signs and names -/

theorem not_hasMarker_index (index : Nat) : ¬ HasMarker (toString index).toList := by
  refine not_hasMarker_of_isGap fun c hc => ?_
  obtain ⟨-, hhigh⟩ := Text.code_of_toString index c hc
  exact isGap_of_toNat (.inl (Nat.lt_of_le_of_lt hhigh (by decide)))

/-- The index of a call in its brackets. -/
theorem trail_index (index : Nat) : Trail ("[" ++ toString index ++ "]").toList := by
  have hindex := (spells_of_not_hasMarker (not_hasMarker_index index)).enclose
    (show Lead "[".toList by decide) (show Trail "]".toList by decide)
  rw [String.append_assoc, String.toList_append, String.toList_append]
  refine ⟨fun c hc => ?_, by simpa [Spells] using hindex⟩
  obtain rfl := Option.some.inj hc
  decide

theorem spells_qualified (qualifier : Option String) (name : String) :
    Spells (match nonEmpty qualifier with
      | some table => table ++ "." ++ name
      | none => name).toList ((nonEmpty qualifier).toList ++ [name]) := by
  cases nonEmpty qualifier with
  | none => exact spells_text name
  | some table =>
      simp only [String.toList_append, List.append_assoc]
      exact (spells_text table).fence (by decide) (spells_text name)

theorem spells_allColumns (qualifier : Option String) :
    Spells (match nonEmpty qualifier with
      | some table => table ++ ".*"
      | none => "*").toList (nonEmpty qualifier).toList := by
  cases nonEmpty qualifier with
  | none => exact spells_of_not_hasMarker (by decide)
  | some table =>
      rw [String.toList_append]
      exact (spells_text table).trail (by decide)

theorem spells_quoteString (value : String) : Spells (quoteString value).toList [value] := by
  have hdoubled (front text : List Char) :
      HasMarker (front ++ text.flatMap fun c => if c == '\x27' then [c, c] else [c]) ↔
        HasMarker (front ++ text) := by
    induction text generalizing front with
    | nil => rfl
    | cons c rest ih =>
        by_cases hc : c = '\x27'
        · have hgap : IsGap c := hc ▸ by decide
          simp only [List.flatMap_cons, hc, beq_self_eq_true, if_true, List.cons_append,
            List.nil_append]
          rw [hasMarker_gap (by decide), hasMarker_gap (by decide), hasMarker_cons_gap (by decide)]
          exact or_congr_right (ih [])
        · simpa [hc] using ih (front ++ [c])
  have hinner : Spells (value.toList.flatMap fun c => if c == '\x27' then [c, c]
      else [c]) [value] :=
    (hdoubled [] value.toList).trans (spells_text value)
  simp only [quoteString, String.toList_append, String.toList_ofList]
  exact (hinner.lead (by decide)).trail (by decide)

theorem spells_intercalate {separator : String} (h : Fence separator.toList) (parts : List String) :
    Spells (separator.intercalate parts).toList parts := by
  induction parts with
  | nil => exact spells_nil
  | cons part rest ih =>
      cases rest with
      | nil => simpa using spells_text part
      | cons next rest =>
          rw [String.intercalate_cons_cons, String.toList_append, String.toList_append,
            List.append_assoc]
          exact (spells_text part).fence h ih

theorem attaches_names {opening : String} (h : Fence opening.toList) (names : List String) :
    Attaches (if names.isEmpty then [] else [.text (opening ++ ", ".intercalate names ++ ")")])
      names := by
  cases names with
  | nil => exact .nil
  | cons first rest =>
      have hnames := (spells_intercalate (show Fence ", ".toList by decide) (first :: rest)).trail
        (show Trail ")".toList by decide)
      exact .of_fence (by simp [concatFlat, Doc.flat]) h hnames

theorem spells_dataTypeText (type : DataType) :
    Spells (dataTypeText type).toList (typeTexts type) := by
  obtain ⟨name, length, scale⟩ := type
  have hname := spells_text name.upperCase
  cases length with
  | none => simpa [dataTypeText, typeTexts] using hname
  | some length =>
      cases scale with
      | none =>
          simp only [dataTypeText, String.toList_append, List.append_assoc]
          exact hname.fence (by decide) ((spells_text length).trail (by decide))
      | some scale =>
          simp only [dataTypeText, String.toList_append, List.append_assoc]
          exact hname.fence (by decide)
            ((spells_text length).fence (by decide) ((spells_text scale).trail (by decide)))

theorem attaches_label {lead : String} (h : Fence lead.toList) (label : Option String) :
    Attaches ((nonEmpty label).map fun text => .text (lead ++ text)).toList
      (nonEmpty label).toList := by
  cases nonEmpty label with
  | none => exact .nil
  | some text => exact .of_fence (by simp [concatFlat, Doc.flat]) h (spells_text text)

theorem attaches_tableTail (label pivot : Option String) :
    Attaches (tableTail label pivot) (tailTexts label pivot) := by
  refine (attaches_label (by decide) label).append ?_
  cases nonEmpty pivot with
  | none => exact .nil
  | some text => exact .line (by simpa [concatFlat, Doc.flat] using spells_text text)

theorem attaches_orderTail (descending : Option Bool) (nulls : Option NullsPlace) :
    Attaches (orderTail descending nulls) [] := by
  have hdescending : ∀ descending, Attaches (orderTail descending none) [] := by
    rintro (_ | _ | _)
    · exact .nil
    · exact .of_trail (by decide)
    · exact .of_trail (by decide)
  have hnulls : ∀ nulls, Attaches (orderTail none nulls) [] := by
    rintro (_ | _ | _)
    · exact .nil
    · exact .of_trail (by decide)
    · exact .of_trail (by decide)
  simpa [orderTail] using (hdescending descending).append (hnulls nulls)

/-! ## Shapes -/

/-- Both layouts of an expression are made of the same parts. -/
structure ShapeSpells (shape : Shape) (parts : List String) : Prop where
  inline : Spells shape.inline.flat parts
  plain : ∀ operand ∈ shape.operands, ¬ HasMarker operand.1.toList
  operands : SpellEach (shape.operands.map Prod.snd) parts

theorem ShapeSpells.single {docs : List Doc} {parts : List String}
    (h : Spells (concatFlat docs) parts) :
    ShapeSpells (.single docs) parts where
  inline := h
  plain := by simp [Shape.single, not_hasMarker_nil]
  operands := SpellEach.singleton.2 h

theorem map_snd_chainOperands (operator : String) (left right : List (String × Doc)) :
    (chainOperands operator left right).map Prod.snd = left.map Prod.snd ++ right.map Prod.snd := by
  rcases right with _ | ⟨⟨_, first⟩, rest⟩ <;> simp [chainOperands]

theorem fst_of_mem_chainOperands {operator : String} {left right : List (String × Doc)}
    {p : String × Doc} (h : p ∈ chainOperands operator left right) :
    p ∈ left ∨ p.1 = operator ∨ p ∈ right := by
  unfold chainOperands at h
  rw [List.mem_append] at h
  refine h.imp_right fun h => ?_
  cases right with
  | nil => cases h
  | cons first rest =>
      rcases List.mem_cons.1 h with rfl | h
      · exact .inl rfl
      · exact .inr (List.mem_cons_of_mem _ h)

theorem not_hasMarker_of_isChainOperator {operator : String} (h : isChainOperator operator = true) :
    ¬ HasMarker operator.toList := by
  rw [isChainOperator, Bool.or_eq_true, beq_iff_eq, beq_iff_eq] at h
  rcases h with rfl | rfl <;> decide

theorem ShapeSpells.binary {operator : String} {left right : Shape} {front back : List String}
    (hleft : ShapeSpells left front) (hright : ShapeSpells right back) :
    ShapeSpells (binaryShape operator left right) (front ++ operator :: back) := by
  have hinline : Spells (binaryShape operator left right).inline.flat
      (front ++ operator :: back) := by
    simp only [binaryShape, Doc.flat, concatFlat, String.toList_append, List.append_nil,
      List.append_assoc]
    exact hleft.inline.fence (by decide) ((spells_text operator).fence (by decide) hright.inline)
  by_cases hchain : isChainOperator operator = true
  · have hplain := not_hasMarker_of_isChainOperator hchain
    refine ⟨hinline, ?_, ?_⟩
    · intro p hp
      simp only [binaryShape, hchain, if_true] at hp
      rcases fst_of_mem_chainOperands hp with h | h | h
      · exact hleft.plain p h
      · rwa [h]
      · exact hright.plain p h
    · simp only [binaryShape, hchain, if_true, map_snd_chainOperands]
      refine (hleft.operands.append hright.operands).trans ?_
      simp [or_and_right, exists_or, hplain]
  · have hshape : binaryShape operator left right =
        .single [left.inline, .text (" " ++ operator ++ " "), right.inline] := by
      simp [binaryShape, hchain, Shape.single]
    rw [hshape] at hinline ⊢
    exact .single hinline

theorem ShapeSpells.condition {shape : Shape} {parts : List String} (h : ShapeSpells shape parts) :
    GapFirst (conditionDoc shape).flat ∧ Spells (conditionDoc shape).flat parts := by
  obtain ⟨inline, operands⟩ := shape
  obtain ⟨-, hplain, hoperands⟩ := h
  cases operands with
  | nil =>
      obtain ⟨hfirst, hspells⟩ := hoperands.attaches_nil
      exact ⟨hfirst, hspells⟩
  | cons first rest =>
      have hfirst : Attaches [.text " ", first.2] [String.ofList first.2.flat] :=
        .text (by decide) (by simpa [concatFlat] using spells_self first.2)
      have hrest : ∀ p ∈ rest, Attaches [.hardline, .text "  ", .text p.1, .text " ", p.2]
          [String.ofList p.2.flat] := by
        intro p hp
        have hp := spells_of_not_hasMarker (hplain p (List.mem_cons_of_mem _ hp))
        have hoperator : Spells (Doc.text p.1).flat [] := hp
        exact .line ((hoperator.row_fence (by decide) (spells_row.2 (spells_self p.2))).row_lead
          (by decide))
      have hall := (hfirst.append (.flatMap hrest)).congr (Iff.trans ?_ hoperands)
      · exact ⟨hall.first, hall.spells⟩
      · simp [-Prod.exists]

/-! ## Composed layouts -/

theorem spells_nestedDoc {query : Doc} {parts : List String} (h : Spells query.flat parts) :
    Spells (Doc.concat (nestedDoc query)).flat parts := by
  simp only [nestedDoc, concatFlat, Doc.flat, List.append_nil, List.append_assoc]
  exact h.enclose (by decide) (by decide)

theorem spells_aggregate (name : String) (distinct : Bool) {argument : Option Doc}
    {parts : List String} (hargument : SpellEach argument.toList parts) :
    Spells (concatFlat ([Doc.text name.upperCase, .text "("] ++
      (if distinct then [Doc.text "DISTINCT "] else []) ++ argument.toList ++ [Doc.text ")"]))
      (name.upperCase :: parts) := by
  have hdistinct : Lead (concatFlat (if distinct then [Doc.text "DISTINCT "] else [])) := by
    cases distinct <;> decide
  have hbrackets := hargument.optional.enclose hdistinct (show Trail ")".toList by decide)
  simp only [concatFlat_append, concatFlat, Doc.flat, List.append_nil, List.append_assoc]
  exact (spells_text name.upperCase).fence (by decide) hbrackets

theorem spells_castCall (safe : Bool) {operand : Doc} {parts : List String}
    (hoperand : Spells operand.flat parts) (type : DataType) :
    Spells (concatFlat [.text (if safe then "TRY_CAST(" else "CAST("), operand,
      .text (" AS " ++ dataTypeText type ++ ")")]) (parts ++ typeTexts type) := by
  have htype : Spells (dataTypeText type ++ ")").toList (typeTexts type) := by
    rw [String.toList_append]
    exact (spells_dataTypeText type).trail (by decide)
  rw [String.append_assoc]
  exact (hoperand.row_text (by decide) htype).row_lead (by cases safe <;> decide)

/-- Documents after a keyword, each further one on a line that begins with the given text. -/
def continued (start : String) : List Doc → List Doc
  | [] => []
  | first :: rest => [.text " ", first] ++ rest.flatMap fun doc => [.hardline, .text start, doc]

theorem attaches_continued {start : String} (hstart : Lead start.toList) {docs : List Doc}
    {parts : List String} (hdocs : SpellEach docs parts) :
    Attaches (continued start docs) parts := by
  cases docs with
  | nil => exact hdocs.attaches_nil
  | cons first rest =>
      exact hdocs.lines (by decide) fun doc texts hdoc =>
        .line ((spells_row.2 hdoc).row_lead hstart)

theorem attaches_columns {columns : List Doc} {parts : List String} (h : SpellEach columns parts) :
    Attaches (columnsDoc columns) parts := by
  have heq : columnsDoc columns = continued columnContinuation columns := by
    cases columns <;> rfl
  rw [heq]
  exact attaches_continued (by decide) h

theorem caseDoc_eq (operand : Option Doc) (branches : List Doc) (otherwise : Option Doc) :
    caseDoc operand branches otherwise =
      let head := Doc.concat (.text "CASE" :: continued "" operand.toList)
      let parts := branches ++ (otherwise.map fun doc => Doc.concat [.text "ELSE ", doc]).toList
      if branches.length == 1 && otherwise.isSome then [head, .text " ", .join (.text " ") parts,
        .text " END"]
      else [head] ++ continued caseContinuation parts ++
        [Doc.hardline, .text caseContinuation, .text "END"] := by
  have hlines : ∀ docs : List Doc, continued caseContinuation docs = match docs with
      | [] => []
      | first :: rest =>
        [Doc.text " ", first] ++ rest.flatMap fun part =>
          [.hardline, .text caseContinuation, part] := by
    intro docs
    cases docs <;> rfl
  simp only [hlines]
  cases operand <;> rfl

theorem spells_caseDoc {operand otherwise : Option Doc} {branches : List Doc}
    {first middle last : List String} (hoperand : SpellEach operand.toList first)
    (hbranches : SpellEach branches middle) (hotherwise : SpellEach otherwise.toList last) :
    Spells (concatFlat (caseDoc operand branches otherwise)) (first ++ (middle ++ last)) := by
  have hcase : Spells (concatFlat [.text "CASE"]) [] := spells_of_not_hasMarker (by decide)
  have hhead := hcase.attach (attaches_continued (show Lead "".toList by decide) hoperand)
  have helse : SpellEach (otherwise.map fun doc => Doc.concat [.text "ELSE ", doc]).toList
      last := by
    cases otherwise with
    | none => exact hotherwise
    | some doc =>
        exact SpellEach.singleton.2
          ((spells_row.2 (SpellEach.singleton.1 hotherwise)).row_lead (by decide))
  have hparts := hbranches.append helse
  rw [caseDoc_eq]
  split
  · have hjoin := (hparts.join (show Fence (Doc.text " ").flat by decide)).trail
      (show Trail " END".toList by decide)
    have hline := hhead.fence (show Fence " ".toList by decide) hjoin
    simpa [concatFlat, Doc.flat] using hline
  · have hlines := attaches_continued (show Lead caseContinuation.toList by decide) hparts
    have hend : Attaches [.hardline, .text caseContinuation, .text "END"] [] :=
      .of_trail (by decide)
    simpa [concatFlat, Doc.flat, concatFlat_append] using (hhead.attach hlines).attach hend

theorem spellEach_listed {docs : List Doc} {parts : List String} (hdocs : SpellEach docs parts)
    {keyword : String} (hkeyword : Lead keyword.toList) :
    SpellEach (if docs.isEmpty then [] else [.concat [.text keyword, .commas docs]]) parts := by
  cases docs with
  | nil => exact hdocs
  | cons first rest =>
      exact SpellEach.singleton.2 ((spells_row.2 hdocs.commas).row_lead hkeyword)

theorem spells_windowDoc {function : Doc} {partition order : List Doc} (frame : Option String)
    {first keys sorted : List String} (hfunction : Spells function.flat first)
    (hpartition : SpellEach partition keys) (horder : SpellEach order sorted) :
    Spells (concatFlat (windowDoc function partition order frame))
      (first ++ (keys ++ (sorted ++ (nonEmpty frame).toList))) := by
  have hframe : SpellEach ((nonEmpty frame).map Doc.text).toList (nonEmpty frame).toList := by
    cases nonEmpty frame with
    | none => exact .nil
    | some text => exact SpellEach.singleton.2 (spells_text text)
  have hkeys := spellEach_listed hpartition (show Lead "PARTITION BY ".toList by decide)
  have hsorted := spellEach_listed horder (show Lead "ORDER BY ".toList by decide)
  have hparts := ((hkeys.append hsorted).append hframe).join
    (show Fence (Doc.text " ").flat by decide)
  have hwindow := hfunction.fence (show Fence " OVER (".toList by decide)
    (hparts.trail (show Trail ")".toList by decide))
  simpa [windowDoc, concatFlat, Doc.flat] using hwindow

theorem attaches_listClause {docs : List Doc} {parts : List String} (hdocs : SpellEach docs parts)
    {keyword : String} (hkeyword : Lead keyword.toList) :
    Attaches (listClause keyword docs) parts := by
  cases docs with
  | nil => exact hdocs.attaches_nil
  | cons first rest =>
      exact .line ((spells_row.2 hdocs.commas).row_lead hkeyword)

theorem attaches_optionalClause {body : Option Doc} {parts : List String}
    (hbody : SpellEach body.toList parts) {keyword : String} (hkeyword : ¬ HasMarker keyword.toList)
    (hgap : GapLast keyword.toList ∨ ∀ doc ∈ body, GapFirst doc.flat) :
    Attaches (optionalClause keyword body) parts := by
  cases body with
  | none => exact hbody.attaches_nil
  | some doc =>
      refine .line ?_
      simp only [concatFlat, Doc.flat, List.append_nil]
      exact (spells_of_not_hasMarker hkeyword).append (SpellEach.singleton.1 hbody)
        (hgap.imp_right fun h => h doc rfl)

/-- The WITH block ends with a line break, so any keyword can follow it. -/
theorem spells_withDoc {ctes : List Doc} {parts : List String} (hctes : SpellEach ctes parts)
    {keyword : String} (hkeyword : ¬ HasMarker keyword.toList) :
    Spells (concatFlat (withDoc ctes ++ [Doc.text keyword])) parts := by
  have hselect := spells_of_not_hasMarker hkeyword
  rw [concatFlat_append]
  cases ctes with
  | nil =>
      have hall := hctes.attaches_nil.spells.append hselect (.inl (by decide))
      simpa [withDoc, concatFlat, Doc.flat] using hall
  | cons first rest =>
      have hlines : Attaches ([.text "WITH ", first] ++
          rest.flatMap fun cte => [.hardline, .text ", ", cte]) parts := by
        exact hctes.lines (by decide) fun cte texts hcte =>
          .line ((spells_row.2 hcte).row_lead (by decide))
      have hall := hlines.spells.fence (show Fence ['\n'] by decide) hselect
      simpa [withDoc, concatFlat, Doc.flat] using hall

/-- A shape that may be missing, with its parts. -/
inductive OptionalSpells : Option Shape → List String → Prop
  | none : OptionalSpells none []
  | some {shape : Shape} {parts : List String} (h : ShapeSpells shape parts) :
      OptionalSpells (some shape) parts

namespace OptionalSpells

variable {shape : Option Shape} {parts : List String}

theorem inline (h : OptionalSpells shape parts) :
    SpellEach (shape.map Shape.inline).toList parts := by
  cases h with
  | none => exact .nil
  | some h => exact SpellEach.singleton.2 h.inline

theorem condition (h : OptionalSpells shape parts) {keyword : String}
    (hkeyword : ¬ HasMarker keyword.toList) :
    Attaches (optionalClause keyword (shape.map conditionDoc)) parts := by
  cases h with
  | none => exact .nil
  | some h =>
      obtain ⟨hgap, hspells⟩ := h.condition
      refine attaches_optionalClause ?_ hkeyword (.inr ?_)
      · exact SpellEach.singleton.2 hspells
      · rintro doc ⟨⟩
        exact hgap

theorem clause (h : OptionalSpells shape parts) {keyword : String}
    (hkeyword : Lead keyword.toList) :
    Attaches (optionalClause keyword (shape.map Shape.inline)) parts :=
  attaches_optionalClause h.inline hkeyword.2 (.inl hkeyword.1)

end OptionalSpells

theorem attaches_joins {joins : List Doc} {parts : List String} (h : SpellEach joins parts) :
    Attaches (joins.flatMap fun join => [.hardline, join]) parts := by
  refine h.flatMap fun join texts hjoin => .line ?_
  simpa only [concatFlat, List.append_nil] using hjoin

theorem attaches_grouping {keys : List Doc} {parts : List String} (h : SpellEach keys parts)
    (all : Bool) :
    Attaches (if all then [.hardline, .text "GROUP BY ALL"] else listClause "GROUP BY " keys)
      (if all then [] else parts) := by
  cases all with
  | true => exact .of_trail (show Trail "\nGROUP BY ALL".toList by decide)
  | false => exact attaches_listClause h (by decide)

/-! ## Expressions and queries -/

theorem spells_tableDoc (name : String) (table : TableRef) :
    Spells (tableDoc name table).flat (name :: tailTexts table.label table.pivot) := by
  have hname : Spells (Doc.text name).flat [name] := spells_text name
  exact hname.attach_cons (attaches_tableTail table.label table.pivot)

theorem spells_derived {query : Doc} {parts : List String} (h : Spells query.flat parts)
    (label pivot : Option String) :
    Spells (Doc.concat ([Doc.text "(", .concat (nestedDoc query), .text ")"] ++
      tableTail label pivot)).flat
      (parts ++ tailTexts label pivot) := by
  exact ((spells_nestedDoc h).row_enclose (by decide) (by decide)).attach
    (attaches_tableTail label pivot)

theorem spells_joined {keyword : String} {source : Doc} {parts : List String}
    (hsource : Spells source.flat parts) {docs : List Doc} {texts : List String}
    (hdocs : Attaches docs texts) :
    Spells (Doc.concat ([.text keyword, .text " ", source] ++ docs)).flat
      (keyword :: (parts ++ texts)) := by
  have hhead : Spells (concatFlat [.text keyword, .text " ", source]) (keyword :: parts) :=
    (Spells.word keyword).row_fence (by decide) (spells_row.2 hsource)
  exact hhead.attach hdocs

theorem spells_cte (name : String) (columns : List String) {query : Doc} {parts : List String}
    (hquery : Spells query.flat parts) :
    Spells (Doc.concat ([Doc.text name] ++
      (if columns.isEmpty then [] else [Doc.text (" (" ++ ", ".intercalate columns ++ ")")]) ++
      [Doc.text " AS (", .concat (nestedDoc query), .text ")"])).flat
        (name :: (columns ++ parts)) := by
  have hname : Spells (concatFlat [.text name]) [name] := spells_row.2 (.word name)
  have hbody : Attaches [.text " AS (", .concat (nestedDoc query), .text ")"] parts :=
    .text (by decide) ((spells_nestedDoc hquery).row_trail (by decide))
  have hcolumns := attaches_names (show Fence " (".toList by decide) columns
  rw [Doc.flat]
  simpa using (hname.attach hcolumns).attach hbody

theorem attaches_next (operator : String) {query : Doc} {parts : List String}
    (hquery : Spells query.flat parts) :
    Attaches [.hardline, .text operator, .hardline, query] (operator :: parts) :=
  .line ((spells_text operator).fence (by decide) (spells_row.2 hquery))

mutual

/-- Both layouts of an expression are made of its printed texts. -/
theorem exprShape_spells (e : Expr) : ShapeSpells (exprShape e) (exprTexts e) := by
  cases e with
  | column name qualifier quoted => exact .single (spells_row.2 (spells_qualified qualifier _))
  | literal value kind =>
      refine .single (spells_row.2 ?_)
      rw [Doc.flat]
      split
      · exact spells_quoteString value
      · exact spells_text value
  | star qualifier => exact .single (spells_row.2 (spells_allColumns qualifier))
  | call name args bare =>
      cases bare with
      | true => exact .single (spells_row.2 (.word name.upperCase))
      | false =>
          exact .single ((Spells.word name.upperCase).row_fence (by decide)
            ((exprDocs_spells args).commas.row_trail (by decide)))
  | aggregate name argument distinct =>
      exact .single (spells_aggregate name distinct (optionalShape_spells argument).inline)
  | index base index => exact .single ((exprShape_spells base).inline.row_trail (trail_index index))
  | binary operator left right => exact (exprShape_spells left).binary (exprShape_spells right)
  | unary operator operand =>
      rw [exprShape]
      split
      next hminus =>
        -- no blank stands behind a sign, which is a gap itself
        rw [beq_iff_eq.1 hminus]
        exact .single ((spells_text "-").append (spells_row.2 (exprShape_spells operand).inline)
          (.inl (by decide)))
      next =>
        exact .single ((Spells.word operator).row_fence (by decide)
          (spells_row.2 (exprShape_spells operand).inline))
  | paren inner =>
      exact .single ((exprShape_spells inner).inline.row_enclose (by decide) (by decide))
  | between subject low high negated =>
      exact .single ((exprShape_spells subject).inline.row_fence (by cases negated <;> decide)
        ((exprShape_spells low).inline.row_fence (by decide)
          (spells_row.2 (exprShape_spells high).inline)))
  | inList subject values negated =>
      exact .single ((exprShape_spells subject).inline.row_fence (by cases negated <;> decide)
        ((exprDocs_spells values).commas.row_trail (by decide)))
  | inQuery subject query negated =>
      exact .single ((exprShape_spells subject).inline.row_fence (by cases negated <;> decide)
        ((spells_nestedDoc (queryDoc_spells query)).row_trail (by decide)))
  | isNull subject negated =>
      exact .single ((exprShape_spells subject).inline.row_trail (by cases negated <;> decide))
  | existsIn query negated =>
      exact .single ((spells_nestedDoc (queryDoc_spells query)).row_enclose
        (by cases negated <;> decide) (by decide))
  | caseOf operand branches otherwise =>
      exact .single (spells_caseDoc (optionalShape_spells operand).inline
        (branchDocs_spells branches) (optionalShape_spells otherwise).inline)
  | cast operand type shorthand safe =>
      have hoperand := (exprShape_spells operand).inline
      cases shorthand with
      | true => exact .single (hoperand.row_text (by decide) (spells_dataTypeText type))
      | false => exact .single (spells_castCall safe hoperand type)
  | window function partition order frame =>
      exact .single (spells_windowDoc frame (exprShape_spells function).inline
        (exprDocs_spells partition) (orderDocs_spells order))
  | subquery query =>
      exact .single ((spells_nestedDoc (queryDoc_spells query)).row_enclose (by decide) (by decide))
  | raw sql => exact .single (spells_row.2 (.word sql))

theorem exprDocs_spells (es : List Expr) : SpellEach (exprDocs es) (exprsTexts es) := by
  cases es with
  | nil => exact .nil
  | cons e rest => exact .cons (exprShape_spells e).inline (exprDocs_spells rest)

theorem optionalShape_spells (e : Option Expr) :
    OptionalSpells (optionalShape e) (optionalTexts e) := by
  cases e with
  | none => exact .none
  | some e => exact .some (exprShape_spells e)

theorem branchDocs_spells (bs : List Branch) : SpellEach (branchDocs bs) (branchesTexts bs) := by
  match bs with
  | [] => exact .nil
  | .mk condition result :: rest =>
      exact .cons (((exprShape_spells condition).inline.row_fence (by decide)
        (spells_row.2 (exprShape_spells result).inline)).row_lead (by decide))
        (branchDocs_spells rest)

theorem orderDocs_spells (os : List OrderItem) : SpellEach (orderDocs os) (ordersTexts os) := by
  match os with
  | [] => exact .nil
  | .mk key descending nulls :: rest =>
      have hkey := (exprShape_spells key).inline.attach_cons (attaches_orderTail descending nulls)
      rw [List.append_nil] at hkey
      exact .cons hkey (orderDocs_spells rest)

theorem itemDocs_spells (items : List SelectItem) :
    SpellEach (itemDocs items) (itemsTexts items) := by
  match items with
  | [] => exact .nil
  | .mk value label :: rest =>
      have hlabel := attaches_label (show Fence " AS ".toList by decide) label
      exact .cons ((exprShape_spells value).inline.attach_cons hlabel) (itemDocs_spells rest)

theorem sourceDocs_spells (ss : List Source) : SpellEach (sourceDocs ss) (sourcesTexts ss) := by
  match ss with
  | [] => exact .nil
  | .table table :: rest =>
      exact .cons (spells_tableDoc (lowerName table) table) (sourceDocs_spells rest)
  | .derived label pivot query :: rest =>
      exact .cons (spells_derived (queryDoc_spells query) label pivot) (sourceDocs_spells rest)

theorem sourceDoc_spells (s : Source) : Spells (sourceDoc s).flat (sourceTexts s) := by
  match s with
  | .table table => exact spells_tableDoc table.qualifiedName table
  | .derived label pivot query => exact spells_derived (queryDoc_spells query) label pivot

theorem joinDocs_spells (js : List Join) : SpellEach (joinDocs js) (joinsTexts js) := by
  match js with
  | [] => exact .nil
  | .mk keyword source condition shared :: rest =>
      refine .cons ?_ (joinDocs_spells rest)
      cases condition with
      | none =>
          exact spells_joined (sourceDoc_spells source)
            (attaches_names (show Fence " USING(".toList by decide) shared)
      | some e =>
          refine spells_joined (sourceDoc_spells source) (.text (by decide) ?_)
          simpa [concatFlat, optionalTexts] using (exprShape_spells e).inline

theorem cteDocs_spells (cs : List Cte) : SpellEach (cteDocs cs) (ctesTexts cs) := by
  match cs with
  | [] => exact .nil
  | .mk name columns query :: rest =>
      exact .cons (spells_cte name columns (queryDoc_spells query)) (cteDocs_spells rest)

theorem queryDoc_spells (q : Query) : Spells (queryDoc q).flat (queryTexts q) := by
  match q with
  | { arrayAccesses, ctes, distinct, columns, sources, joins, filter, groupBy, groupByAll, having,
      qualify, orderBy, limit, offset, setOperator, next } =>
      have hselect : ¬ HasMarker (if distinct then "SELECT DISTINCT" else "SELECT").toList := by
        cases distinct <;> decide
      have hwhere := (optionalShape_spells filter).condition
        (show ¬ HasMarker "WHERE".toList by decide)
      have hhaving := (optionalShape_spells having).condition
        (show ¬ HasMarker "HAVING".toList by decide)
      have hqualify := (optionalShape_spells qualify).condition
        (show ¬ HasMarker "QUALIFY".toList by decide)
      have hlimit := (optionalShape_spells limit).clause (show Lead "LIMIT ".toList by decide)
      have hoffset := (optionalShape_spells offset).clause (show Lead "OFFSET ".toList by decide)
      have hhead := (spells_withDoc (cteDocs_spells ctes) hselect).attach
        (attaches_columns (itemDocs_spells columns))
      have hfrom := hhead.attach
        (attaches_listClause (sourceDocs_spells sources) (show Lead "FROM ".toList by decide))
      have hjoins := hfrom.attach (attaches_joins (joinDocs_spells joins))
      have hgroup := (hjoins.attach hwhere).attach
        (attaches_grouping (exprDocs_spells groupBy) groupByAll)
      have horder := ((hgroup.attach hhaving).attach hqualify).attach
        (attaches_listClause (orderDocs_spells orderBy) (show Lead "ORDER BY ".toList by decide))
      refine ((horder.attach hlimit).attach hoffset).attach ?_
      cases nonEmpty setOperator with
      | none => exact .nil
      | some operator =>
          cases next with
          | none => exact .nil
          | some query => exact attaches_next operator (queryDoc_spells query)

end

end SqlLayout.Layout
