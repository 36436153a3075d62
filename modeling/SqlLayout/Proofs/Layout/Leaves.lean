import SqlLayout.Proofs.Layout.Printed
import SqlLayout.Proofs.Tree.View
import SqlLayout.Proofs.Tree.Walk

/-!
# Leaves in the printed order

The columns, literals, stars and raw texts of a query are printed in the order in which the tree is
walked, at every depth, and none of them is left out.

## Implementation notes

Line breaks and indentation do not matter here, so a document is taken as the list of its texts.
The texts of the leaves are a sublist of it: keywords, signs, names of tables and labels stand
between them.
-/

namespace SqlLayout.Layout

open SqlLayout.Tree

/-! ## Texts of documents -/

/-- The texts among items. -/
def itemTexts (items : List Item) : List String :=
  items.filterMap fun
    | .text s => some s
    | .newline _ => none

theorem itemTexts_append (front back : List Item) :
    itemTexts (front ++ back) = itemTexts front ++ itemTexts back :=
  List.filterMap_append

theorem joinItems_cons_cons (level : Nat) (separator : List Item) (part next : Doc)
    (rest : List Doc) :
    joinItems level separator (part :: next :: rest) =
      part.items level ++ (separator ++ joinItems level separator (next :: rest)) := rfl

mutual

/-- Indentation changes no text. -/
theorem itemTexts_items (doc : Doc) (level other : Nat) :
    itemTexts (doc.items level) = itemTexts (doc.items other) := by
  cases doc with
  | text s => rfl
  | hardline => rfl
  | indent contents => exact itemTexts_items contents (level + 1) (other + 1)
  | join separator parts =>
      exact itemTexts_joinItems parts (itemTexts_items separator level other) level other
  | concat parts => exact itemTexts_concatItems parts level other

theorem itemTexts_concatItems (parts : List Doc) (level other : Nat) :
    itemTexts (concatItems level parts) = itemTexts (concatItems other parts) := by
  cases parts with
  | nil => rfl
  | cons part rest =>
      rw [concatItems, concatItems, itemTexts_append, itemTexts_append,
        itemTexts_items part level other, itemTexts_concatItems rest level other]

theorem itemTexts_joinItems (parts : List Doc) {front back : List Item}
    (h : itemTexts front = itemTexts back) (level other : Nat) :
    itemTexts (joinItems level front parts) = itemTexts (joinItems other back parts) := by
  match parts with
  | [] => rfl
  | [part] =>
      rw [joinItems, joinItems, itemTexts_append, itemTexts_append,
        itemTexts_items part level other]
  | part :: next :: rest =>
      simp only [joinItems_cons_cons, itemTexts_append]
      rw [itemTexts_items part level other, h, itemTexts_joinItems (next :: rest) h level other]

end

/-- The texts of a document. -/
def Doc.texts (doc : Doc) : List String :=
  itemTexts (doc.items 0)

@[simp] theorem texts_text (s : String) : (Doc.text s).texts = [s] := rfl

@[simp] theorem texts_hardline : Doc.hardline.texts = [] := rfl

@[simp] theorem texts_indent (contents : Doc) : (Doc.indent contents).texts = contents.texts :=
  itemTexts_items contents 1 0

@[simp] theorem texts_concat (parts : List Doc) :
    (Doc.concat parts).texts = parts.flatMap Doc.texts := by
  induction parts with
  | nil => rfl
  | cons part rest ih =>
      rw [List.flatMap_cons, ← ih]
      exact itemTexts_append _ _

theorem sublist_texts_join (separator : Doc) (parts : List Doc) :
    (parts.flatMap Doc.texts).Sublist (Doc.join separator parts).texts := by
  match parts with
  | [] => exact .slnil
  | [part] =>
      have hjoin : (Doc.join separator [part]).texts = part.texts ++ [] := itemTexts_append _ _
      rw [hjoin]
      exact .refl _
  | part :: next :: rest =>
      have hrest := sublist_texts_join separator (next :: rest)
      rw [Doc.texts, Doc.items, joinItems_cons_cons, itemTexts_append, itemTexts_append,
        List.flatMap_cons]
      exact (List.Sublist.refl _).append (hrest.trans (List.sublist_append_right _ _))

/-! ## Documents that show texts -/

/-- Whether documents one after the other have the given texts among theirs, in order. -/
def Shows (docs : List Doc) (texts : List String) : Prop :=
  texts.Sublist (docs.flatMap Doc.texts)

namespace Shows

variable {doc : Doc} {docs more : List Doc} {front back texts : List String}

theorem nil : Shows docs [] :=
  List.nil_sublist _

theorem skip (h : Shows docs texts) : Shows (doc :: docs) texts :=
  h.trans (List.sublist_append_right _ _)

theorem skip_text (text : String) (h : Shows docs texts) : Shows (.text text :: docs) texts :=
  h.skip

theorem cons (hdoc : front.Sublist doc.texts) (hdocs : Shows docs back) :
    Shows (doc :: docs) (front ++ back) :=
  hdoc.append hdocs

theorem single (h : texts.Sublist doc.texts) : Shows [doc] texts := by
  rwa [Shows, List.flatMap_cons, List.flatMap_nil, List.append_nil]

/-- A document, and others that show nothing. -/
theorem first (h : texts.Sublist doc.texts) : Shows (doc :: docs) texts :=
  h.trans (List.sublist_append_left _ _)

/-- Documents, and others that follow them. -/
theorem trail (h : Shows docs texts) (more : List Doc) : Shows (docs ++ more) texts := by
  rw [Shows, List.flatMap_append]
  exact h.trans (List.sublist_append_left _ _)

theorem append (hdocs : Shows docs front) (hmore : Shows more back) :
    Shows (docs ++ more) (front ++ back) := by
  rw [Shows, List.flatMap_append]
  exact List.Sublist.append hdocs hmore

theorem concat (h : Shows docs texts) : texts.Sublist (Doc.concat docs).texts := by
  rwa [texts_concat]

theorem commas (h : Shows docs texts) : texts.Sublist (Doc.commas docs).texts :=
  h.trans (sublist_texts_join _ docs)

/-- Documents with something written before each of them. -/
theorem each {α : Type} {f : α → List Doc} {g : α → Doc} (h : ∀ item, Shows (f item) (g item).texts)
    (items : List α) : Shows (items.flatMap f) ((items.map g).flatMap Doc.texts) := by
  induction items with
  | nil => exact .nil
  | cons item rest ih =>
      rw [List.flatMap_cons, List.map_cons, List.flatMap_cons]
      exact (h item).append ih

/-- A document, and further ones with something written before each of them. -/
theorem continued {α : Type} {f : α → List Doc} {g : α → Doc}
    (h : ∀ item, Shows (f item) (g item).texts) {items : List α}
    (hall : Shows (doc :: items.map g) texts) : Shows (doc :: items.flatMap f) texts :=
  hall.trans ((List.Sublist.refl _).append (each h items))

end Shows

/-! ## Shapes -/

/-- Both layouts of an expression show the given texts. -/
structure ShapeShows (shape : Shape) (texts : List String) : Prop where
  inline : texts.Sublist shape.inline.texts
  operands : Shows (shape.operands.map Prod.snd) texts

theorem ShapeShows.of_single {docs : List Doc} {texts : List String} (h : Shows docs texts) :
    ShapeShows (.single docs) texts where
  inline := h.concat
  operands := .single h.concat

theorem ShapeShows.binary {operator : String} {left right : Shape} {front back : List String}
    (hleft : ShapeShows left front) (hright : ShapeShows right back) :
    ShapeShows (binaryShape operator left right) (front ++ back) := by
  have hinline : Shows [left.inline, .text (" " ++ operator ++ " "), right.inline]
      (front ++ back) :=
    .cons hleft.inline (.skip (.single hright.inline))
  by_cases hchain : isChainOperator operator = true
  · refine ⟨hinline.concat, ?_⟩
    simp only [binaryShape, hchain, if_true, map_snd_chainOperands]
    exact hleft.operands.append hright.operands
  · have hshape : binaryShape operator left right =
        .single [left.inline, .text (" " ++ operator ++ " "), right.inline] := by
      simp [binaryShape, hchain, Shape.single]
    rw [hshape]
    exact .of_single hinline

/-- A condition that is broken into lines shows what its operands show. -/
theorem ShapeShows.condition {shape : Shape} {texts : List String} (h : ShapeShows shape texts) :
    texts.Sublist (conditionDoc shape).texts := by
  obtain ⟨inline, operands⟩ := shape
  obtain ⟨-, hoperands⟩ := h
  refine Shows.concat ?_
  cases operands with
  | nil => exact hoperands
  | cons first rest =>
      refine .skip (.continued (fun operand => ?_) hoperands)
      exact .skip (.skip (.skip (.skip (.single (.refl _)))))

/-- A shape that may be missing, with the texts that it shows. -/
inductive OptionalShows : Option Shape → List String → Prop
  | none : OptionalShows none []
  | some {shape : Shape} {texts : List String} (h : ShapeShows shape texts) :
      OptionalShows (some shape) texts

namespace OptionalShows

variable {shape : Option Shape} {texts : List String}

theorem inline (h : OptionalShows shape texts) : Shows (shape.map Shape.inline).toList texts := by
  cases h with
  | none => exact .nil
  | some h => exact .single h.inline

theorem condition (h : OptionalShows shape texts) (keyword : String) :
    Shows (optionalClause keyword (shape.map conditionDoc)) texts := by
  cases h with
  | none => exact .nil
  | some h => exact .skip (.skip (.single h.condition))

theorem clause (h : OptionalShows shape texts) (keyword : String) :
    Shows (optionalClause keyword (shape.map Shape.inline)) texts := by
  cases h with
  | none => exact .nil
  | some h => exact .skip (.skip (.single h.inline))

end OptionalShows

/-! ## Composed layouts -/

section

variable {docs : List Doc} {texts : List String}

theorem shows_nestedDoc {query : Doc} (h : texts.Sublist query.texts) :
    Shows (nestedDoc query) texts := by
  refine .first ?_
  rw [texts_indent]
  exact Shows.concat (.skip (.single h))

/-- A query between brackets. -/
theorem shows_bracketed {query : Doc} (h : texts.Sublist query.texts) (opening : String)
    (more : List Doc) :
    Shows (.text opening :: .concat (nestedDoc query) :: more) texts :=
  .skip (.first (shows_nestedDoc h).concat)

theorem shows_listClause (h : Shows docs texts) (keyword : String) :
    Shows (listClause keyword docs) texts := by
  cases docs with
  | nil => exact h
  | cons doc rest => exact .skip (.skip (.single h.commas))

theorem shows_continued (h : Shows docs texts) (start : String) :
    Shows (continued start docs) texts := by
  cases docs with
  | nil => exact h
  | cons doc rest =>
      refine .skip (.continued (g := id) (fun doc => ?_) (by rwa [List.map_id]))
      exact .skip (.skip (.single (.refl _)))

theorem shows_columns (h : Shows docs texts) : Shows (columnsDoc docs) texts := by
  have heq : columnsDoc docs = continued columnContinuation docs := by
    cases docs <;> rfl
  rw [heq]
  exact shows_continued h _

theorem shows_withDoc (h : Shows docs texts) : Shows (withDoc docs) texts := by
  cases docs with
  | nil => exact h
  | cons doc rest =>
      refine .first (Shows.concat
        (.skip (.continued (g := id) (fun cte => ?_) (by rwa [List.map_id]))))
      exact .skip (.skip (.single (.refl _)))

theorem shows_joins (h : Shows docs texts) :
    Shows (docs.flatMap fun join => [.hardline, join]) texts := by
  refine h.trans ?_
  have heach := Shows.each (f := fun join => [.hardline, join]) (g := id)
    (fun join => .skip (.single (.refl _))) docs
  rwa [List.map_id] at heach

theorem shows_caseDoc {operand otherwise : Option Doc} {branches : List Doc}
    {first middle last : List String} (hoperand : Shows operand.toList first)
    (hbranches : Shows branches middle)
    (hotherwise : Shows otherwise.toList last) :
    Shows (caseDoc operand branches otherwise) (first ++ (middle ++ last)) := by
  have hhead := Shows.concat (.skip_text "CASE" (shows_continued hoperand ""))
  have helse : Shows (otherwise.map fun doc => .concat [.text "ELSE ", doc]).toList last := by
    cases otherwise with
    | none => exact hotherwise
    | some doc => exact .single (Shows.concat (.skip hotherwise))
  have hparts := hbranches.append helse
  rw [caseDoc_eq]
  split
  · exact .cons hhead (.skip (.first (hparts.trans (sublist_texts_join _ _))))
  · exact (Shows.append (.single hhead) (shows_continued hparts _)).trail _

theorem shows_listed (h : Shows docs texts) (keyword : String) :
    Shows (if docs.isEmpty then [] else [.concat [.text keyword, .commas docs]]) texts := by
  cases docs with
  | nil => exact h
  | cons doc rest => exact .single (Shows.concat (.skip (.single h.commas)))

theorem shows_windowDoc {function : Doc} {partition order : List Doc} (frame : Option String)
    {first keys sorted : List String} (hfunction : first.Sublist function.texts)
    (hpartition : Shows partition keys) (horder : Shows order sorted) :
    Shows (windowDoc function partition order frame) (first ++ (keys ++ sorted)) := by
  have hparts := ((shows_listed hpartition "PARTITION BY ").append
    (shows_listed horder "ORDER BY ")).trail
    ((nonEmpty frame).map Doc.text).toList
  exact .cons hfunction (.skip (.first (hparts.trans (sublist_texts_join _ _))))

end

/-! ## Leaves -/

/-- What the printer writes for a column, a literal, a star or a raw text. -/
def leafTexts : Expr → List String
  | e@(.column _ _ _) | e@(.literal _ _) | e@(.star _) | e@(.raw _) => (exprDoc e).texts
  | _ => []

/-- The texts of the leaves of a tree. -/
def leaves : View String :=
  { expr := leafTexts }

theorem leaves_expr (e : Expr) : leaves.expr e = leafTexts e := rfl

theorem leaves_query (q : Query) : leaves.query q = [] := rfl

theorem leaves_source (s : Source) : leaves.source s = [] := rfl

/-- Whether a node has no part that the printer leaves out: an operand without an operator, a
grouping next to a grouping by all columns, arguments of a call without brackets. -/
def isRegular : Part → Bool
  | .query q =>
    (q.next.isNone || (nonEmpty q.setOperator).isSome) && (!q.groupByAll || q.groupBy.isEmpty)
  | .expr (.call _ args bare) => !bare || args.isEmpty
  | _ => true

/-- Whether all parts are regular. -/
def Regular (parts : List Part) : Prop :=
  ∀ part ∈ parts, isRegular part = true

instance (parts : List Part) : Decidable (Regular parts) :=
  inferInstanceAs (Decidable (∀ part ∈ parts, isRegular part = true))

@[simp] theorem regular_cons {part : Part} {parts : List Part} :
    Regular (part :: parts) ↔ isRegular part = true ∧ Regular parts :=
  List.forall_mem_cons

@[simp] theorem regular_append {front back : List Part} :
    Regular (front ++ back) ↔ Regular front ∧ Regular back :=
  List.forall_mem_append

/-! ## Expressions and queries -/

/-- A query between brackets, with its label and its pivot clause. -/
theorem shows_derived {query : Doc} {texts : List String} (h : texts.Sublist query.texts)
    (label pivot : Option String) :
    texts.Sublist (Doc.concat ([Doc.text "(", .concat (nestedDoc query), .text ")"] ++
      tableTail label pivot)).texts :=
  ((shows_bracketed h _ _).trail _).concat

mutual

/-- Both layouts of an expression show its leaves in order. -/
theorem exprShape_shows (e : Expr) (h : Regular (exprWalk e)) :
    ShapeShows (exprShape e) (leaves.read (exprWalk e)) := by
  -- the walk of a node is the node before the walks of the parts in it
  cases e
  all_goals
    simp only [exprWalk, List.cons_append, List.append_assoc, regular_cons, regular_append] at h
    simp only [exprWalk, List.cons_append, List.append_assoc, View.read_cons, View.read_append,
      View.part, leaves_expr, leafTexts, List.nil_append]
  case column name qualifier quoted => exact .of_single (.refl _)
  case literal value kind => exact .of_single (.refl _)
  case star qualifier => exact .of_single (.refl _)
  case raw sql => exact .of_single (.refl _)
  case call name args bare =>
    obtain ⟨hargs, hrest⟩ := h
    cases bare with
    | true =>
        obtain rfl := List.isEmpty_iff.1 hargs
        exact .of_single .nil
    | false => exact .of_single (.skip (.skip (.first (exprDocs_shows args hrest).commas)))
  case aggregate name argument distinct =>
    have hargument := (optionalShape_shows argument h.2).inline
    exact .of_single ((Shows.nil.append hargument).trail _)
  case index base index => exact .of_single (.first (exprShape_shows base h.2).inline)
  case binary operator left right =>
    exact (exprShape_shows left h.2.1).binary (exprShape_shows right h.2.2)
  case unary operator operand =>
    have hoperand := (exprShape_shows operand h.2).inline
    rw [exprShape]
    split
    · exact .of_single (.skip (.single hoperand))
    · exact .of_single (.skip (.skip (.single hoperand)))
  case paren inner => exact .of_single (.skip (.first (exprShape_shows inner h.2).inline))
  case between subject low high negated =>
    obtain ⟨-, hsubject, hlow, hhigh⟩ := h
    exact .of_single (.cons (exprShape_shows subject hsubject).inline (.skip
      (.cons (exprShape_shows low hlow).inline (.skip
        (.single (exprShape_shows high hhigh).inline)))))
  case inList subject values negated =>
    exact .of_single (.cons (exprShape_shows subject h.2.1).inline (.skip
      (.first (exprDocs_shows values h.2.2).commas)))
  case inQuery subject query negated =>
    exact .of_single (.cons (exprShape_shows subject h.2.1).inline
      (shows_bracketed (queryDoc_shows query h.2.2) _ _))
  case isNull subject negated => exact .of_single (.first (exprShape_shows subject h.2).inline)
  case existsIn query negated => exact .of_single (shows_bracketed (queryDoc_shows query h.2) _ _)
  case caseOf operand branches otherwise =>
    obtain ⟨-, hoperand, hbranches, hotherwise⟩ := h
    exact .of_single (shows_caseDoc (optionalShape_shows operand hoperand).inline
      (branchDocs_shows branches hbranches) (optionalShape_shows otherwise hotherwise).inline)
  case cast operand type shorthand safe =>
    simp only [View.read_nil, List.append_nil]
    have hoperand := (exprShape_shows operand h.2.1).inline
    cases shorthand with
    | true => exact .of_single (.first hoperand)
    | false => exact .of_single (.skip (.first hoperand))
  case window function partition order frame =>
    obtain ⟨-, hfunction, hpartition, horder⟩ := h
    exact .of_single (shows_windowDoc frame (exprShape_shows function hfunction).inline
      (exprDocs_shows partition hpartition) (orderDocs_shows order horder))
  case subquery query => exact .of_single (shows_bracketed (queryDoc_shows query h.2) _ _)

theorem exprDocs_shows (es : List Expr) (h : Regular (exprsWalk es)) :
    Shows (exprDocs es) (leaves.read (exprsWalk es)) := by
  cases es with
  | nil => exact .nil
  | cons e rest =>
      rw [exprsWalk, regular_append] at h
      rw [exprsWalk, View.read_append]
      exact .cons (exprShape_shows e h.1).inline (exprDocs_shows rest h.2)

theorem optionalShape_shows (e : Option Expr) (h : Regular (optionalWalk e)) :
    OptionalShows (optionalShape e) (leaves.read (optionalWalk e)) := by
  cases e with
  | none => exact .none
  | some e => exact .some (exprShape_shows e h)

theorem branchDocs_shows (bs : List Branch) (h : Regular (branchesWalk bs)) :
    Shows (branchDocs bs) (leaves.read (branchesWalk bs)) := by
  match bs with
  | [] => exact .nil
  | .mk condition result :: rest =>
      simp only [branchesWalk, List.cons_append, regular_cons, regular_append] at h
      obtain ⟨-, ⟨hcondition, hresult⟩, hrest⟩ := h
      simp only [branchesWalk, List.cons_append, View.read_cons, View.read_append, View.part,
        List.nil_append]
      have hbranch := Shows.concat
        (.skip_text "WHEN " (.cons (exprShape_shows condition hcondition).inline
          (.skip_text " THEN " (.single (exprShape_shows result hresult).inline))))
      exact .cons hbranch (branchDocs_shows rest hrest)

theorem orderDocs_shows (os : List OrderItem) (h : Regular (ordersWalk os)) :
    Shows (orderDocs os) (leaves.read (ordersWalk os)) := by
  match os with
  | [] => exact .nil
  | .mk key descending nulls :: rest =>
      simp only [ordersWalk, List.cons_append, regular_cons, regular_append] at h
      simp only [ordersWalk, List.cons_append, View.read_cons, View.read_append, View.part,
        List.nil_append]
      exact .cons (Shows.first (exprShape_shows key h.2.1).inline).concat
        (orderDocs_shows rest h.2.2)

theorem itemDocs_shows (items : List SelectItem) (h : Regular (itemsWalk items)) :
    Shows (itemDocs items) (leaves.read (itemsWalk items)) := by
  match items with
  | [] => exact .nil
  | .mk value label :: rest =>
      simp only [itemsWalk, List.cons_append, regular_cons, regular_append] at h
      simp only [itemsWalk, List.cons_append, View.read_cons, View.read_append, View.part,
        List.nil_append]
      exact .cons (Shows.first (exprShape_shows value h.2.1).inline).concat
        (itemDocs_shows rest h.2.2)

theorem sourceDocs_shows (ss : List Source) (h : Regular (sourcesWalk ss)) :
    Shows (sourceDocs ss) (leaves.read (sourcesWalk ss)) := by
  match ss with
  | [] => exact .nil
  | .table table :: rest =>
      rw [sourcesWalk, regular_append] at h
      rw [sourcesWalk, View.read_append]
      exact .skip (sourceDocs_shows rest h.2)
  | .derived label pivot query :: rest =>
      simp only [sourcesWalk, sourceWalk, List.cons_append, regular_cons, regular_append] at h
      simp only [sourcesWalk, sourceWalk, List.cons_append, View.read_cons, View.read_append,
        View.part, leaves_source, List.nil_append]
      exact .cons (shows_derived (queryDoc_shows query h.2.1) label pivot)
        (sourceDocs_shows rest h.2.2)

theorem sourceDoc_shows (s : Source) (h : Regular (sourceWalk s)) :
    (leaves.read (sourceWalk s)).Sublist (sourceDoc s).texts := by
  match s with
  | .table table => exact List.nil_sublist _
  | .derived label pivot query =>
      rw [sourceWalk, regular_cons] at h
      exact shows_derived (queryDoc_shows query h.2) label pivot

theorem joinDocs_shows (js : List Join) (h : Regular (joinsWalk js)) :
    Shows (joinDocs js) (leaves.read (joinsWalk js)) := by
  match js with
  | [] => exact .nil
  | .mk keyword source condition shared :: rest =>
      simp only [joinsWalk, List.cons_append, regular_cons, regular_append] at h
      obtain ⟨-, ⟨hsource, hcondition⟩, hrest⟩ := h
      simp only [joinsWalk, List.cons_append, View.read_cons, View.read_append, View.part,
        List.nil_append]
      refine .cons ?_ (joinDocs_shows rest hrest)
      refine Shows.concat (.skip (.skip (.cons (sourceDoc_shows source hsource) ?_)))
      cases condition with
      | none => exact .nil
      | some e => exact .skip (.single (exprShape_shows e hcondition).inline)

theorem cteDocs_shows (cs : List Cte) (h : Regular (ctesWalk cs)) :
    Shows (cteDocs cs) (leaves.read (ctesWalk cs)) := by
  match cs with
  | [] => exact .nil
  | .mk name columns query :: rest =>
      simp only [ctesWalk, List.cons_append, regular_cons, regular_append] at h
      simp only [ctesWalk, List.cons_append, View.read_cons, View.read_append, View.part,
        List.nil_append]
      refine .cons ?_ (cteDocs_shows rest h.2.2)
      exact ((Shows.nil.append (shows_bracketed (queryDoc_shows query h.2.1) _ _)) :).concat

theorem queryDoc_shows (q : Query) (h : Regular (queryWalk q)) :
    (leaves.read (queryWalk q)).Sublist (queryDoc q).texts := by
  match q with
  | { arrayAccesses, ctes, distinct, columns, sources, joins, filter, groupBy, groupByAll, having,
      qualify, orderBy, limit, offset, setOperator, next } =>
      simp only [queryWalk, List.cons_append, regular_cons, regular_append] at h
      obtain ⟨hregular, ⟨⟨⟨⟨⟨⟨⟨⟨⟨⟨⟨hctes, hcolumns⟩, hsources⟩, hjoins⟩, hfilter⟩, hkeys⟩, hhaving⟩,
        hqualify⟩, horder⟩, hlimit⟩, hoffset⟩, hnext⟩⟩ := h
      obtain ⟨hoperator, hgrouped⟩ := Bool.and_eq_true_iff.1 hregular
      simp only [queryWalk, List.cons_append, View.read_cons, View.read_append, View.part,
        leaves_query, List.nil_append]
      have hselect := ((shows_withDoc (cteDocs_shows ctes hctes)).trail
        [.text (if distinct then "SELECT DISTINCT" else "SELECT")]).append
          (shows_columns (itemDocs_shows columns hcolumns))
      have hfrom :=
        (hselect.append (shows_listClause (sourceDocs_shows sources hsources) "FROM ")).append
        (shows_joins (joinDocs_shows joins hjoins))
      have hgroup : Shows (if groupByAll then [.hardline, .text "GROUP BY ALL"]
          else listClause "GROUP BY " (exprDocs groupBy)) (leaves.read (exprsWalk groupBy)) := by
        cases groupByAll with
        | true =>
            obtain rfl := List.isEmpty_iff.1 hgrouped
            exact .nil
        | false => exact shows_listClause (exprDocs_shows groupBy hkeys) _
      have hconditions :=
        (((hfrom.append ((optionalShape_shows filter hfilter).condition "WHERE")).append
          hgroup).append ((optionalShape_shows having hhaving).condition "HAVING")).append
          ((optionalShape_shows qualify hqualify).condition "QUALIFY")
      have hlimits :=
        ((hconditions.append (shows_listClause (orderDocs_shows orderBy horder) "ORDER BY ")).append
          ((optionalShape_shows limit hlimit).clause "LIMIT ")).append
          ((optionalShape_shows offset hoffset).clause "OFFSET ")
      refine (hlimits.append ?_).concat
      cases next with
      | none => exact .nil
      | some query =>
          obtain ⟨operator, hpresent⟩ := Option.isSome_iff_exists.1 hoperator
          simp only [hpresent, optionalQueryDoc]
          exact .skip (.skip (.skip (.single (queryDoc_shows query hnext))))

end

/-! ## The order of the leaves -/

/-- What is walked through without being a node has no text of its own. -/
theorem read_filter_isNode (parts : List Part) :
    leaves.read (parts.filter Part.isNode) = leaves.read parts := by
  induction parts with
  | nil => rfl
  | cons part rest ih =>
      cases hnode : part.isNode with
      | true => rw [List.filter_cons_of_pos hnode, View.read_cons, View.read_cons, ih]
      | false =>
          have hpart : leaves.part part = [] := by
            cases part <;> first | rfl | cases hnode
          rw [List.filter_cons_of_neg (by simp [hnode]), View.read_cons, ih, hpart, List.nil_append]

theorem regular_of_nodes {part : Part} (h : Regular part.nodes) : Regular part.preorder := by
  intro below hbelow
  cases hnode : below.isNode with
  | true => exact h below (by rw [nodes_eq]; exact List.mem_filter.2 ⟨hbelow, hnode⟩)
  | false => cases below <;> first | rfl | cases hnode

/-- The leaves of a query are printed in the order in which its nodes are visited, with other texts
between them, whatever the indentation. -/
theorem leaves_printed_in_order (q : Query) (h : Regular (Part.query q).nodes) (level : Nat) :
    (leaves.read (Part.query q).nodes).Sublist (itemTexts ((queryDoc q).items level)) := by
  have hshown := queryDoc_shows q (regular_of_nodes h)
  rw [nodes_eq, read_filter_isNode, itemTexts_items (queryDoc q) level 0]
  exact hshown

/-- A select from a nested query, with a condition of two operands, and a second operand of a set
operation. -/
def nestedUnion : Query :=
  { columns :=
      [.mk (.caseOf none [.mk (.isNull (.column "a" none false) false) (.literal "0" .number)]
        (some (.raw "a::b"))) (some "c")]
    sources := [.derived (some "t") none { columns := [.mk (.star none) none] }]
    filter := some (.binary "AND" (.column "b" (some "t") false) (.existsIn
      { columns := [.mk (.literal "it" .string) none] } true))
    setOperator := some "UNION"
    next := some { columns := [.mk (.call "f" [.column "D" none true] false) none] } }

theorem leaves_printed_in_order_nested :
    ["a", "0", "a::b", "*", "t.b", "'it'", "D"].Sublist
      (itemTexts ((queryDoc nestedUnion).items 1)) :=
  leaves_printed_in_order nestedUnion (by decide) 1

end SqlLayout.Layout
