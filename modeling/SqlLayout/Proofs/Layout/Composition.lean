import SqlLayout.Proofs.Layout.Conditions
import SqlLayout.Proofs.Layout.Leaves
import SqlLayout.Proofs.Source.Mask

/-!
# What layouts are composed of

The layout of a tree is composed of words, the texts that are printed of the fields of its parts,
and of signs, which are the printer's own.  Two words never stand next to each other without a sign
or a line break between them.  The one exception is the sign of a negation, which stands directly in
front of its operand.  Behind a line break stands a word, a sign that begins with no space, or an
indented operator; projected columns and the branches of case expressions stand behind line breaks
of their own kinds.

## Implementation notes

`Laid` is the grammar of all layouts: what holds of the layout of every tree is shown by induction
on it, with one case for each way in which the printer puts documents together.  Documents that cut
the same lines into texts differently are interchangeable.
-/

namespace SqlLayout.Layout

open SqlLayout.Tree

/-! ## Words and signs -/

/-- Whether a text can be one of the printer's own: it has no line feed, no quote and no part of a
comment mark. -/
def isSign (s : String) : Bool :=
  !s.toList.isEmpty && s.toList.all fun c => Source.isInert c && c != '\n'

/-- Whether a sign can stand at the start of a line: it begins with no space, or is an indented
operator. -/
def startsLine (s : String) : Bool :=
  isSign s && (s.toList.head? != some ' ' || s == "  AND" || s == "  OR")

theorem isSign_of_startsLine {s : String} (h : startsLine s = true) : isSign s = true :=
  (Bool.and_eq_true_iff.1 h).1

/-- The texts that are printed of the fields of a part. -/
def words : Part → List String
  | .expr (.call name _ _) | .expr (.aggregate name _ _) => [name.upperCase]
  | .expr (.index _ index) => [toString index]
  | .expr (.binary operator _ _) | .expr (.unary operator _) => [operator]
  | .expr (.window _ _ _ frame) => (nonEmpty frame).toList
  | .expr e => leafTexts e
  | .query q => (nonEmpty q.setOperator).toList
  | .source (.table table) =>
    [lowerName table, table.qualifiedName] ++ tailTexts table.label table.pivot
  | .source (.derived label pivot _) => tailTexts label pivot
  | .join (.mk keyword _ _ shared) =>
    keyword :: if shared.isEmpty then [] else [", ".intercalate shared]
  | .item (.mk _ label) => (nonEmpty label).toList
  | .cte (.mk name columns _) => name :: if columns.isEmpty then [] else [", ".intercalate columns]
  | .dataType type => [dataTypeText type]
  | _ => []

/-- Whether an expression has a minus in front: its first operator stands before all else and begins
with one. -/
def leadsMinus : Expr → Bool
  | .unary operator _ => operator.toList.head? == some '-'
  | .raw sql => sql.toList.head? == some '-'
  | .index below _ | .binary _ below _ | .between below _ _ _ | .inList below _ _ | .inQuery
    below _ _
  | .isNull below _ | .cast below _ true _ | .window below _ _ _ => leadsMinus below
  | _ => false

/-- Whether a part is a negation whose operand has a minus in front. -/
def doublesMinus : Part → Bool
  | .expr (.unary operator operand) => operator == "-" && leadsMinus operand
  | _ => false

/-! ## Layouts -/

/-- Whether documents have the same lines at every level, however these are cut into texts. -/
def SameLines (docs other : List Doc) : Prop :=
  ∀ level, concatLines level docs = concatLines level other

/-- Documents that can stand at the start of a line: they begin with a word or with a sign that
starts lines. -/
def Opening (parts : List Part) (docs : List Doc) : Prop :=
  ∃ s back, SameLines docs (.text s :: back) ∧
    (startsLine s = true ∨ ∃ part ∈ parts, s ∈ words part)

/-- Documents that are composed of the words of parts, with the number of their lines of projected
columns, those of indented queries aside. -/
inductive Laid : List Part → Nat → List Doc → Prop
  | nil : Laid [] 0 []
  | word {part : Part} {s : String} (h : s ∈ words part) (hpart : doublesMinus part = false) :
      Laid [part] 0 [.text s]
  | sign {s : String} {p q : List Part} {m n : Nat} {front back : List Doc} (hs : isSign s = true)
      (hfront : Laid p m front) (hback : Laid q n back) :
        Laid (p ++ q) (m + n) (front ++ .text s :: back)
  | line {p q : List Part} {m n : Nat} {front back : List Doc} (hopening : Opening q back)
      (hfront : Laid p m front) (hback : Laid q n back) :
        Laid (p ++ q) (m + n) (front ++ .hardline :: back)
  | column {p q : List Part} {m n : Nat} {front back : List Doc} (hopening : Opening q back)
      (hfront : Laid p m front) (hback : Laid q n back) :
      Laid (p ++ q) (m + (n + 1)) (front ++ .hardline :: .text columnContinuation :: back)
  | branch {p q : List Part} {m n : Nat} {front back : List Doc} (hfront : Laid p m front)
      (hback : Laid q n back) :
      Laid (p ++ q) (m + n) (front ++ .hardline :: .text caseContinuation :: back)
  | indent {p : List Part} {n : Nat} {docs : List Doc} (h : Laid p n docs) :
      Laid p 0 [.indent (.concat docs)]
  | minus {operand : Expr} {n : Nat} (h : Laid (exprWalk operand) n [exprDoc operand]) :
      Laid (.expr (.unary "-" operand) :: exprWalk operand) n [.text "-", exprDoc operand]
  /-- Other documents with the same lines. -/
  | recut {p : List Part} {n : Nat} {docs other : List Doc} (hdocs : Laid p n docs)
      (h : SameLines docs other) :
      Laid p n other
  /-- Further parts, of which nothing is printed or what is printed of them is there already. -/
  | cover {p q : List Part} {n : Nat} {docs : List Doc} (hsub : p ⊆ q)
      (hleft : Regular q → ∀ part ∈ q, doublesMinus part = true → part ∈ p)
        (hdocs : Laid p n docs) : Laid q n docs

theorem SameLines.append_singleton (docs : List Doc) : SameLines docs [.concat docs] := by
  intro level
  simp [concatLines, Doc.lines]

namespace Opening

variable {p q : List Part} {docs other more : List Doc} {s : String}

theorem of_sign (hs : startsLine s = true) (back : List Doc) : Opening p (.text s :: back) :=
  ⟨s, back, fun _ => rfl, .inl hs⟩

theorem of_word {part : Part} (hpart : part ∈ p) (hs : s ∈ words part) (back : List Doc) :
    Opening p (.text s :: back) :=
  ⟨s, back, fun _ => rfl, .inr ⟨part, hpart, hs⟩⟩

theorem mono (h : Opening p docs) (hsub : p ⊆ q) : Opening q docs := by
  obtain ⟨s, back, hsame, hs⟩ := h
  exact ⟨s, back, hsame, hs.imp_right fun ⟨part, hpart, hword⟩ => ⟨part, hsub hpart, hword⟩⟩

theorem recut (h : Opening p docs) (hsame : SameLines docs other) : Opening p other := by
  obtain ⟨s, back, hback, hs⟩ := h
  exact ⟨s, back, fun level => (hsame level).symm.trans (hback level), hs⟩

theorem append (h : Opening p docs) (more : List Doc) : Opening p (docs ++ more) := by
  obtain ⟨s, back, hback, hs⟩ := h
  refine ⟨s, back ++ more, fun level => ?_, hs⟩
  rw [concatLines_append, hback level, ← concatLines_append, List.cons_append]

theorem concat (h : Opening p docs) : Opening p [.concat docs] :=
  h.recut (.append_singleton docs)

end Opening

namespace Laid

variable {p q : List Part} {m n : Nat} {docs other front back : List Doc} {s : String}

theorem concat (h : Laid p n docs) : Laid p n [.concat docs] :=
  h.recut (.append_singleton docs)

/-- Further parts that have no sign of their own to print. -/
theorem extend (h : Laid p n docs) (hsub : p ⊆ q)
    (hq : ∀ part ∈ q, part ∈ p ∨ doublesMinus part = false) :
    Laid q n docs :=
  .cover hsub (fun _ part hpart hdoubles => (hq part hpart).resolve_right (by simp [hdoubles])) h

/-- The same parts in another order. -/
theorem same (h : Laid p n docs) (hparts : ∀ part, part ∈ p ↔ part ∈ q) : Laid q n docs :=
  h.extend (fun part hpart => (hparts part).1 hpart) fun part hpart => .inl ((hparts part).2 hpart)

theorem node (part : Part) (hpart : doublesMinus part = false) (h : Laid p n docs) :
    Laid (part :: p) n docs :=
  h.extend (List.subset_cons_self part p) (List.forall_mem_cons.2 ⟨.inr hpart, fun _ => .inl⟩)

theorem lead (hs : isSign s = true) (h : Laid p n docs) : Laid p n (.text s :: docs) := by
  have hsign := Laid.sign hs .nil h
  rwa [Nat.zero_add] at hsign

theorem trail (hs : isSign s = true) (h : Laid p n docs) : Laid p n (docs ++ [Doc.text s]) := by
  have hsign := Laid.sign hs h .nil
  rwa [List.append_nil, Nat.add_zero] at hsign

theorem enclose (opening closing : String) (hopening : isSign opening = true)
    (hclosing : isSign closing = true) (h : Laid p n docs) :
    Laid p n (Doc.text opening :: docs ++ [Doc.text closing]) :=
  (h.lead hopening).trail hclosing

end Laid

/-- Documents that can follow any others: they begin with a sign or a line break. -/
structure Follows (parts : List Part) (n : Nat) (docs : List Doc) : Prop where
  behind : ∀ {p : List Part} {m : Nat} {front : List Doc}, Laid p m front →
    Laid (p ++ parts) (m + n) (front ++ docs)

namespace Follows

variable {p q : List Part} {m n : Nat} {docs more back : List Doc} {s : String}

theorem nil : Follows [] 0 [] where
  behind h := by rwa [List.append_nil, List.append_nil]

theorem append (h : Follows p m docs) (hmore : Follows q n more) :
    Follows (p ++ q) (m + n) (docs ++ more) where
  behind hfront := by
    have hall := hmore.behind (h.behind hfront)
    rwa [List.append_assoc, List.append_assoc, Nat.add_assoc] at hall

theorem sign (hs : isSign s = true) (h : Laid p n back) : Follows p n (.text s :: back) where
  behind hfront := .sign hs hfront h

theorem line (hopening : Opening p back) (h : Laid p n back) : Follows p n (.hardline :: back) where
  behind hfront := .line hopening hfront h

theorem column (hopening : Opening p back) (h : Laid p n back) :
    Follows p (n + 1) (.hardline :: .text columnContinuation :: back) where
  behind hfront := .column hopening hfront h

theorem branch (h : Laid p n back) : Follows p n (.hardline :: .text caseContinuation :: back) where
  behind hfront := .branch hfront h

theorem recut (h : Follows p n docs) (hsame : SameLines docs more) : Follows p n more where
  behind hfront := (h.behind hfront).recut fun level => by
    rw [concatLines_append, hsame level, ← concatLines_append]

theorem within {part : Part} (hpart : doublesMinus part = false) (h : Follows p n docs)
    (hsub : p ⊆ [part]) :
    Follows [part] n docs where
  behind hfront := by
    refine (h.behind hfront).extend (List.append_subset.2 ⟨List.subset_append_left _ _, ?_⟩)
      fun other hother => ?_
    · exact List.Subset.trans hsub (List.subset_append_right _ _)
    · obtain hother | hother := List.mem_append.1 hother
      · exact .inl (List.mem_append_left p hother)
      · exact .inr (List.mem_singleton.1 hother ▸ hpart)

theorem laid (h : Follows p n docs) : Laid p n docs := by
  have hall := h.behind .nil
  rwa [Nat.zero_add] at hall

end Follows

/-! ## Lists of documents -/

/-- Documents that are each composed of parts and can each stand at the start of a line. -/
inductive Each : List Part → List Doc → Prop
  | nil : Each [] []
  | cons {p q : List Part} {doc : Doc} {docs : List Doc} (h : Laid p 0 [doc])
      (hopening : Opening p [doc])
      (hrest : Each q docs) : Each (p ++ q) (doc :: docs)

namespace Each

variable {p q : List Part} {docs more : List Doc} {s : String}

theorem single {doc : Doc} (h : Laid p 0 [doc]) (hopening : Opening p [doc]) : Each p [doc] := by
  have hall := Each.cons h hopening .nil
  rwa [List.append_nil] at hall

theorem append (h : Each p docs) (hmore : Each q more) : Each (p ++ q) (docs ++ more) := by
  induction h with
  | nil => exact hmore
  | cons hdoc hopening _ ih =>
      rw [List.append_assoc]
      exact .cons hdoc hopening ih

theorem join (h : Each p docs) (hs : isSign s = true) : Laid p 0 [.join (.text s) docs] := by
  induction h with
  | nil => exact Laid.nil.recut fun _ => rfl
  | @cons p q doc docs hdoc _ hrest ih =>
      cases hrest with
      | nil =>
          rw [List.append_nil]
          exact hdoc.recut fun level => by simp [concatLines, Doc.lines, joinLines]
      | cons hnext _ hmore =>
          refine (Laid.sign hs hdoc ih).recut fun level => ?_
          simp [concatLines, Doc.lines, joinLines]

theorem laid_optional {doc : Option Doc} (h : Each p doc.toList) : Laid p 0 doc.toList := by
  cases doc with
  | none =>
      cases h
      exact .nil
  | some doc =>
      cases h with
      | cons hdoc _ hrest =>
          cases hrest
          rwa [List.append_nil]

theorem commas (h : Each p docs) : Laid p 0 [.commas docs] :=
  h.join (by decide)

/-- Documents with something in front of each that can follow any others. -/
theorem follows {k : Nat} {f : Doc → List Doc}
    (hf : ∀ {parts doc}, Laid parts 0 [doc] → Opening parts [doc] → Follows parts k (f doc))
    (h : Each p docs) :
    Follows p (docs.length * k) (docs.flatMap f) := by
  induction h with
  | nil =>
      rw [List.length_nil, Nat.zero_mul]
      exact .nil
  | cons hdoc hopening _ ih =>
      rw [List.length_cons, Nat.succ_mul, Nat.add_comm, List.flatMap_cons]
      exact (hf hdoc hopening).append ih

/-- Documents on lines of their own, each behind the same sign. -/
theorem lines (hs : startsLine s = true) (h : Each p docs) :
    Follows p 0 (docs.flatMap fun doc => [.hardline, .text s, doc]) := by
  have hsign : isSign s = true := isSign_of_startsLine hs
  exact h.follows (k := 0) fun hdoc _ => .line (.of_sign hs _) (hdoc.lead hsign)

end Each

/-! ## Composed layouts -/

section

variable {p q : List Part} {n : Nat} {docs : List Doc}

/-- A query between brackets: its lines of projected columns are indented. -/
theorem follows_nested {query : Doc} (h : Laid p n [query]) (hopening : Opening p [query])
    (opening : String) (hsign : isSign opening = true) :
    Follows p 0 [.text opening, .concat (nestedDoc query), .text ")"] := by
  have hline : Laid ([] ++ p) (0 + n) ([] ++ .hardline :: [query]) := .line hopening .nil h
  have hclosing : Laid [] 0 [.text ")"] := Laid.nil.lead (by decide)
  have hend := (Follows.line (.of_sign (by decide) []) hclosing).behind hline.indent
  rw [List.append_nil] at hend
  exact (Follows.sign hsign hend).recut fun level => by
    simp [concatLines, Doc.lines, nestedDoc, Lines.append_assoc]

theorem Each.branches (h : Each p docs) : Follows p 0 (continued caseContinuation docs) := by
  cases h with
  | nil => exact .nil
  | cons hdoc _ hrest =>
      exact (Follows.sign (by decide) hdoc).append
        (hrest.follows (k := 0) fun hdoc _ => .branch hdoc)

theorem Each.columns (h : Each p docs) : Follows p (docs.length - 1) (columnsDoc docs) := by
  cases h with
  | nil => exact .nil
  | @cons _ _ first rest hdoc _ hrest =>
      have hlines := hrest.follows (k := 1) fun hdoc hopening => .column hopening hdoc
      rw [Nat.mul_one] at hlines
      have hall := (Follows.sign (s := " ") (by decide) hdoc).append hlines
      rwa [Nat.zero_add] at hall

theorem Each.listClause (keyword : String) (hkeyword : startsLine keyword = true)
    (h : Each p docs) :
    Follows p 0 (listClause keyword docs) := by
  have hsign : isSign keyword = true := isSign_of_startsLine hkeyword
  cases h with
  | nil => exact .nil
  | cons hdoc hopening hrest =>
      exact .line (.of_sign hkeyword _) ((Each.cons hdoc hopening hrest).commas.lead hsign)

theorem Each.listed (keyword : String) (hkeyword : startsLine keyword = true) (h : Each p docs) :
    Each p (if docs.isEmpty then [] else [.concat [.text keyword, .commas docs]]) := by
  have hsign : isSign keyword = true := isSign_of_startsLine hkeyword
  cases h with
  | nil => exact .nil
  | cons hdoc hopening hrest =>
      exact .single ((Each.cons hdoc hopening hrest).commas.lead hsign).concat
        (Opening.of_sign hkeyword _).concat

/-- A word of a part behind a sign, when it is there. -/
theorem follows_label (part : Part) (sign : String) (hsign : isSign sign = true)
    (hpart : doublesMinus part = false) (label : Option String)
    (hwords : ∀ text ∈ nonEmpty label, text ∈ words part) :
    Follows [part] 0 ((nonEmpty label).map fun text => Doc.text (sign ++ text)).toList := by
  cases hlabel : nonEmpty label with
  | none => exact Follows.nil.within hpart (List.nil_subset _)
  | some text =>
      refine (Follows.sign hsign (.word (hwords text hlabel) hpart)).recut fun level => ?_
      simp [concatLines, Doc.lines]

/-- What follows the name of a table source. -/
theorem follows_tail (part : Part) (hpart : doublesMinus part = false) (label pivot : Option String)
    (hwords : ∀ text ∈ tailTexts label pivot, text ∈ words part) :
    Follows [part] 0 (tableTail label pivot) := by
  have hlabel := follows_label part " " (by decide) hpart label fun text htext =>
    hwords text (List.mem_append_left _ (Option.mem_toList.2 htext))
  refine (hlabel.append (q := [part]) (n := 0) ?_).within hpart (by simp)
  split
  · next text htext =>
      have hword := hwords text (List.mem_append_right _ (Option.mem_toList.2 htext))
      exact .line (.of_word List.mem_cons_self hword []) (.word hword hpart)
  · exact Follows.nil.within hpart (List.nil_subset _)

/-- Names between brackets, when there are any. -/
theorem follows_names (part : Part) (opening : String) (hopening : isSign opening = true)
    (hpart : doublesMinus part = false) (names : List String)
    (hwords : names ≠ [] → ", ".intercalate names ∈ words part) :
    Follows [part] 0 (if names.isEmpty then []
      else [.text (opening ++ ", ".intercalate names ++ ")")]) := by
  cases names with
  | nil => exact Follows.nil.within hpart (List.nil_subset _)
  | cons first rest =>
      have hword := (Laid.word (hwords (List.cons_ne_nil _ _)) hpart).trail (s := ")") (by decide)
      refine (Follows.sign hopening hword).recut fun level => ?_
      simp [concatLines, Doc.lines]

theorem follows_orderTail (descending : Option Bool) (nulls : Option NullsPlace) :
    Follows [] 0 (orderTail descending nulls) := by
  have hword {s : String} (hs : isSign s = true) : Follows [] 0 [.text s] := .sign hs .nil
  refine Follows.append (p := []) (q := []) (m := 0) (n := 0) ?_ ?_
  · split
    · exact hword (by decide)
    · exact hword (by decide)
    · exact .nil
  · split
    · exact hword (by decide)
    · exact hword (by decide)
    · exact .nil

theorem laid_caseDoc {operand otherwise : Option Doc} {branches : List Doc} {p q r : List Part}
    (hoperand : Each p operand.toList) (hbranches : Each q branches)
    (hotherwise : Each r otherwise.toList) :
    Laid (p ++ (q ++ r)) 0 (caseDoc operand branches otherwise) := by
  have hcase : Laid [] 0 [.text "CASE"] := Laid.nil.lead (by decide)
  have hhead : Laid p 0 [.concat (.text "CASE" :: continued "" operand.toList)] := by
    refine Laid.concat ?_
    cases operand with
    | none =>
        cases hoperand
        exact hcase
    | some doc =>
        cases hoperand with
        | cons hdoc _ hrest =>
            cases hrest
            rw [List.append_nil]
            exact Laid.sign (s := " ") (by decide) hcase hdoc
  have helse : Each r (otherwise.map fun doc => Doc.concat [.text "ELSE ", doc]).toList := by
    cases otherwise with
    | none => exact hotherwise
    | some doc =>
        cases hotherwise with
        | cons hdoc _ hrest =>
            cases hrest
            rw [List.append_nil]
            exact .single (hdoc.lead (by decide)).concat (Opening.of_sign (by decide) _).concat
  have hparts := hbranches.append helse
  rw [caseDoc_eq]
  dsimp only
  split
  · exact .sign (by decide) hhead ((hparts.join (s := " ") (by decide)).trail (s := " END")
      (by decide))
  · have hend : Laid [] 0 [.text "END"] := Laid.nil.lead (by decide)
    have hall := (Follows.branch hend).behind (hparts.branches.behind hhead)
    rwa [List.append_nil] at hall

theorem laid_windowDoc (part : Part) {function : Doc} {partition order : List Doc}
    (frame : Option String) {p q r : List Part} (hpart : doublesMinus part = false)
    (hwords : ∀ text ∈ nonEmpty frame, text ∈ words part)
    (hfunction : Laid p 0 [function]) (hpartition : Each q partition) (horder : Each r order) :
    Laid (part :: (p ++ (q ++ r))) 0 (windowDoc function partition order frame) := by
  have hlists := (hpartition.listed "PARTITION BY " (by decide)).append
    (horder.listed "ORDER BY " (by decide))
  cases hframe : nonEmpty frame with
  | none =>
      have hwindow := (hlists.join (s := " ") (by decide)).trail (s := ")") (by decide)
      have hall := (Laid.sign (s := " OVER (") (by decide) hfunction hwindow).node part hpart
      simpa [windowDoc, hframe] using hall
  | some text =>
      have hword := hwords text hframe
      have hparts := hlists.append
        (.single (.word hword hpart) (.of_word List.mem_cons_self hword []))
      have hwindow := (hparts.join (s := " ") (by decide)).trail (s := ")") (by decide)
      have hall := Laid.sign (s := " OVER (") (by decide) hfunction hwindow
      rw [windowDoc, hframe]
      exact hall.same fun part => by simp [or_left_comm, or_comm]

end

/-! ## Expressions -/

/-- Every expression begins with a word or a sign that can stand at the start of a line. -/
theorem opening_expr (e : Expr) : Opening (exprWalk e) [exprDoc e] := by
  have hself {e : Expr} {s : String} (hs : s ∈ words (.expr e)) (back : List Doc) :
      Opening (exprWalk e) [.concat (.text s :: back)] := by
    refine (Opening.of_word ?_ hs back).concat
    rw [exprWalk_eq]
    exact List.mem_cons_self
  have hfirst {e below : Expr} {back : List Doc} (h : Opening (exprWalk below) [exprDoc below])
      (hsub : exprWalk below ⊆ exprWalk e) :
        Opening (exprWalk e) [.concat (exprDoc below :: back)] :=
    ((h.mono hsub).append back).concat
  cases e with
  | column name qualifier quoted => exact hself List.mem_cons_self []
  | literal value kind => exact hself List.mem_cons_self []
  | star qualifier => exact hself List.mem_cons_self []
  | raw sql => exact hself List.mem_cons_self []
  | call name args bare => cases bare <;> exact hself List.mem_cons_self _
  | aggregate name argument distinct => exact hself List.mem_cons_self _
  | index base index => exact hfirst (opening_expr base) (by simp [exprWalk])
  | binary operator left right => exact hfirst (opening_expr left) (by simp [exprWalk])
  | unary operator operand =>
      rw [exprDoc, exprShape]
      split
      · next hminus =>
          obtain rfl := eq_of_beq hminus
          exact hself List.mem_cons_self _
      · exact hself List.mem_cons_self _
  | paren inner => exact (Opening.of_sign (by decide) _).concat
  | between subject low high negated => exact hfirst (opening_expr subject) (by simp [exprWalk])
  | inList subject values negated => exact hfirst (opening_expr subject) (by simp [exprWalk])
  | inQuery subject query negated => exact hfirst (opening_expr subject) (by simp [exprWalk])
  | isNull subject negated => exact hfirst (opening_expr subject) (by simp [exprWalk])
  | existsIn query negated => cases negated <;> exact (Opening.of_sign (by decide) _).concat
  | caseOf operand branches otherwise =>
      have hcase (more : List Doc) : Opening (exprWalk (.caseOf operand branches otherwise))
          (.concat (.text "CASE" :: continued ""
            ((optionalShape operand).map Shape.inline).toList) :: more) :=
        (Opening.of_sign (by decide) _).concat.append more
      refine Opening.concat ?_
      rw [caseDoc_eq]
      dsimp only
      split <;> exact hcase _
  | cast operand type shorthand safe =>
      cases shorthand with
      | true => exact hfirst (opening_expr operand) (by simp [exprWalk])
      | false => cases safe <;> exact (Opening.of_sign (by decide) _).concat
  | window function partition order frame =>
      exact hfirst (opening_expr function) (by simp [exprWalk])
  | subquery query => exact (Opening.of_sign (by decide) _).concat

/-- Both layouts of an expression are composed of its words. -/
structure ExprLaid (e : Expr) : Prop where
  inline : Laid (exprWalk e) 0 [exprDoc e]
  chain : Laid (exprWalk e) 0 [chainDoc [.hardline, .text "  "] e]

theorem ExprLaid.of_inline {e : Expr} (hsingle : isChain e = false)
    (h : Laid (exprWalk e) 0 [exprDoc e]) :
    ExprLaid e where
  inline := h
  chain := by rwa [chainDoc_single _ hsingle]

theorem ExprLaid.of_leaf {e : Expr} {s : String} (hsingle : isChain e = false)
    (hwords : words (.expr e) = [s]) (hpart : doublesMinus (.expr e) = false)
    (hwalk : exprWalk e = [.expr e]) (hdoc : exprDoc e = .concat [.text s]) :
    ExprLaid e := by
  refine .of_inline hsingle ?_
  rw [hwalk, hdoc]
  exact (Laid.word (hwords ▸ List.mem_cons_self) hpart).concat

theorem ExprLaid.binary {operator : String} {left right : Expr} (hleft : ExprLaid left)
    (hright : ExprLaid right) :
    ExprLaid (.binary operator left right) := by
  have hinline : Laid (exprWalk (.binary operator left right)) 0
      [exprDoc (.binary operator left right)] := by
    have hword : Laid [.expr (.binary operator left right)] 0 [.text operator] :=
      .word List.mem_cons_self rfl
    have hall := Laid.sign (s := " ") (by decide) hleft.inline
      (Laid.sign (s := " ") (by decide) hword hright.inline)
    refine (hall.same fun part => ?_).recut fun level => ?_
    · simp [exprWalk, or_left_comm]
    · simp [concatLines, Doc.lines, exprDoc, exprShape, binaryShape]
  by_cases hchain : isChainOperator operator = true
  · refine ⟨hinline, ?_⟩
    have hstart : startsLine ("  " ++ operator) = true := by
      rw [isChainOperator, Bool.or_eq_true, beq_iff_eq, beq_iff_eq] at hchain
      obtain rfl | rfl := hchain <;> decide
    have hsign : isSign ("  " ++ operator) = true := isSign_of_startsLine hstart
    have hall := Laid.line (.of_sign hstart _) hleft.chain
      ((hright.chain.lead (s := " ") (by decide)).lead hsign)
    refine (hall.node (.expr (.binary operator left right)) rfl).recut fun level => ?_
    simp [chainDoc_chain _ hchain, concatLines, Doc.lines]
  · exact .of_inline (Bool.eq_false_iff.2 hchain) hinline

/-- An expression that is put together from laid out documents, with its own words among them or
not. -/
theorem ExprLaid.of_laid {e : Expr} {p : List Part} {docs : List Doc} (hsingle : isChain e = false)
    (hpart : doublesMinus (.expr e) = false) (hdoc : SameLines docs [exprDoc e])
    (hparts : ∀ part, part ∈ Part.expr e :: p ↔ part ∈ exprWalk e) (h : Laid p 0 docs) :
    ExprLaid e :=
  .of_inline hsingle (((h.node _ hpart).same hparts).recut hdoc)

/-- An expression that may be missing. -/
theorem each_optional {e : Option Expr} (h : ∀ below ∈ e, ExprLaid below) :
    Each (optionalWalk e) ((optionalShape e).map Shape.inline).toList := by
  cases e with
  | none => exact .nil
  | some e => exact .single (h e rfl).inline (opening_expr e)

/-- A condition behind its keyword. -/
theorem ExprLaid.condition {e : Expr} (h : ExprLaid e) (keyword : String)
    (hkeyword : startsLine keyword = true) :
    Follows (exprWalk e) 0 [.hardline, .text keyword, conditionDoc (exprShape e)] := by
  have hsign : isSign keyword = true := isSign_of_startsLine hkeyword
  have hcondition : Laid (exprWalk e) 0 [conditionDoc (exprShape e)] := by
    refine (h.chain.lead (s := " ") (by decide)).recut fun level => ?_
    simp [concatLines, lines_condition, Doc.lines]
  exact .line (.of_sign hkeyword _) (hcondition.lead hsign)

end SqlLayout.Layout
