import SqlLayout.Proofs.Layout.Fields
import SqlLayout.Proofs.Layout.LaidTrees
import SqlLayout.Proofs.Layout.Lines
import SqlLayout.Proofs.Source.Openings
import SqlLayout.Proofs.Text.LowerCase

/-!
# Comments that layouts open

The layout of an expression opens a comment exactly when it has a negation whose operand has a minus
in front: the two signs are written next to each other.  Between all other words stands a sign or a
line break, which lets no mark arise.

## Implementation notes

Whether a layout opens a comment is told from its text on one line.  Line breaks, indentation and
the spaces that are cut off make no difference to the scanner.
-/

namespace SqlLayout.Layout

open SqlLayout.Tree
open Source

/-! ## Plain parts -/

/-- A part that brings no comment of its own: its names have letters, digits, points and underscores
only, what it takes over opens no comment and leaves no literal open, and its strings have no
backslash. -/
structure Plain (part : Part) : Prop where
  named : ∀ name ∈ names part, (name.toList.all fun c => Text.isWord c || c == '.') = true
  taken : ∀ text ∈ fragments part, Stated text.toList
  quoted : ∀ value ∈ strings part, '\\' ∉ value.toList

instance (part : Part) : Decidable (Plain part) :=
  decidable_of_iff ((∀ name ∈ names part,
    (name.toList.all fun c => Text.isWord c || c == '.') = true) ∧ (∀ text ∈ fragments part,
    Stated text.toList) ∧ ∀ value ∈ strings part, '\\' ∉ value.toList)
    ⟨fun h => ⟨h.1, h.2.1, h.2.2⟩, fun h => ⟨h.named, h.taken, h.quoted⟩⟩

theorem inert_of_sign {s : String} (h : isSign s = true) :
    inert s.toList = true ∧ s.toList ≠ [] := by
  obtain ⟨hne, hall⟩ := Bool.and_eq_true_iff.1 h
  refine ⟨List.all_eq_true.2 fun c hc => ?_, by simpa using hne⟩
  exact (Bool.and_eq_true_iff.1 (List.all_eq_true.1 hall c hc)).1

/-- What is no mark of the scanner stays none in the other case. -/
theorem inert_of_marks {text other : List Char} (h : inert text = true)
    (hmarks : ∀ c ∈ other, Text.asciiMarks.has c.toNat = true → c ∈ text) : inert other = true := by
  refine List.all_eq_true.2 fun c hc => ?_
  by_contra hinert
  have hmark : Text.asciiMarks.has c.toNat = true := by
    simp only [isInert, isQuote, Bool.and_eq_true, Bool.not_eq_true', Bool.or_eq_false_iff,
      bne_iff_ne, beq_eq_false_iff_ne, not_and_or, Classical.not_not] at hinert
    obtain (((((rfl | rfl) | rfl) | rfl) | rfl) | rfl) := hinert <;> decide
  exact hinert (List.all_eq_true.1 h c (hmarks c hc hmark))

theorem Composed.inert {texts : List String} {text : List Char}
    (htexts : ∀ s ∈ texts, inert s.toList = true) (h : Composed texts text) :
    inert text = true := by
  induction h with
  | name h => exact htexts _ h
  | upper _ ih => exact inert_of_marks ih fun c hc hmark => Text.mem_of_mem_upper hc hmark
  | lower _ ih => exact inert_of_marks ih fun c hc hmark => Text.mem_of_mem_lower hc hmark
  | trail hs _ ih => exact inert_append.2 ⟨ih, (inert_of_sign hs).1⟩
  | between hs _ _ ihfront ihback =>
      exact inert_append.2 ⟨inert_append.2 ⟨ihfront, (inert_of_sign hs).1⟩, ihback⟩

theorem Plain.inert_names {part : Part} (hpart : Plain part) :
    ∀ name ∈ names part, inert name.toList = true := by
  intro name hname
  refine List.all_eq_true.2 fun c hc => ?_
  obtain hword | hpoint := Bool.or_eq_true_iff.1 (List.all_eq_true.1 (hpart.named name hname) c hc)
  · exact isInert_of_solid (solid_of_isWord hword)
  · obtain rfl := eq_of_beq hpoint
    rfl

theorem Plain.inert_front {part : Part} (hpart : Plain part) {front : List Char}
    (h : front = [] ∨ Composed (names part) front) : inert front = true := by
  obtain rfl | h := h
  · rfl
  · exact h.inert hpart.inert_names

/-- The words of a plain part open no comment and leave no literal open. -/
theorem Plain.stated {part : Part} (hpart : Plain part) {s : String} (h : s ∈ words part) :
    Stated s.toList := by
  cases spelled_of_mem_words h with
  | fragment h => exact hpart.taken s h
  | string hvalue => exact stated_quoteString (hpart.quoted _ hvalue)
  | sign h => exact stated_of_inert (inert_of_sign (isSign_of_startsLine h)).1
  | composed h => exact stated_of_inert (h.inert hpart.inert_names)
  | star hfront h =>
      have hinert := hpart.inert_front hfront
      rw [h]
      exact (stated_of_inert hinert).append (by decide) (not_joins_inert_last hinert)

/-! ## Expressions with a minus in front -/

section

variable {front back : List Char}

theorem head_before_other {c : Char} (hc : c ≠ '-') :
    (front ++ c :: back).head? = some '-' ↔ front.head? = some '-' := by
  cases front with
  | nil => simp [hc]
  | cons x front => rfl

theorem head_ne_minus_of_inert (h : inert front = true) : front.head? ≠ some '-' := fun hhead =>
  absurd (List.all_eq_true.1 h _ (List.mem_of_mem_head? (Option.mem_def.2 hhead))) (by decide)

/-- A word that is not taken over as it is does not begin with a minus. -/
theorem Plain.head_ne_minus {part : Part} (hpart : Plain part) (hfragments : fragments part = [])
    {s : String} (h : s ∈ words part) : s.toList.head? ≠ some '-' := by
  cases spelled_of_mem_words h with
  | fragment h =>
      rw [hfragments] at h
      cases h
  | string hvalue => simp [toList_quoteString]
  | sign h => exact head_ne_minus_of_inert (inert_of_sign (isSign_of_startsLine h)).1
  | composed h => exact head_ne_minus_of_inert (h.inert hpart.inert_names)
  | star hfront h =>
      rw [h, Ne, head_before_other (by decide)]
      exact head_ne_minus_of_inert (hpart.inert_front hfront)

end

/-- Behind the first document stands a text that does not begin with a minus. -/
theorem head_flat_first {first : Doc} {s : String} {c : Char} (more : List Doc)
    (hs : s.toList.head? = some c) (hc : c ≠ '-') :
    (Doc.concat (first :: .text s :: more)).flat.head? = some '-' ↔
      first.flat.head? = some '-' := by
  obtain ⟨rest, hrest⟩ := List.head?_eq_some_iff.1 hs
  rw [Doc.flat, concatFlat, concatFlat, Doc.flat, hrest, List.cons_append, head_before_other hc]

theorem head_flat_other {s : String} {c : Char} (more : List Doc) (hs : s.toList.head? = some c)
    (hc : c ≠ '-') : (Doc.concat (.text s :: more)).flat.head? ≠ some '-' := by
  obtain ⟨rest, hrest⟩ := List.head?_eq_some_iff.1 hs
  simp [Doc.flat, concatFlat, hrest, hc]

/-- Of plain parts the text of an expression begins with a minus when the expression has one in
front. -/
theorem head_flat_iff (e : Expr) (hplain : ∀ part ∈ exprWalk e, Plain part) :
    (exprDoc e).flat.head? = some '-' ↔ leadsMinus e = true := by
  have hself : Plain (.expr e) := hplain _ (by rw [exprWalk_eq]; exact List.mem_cons_self)
  have hword {s : String} (hs : s ∈ words (.expr e)) (hfragments : fragments (.expr e) = []) :
      s.toList.head? ≠ some '-' := hself.head_ne_minus hfragments hs
  have hleaf {s : String} (hs : s ∈ words (.expr e)) (hfragments : fragments (.expr e) = []) :
      (Doc.concat [.text s]).flat.head? ≠ some '-' := by
    simpa [Doc.flat, concatFlat] using hword hs hfragments
  have hcall {s : String} (more : List Doc) (hs : s ∈ words (.expr e))
      (hfragments : fragments (.expr e) = []) :
      (Doc.concat (.text s :: .text "(" :: more)).flat.head? ≠ some '-' :=
    mt (head_flat_first (c := '(') more (by simp) (by decide)).1 (hword hs hfragments)
  cases e with
  | column name qualifier quoted | literal value kind | star qualifier =>
      exact iff_of_false (hleaf List.mem_cons_self rfl) Bool.false_ne_true
  | raw sql => simp [exprDoc, exprShape, Shape.single, Doc.flat, concatFlat, leadsMinus]
  | call name args bare =>
      cases bare with
      | true => exact iff_of_false (hleaf List.mem_cons_self rfl) Bool.false_ne_true
      | false => exact iff_of_false (hcall _ List.mem_cons_self rfl) Bool.false_ne_true
  | aggregate name argument distinct =>
      exact iff_of_false (hcall _ List.mem_cons_self rfl) Bool.false_ne_true
  | index base index =>
      have hbase := head_flat_iff base fun part hpart => hplain part (by simp [exprWalk, hpart])
      exact (head_flat_first (c := '[') [] (by simp) (by decide)).trans hbase
  | binary operator left right =>
      have hleft := head_flat_iff left fun part hpart => hplain part (by simp [exprWalk, hpart])
      exact (head_flat_first (c := ' ') _ (by simp) (by decide)).trans hleft
  | unary operator operand =>
      rw [exprDoc, exprShape, leadsMinus]
      split
      · next hminus =>
          obtain rfl := eq_of_beq hminus
          exact iff_of_true rfl rfl
      · have hspace : concatFlat [.text " ", exprDoc operand] =
            ' ' :: concatFlat [exprDoc operand] := rfl
        rw [← exprDoc, Shape.single, Doc.flat, concatFlat, Doc.flat, hspace,
          head_before_other (by decide), beq_iff_eq]
  | paren inner =>
      exact iff_of_false (head_flat_other _ (c := '(') rfl (by decide)) Bool.false_ne_true
  | between subject low high negated | inList subject values negated | inQuery subject query negated
  | isNull subject negated =>
      have hsubject := head_flat_iff subject fun part hpart =>
        hplain part (by simp [exprWalk, hpart])
      exact (head_flat_first (c := ' ') _ (by cases negated <;> rfl) (by decide)).trans hsubject
  | existsIn query negated =>
      refine iff_of_false ?_ Bool.false_ne_true
      cases negated with
      | true => exact head_flat_other _ (c := 'N') rfl (by decide)
      | false => exact head_flat_other _ (c := 'E') rfl (by decide)
  | caseOf operand branches otherwise =>
      have hcase (front more : List Doc) :
          (Doc.concat (.concat (.text "CASE" :: front) :: more)).flat.head? ≠ some '-' := by
        simp [Doc.flat, concatFlat]
      refine iff_of_false ?_ Bool.false_ne_true
      rw [exprDoc, exprShape, Shape.single, caseDoc_eq]
      dsimp only
      split <;> exact hcase _ _
  | cast operand type shorthand safe =>
      cases shorthand with
      | true =>
          have hoperand := head_flat_iff operand fun part hpart =>
            hplain part (by simp [exprWalk, hpart])
          exact (head_flat_first (c := ':') [] (by simp) (by decide)).trans hoperand
      | false =>
          refine iff_of_false ?_ Bool.false_ne_true
          cases safe with
          | true => exact head_flat_other _ (c := 'T') rfl (by decide)
          | false => exact head_flat_other _ (c := 'C') rfl (by decide)
  | window function partition order frame =>
      have hfunction := head_flat_iff function fun part hpart =>
        hplain part (by simp [exprWalk, hpart])
      exact (head_flat_first (c := ' ') _ (by simp) (by decide)).trans hfunction
  | subquery query =>
      exact iff_of_false (head_flat_other _ (c := '(') rfl (by decide)) Bool.false_ne_true

/-! ## Layouts on one line -/

/-- How the text of a layout is scanned: it opens a comment exactly for the negations of its parts
that double the minus, and leaves no literal open else. -/
structure Scans (parts : List Part) (text : List Char) : Prop where
  closed : OpensComment text ∨ modeAfter .code text = .code
  doubled : OpensComment text → ∃ part ∈ parts, doublesMinus part = true
  opens : Regular parts → (∃ part ∈ parts, doublesMinus part = true) → OpensComment text

theorem Scans.of_stated {parts : List Part} {text : List Char} (h : Stated text)
    (hparts : ∀ part ∈ parts, doublesMinus part = false) : Scans parts text where
  closed := .inr h.code
  doubled hopens := absurd hopens h.closed
  opens _ := fun ⟨part, hpart, hdoubles⟩ => by simp [hparts part hpart] at hdoubles

theorem Scans.between {p q : List Part} {front s back : List Char} (hs : inert s = true)
    (hne : s ≠ []) (hfront : Scans p front) (hback : Scans q back) :
    Scans (p ++ q) (front ++ (s ++ back)) := by
  have hmiddle : OpensComment (front ++ (s ++ back)) ↔ OpensComment front ∨ OpensComment back :=
    opensComment_between hs hne hfront.closed
  refine ⟨?_, fun hopens => ?_, fun hregular hdoubles => ?_⟩
  · rw [hmiddle]
    by_cases hopens : OpensComment front ∨ OpensComment back
    · exact .inl hopens
    · obtain ⟨hfront', hback'⟩ := not_or.1 hopens
      refine .inr ?_
      rw [modeAfter_between hs hne (hfront.closed.resolve_left hfront')]
      exact hback.closed.resolve_left hback'
  · obtain hopens | hopens := hmiddle.1 hopens
    · exact (hfront.doubled hopens).imp fun part h => ⟨List.mem_append_left q h.1, h.2⟩
    · exact (hback.doubled hopens).imp fun part h => ⟨List.mem_append_right p h.1, h.2⟩
  · obtain ⟨hp, hq⟩ := regular_append.1 hregular
    obtain ⟨part, hpart, hdouble⟩ := hdoubles
    obtain hpart | hpart := List.mem_append.1 hpart
    · exact hmiddle.2 (.inl (hfront.opens hp ⟨part, hpart, hdouble⟩))
    · exact hmiddle.2 (.inr (hback.opens hq ⟨part, hpart, hdouble⟩))

/-- A minus directly in front of a text. -/
theorem opensComment_minus (text : List Char) :
    OpensComment ('-' :: text) ↔ text.head? = some '-' ∨ OpensComment text := by
  by_cases hminus : text.head? = some '-'
  · refine iff_of_true ⟨[], _, rfl, rfl, startsComment_cons.2 ⟨'-', hminus, by decide, by decide⟩⟩
      (.inl hminus)
  · rw [← List.singleton_append, opensComment_append (by decide) (not_joins_minus hminus),
      or_congr_left]
    exact iff_of_false (by decide) hminus

/-- The sign of a negation in front of its operand. -/
theorem Scans.minus {operand : Expr} {p : List Part}
    (hlead : (exprDoc operand).flat.head? = some '-' ↔ leadsMinus operand = true)
    (h : Scans p (exprDoc operand).flat) :
    Scans (.expr (.unary "-" operand) :: p) ('-' :: (exprDoc operand).flat) := by
  have hdoubles : doublesMinus (.expr (.unary "-" operand)) = true ↔
      (exprDoc operand).flat.head? = some '-' := by
    rw [hlead]
    rfl
  have hopens := opensComment_minus (exprDoc operand).flat
  refine ⟨?_, fun h' => ?_, fun hregular h' => ?_⟩
  · by_cases hminus : (exprDoc operand).flat.head? = some '-'
    · exact .inl (hopens.2 (.inl hminus))
    · refine h.closed.imp (fun hoperand => hopens.2 (.inr hoperand)) fun hcode => ?_
      rw [← List.singleton_append, modeAfter_append (by decide) (not_joins_minus hminus), hcode]
  · obtain hminus | hoperand := hopens.1 h'
    · exact ⟨_, List.mem_cons_self, hdoubles.2 hminus⟩
    · exact (h.doubled hoperand).imp fun part hpart => ⟨List.mem_cons_of_mem _ hpart.1, hpart.2⟩
  · obtain ⟨part, hpart, hdouble⟩ := h'
    obtain rfl | hpart := List.mem_cons.1 hpart
    · exact hopens.2 (.inl (hdoubles.1 hdouble))
    · exact hopens.2 (.inr (h.opens (regular_cons.1 hregular).2 ⟨part, hpart, hdouble⟩))

/-- The text of lines, with a line feed for each break. -/
def Lines.text : Lines → List Char
  | .last text => text
  | .line text _ below => text ++ '\n' :: below.text

theorem text_behind (s : List Char) (lines : Lines) : (lines.behind s).text = s ++ lines.text := by
  cases lines <;> simp [Lines.text]

theorem text_linesOf (items : List Item) : (linesOf items).text = itemsFlat items := by
  induction items with
  | nil => rfl
  | cons item rest ih =>
      cases item with
      | text s => rw [linesOf, text_behind, ih]; rfl
      | newline level => rw [linesOf, Lines.text, ih]; rfl

theorem text_concatLines (level : Nat) (docs : List Doc) :
    (concatLines level docs).text = concatFlat docs := by
  rw [← linesOf_concatItems, text_linesOf, itemsFlat_concatItems]

/-- The layout of plain parts opens a comment exactly for the negations that double the minus. -/
theorem Laid.scans {p : List Part} {n : Nat} {docs : List Doc} (h : Laid p n docs)
    (hplain : ∀ part ∈ p, Plain part) :
    Scans p (concatFlat docs) := by
  induction h with
  | nil => exact .of_stated stated_nil (List.forall_mem_nil _)
  | @word part s hs hpart =>
      obtain ⟨hplain, -⟩ := List.forall_mem_cons.1 hplain
      simpa [concatFlat, Doc.flat] using
        Scans.of_stated (hplain.stated hs) (List.forall_mem_cons.2 ⟨hpart, List.forall_mem_nil _⟩)
  | @sign s p q _ _ front back hs _ _ ihfront ihback =>
      obtain ⟨hp, hq⟩ := List.forall_mem_append.1 hplain
      obtain ⟨hinert, hne⟩ := inert_of_sign hs
      simpa [concatFlat_append, concatFlat, Doc.flat] using (ihfront hp).between hinert hne
        (ihback hq)
  | line _ _ _ ihfront ihback =>
      obtain ⟨hp, hq⟩ := List.forall_mem_append.1 hplain
      have hall := (ihfront hp).between (s := ['\n']) (by decide) (List.cons_ne_nil _ _) (ihback hq)
      simpa [concatFlat_append, concatFlat, Doc.flat] using hall
  | column _ _ _ ihfront ihback =>
      obtain ⟨hp, hq⟩ := List.forall_mem_append.1 hplain
      have hall := (ihfront hp).between (s := '\n' :: columnContinuation.toList) (by decide)
        (List.cons_ne_nil _ _)
        (ihback hq)
      simpa [concatFlat_append, concatFlat, Doc.flat] using hall
  | branch _ _ ihfront ihback =>
      obtain ⟨hp, hq⟩ := List.forall_mem_append.1 hplain
      have hall := (ihfront hp).between (s := '\n' :: caseContinuation.toList) (by decide)
        (List.cons_ne_nil _ _)
        (ihback hq)
      simpa [concatFlat_append, concatFlat, Doc.flat] using hall
  | indent _ ih => simpa [concatFlat, Doc.flat] using ih hplain
  | @minus operand _ _ ih =>
      obtain ⟨-, hplain⟩ := List.forall_mem_cons.1 hplain
      have hoperand := ih hplain
      rw [concatFlat, concatFlat, List.append_nil] at hoperand
      simpa [concatFlat, Doc.flat] using hoperand.minus (head_flat_iff operand hplain)
  | recut _ hsame ih =>
      rw [← text_concatLines 0, ← hsame 0, text_concatLines]
      exact ih hplain
  | cover hsub hleft _ ih =>
      obtain ⟨hclosed, hdoubled, hopens⟩ := ih fun part hpart => hplain part (hsub hpart)
      refine ⟨hclosed, fun h => (hdoubled h).imp fun part hpart => ⟨hsub hpart.1, hpart.2⟩, ?_⟩
      rintro hregular ⟨part, hpart, hdouble⟩
      exact hopens (fun part hpart => hregular part (hsub hpart))
        ⟨part, hleft hregular part hpart hdouble, hdouble⟩

/-! ## Rendered layouts -/

theorem exists_trimEnd (text : List Char) :
    ∃ spaces, text = trimEnd text ++ spaces ∧ ∀ c ∈ spaces, c = ' ' := by
  refine ⟨text.rtakeWhile (· == ' '), List.rdropWhile_append_rtakeWhile.symm, fun c hc => ?_⟩
  exact eq_of_beq (List.mem_rtakeWhile_imp (p := (· == ' ')) hc)

theorem isOrdinary_spaces {spaces : List Char} (h : ∀ c ∈ spaces, c = ' ') :
    ∀ c ∈ spaces, isOrdinary c = true :=
  fun c hc => h c hc ▸ rfl

section

variable {mode : Mode} {margin : List Char}

/-- Spaces that are added in front of a text and cut off at its end make no difference to the
scanner. -/
theorem opensFrom_trimEnd (hmode : mode.Opened) (hmargin : ∀ c ∈ margin, c = ' ')
    (text : List Char) :
    (OpensFrom mode (trimEnd (margin ++ text)) ↔ OpensFrom mode text) ∧
      modeAfter mode (trimEnd (margin ++ text)) = modeAfter mode text := by
  obtain ⟨spaces, hspaces, hall⟩ := exists_trimEnd (margin ++ text)
  have hmargin := isOrdinary_spaces hmargin
  have hall := isOrdinary_spaces hall
  constructor
  · rw [← opensFrom_before_ordinary hmode hall, ← hspaces, opensFrom_all_ordinary hmode hmargin]
  · rw [← modeAfter_before_ordinary hmode hall, ← hspaces, modeAfter_all_ordinary hmode hmargin]

/-- Rendered lines open a comment exactly when their text does. -/
theorem opensFrom_printed (tabWidth : Nat) (lines : Lines) (hmode : mode.Opened)
    (hmargin : ∀ c ∈ margin, c = ' ') :
    OpensFrom mode (['\n'].intercalate ((lines.behind margin).printed tabWidth)) ↔
      OpensFrom mode lines.text := by
  induction lines generalizing mode margin with
  | last text => simpa [Lines.printed, Lines.text] using (opensFrom_trimEnd hmode hmargin text).1
  | line text level below ih =>
      obtain ⟨hopens, hafter⟩ := opensFrom_trimEnd hmode hmargin text
      have hopened : (modeAfter mode text).Opened := modeAfter_opened hmode
      obtain ⟨next, hnext, hfeed⟩ := exists_opensFrom_feed hopened
      have hlines : (Lines.line text level below).behind margin =
          (Lines.line [] level below).behind (margin ++ text) := by
        simp
      have hspaces : ∀ c ∈ Layout.margin tabWidth level, c = ' ' :=
        fun c hc => List.eq_of_mem_replicate hc
      have hbelow := ih hnext hspaces
      rw [hlines, printed_behind, List.intercalate_cons_of_ne_nil (by simp [Lines.printed]),
        List.append_assoc, List.singleton_append, Lines.text, opensFrom_before_inert hmode rfl,
        opensFrom_before_inert hmode rfl, hopens,
        hafter, hfeed, hfeed, hbelow]

end

/-- What is rendered opens a comment exactly when the text on one line does. -/
theorem opensComment_render (doc : Doc) (tabWidth : Nat) :
    OpensComment (doc.render tabWidth).toList ↔ OpensComment doc.flat := by
  have hprinted := opensFrom_printed tabWidth (doc.lines 0) Mode.opened_code (List.forall_mem_nil _)
  have htext := text_concatLines 0 [doc]
  rw [concatLines, concatLines, Lines.append_nil, concatFlat, concatFlat, List.append_nil] at htext
  rwa [Lines.behind_nil, ← toList_render_eq, htext] at hprinted

/-- The layout of an expression of plain parts opens no comment, and its mask blanks nothing, when
no negation doubles the minus.  When all parts are printed, it is so only then. -/
theorem expr_opens_no_comment_iff (e : Expr) (hplain : ∀ part ∈ (Part.expr e).preorder, Plain part)
    (tabWidth : Nat) :
    ((∀ part ∈ (Part.expr e).preorder, doublesMinus part = false) →
        ¬ OpensComment ((exprDoc e).render tabWidth).toList ∧
          FillsOnly ((exprDoc e).render tabWidth).toList) ∧
      (Regular (Part.expr e).preorder →
        (¬ OpensComment ((exprDoc e).render tabWidth).toList ↔
          ∀ part ∈ (Part.expr e).preorder, doublesMinus part = false) ∧
        (FillsOnly ((exprDoc e).render tabWidth).toList ↔
          ∀ part ∈ (Part.expr e).preorder, doublesMinus part = false)) := by
  have hscans := (laid_expr e).inline.scans hplain
  rw [concatFlat, concatFlat, List.append_nil] at hscans
  have hsingle (hnone : ∀ part ∈ (Part.expr e).preorder, doublesMinus part = false) :
      ¬ OpensComment (exprDoc e).flat := by
    intro hopens
    obtain ⟨part, hpart, hdouble⟩ := hscans.doubled hopens
    rw [hnone part hpart] at hdouble
    cases hdouble
  have hiff (hregular : Regular (Part.expr e).preorder) :
      ¬ OpensComment (exprDoc e).flat ↔ ∀ part ∈ (Part.expr e).preorder,
        doublesMinus part = false := by
    refine ⟨fun hclosed part hpart => Bool.eq_false_iff.2 fun hdouble => ?_, hsingle⟩
    exact hclosed (hscans.opens hregular ⟨part, hpart, hdouble⟩)
  rw [fillsOnly_iff, opensComment_render]
  exact ⟨fun hnone => ⟨hsingle hnone, hsingle hnone⟩,
    fun hregular => ⟨hiff hregular, hiff hregular⟩⟩

/-- A quotient of a negation and a cast string with a comment mark. -/
def quotient : Expr :=
  .binary "/" (.unary "-" (.column "a" (some "t") false))
    (.cast (.literal "--" .string) { name := "char" } false false)

theorem expr_opens_no_comment_iff_quotient : (∀ part ∈ (Part.expr quotient).preorder, Plain part) ∧
    Regular (Part.expr quotient).preorder ∧ FillsOnly ((exprDoc quotient).render 4).toList := by
  have hplain : ∀ part ∈ (Part.expr quotient).preorder, Plain part := by decide
  have hregular : Regular (Part.expr quotient).preorder := by decide
  exact ⟨hplain, hregular, ((expr_opens_no_comment_iff quotient hplain 4).2 hregular).2.2
    (by decide)⟩

/-- A negated negation is printed as the beginning of a comment. -/
theorem negated_negation_opens_comment :
    (∀ part ∈ (Part.expr (.unary "-" (.unary "-" (.literal "1" .number)))).preorder, Plain part) ∧
      (exprDoc (.unary "-" (.unary "-" (.literal "1" .number)))).render 4 = "--1" ∧
      OpensComment ((exprDoc (.unary "-" (.unary "-" (.literal "1" .number)))).render 4).toList ∧
      ¬ FillsOnly ((exprDoc (.unary "-" (.unary "-" (.literal "1" .number)))).render 4).toList := by
  decide

end SqlLayout.Layout
