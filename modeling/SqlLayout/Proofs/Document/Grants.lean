import SqlLayout.Proofs.Document.Routes
import SqlLayout.Proofs.Grant.Boundaries
import SqlLayout.Proofs.Layout.Documents

/-!
# Documents of grants

A text of grants is printed line by line, and the lines are cut into statements again.  A line is a
statement of its own, unless its semicolon is printed within a line comment: then it goes on with
the next line.

## Implementation notes

What the splitter makes of the printed lines is proved by induction on them, with the lines in front
that have not met a visible semicolon yet (`Open`).  A text of one piece is read with all that
follows the piece, so it is counted by itself.
-/

namespace SqlLayout.Document

open Placeholder (isTrailing inert_of_trailing trailing_terminator scan_trailing)
open Source (mask modeAfter hidden_iff hidden_of_append)
open Text (strip)

/-! ## Statements and the blanks around them -/

section

variable {text core front tail lead trail : List Char}

theorem hidden_blanks_append (hlead : ∀ x ∈ lead, Text.isBlank x = true) :
    ';' ∉ mask (lead ++ text) ↔ ';' ∉ mask text := by
  have hnone : ';' ∉ lead := fun hmem => absurd (hlead _ hmem) (by decide)
  have hmask : mask (lead ++ text) = mask lead ++ mask text := by
    refine Source.mask_append (by simpa [modeAfter] using modeAfter_blanks hlead []) fun x hx y _ =>
      ?_
    exact Source.joins_inert_left
      (inert_of_trailing (trailing_of_blank (hlead x (List.mem_of_getLast? hx)))).1 y
  have hlead' : ';' ∉ mask lead := by
    simpa using @Source.hidden_append [] lead (by simp [mask, Source.maskFrom]) hnone
  rw [hmask, List.mem_append, not_or]
  exact ⟨And.right, fun h => ⟨hlead', h⟩⟩

theorem statements_blanks_append (hlead : ∀ x ∈ lead, Text.isBlank x = true) (text : List Char) :
    Source.statements (lead ++ text) = Source.statements text := by
  have hstrip (text : List Char) : strip (lead ++ text) = strip text := by
    simpa using @Text.strip_between lead text [] hlead (by simp)
  by_cases h : ';' ∈ mask text
  · obtain ⟨front, rest, rfl, hfront, houtside⟩ := Source.exists_first_semicolon h
    have houtside' : modeAfter .code (lead ++ front) = .code :=
      (modeAfter_blanks hlead front).trans houtside
    rw [← List.append_assoc, statements_cons ((hidden_blanks_append hlead).2 hfront) houtside',
      statements_cons hfront houtside, hstrip]
  · rw [statements_hidden ((hidden_blanks_append hlead).2 h), statements_hidden h, hstrip]

theorem statements_append_blanks (htrail : ∀ x ∈ trail, Text.isBlank x = true) (text : List Char) :
    Source.statements (text ++ trail) = Source.statements text := by
  have hpieces := Source.pieces_splitOutside text
  generalize Source.splitOutside ';' text = pieces at hpieces
  induction hpieces with
  | @last text hidden =>
      have hnone : ';' ∉ trail := fun hmem => absurd (htrail _ hmem) (by decide)
      have hstrip : strip (text ++ trail) = strip text := by
        simpa using @Text.strip_between [] text trail (by simp) htrail
      rw [statements_hidden (Source.hidden_append hidden hnone), statements_hidden hidden, hstrip]
  | cons hidden houtside tail ih =>
      rw [List.append_assoc, List.cons_append, statements_cons hidden houtside,
        statements_cons hidden houtside, ih]

/-- Blanks around a text belong to no statement. -/
theorem statements_strip (text : List Char) :
    Source.statements (strip text) = Source.statements text := by
  obtain ⟨lead, trail, hlead, htrail, htext⟩ := Text.exists_strip text
  conv_rhs => rw [htext, statements_blanks_append hlead, statements_append_blanks htrail]

theorem statements_trailing (h : ∀ x ∈ text, isTrailing x = true) :
    Source.statements text = [] := by
  refine List.filterMap_eq_nil_iff.2 fun piece hpiece => ?_
  have hpart := (Source.pieces_splitOutside text).isInfix hpiece
  have hidden := (Source.pieces_splitOutside text).not_mem_mask hpiece
  have hall : ∀ x ∈ piece, isTrailing x = true := fun x hx => h x (hpart.subset hx)
  have hblank : strip piece = [] := by
    refine Text.strip_eq_nil_iff.2 fun x hx => ?_
    obtain hx' | hx' := Bool.or_eq_true_iff.1 (hall x hx)
    · exact hx'
    · obtain ⟨front, back, rfl⟩ := List.append_of_mem (eq_of_beq hx' ▸ hx)
      have hfront : (front.all Source.isInert) = true :=
        List.all_eq_true.2 fun y hy => (inert_of_trailing (hall y (List.mem_append_left _ hy))).1
      exact absurd (Source.modeAfter_of_inert hfront) (hidden_iff.1 hidden front back rfl)
  simp [hblank]

/-- A text without a visible semicolon is one statement, whatever semicolons and blanks follow
it. -/
theorem length_statements (hidden : ';' ∉ mask core) (hsolid : strip core ≠ [])
    (htail : ∀ x ∈ tail, isTrailing x = true) : (Source.statements (core ++ tail)).length = 1 := by
  have hsolid' (more : List Char) : strip (core ++ more) ≠ [] :=
    fun hnil => hsolid (Text.strip_append_eq_nil.1 hnil).1
  by_cases h : ';' ∈ mask (core ++ tail)
  · obtain ⟨front, rest, htext, hfront, houtside⟩ := Source.exists_first_semicolon h
    obtain ⟨gap, rfl, rfl⟩ := Source.exists_gap hidden htext houtside
    have hrest : ∀ x ∈ rest, isTrailing x = true := fun x hx => htail x (by simp [hx])
    rw [htext, statements_cons hfront houtside, if_neg (hsolid' gap), statements_trailing hrest]
    rfl
  · rw [statements_hidden h, if_neg (hsolid' tail)]
    rfl

/-! ## The pieces of a text -/

/-- A piece is a trimmed text without a visible semicolon, and a semicolon. -/
theorem exists_core {piece : List Char} (h : piece ∈ Source.statements text) :
    ∃ core, piece = core ++ [';'] ∧ strip core = core ∧ core ≠ [] ∧ ';' ∉ mask core := by
  obtain ⟨segment, hsegment, hfinish⟩ := List.mem_filterMap.1 h
  dsimp only at hfinish
  split at hfinish
  · cases hfinish
  · next hne =>
      refine ⟨strip segment, (Option.some.inj hfinish).symm,
        Text.strip_strip segment, by simpa using hne, ?_⟩
      have hidden := (Source.pieces_splitOutside text).not_mem_mask hsegment
      obtain ⟨lead, trail, hlead, -, hparts⟩ := Text.exists_strip segment
      rw [hparts, hidden_blanks_append hlead] at hidden
      exact hidden_of_append hidden

/-- What follows a text ends a line comment at most. -/
theorem code_or_line {mode : Source.Mode} (hmode : mode.Opened)
    (htail : ∀ x ∈ tail, isTrailing x = true) (h : modeAfter mode tail = .code) :
    mode = .code ∨ mode = .line := by
  cases mode with
  | code => exact .inl rfl
  | line => exact .inr rfl
  | block =>
      rw [Placeholder.modeAfter_block htail] at h
      cases h
  | literal quote =>
      rw [Placeholder.modeAfter_literal hmode htail] at h
      cases h

theorem modeAfter_semicolon (text : List Char) :
    modeAfter .code (text ++ [';']) = modeAfter .code text := by
  have hopened : (modeAfter .code text).Opened := Source.modeAfter_opened Source.Mode.opened_code
  rw [(scan_trailing text trailing_terminator).2]
  generalize modeAfter .code text = mode at hopened
  cases mode with
  | code => rfl
  | line => rfl
  | block => rfl
  | literal quote => exact Placeholder.modeAfter_literal hopened trailing_terminator

/-- Every piece but the last ends in statement text or in a line comment. -/
theorem modeAfter_piece {piece : List Char} (h : piece ∈ (Source.statements text).dropLast) :
    modeAfter .code piece = .code ∨ modeAfter .code piece = .line := by
  have hpieces := Source.pieces_splitOutside text
  generalize Source.splitOutside ';' text = pieces at hpieces
  induction hpieces with
  | last hidden =>
      rw [statements_hidden hidden] at h
      split at h <;> cases h
  | @cons segment rest pieces hidden houtside tail ih =>
      rw [statements_cons hidden houtside] at h
      by_cases hrest : Source.statements rest = []
      · rw [hrest, List.append_nil] at h
        split at h <;> cases h
      · rw [List.dropLast_append_of_ne_nil hrest] at h
        obtain hfirst | hlater := List.mem_append.1 h
        · split at hfirst
          · cases hfirst
          · obtain rfl := List.mem_singleton.1 hfirst
            obtain ⟨lead, trail, hlead, htrail, hparts⟩ := Text.exists_strip segment
            have htrailing : ∀ x ∈ trail, isTrailing x = true :=
              fun x hx => trailing_of_blank (htrail x hx)
            rw [hparts, modeAfter_blanks hlead, (scan_trailing (strip segment) htrailing).2]
              at houtside
            rw [modeAfter_semicolon]
            exact code_or_line (Source.modeAfter_opened Source.Mode.opened_code) htrailing houtside
        · exact ih hlater

end

/-! ## Statements line by line -/

/-- A text that ends with its only visible semicolon, or with one in a comment or a literal. -/
def Terminated (text : List Char) : Prop :=
  ∃ core, text = core ++ [';'] ∧ ';' ∉ mask core ∧ strip core ≠ []

/-- Lines without a visible semicolon, after which the scanner is in statement text. -/
structure Open (front : List Char) : Prop where
  hidden : ';' ∉ mask front
  outside : modeAfter .code front = .code
  ends : ∀ x ∈ front.getLast?, x = '\n'

section

variable {front core : List Char}

theorem open_nil : Open [] :=
  ⟨by simp [mask, Source.maskFrom], rfl, by simp⟩

theorem open_feed : Open ['\n'] :=
  ⟨by decide, rfl, by simp⟩

theorem trailing_lineEnd : ∀ x ∈ [';', '\n'], isTrailing x = true := by
  simp [isTrailing]
  decide

theorem Open.scan (h : Open front) (text : List Char) :
    mask (front ++ text) = mask front ++ mask text ∧
      modeAfter .code (front ++ text) = modeAfter .code text := by
  have hapart : ∀ x ∈ front.getLast?, ∀ y ∈ text.head?, Source.joins x y = false := by
    intro x hx y _
    rw [h.ends x hx]
    exact Source.joins_inert_left (by decide) y
  exact ⟨Source.mask_append h.outside hapart, Source.modeAfter_append h.outside hapart⟩

theorem Open.hidden_append (h : Open front) (hcore : ';' ∉ mask core) :
    ';' ∉ mask (front ++ core) := by
  rw [(h.scan core).1, List.mem_append, not_or]
  exact ⟨h.hidden, hcore⟩

/-- The semicolon in a line comment is no end, and the comment ends with the line. -/
theorem Open.line (h : Open front) (hcore : ';' ∉ mask core)
    (hmode : modeAfter .code core = .line) :
    Open (front ++ (core ++ [';', '\n'])) where
  hidden := by
    refine h.hidden_append ?_
    rw [(scan_trailing core trailing_lineEnd).1, hmode, List.mem_append, not_or]
    exact ⟨hcore, by decide⟩
  outside := by
    rw [(h.scan _).2, (scan_trailing core trailing_lineEnd).2, hmode]
    rfl
  ends := by simp

/-- A line goes on with the next one exactly when it ends in a line comment. -/
theorem length_statements_lines {texts : List (List Char)} (hfront : Open front) (hne : texts ≠ [])
    (htexts : ∀ text ∈ texts, Terminated text)
    (hmode : ∀ text ∈ texts.dropLast, modeAfter .code text = .code ∨ modeAfter .code text = .line) :
    (Source.statements (front ++ texts.flatMap (· ++ ['\n']))).length +
      texts.dropLast.countP (modeAfter .code · == .line) = texts.length := by
  induction texts generalizing front with
  | nil => exact absurd rfl hne
  | cons text rest ih =>
      obtain ⟨⟨core, rfl, hcore, hsolid⟩, hrest⟩ := List.forall_mem_cons.1 htexts
      have hsolid' : strip (front ++ core) ≠ [] :=
        fun hnil => hsolid (Text.strip_append_eq_nil.1 hnil).2
      cases rest with
      | nil =>
          have hone := length_statements (hfront.hidden_append hcore) hsolid' trailing_lineEnd
          simpa using hone
      | cons next rest =>
          obtain ⟨hfirst, hlater⟩ := List.forall_mem_cons.1 hmode
          rw [List.dropLast_cons_cons, List.countP_cons, List.length_cons]
          obtain hcode | hline := hfirst
          · -- the semicolon is visible, and what is left begins with a line feed
            have hmore := ih open_feed (by simp) hrest hlater
            rw [modeAfter_semicolon] at hcode
            have hcut : front ++ ((core ++ [';']) :: next :: rest).flatMap (· ++ ['\n']) =
                front ++ core ++ ';' :: (['\n'] ++ (next :: rest).flatMap (· ++ ['\n'])) := by
              simp
            rw [hcut, statements_cons (hfront.hidden_append hcore)
              ((hfront.scan core).2.trans hcode), if_neg hsolid', List.length_append,
              modeAfter_semicolon, hcode, ← hmore]
            simp
            omega
          · -- the line joins those in front
            have hmore := ih (hfront.line hcore ((modeAfter_semicolon core).symm.trans hline))
              (by simp) hrest hlater
            have hjoin : front ++ ((core ++ [';']) :: next :: rest).flatMap (· ++ ['\n']) =
                front ++ (core ++ [';', '\n']) ++ (next :: rest).flatMap (· ++ ['\n']) := by
              simp
            rw [hjoin, hline, ← hmore]
            simp
            omega

end

/-! ## What is printed -/

open Layout (laidOut pageText statementText)
open Logged (Blind value? value_bind)
open SqlLayout.Tree (Statement)

/-- The statements of texts that are grants. -/
def grantNodes (texts : List (List Char)) : List Statement :=
  texts.map fun text => .grant (Grant.parse text)

theorem laidOut_grantNodes (texts : List (List Char)) :
    laidOut (grantNodes texts) = grantNodes texts :=
  List.filter_eq_self.2 (List.forall_mem_map.2 fun _ _ => rfl)

theorem toList_pageText (tabWidth : Nat) (first : List Char) (rest : List (List Char)) :
    (pageText tabWidth (grantNodes (first :: rest)) ++ "\n").toList =
      (first :: rest).flatMap fun text => (Grant.rendered tabWidth text).toList ++ ['\n'] := by
  induction rest generalizing first with
  | nil => simp [grantNodes, pageText, Grant.rendered, statementText, Layout.statementDoc?]
  | cons next rest ih =>
      have hline : pageText tabWidth (grantNodes (first :: next :: rest)) =
          Grant.rendered tabWidth first ++ "\n" ++ pageText tabWidth (grantNodes (next :: rest)) :=
            rfl
      rw [hline, String.append_assoc, String.toList_append, ih next, List.flatMap_cons,
        String.toList_append]
      rfl

/-- Grants are printed one after the other, a line each. -/
theorem printStatements_grants (settings : Settings) (texts : List (List Char)) :
    ∃ out, (printStatements settings (grantNodes texts)).events.1 = .ok out ∧
      out.toList = texts.flatMap fun text => (Grant.rendered settings.tabWidth text).toList ++
        ['\n'] := by
  have hprint : (printStatements settings (grantNodes texts)).events.1 =
      .ok (Layout.printStatements settings.tabWidth (grantNodes texts)) := by
    cases hstrict : settings.strict with
    | false => exact lenient_printStatements hstrict _
    | true => exact strict_printStatements_ok hstrict (laidOut_grantNodes texts)
  refine ⟨_, hprint, ?_⟩
  have hcomments : ∀ node, .comment node ∈ grantNodes texts → ¬ Layout.BlankComment node := by
    intro node hmem
    simp [grantNodes] at hmem
  rw [Layout.printStatements_eq settings.tabWidth hcomments, laidOut_grantNodes]
  cases texts with
  | nil => rfl
  | cons first rest =>
      rw [if_neg (by simp [grantNodes]), toList_pageText]

theorem blind_printStatements (settings : Settings) (statements : List Statement) :
    Blind (printStatements settings statements) := by
  unfold printStatements
  split
  · exact Blind.ofExcept (.error _)
  · exact (Blind.logAll _).bind fun _ => Blind.pure _

theorem value_format {settings : Settings} {language : Language}
    (h : Language.named settings.dialect = .ok language) (text : String) :
    value? (format settings text) =
      (statements? language text.toList).bind fun statements =>
        value? (printStatements settings statements) := by
  have hblind (document : Document) : Blind (printStatements settings document.statements) :=
    blind_printStatements settings document.statements
  rw [format_eq h, formatIn, value_bind (parse language text.toList) hblind, statements?,
    Option.bind_map]
  rfl

/-- A text with grants for its statements is printed as they are. -/
theorem format_of_grants {settings : Settings} {language : Language}
    (hlanguage : Language.named settings.dialect = .ok language) {text : String}
    {texts : List (List Char)} (h : statements? language text.toList = some (grantNodes texts)) :
    ∃ out, (format settings text).events.1 = .ok out ∧
      out.toList = texts.flatMap fun text => (Grant.rendered settings.tabWidth text).toList ++
        ['\n'] := by
  obtain ⟨out, hprint, hout⟩ := printStatements_grants settings texts
  refine ⟨out, ok_of_toOption ?_, hout⟩
  have hvalue := value_format hlanguage text
  rw [h, Option.bind_some] at hvalue
  exact hvalue.trans (congrArg Except.toOption hprint)

/-! ## Statements that are grants -/

section

variable {language : Language} {text : List Char}

theorem pieceStatements_grant (language : Language) {piece : List Char}
    (hpiece : strip piece = piece) (hgrant : Grant.isGrant piece = true) :
    pieceStatements? language piece = some [.grant (Grant.parse piece)] := by
  rw [pieceStatements_of_split language (splitComments_of_isGrant hpiece hgrant), if_pos hgrant]

theorem mapM_grants {pieces : List (List Char)} (hpieces : ∀ piece ∈ pieces, strip piece = piece)
    (hgrants : ∀ piece ∈ pieces, Grant.isGrant piece = true) :
    (pieces.mapM (pieceStatements? language)).map List.flatten = some (grantNodes pieces) := by
  induction pieces with
  | nil => rfl
  | cons piece rest ih =>
      obtain ⟨hpiece, hpieces⟩ := List.forall_mem_cons.1 hpieces
      obtain ⟨hgrant, hgrants⟩ := List.forall_mem_cons.1 hgrants
      obtain ⟨lists, hlists, hflatten⟩ := Option.map_eq_some_iff.1 (ih hpieces hgrants)
      rw [List.mapM_cons, pieceStatements_grant language hpiece hgrant, hlists]
      exact congrArg (fun nodes => some (.grant (Grant.parse piece) :: nodes)) hflatten

theorem statements_of_many (hgrants : ∀ piece ∈ Source.statements text, Grant.isGrant piece = true)
    (hmany : 1 < (Source.statements text).length) :
    statements? language text = some (grantNodes (Source.statements text)) := by
  rw [statements_eq, statements_strip, if_pos hmany, fromPieces?, statements_strip]
  refine mapM_grants (fun piece hpiece => ?_) hgrants
  obtain ⟨core, rfl, htrim, -⟩ := exists_core hpiece
  exact Text.strip_concat (by decide) htrim

/-- A text with at most one piece, a grant, is read as a grant with all that follows the piece. -/
theorem statements_of_single
    (hgrants : ∀ piece ∈ Source.statements text, Grant.isGrant piece = true)
    (hsingle : (Source.statements text).length ≤ 1) (hhead : (strip text).head? ≠ some ';')
    (hne : strip text ≠ []) :
    ∃ core tail, Single (strip text) core tail ∧ ';' ∉ mask core ∧
      statements? language text = some (grantNodes [strip text]) := by
  rw [← statements_strip] at hgrants hsingle
  obtain ⟨core, tail, h⟩ := exists_single (Text.strip_strip text) hne hhead hsingle
  have hpiece : core ++ [';'] ∈ Source.statements (strip text) := by simp [h.pieces]
  obtain ⟨core', hcore', -, -, hidden⟩ := exists_core hpiece
  obtain rfl := List.append_cancel_right hcore'
  have hgrant : Grant.isGrant (strip text) = true := by
    rw [h.eq]
    exact Grant.isGrant_append (hgrants _ hpiece) tail
  refine ⟨core, tail, h, hidden, ?_⟩
  rw [statements_eq, if_neg (by omega), if_neg hne, pieceStatements_grant language h.whole hgrant]
  rfl

end

/-- A printed piece is terminated, and ends within a line comment exactly when it hides its end. -/
theorem exists_printed (tabWidth : Nat) {text piece : List Char}
    (h : piece ∈ Source.statements text) :
    Terminated (Grant.rendered tabWidth piece).toList ∧
      (modeAfter .code (Grant.rendered tabWidth piece).toList = .line ↔
        Grant.hidesEnd piece = true) ∧
      (modeAfter .code (Grant.rendered tabWidth piece).toList = .line ∨
        modeAfter .code (Grant.rendered tabWidth piece).toList = modeAfter .code piece) := by
  obtain ⟨core, rfl, htrim, hne, hidden⟩ := exists_core h
  obtain ⟨front, hfront, hfronthidden, hsolid, hmode⟩ :=
    Grant.rendered_piece tabWidth hidden htrim hne
  rw [hfront]
  exact ⟨⟨front, rfl, hfronthidden, hsolid⟩, hmode⟩

/-- The lines of printed pieces make one statement each, but for those that hide their ends. -/
theorem length_statements_printed (tabWidth : Nat) {text : List Char}
    (hne : Source.statements text ≠ []) :
    (Source.statements ((Source.statements text).flatMap fun piece =>
        (Grant.rendered tabWidth piece).toList ++ ['\n'])).length +
      (Source.statements text).dropLast.countP Grant.hidesEnd =
        (Source.statements text).length := by
  have hprinted {piece : List Char} (hpiece : piece ∈ Source.statements text) :=
    exists_printed tabWidth hpiece
  have hsubset {piece : List Char} (hpiece : piece ∈ (Source.statements text).dropLast) :
      piece ∈ Source.statements text := List.mem_of_mem_dropLast hpiece
  have hterminated : ∀ line ∈ (Source.statements text).map fun piece =>
    (Grant.rendered tabWidth piece).toList,
      Terminated line := List.forall_mem_map.2 fun piece hpiece => (hprinted hpiece).1
  have hmode : ∀ line ∈ ((Source.statements text).dropLast.map fun piece =>
    (Grant.rendered tabWidth piece).toList),
      modeAfter .code line = .code ∨ modeAfter .code line = .line := by
    refine List.forall_mem_map.2 fun piece hpiece => ?_
    obtain hline | hsame := (hprinted (hsubset hpiece)).2.2
    · exact .inr hline
    · rw [hsame]
      exact modeAfter_piece hpiece
  have hcount : (Source.statements text).dropLast.countP Grant.hidesEnd =
    (Source.statements text).dropLast.countP
      fun piece => modeAfter .code (Grant.rendered tabWidth piece).toList == .line := by
    refine List.countP_congr fun piece hpiece => ?_
    rw [← (hprinted (hsubset hpiece)).2.1, beq_iff_eq]
  rw [List.map_dropLast] at hmode
  have hlines := length_statements_lines open_nil (by simpa using hne) hterminated hmode
  rw [List.nil_append, List.flatMap_map, ← List.map_dropLast, List.countP_map,
    List.length_map] at hlines
  rw [hcount]
  exact hlines

/-- A single grant is printed as one statement, whatever semicolons and blanks follow it. -/
theorem length_statements_single (tabWidth : Nat) {text core tail : List Char}
    (h : Single text core tail) (hidden : ';' ∉ mask core) :
    (Source.statements ((Grant.rendered tabWidth text).toList ++ ['\n'])).length = 1 := by
  have hsolid : strip core ≠ [] := by
    rw [h.trimmed]
    exact h.ne_nil
  obtain ⟨front, back, hrendered, hback, hfront, hfrontsolid⟩ :=
    Grant.exists_rendered tabWidth h.whole h.eq h.trailing hidden hsolid
  have hend : ∀ x ∈ back ++ ['\n'], isTrailing x = true :=
    List.forall_mem_append.2 ⟨hback, List.forall_mem_singleton.2 (by decide)⟩
  rw [hrendered, List.append_assoc]
  exact length_statements hfront hfrontsolid hend

/-- A text of grants is printed as text that is cut into as many statements again, less one for each
piece but the last that hides its end.  Behind a leading semicolon a single grant is not read as
one. -/
theorem grants_keep_boundaries_iff (settings : Settings) (text : String) {language : Language}
    (hlanguage : Language.named settings.dialect = .ok language)
    (hgrants : ∀ piece ∈ Source.statements text.toList, Grant.isGrant piece = true)
    (hhead : (strip text.toList).head? = some ';' → 1 < (Source.statements text.toList).length) :
    ∃ out, (format settings text).events.1 = .ok out ∧
      (Source.statements out.toList).length +
        (Source.statements text.toList).dropLast.countP Grant.hidesEnd =
        (Source.statements text.toList).length ∧
      ((Source.statements out.toList).length = (Source.statements text.toList).length ↔
        ∀ piece ∈ (Source.statements text.toList).dropLast, Grant.hidesEnd piece = false) := by
  suffices hcount : ∃ out, (format settings text).events.1 = .ok out ∧
      (Source.statements out.toList).length +
        (Source.statements text.toList).dropLast.countP Grant.hidesEnd =
        (Source.statements text.toList).length by
    obtain ⟨out, hformat, hcount⟩ := hcount
    have hnone : (Source.statements text.toList).dropLast.countP Grant.hidesEnd = 0 ↔
        ∀ piece ∈ (Source.statements text.toList).dropLast, Grant.hidesEnd piece = false := by
      simp [List.countP_eq_zero]
    refine ⟨out, hformat, hcount, ?_⟩
    rw [← hnone]
    omega
  by_cases hmany : 1 < (Source.statements text.toList).length
  · have hne : Source.statements text.toList ≠ [] := by
      intro hnil
      simp [hnil] at hmany
    obtain ⟨out, hformat, hout⟩ := format_of_grants hlanguage (statements_of_many hgrants hmany)
    refine ⟨out, hformat, ?_⟩
    rw [hout]
    exact length_statements_printed settings.tabWidth hne
  · by_cases hnil : strip text.toList = []
    · have hnone : Source.statements text.toList = [] := by
        rw [← statements_strip, hnil]
        rfl
      have hempty : statements? language text.toList = some (grantNodes []) := by
        rw [statements_eq, statements_strip, if_neg hmany, if_pos hnil]
        rfl
      obtain ⟨out, hformat, hout⟩ := format_of_grants hlanguage hempty
      refine ⟨out, hformat, ?_⟩
      rw [hout, hnone]
      rfl
    · obtain ⟨core, tail, hone, hidden, hstatements⟩ :=
        statements_of_single hgrants (by omega) (fun hled => hmany (hhead hled)) hnil
      obtain ⟨out, hformat, hout⟩ := format_of_grants hlanguage hstatements
      refine ⟨out, hformat, ?_⟩
      rw [hout, List.flatMap_cons, List.flatMap_nil, List.append_nil,
        length_statements_single settings.tabWidth hone hidden, ← statements_strip, hone.pieces]
      rfl

/-- Two grants with a block comment and a quoted semicolon keep their boundaries. -/
theorem grants_keep_boundaries_iff_two :
    let text := "grant a on b \";\" to c d /* e */; grant a on\n b c to d e;"
    (∀ piece ∈ Source.statements text.toList, Grant.isGrant piece = true) ∧
      (Source.statements text.toList).length = 2 ∧
      ∃ out, (format {} text).events.1 = .ok out ∧ (Source.statements out.toList).length = 2 := by
  intro text
  have hgrants : ∀ piece ∈ Source.statements text.toList, Grant.isGrant piece = true := by
    decide +kernel
  have htwo : (Source.statements text.toList).length = 2 := by decide +kernel
  obtain ⟨out, hformat, -, hsame⟩ := grants_keep_boundaries_iff {} text rfl hgrants (by omega)
  exact ⟨hgrants, htwo, out, hformat, (hsame.2 (by decide +kernel)).trans htwo⟩

/-- The semicolon of a grant that is kept as it is written is put into the line comment at its end,
and a grant that is taken apart is printed on one line with the comment in it: two grants become one
statement. -/
theorem grants_lose_boundary :
    let kept := "grant select, insert on t to r -- readers\n; grant usage on schema s to role r"
    let apart := "grant usage on schema --s\n to role r; grant usage on schema s to role r"
    let keptOut :=
      "grant select, insert on t to r -- readers;\nGRANT USAGE ON SCHEMA s TO ROLE r;\n"
    let apartOut := "GRANT USAGE ON SCHEMA --s TO ROLE r;\nGRANT USAGE ON SCHEMA s TO ROLE r;\n"
    (∀ text ∈ [kept, apart], (Source.statements text.toList).length = 2 ∧
        ∀ piece ∈ Source.statements text.toList, Grant.isGrant piece = true) ∧
      (format {} kept).events.1.toOption = some keptOut ∧
        (format {} apart).events.1.toOption = some apartOut ∧
      ∀ out ∈ [keptOut, apartOut], (Source.statements out.toList).length = 1 := by
  decide +kernel

end SqlLayout.Document
