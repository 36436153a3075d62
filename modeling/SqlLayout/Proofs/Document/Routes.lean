import SqlLayout.Proofs.Document.Comments
import SqlLayout.Proofs.Document.Output
import SqlLayout.Proofs.Placeholder.Trailing

/-!
# The routes of a text

A text of several pieces is read piece by piece.  Any other text is read as it stands, together with
the blanks and semicolons that its piece has lost.  Both ways give the same where these make no
difference: to the comment lines, to the parts of a grant, or to the grammar.

## Implementation notes

Nothing that a document is made of reads the log, so the values of its parts can be told one by one,
as options (`value?`).  The grammar is not looked into: what it makes of repeated semicolons is a
hypothesis about the encoded statement at hand.
-/

namespace SqlLayout

open SqlLayout.Tree (Statement)

namespace Logged

variable {ε α β : Type}

/-- The value of a computation, if it succeeds. -/
def value? (action : Logged ε α) : Option α :=
  action.events.1.toOption

/-- What a computation results in does not depend on what was logged before it. -/
def Blind (action : Logged ε α) : Prop :=
  ∀ log, (action.run log).1 = (action.run []).1

theorem Blind.bind {action : Logged ε α} {next : α → Logged ε β} (haction : Blind action)
    (hnext : ∀ value, Blind (next value)) : Blind (action >>= next) := by
  intro log
  have hfirst := haction log
  rw [run_bind, run_bind]
  generalize action.run log = late at hfirst
  generalize action.run [] = early at hfirst
  obtain ⟨result, middle⟩ := early
  obtain ⟨other, later⟩ := late
  obtain rfl : other = result := hfirst
  cases other with
  | error cause => rfl
  | ok value => exact (hnext value later).trans (hnext value middle).symm

theorem Blind.pure (value : α) : Blind (pure value : Logged ε α) :=
  fun _ => rfl

theorem Blind.log (event : Event) : Blind (log event : Logged ε Unit) :=
  fun _ => rfl

theorem Blind.logAll (events : List Event) : Blind (logAll events : Logged ε Unit) :=
  fun _ => rfl

theorem Blind.ofExcept (result : Except ε α) : Blind (ofExcept result) :=
  fun _ => rfl

theorem Blind.mapM {action : α → Logged ε β} (haction : ∀ x, Blind (action x)) (xs : List α) :
    Blind (xs.mapM action) := by
  induction xs with
  | nil => exact Blind.pure []
  | cons x rest ih =>
      rw [List.mapM_cons]
      exact (haction x).bind fun _ => ih.bind fun _ => Blind.pure _

theorem value_bind (action : Logged ε α) {next : α → Logged ε β}
    (hnext : ∀ value, Blind (next value)) :
    value? (action >>= next) = (value? action).bind fun value => value? (next value) := by
  unfold value? events
  rw [run_bind]
  obtain ⟨result, later⟩ := action.run []
  cases result with
  | error cause => rfl
  | ok value => exact congrArg _ (hnext value later)

theorem value_mapM {action : α → Logged ε β} (haction : ∀ x, Blind (action x)) (xs : List α) :
    value? (xs.mapM action) = xs.mapM fun x => value? (action x) := by
  induction xs with
  | nil => rfl
  | cons x rest ih =>
      rw [List.mapM_cons, List.mapM_cons,
        value_bind _ fun _ => (Blind.mapM haction rest).bind fun _ => Blind.pure _]
      refine congrArg _ (funext fun value => ?_)
      rw [value_bind _ fun _ => Blind.pure _, ih]
      rfl

end Logged

open Logged (Blind value? value_bind)

namespace Document

/-! ## What a piece gives -/

/-- The trees of a text without placeholders. -/
def trees? (language : Language) (text : List Char) : Option (List Statement) :=
  value? (language.trees text)

/-- The restored trees of a part that the grammar reads. -/
def ordinary? (language : Language) (body : List Char) : Option (List Statement) :=
  (Placeholder.encode body).toOption.bind fun encoded =>
    (trees? language encoded.text).map fun built =>
      (Placeholder.restore encoded.records built).statements

/-- The statements of a piece besides its comment lines. -/
def own? (language : Language) (statement : List Char) : Option (List Statement) :=
  if onlyComments statement then some []
  else if Grant.isGrant (splitComments statement).2 then
    some [.grant (Grant.parse (splitComments statement).2)]
  else ordinary? language (splitComments statement).2

/-- The comment lines of a piece, as statements. -/
def commentNodes (statement : List Char) : List Statement :=
  (comment? statement).toList.map fun text => .comment { text := String.ofList text }

/-- The statements of a text. -/
def statements? (language : Language) (text : List Char) : Option (List Statement) :=
  (value? (parse language text)).map Document.statements

/-- The statements of a piece of several. -/
def pieceStatements? (language : Language) (statement : List Char) : Option (List Statement) :=
  value? (piece language false statement)

/-- The statements of the pieces of a text, one piece after the other. -/
def fromPieces? (language : Language) (text : List Char) : Option (List Statement) :=
  ((Source.statements (Text.strip text)).mapM (pieceStatements? language)).map List.flatten

theorem blind_grant {ε : Type} (text : List Char) : Blind (grant text : Logged ε Statement) := by
  unfold grant
  dsimp only
  split
  · exact (Blind.log _).bind fun _ => Blind.pure _
  · exact Blind.pure _

theorem value_grant {ε : Type} (text : List Char) :
    value? (grant text : Logged ε Statement) = some (.grant (Grant.parse text)) := by
  unfold grant
  dsimp only
  split <;> rfl

section

variable (language : Language) (alone : Bool) (statement body : List Char)
  (comments : List Statement)

theorem blind_restoredTrees (encoded : Placeholder.Encoded) :
    Blind (restoredTrees language encoded) := by
  unfold restoredTrees
  refine (Blind.logAll _).bind fun _ => ?_
  split
  · exact Blind.pure _
  · exact (Blind.logAll _).bind fun _ => Blind.pure _

theorem value_restoredTrees (encoded : Placeholder.Encoded) :
    value? (restoredTrees language encoded) = some ((language.trees encoded.text).events.1.map
      fun built => (Placeholder.restore encoded.records built).statements) := by
  unfold restoredTrees
  cases htrees : (language.trees encoded.text).events.1 <;> rfl

theorem blind_noteEncoded (encoded : Placeholder.Encoded) : Blind (noteEncoded encoded) := by
  unfold noteEncoded
  split
  · exact Blind.pure _
  · exact Blind.log _

theorem blind_ordinary : Blind (ordinary language body) := by
  rw [ordinary_eq]
  have hnote : Blind (noteUnclosed body) := by
    unfold noteUnclosed
    split
    · exact Blind.log _
    · exact Blind.pure _
  exact hnote.bind fun _ => (Blind.ofExcept _).bind fun encoded =>
    (blind_noteEncoded encoded).bind fun _ => blind_restoredTrees language encoded

theorem value_noteUnclosed : value? (noteUnclosed body) = some () := by
  unfold noteUnclosed
  split <;> rfl

theorem value_noteEncoded (encoded : Placeholder.Encoded) :
    value? (noteEncoded encoded) = some () := by
  unfold noteEncoded
  split <;> rfl

theorem value_ordinary :
    value? (ordinary language body) = (Placeholder.encode body).toOption.map fun encoded =>
      (language.trees encoded.text).events.1.map fun built =>
        (Placeholder.restore encoded.records built).statements := by
  have hread (encoded : Placeholder.Encoded) :
      Blind (noteEncoded encoded >>= fun _ => restoredTrees language encoded) :=
    (blind_noteEncoded encoded).bind fun _ => blind_restoredTrees language encoded
  have hencoded (encoded : Placeholder.Encoded) :
      value? (noteEncoded encoded >>= fun _ => restoredTrees language encoded) =
        some ((language.trees encoded.text).events.1.map fun built =>
          (Placeholder.restore encoded.records built).statements) := by
    rw [value_bind _ fun _ => blind_restoredTrees language encoded, value_noteEncoded,
      Option.bind_some, value_restoredTrees]
  rw [ordinary_eq, value_bind _ fun _ => (Blind.ofExcept _).bind hread, value_noteUnclosed,
    Option.bind_some, value_bind _ hread]
  simp only [hencoded]
  cases Placeholder.encode body <;> rfl

theorem blind_afterComments : Blind (afterComments language alone statement comments body) := by
  unfold afterComments
  split
  · exact (blind_grant body).bind fun _ => Blind.pure _
  · refine (blind_ordinary language body).bind fun result => ?_
    cases result with
    | ok statements => exact Blind.pure _
    | error cause => exact Blind.ofExcept (.error _)

theorem value_afterComments :
    value? (afterComments language alone statement comments body) =
      (if Grant.isGrant body then some [.grant (Grant.parse body)] else ordinary? language body).map
        (comments ++ ·) := by
  unfold afterComments
  split
  · rw [value_bind _ fun _ => Blind.pure _, value_grant]
    rfl
  · rw [value_bind, value_ordinary]
    · unfold ordinary? trees? value?
      cases Placeholder.encode body with
      | error fault => rfl
      | ok encoded =>
          simp only [Except.toOption, Option.map_some, Option.bind_some]
          cases (language.trees encoded.text).events.1 <;> rfl
    · rintro (cause | statements)
      · exact Blind.ofExcept (.error _)
      · exact Blind.pure _

theorem piece_eq :
    piece language alone statement =
      if onlyComments statement then pure (commentNodes statement)
      else afterComments language alone statement (commentNodes statement)
        (splitComments statement).2 := by
  unfold piece commentNodes comment? onlyComments
  dsimp only
  split
  · next comment hcomment =>
      split
      · next hempty => simp [hcomment, hempty]
      · next hempty => simp [hcomment, hempty]; rfl
  · next hcomment => simp [hcomment]; rfl

theorem blind_piece : Blind (piece language alone statement) := by
  rw [piece_eq]
  split
  · exact Blind.pure _
  · exact blind_afterComments language alone statement _ _

/-- A piece gives its comment lines and its own statements, alone or not. -/
theorem value_piece :
    value? (piece language alone statement) =
      (own? language statement).map (commentNodes statement ++ ·) := by
  rw [piece_eq]
  unfold own?
  split
  · change some (commentNodes statement) = some (commentNodes statement ++ [])
    rw [List.append_nil]
  · exact value_afterComments language alone statement _ _

end

/-- A mark is no start of a grant. -/
theorem isGrant_dash (rest : List Char) : Grant.isGrant ('-' :: rest) = false :=
  rfl

theorem isGrant_semicolon (rest : List Char) : Grant.isGrant (';' :: rest) = false :=
  rfl

theorem splitComments_of_none {text : List Char} (h : pastComment? text = none) :
    splitComments text = (none, text) := by
  rw [splitComments_eq, h]

/-- A trimmed text that is a grant has no comment lines. -/
theorem splitComments_of_isGrant {text : List Char} (htext : Text.strip text = text)
    (hgrant : Grant.isGrant text = true) : splitComments text = (none, text) := by
  refine splitComments_of_none (pastComment_eq_none fun rest hrest => ?_)
  have hstart : text.dropWhile isLineBlank = text := by
    refine Text.dropWhile_eq_self fun x hx => ?_
    by_contra hblank
    have hnot := (Text.strip_eq_self_iff.1 htext).1 x hx
    rw [isBlank_of_lineBlank (by simpa using hblank)] at hnot
    cases hnot
  rw [← hstart, hrest, isGrant_dash] at hgrant
  cases hgrant

section

variable (language : Language) (text : List Char)

theorem pieceStatements_eq (statement : List Char) :
    pieceStatements? language statement =
      (own? language statement).map (commentNodes statement ++ ·) :=
  value_piece language false statement

theorem pieceStatements_of_split {statement : List Char}
    (hsplit : splitComments statement = (none, statement)) :
    pieceStatements? language statement =
      if Grant.isGrant statement then some [.grant (Grant.parse statement)]
      else ordinary? language statement := by
  have honly : onlyComments statement = false := by simp [onlyComments, hsplit]
  rw [pieceStatements_eq]
  simp [own?, commentNodes, comment?, honly, hsplit]

theorem fromPieces_of_single {statement : List Char}
    (h : Source.statements (Text.strip text) = [statement]) :
    fromPieces? language text = pieceStatements? language statement := by
  rw [fromPieces?, h]
  cases hpiece : pieceStatements? language statement <;> simp [hpiece]

/-- A text of several pieces is read piece by piece, and every other text is read as one piece as it
stands, unless it is blank. -/
theorem statements_eq :
    statements? language text =
      if 1 < (Source.statements (Text.strip text)).length then fromPieces? language text
      else if Text.strip text = [] then some []
      else pieceStatements? language (Text.strip text) := by
  have hpieces : Blind ((Source.statements (Text.strip text)).mapM (piece language false)) :=
    Blind.mapM (blind_piece language false) _
  unfold statements? parse
  dsimp only
  split
  · rw [value_bind _ fun _ => hpieces.bind fun _ => Blind.pure _,
      value_bind _ fun _ => Blind.pure _, Logged.value_mapM (blind_piece language false)]
    unfold fromPieces? pieceStatements?
    cases (Source.statements (Text.strip text)).mapM fun statement =>
      value? (piece language false statement) <;> rfl
  · split
    · next hempty =>
        rw [if_pos (List.isEmpty_iff.1 hempty)]
        rfl
    · next hempty =>
        have hne : Text.strip text ≠ [] := by simpa using hempty
        rw [if_neg hne]
        split
        · next hgrant =>
            have hsplit := splitComments_of_isGrant (Text.strip_strip text) hgrant
            rw [value_bind _ fun _ => Blind.pure _, value_grant,
              pieceStatements_of_split language hsplit, if_pos hgrant]
            rfl
        · next hgrant =>
            rw [value_bind _ fun _ => Blind.pure _, value_piece, pieceStatements_eq]
            cases own? language (Text.strip text) <;> rfl

end

/-! ## Texts of one statement -/

open Placeholder (isTrailing)
open Source (modeAfter modeAfter_line)

/-- A trimmed text of one statement and what follows it. -/
structure Single (text core tail : List Char) : Prop where
  eq : text = core ++ tail
  whole : Text.strip text = text
  trimmed : Text.strip core = core
  ne_nil : core ≠ []
  pieces : Source.statements text = [core ++ [';']]
  /-- The first semicolon after the statement is seen as one. -/
  ended : tail = [] ∨ ∃ blanks rest, (∀ x ∈ blanks, Text.isBlank x = true) ∧
    (∀ x ∈ rest, isTrailing x = true) ∧ modeAfter .code (core ++ blanks) = .code ∧
    tail = blanks ++ ';' :: rest

theorem trailing_of_blank {c : Char} (h : Text.isBlank c = true) : isTrailing c = true := by
  simp [isTrailing, h]

/-- A text without a statement is made of blanks and semicolons. -/
theorem trailing_of_statements {text : List Char} (h : Source.statements text = []) :
    ∀ x ∈ text, isTrailing x = true := by
  have hblank : ∀ piece ∈ Source.splitOutside ';' text, ∀ x ∈ piece, Text.isBlank x = true := by
    intro piece hpiece
    have hnone := List.filterMap_eq_nil_iff.1 h piece hpiece
    dsimp only at hnone
    split at hnone
    · next hempty => exact Text.strip_eq_nil_iff.1 (List.isEmpty_iff.1 hempty)
    · cases hnone
  have hpieces := Source.pieces_splitOutside text
  generalize Source.splitOutside ';' text = pieces at hblank hpieces
  clear h
  induction hpieces with
  | last hidden => exact fun x hx => trailing_of_blank (hblank _ List.mem_cons_self x hx)
  | cons hidden outside tail ih =>
      rw [List.forall_mem_cons] at hblank
      rw [List.forall_mem_append, List.forall_mem_cons]
      exact ⟨fun x hx => trailing_of_blank (hblank.1 x hx), by decide, ih hblank.2⟩

theorem statements_hidden {text : List Char} (hidden : ';' ∉ Source.mask text) :
    Source.statements text = if Text.strip text = [] then [] else [Text.strip text ++ [';']] := by
  rw [Source.statements, Source.splitOutside_of_hidden hidden]
  by_cases h : Text.strip text = [] <;> simp [h]

theorem statements_cons {front : List Char} (hidden : ';' ∉ Source.mask front)
    (outside : modeAfter .code front = .code) (rest : List Char) :
    Source.statements (front ++ ';' :: rest) =
      (if Text.strip front = [] then [] else [Text.strip front ++ [';']]) ++
        Source.statements rest := by
  rw [Source.statements, Source.splitOutside_append hidden outside]
  by_cases h : Text.strip front = [] <;> simp [h, Source.statements]

/-- A trimmed text that does not begin with a semicolon begins with a statement. -/
theorem exists_single {text : List Char} (htext : Text.strip text = text) (hne : text ≠ [])
    (hhead : text.head? ≠ some ';') (hpieces : (Source.statements text).length ≤ 1) :
    ∃ core tail, Single text core tail := by
  by_cases hidden : ';' ∈ Source.mask text
  · obtain ⟨front, rest, rfl, hfront, outside⟩ := Source.exists_first_semicolon hidden
    obtain ⟨x, back, rfl⟩ : ∃ x back, front = x :: back := by
      refine List.exists_cons_of_ne_nil ?_
      rintro rfl
      exact hhead rfl
    have hx : Text.isBlank x = false := (Text.strip_eq_self_iff.1 htext).1 x rfl
    have hcore : Text.strip (x :: back) ≠ [] := by
      intro hnil
      have hblank := Text.strip_eq_nil_iff.1 hnil x List.mem_cons_self
      rw [hx] at hblank
      cases hblank
    have hfirst : ∀ y ∈ (x :: back).head?, Text.isBlank y = false := by
      rintro y hy
      obtain rfl : x = y := Option.some.inj hy
      exact hx
    obtain ⟨blanks, hblanks, hstrip⟩ := Text.exists_strip_append hfirst
    have hparts := statements_cons hfront outside rest
    rw [if_neg hcore, List.singleton_append] at hparts
    rw [hparts, List.length_cons] at hpieces
    have hrest : Source.statements rest = [] := List.eq_nil_of_length_eq_zero (by omega)
    refine ⟨Text.strip (x :: back), blanks ++ ';' :: rest, ?_, htext, Text.strip_strip _, hcore, ?_,
      .inr ⟨blanks, rest, hblanks, trailing_of_statements hrest, ?_, rfl⟩⟩
    · rw [← List.append_assoc, ← hstrip]
    · rw [hparts, hrest]
    · rw [← hstrip, outside]
  · refine ⟨text, [], by simp, htext, htext, hne, ?_, .inl rfl⟩
    rw [statements_hidden hidden, htext, if_neg hne]

theorem onlyComments_iff {statement : List Char} : onlyComments statement = true ↔
    (splitComments statement).1.isSome = true ∧
      Text.strip (dropTerminators (splitComments statement).2) = [] := by
  simp [onlyComments]

theorem dropTerminators_append (statement : List Char) :
    dropTerminators (statement ++ [';']) = dropTerminators statement :=
  List.rdropWhile_concat_pos _ _ _ (by decide)

theorem trailing_of_dropTerminators {statement : List Char}
    (h : Text.strip (dropTerminators statement) = []) : ∀ x ∈ statement, isTrailing x = true := by
  have hparts : dropTerminators statement ++ statement.rtakeWhile (· == ';') = statement :=
    List.rdropWhile_append_rtakeWhile
  rw [← hparts, List.forall_mem_append]
  refine ⟨fun x hx => trailing_of_blank (Text.strip_eq_nil_iff.1 h x hx), fun x hx => ?_⟩
  simp [isTrailing, List.mem_rtakeWhile_imp hx]

section

variable {text core tail : List Char} (h : Single text core tail)

include h

theorem Single.trailing : ∀ x ∈ tail, isTrailing x = true := by
  obtain rfl | ⟨blanks, rest, hblanks, hrest, -, rfl⟩ := h.ended
  · simp
  · rw [List.forall_mem_append, List.forall_mem_cons]
    exact ⟨fun x hx => trailing_of_blank (hblanks x hx), by decide, hrest⟩

theorem Single.not_mem_tail : '-' ∉ tail := by
  intro hmem
  exact absurd (h.trailing _ hmem) (by decide)

theorem Single.whole_append : Text.strip (core ++ tail) = core ++ tail := by
  rw [← h.eq, h.whole]

/-- A statement is terminated without getting blanks at its ends. -/
theorem Single.terminated : Text.strip (core ++ [';']) = core ++ [';'] :=
  Text.strip_concat (by decide) h.trimmed

theorem Single.unique (front back : List Char) (hpieces : Source.statements text = [front ++ [';']])
    (heq : text = front ++ back) : front = core ∧ back = tail := by
  obtain rfl : front = core :=
    List.append_cancel_right (List.cons.inj (hpieces.symm.trans h.pieces)).1
  exact ⟨rfl, List.append_cancel_left (heq.symm.trans h.eq)⟩

/-- The comment lines of a text and of its piece are the same, and so is the statement after
them. -/
theorem Single.splitComments_eq (hrest : (splitComments core).2 ≠ []) :
    splitComments text = ((splitComments core).1, (splitComments core).2 ++ tail) ∧
      splitComments (core ++ [';']) =
        ((splitComments core).1, (splitComments core).2 ++ [';']) := by
  constructor
  · rw [h.eq]
    exact splitComments_append h.trimmed h.whole_append h.ne_nil h.not_mem_tail hrest
  · exact splitComments_append h.trimmed h.terminated h.ne_nil (by decide) hrest

/-- Behind comment lines alone nothing but semicolons and blanks is taken for a statement. -/
theorem Single.splitComments_open (hrest : (splitComments core).2 = []) :
    splitComments (core ++ [';']) = (some (core ++ [';']), []) ∧
      ∃ back, splitComments text = (some core, back) ∧ ∀ x ∈ back, isTrailing x = true := by
  obtain ⟨hpiece, hmode⟩ :=
    splitComments_append_open h.trimmed h.terminated h.ne_nil (by decide) hrest
  obtain ⟨htext, -⟩ :=
    splitComments_append_open h.trimmed h.whole_append h.ne_nil h.not_mem_tail hrest
  refine ⟨hpiece.trans (Prod.ext (congrArg some h.terminated) rfl), ?_⟩
  rw [h.eq, htext]
  obtain rfl | ⟨blanks, rest, hblanks, hrest, houtside, rfl⟩ := h.ended
  · exact ⟨[], Prod.ext (congrArg some (by simpa using h.trimmed)) rfl, by simp⟩
  · -- the comment ends before the semicolon, so a line feed is among the blanks
    rw [(Placeholder.scan_trailing core fun x hx => trailing_of_blank (hblanks x hx)).2,
      hmode] at houtside
    have hfeed : blanks.dropWhile (· != '\n') ≠ [] := by
      intro hnil
      rw [modeAfter_line (List.dropWhile_eq_nil_iff.1 hnil)] at houtside
      cases houtside
    have hback : ((blanks ++ ';' :: rest).dropWhile (· != '\n')).dropWhile Text.isBlank =
        ';' :: rest := by
      have hgap : ∀ x ∈ blanks.dropWhile (· != '\n'), Text.isBlank x = true := fun x hx =>
        hblanks x ((List.dropWhile_suffix _).subset hx)
      rw [List.dropWhile_append, if_neg (by simpa using hfeed), List.dropWhile_append_of_pos hgap]
      exact List.dropWhile_cons_of_neg (by decide)
    refine ⟨';' :: rest, ?_, List.forall_mem_cons.2 ⟨by decide, hrest⟩⟩
    rw [hback, List.length_append, Nat.add_sub_cancel, List.take_left,
      Text.strip_append_blanks h.trimmed hblanks]

/-- A piece of comment lines alone comes from comment lines with nothing but blanks and semicolons
after them, and its comment is that of the text. -/
theorem Single.onlyComments_piece (honly : onlyComments (core ++ [';']) = true) :
    (splitComments text).1.isSome = true ∧ (∀ x ∈ (splitComments text).2, isTrailing x = true) ∧
      (onlyComments text = true → comment? text = comment? (core ++ [';'])) := by
  by_cases hrest : (splitComments core).2 = []
  · obtain ⟨hpiece, back, htext, hback⟩ := h.splitComments_open hrest
    refine ⟨by rw [htext]; rfl, by rwa [htext], fun honly' => ?_⟩
    rw [comment?, comment?, honly, honly', hpiece, htext]
    simp only [Option.map_some, if_true, dropTerminators_append]
  · obtain ⟨htext, hpiece⟩ := h.splitComments_eq hrest
    obtain ⟨hsome, hnil⟩ := onlyComments_iff.1 honly
    rw [hpiece] at hsome hnil
    refine ⟨by rwa [htext], ?_, fun honly' => ?_⟩
    · rw [htext, List.forall_mem_append]
      exact ⟨(List.forall_mem_append.1 (trailing_of_dropTerminators hnil)).1, h.trailing⟩
    · rw [comment?, comment?, honly, honly', hpiece, htext]

end

/-! ## Routes -/

/-- Reading a text gives what reading its pieces one after the other gives. -/
def Agrees (language : Language) (text : List Char) : Prop :=
  statements? language text = fromPieces? language text

theorem encode_trailing {body : List Char} (hbody : ∀ x ∈ body, isTrailing x = true) :
    Placeholder.encode body = .ok { text := body } := by
  have hencode : Placeholder.encode ([] ++ body) =
      (Placeholder.encode []).map (·.followedBy body) :=
    Placeholder.encode_append rfl hbody
  exact hencode

/-- Blanks and semicolons have no statement when the grammar finds none. -/
theorem ordinary_trailing {language : Language} {body : List Char}
    (hbody : ∀ x ∈ body, isTrailing x = true) (hgrammar : trees? language body = none) :
    ordinary? language body = none := by
  rw [ordinary?, encode_trailing hbody]
  simp [Except.toOption, hgrammar]

theorem trailing_cases {body : List Char} (hbody : ∀ x ∈ body, isTrailing x = true)
    (hhead : ∀ x ∈ body.head?, Text.isBlank x = false) :
    body = [] ∨ ∃ rest, body = ';' :: rest := by
  cases body with
  | nil => exact .inl rfl
  | cons x rest =>
      have hx := hbody x List.mem_cons_self
      rw [isTrailing, hhead x rfl, Bool.false_or, beq_iff_eq] at hx
      exact .inr ⟨rest, by rw [hx]⟩

/-- Blanks and semicolons that do not begin with a blank are no grant. -/
theorem isGrant_trailing {body : List Char} (hbody : ∀ x ∈ body, isTrailing x = true)
    (hhead : ∀ x ∈ body.head?, Text.isBlank x = false) : Grant.isGrant body = false := by
  obtain rfl | ⟨rest, rfl⟩ := trailing_cases hbody hhead
  · rfl
  · exact isGrant_semicolon rest

theorem head_splitComments {text : List Char} (htext : Text.strip text = text) :
    ∀ x ∈ (splitComments text).2.head?, Text.isBlank x = false := by
  rw [splitComments_of_trimmed htext]
  exact head_pastComments (Text.strip_eq_self_iff.1 htext).1

theorem grant_some {statement found : List Char} (hfound : grant? statement = some found) :
    onlyComments statement = false ∧ Grant.isGrant found = true ∧
      (splitComments statement).2 = found := by
  rw [grant?] at hfound
  split at hfound
  · next hgrant =>
      obtain rfl := Option.some.inj hfound
      simpa using hgrant
  · cases hfound

theorem body_some {statement found : List Char} (hfound : body? statement = some found) :
    onlyComments statement = false ∧ Grant.isGrant found = false ∧
      (splitComments statement).2 = found := by
  rw [body?] at hfound
  split at hfound
  · cases hfound
  · next hbody =>
      obtain rfl := Option.some.inj hfound
      simpa using hbody

section

variable (language : Language) {text core tail : List Char} (h : Single (Text.strip text) core tail)

include h

theorem Single.statements_eq :
    statements? language text = pieceStatements? language (Text.strip text) ∧
    fromPieces? language text = pieceStatements? language (core ++ [';']) := by
  have hne : Text.strip text ≠ [] := by
    rw [h.eq]
    simp [h.ne_nil]
  refine ⟨?_, fromPieces_of_single language text h.pieces⟩
  rw [Document.statements_eq, h.pieces, if_neg (by simp), if_neg hne]

theorem Single.agrees_comments (honly : onlyComments (core ++ [';']) = true)
    (hgrammar : trees? language (splitComments (Text.strip text)).2 = none) :
    Agrees language text ↔ onlyComments (Text.strip text) = true := by
  obtain ⟨-, hback, hcomment⟩ := h.onlyComments_piece honly
  obtain ⟨hstatements, hpieces⟩ := h.statements_eq language
  have hpiece : fromPieces? language text = some (commentNodes (core ++ [';'])) := by
    rw [hpieces, pieceStatements_eq, own?, if_pos honly]
    simp
  rw [Agrees, hpiece, hstatements, pieceStatements_eq]
  constructor
  · intro hagrees
    by_contra hnot
    have hgrant := isGrant_trailing hback (head_splitComments h.whole)
    rw [own?, if_neg hnot, hgrant, if_neg Bool.false_ne_true,
      ordinary_trailing hback hgrammar] at hagrees
    cases hagrees
  · intro honly'
    rw [own?, if_pos honly', commentNodes, commentNodes, hcomment honly']
    simp

/-- Besides comment lines, a text and its piece give the same when they give the same after them. -/
theorem Single.agrees_iff_own (honly : onlyComments (Text.strip text) = false)
    (honly' : onlyComments (core ++ [';']) = false) : (splitComments core).2 ≠ [] ∧
      (Agrees language text ↔ own? language (Text.strip text) = own? language (core ++ [';'])) := by
  have hrest : (splitComments core).2 ≠ [] := by
    intro hnil
    rw [Bool.eq_false_iff, Ne, onlyComments_iff, (h.splitComments_open hnil).1] at honly'
    exact honly' ⟨rfl, rfl⟩
  obtain ⟨htext, hpiece⟩ := h.splitComments_eq hrest
  obtain ⟨hstatements, hpieces⟩ := h.statements_eq language
  have hnodes : commentNodes (Text.strip text) = commentNodes (core ++ [';']) := by
    simp only [commentNodes, comment?, honly, honly', htext, hpiece]
  refine ⟨hrest, ?_⟩
  rw [Agrees, hstatements, hpieces, pieceStatements_eq, pieceStatements_eq, hnodes]
  exact (Option.map_injective (List.append_right_injective _)).eq_iff

/-- A grant that is read with what follows it agrees with its piece when it is taken apart in the
same way. -/
theorem Single.agrees_grant (found found' : List Char)
    (hfound : grant? (Text.strip text) = some found)
    (hfound' : grant? (core ++ [';']) = some found') :
    Agrees language text ↔ Grant.parse found = Grant.parse found' := by
  obtain ⟨honly, hgrant, rfl⟩ := grant_some hfound
  obtain ⟨honly', hgrant', rfl⟩ := grant_some hfound'
  rw [(h.agrees_iff_own language honly honly').2, own?, own?, honly, honly', hgrant, hgrant']
  simp

/-- A statement of the grammar is encoded alike with what follows it and with its terminator. -/
theorem Single.agrees_body {found found' : List Char}
    (hfound : body? (Text.strip text) = some found) (hfound' : body? (core ++ [';']) = some found')
    (hmode : (modeAfter .code (Text.strip text)).isLiteral = false)
    (hgrammar : ∀ encoded, Placeholder.encode (splitComments core).2 = .ok encoded →
      trees? language (encoded.text ++ tail) = trees? language (encoded.text ++ [';'])) :
    Agrees language text := by
  obtain ⟨honly, hgrant, rfl⟩ := body_some hfound
  obtain ⟨honly', hgrant', rfl⟩ := body_some hfound'
  obtain ⟨hrest, hiff⟩ := h.agrees_iff_own language honly honly'
  obtain ⟨htext, hpiece⟩ := h.splitComments_eq hrest
  have hclosed : (modeAfter .code (splitComments core).2).isLiteral = false := by
    rw [h.eq] at hmode
    have hcore := Placeholder.isLiteral_append h.trailing hmode
    rw [splitComments_of_trimmed h.trimmed] at hrest ⊢
    rwa [modeAfter_pastComments (Text.strip_eq_self_iff.1 h.trimmed).2 h.ne_nil,
      if_neg hrest] at hcore
  rw [hiff, own?, own?, honly, honly', hgrant, hgrant']
  simp only [Bool.false_eq_true, if_false, htext, hpiece, ordinary?]
  rw [Placeholder.encode_append hclosed h.trailing,
    Placeholder.encode_append hclosed Placeholder.trailing_terminator]
  cases hencode : Placeholder.encode (splitComments core).2 with
  | error fault => rfl
  | ok encoded =>
      simp [Except.map, Except.toOption, Placeholder.Encoded.followedBy, hgrammar encoded hencode]

end

/-- When reading a text agrees with reading its pieces one after the other.  Blank texts and texts
of several pieces always agree.  Behind a leading semicolon the grammar gets the whole text.  A text
of one piece is read with everything that follows its statement: comment lines alone agree when only
semicolons follow them at once, grants when what follows makes no difference to their parts, and all
other statements when it makes no difference to the grammar. -/
theorem agrees_with_pieces (language : Language) (text : List Char) :
    let trimmed := Text.strip text
    let pieces := Source.statements trimmed
    (trimmed = [] ∨ 1 < pieces.length → Agrees language text) ∧
    (trimmed.head? = some ';' → pieces.length ≤ 1 →
      statements? language text = ordinary? language trimmed) ∧
    (trimmed ≠ [] → pieces = [] → trees? language trimmed = none →
      statements? language text = none ∧ fromPieces? language text = some []) ∧
    (trimmed ≠ [] → trimmed.head? ≠ some ';' → pieces.length ≤ 1 →
      ∃ core tail, Single trimmed core tail ∧
        (onlyComments (core ++ [';']) = true → trees? language (splitComments trimmed).2 = none →
          (Agrees language text ↔ onlyComments trimmed = true)) ∧
        (∀ found found', grant? trimmed = some found → grant? (core ++ [';']) = some found' →
          (Agrees language text ↔ Grant.parse found = Grant.parse found')) ∧
        ∀ found found', body? trimmed = some found → body? (core ++ [';']) = some found' →
          (modeAfter .code trimmed).isLiteral = false →
          (∀ encoded, Placeholder.encode (splitComments core).2 = .ok encoded →
            trees? language (encoded.text ++ tail) = trees? language (encoded.text ++ [';'])) →
          Agrees language text) := by
  dsimp only
  have hled (hhead : (Text.strip text).head? = some ';')
      (hpieces : (Source.statements (Text.strip text)).length ≤ 1) :
      statements? language text = ordinary? language (Text.strip text) := by
    obtain ⟨rest, hrest⟩ : ∃ rest, Text.strip text = ';' :: rest := List.head?_eq_some_iff.1 hhead
    rw [statements_eq, if_neg (by omega), hrest, if_neg (by simp),
      pieceStatements_of_split language (splitComments_of_none rfl), isGrant_semicolon,
      if_neg Bool.false_ne_true]
  refine ⟨?_, hled, fun hne hpieces hgrammar => ?_, fun hne hhead hpieces => ?_⟩
  · rintro (hnil | hmany)
    · rw [Agrees, statements_eq, fromPieces?, hnil]
      rfl
    · rw [Agrees, statements_eq, if_pos hmany]
  · have hbody := trailing_of_statements hpieces
    obtain ⟨rest, hrest⟩ := (trailing_cases hbody Text.head_strip).resolve_left hne
    refine ⟨?_, by rw [fromPieces?, hpieces]; rfl⟩
    rw [hled (by rw [hrest]; rfl) (by simp [hpieces]), ordinary_trailing hbody hgrammar]
  · obtain ⟨core, tail, h⟩ := exists_single (Text.strip_strip text) hne hhead hpieces
    exact ⟨core, tail, h, h.agrees_comments language, h.agrees_grant language,
      fun _ _ => h.agrees_body language⟩

/-- The only tree of a text, if it is a statement that is kept as text. -/
def kept? : List Statement → Option Tree.Unrendered
  | [.unrendered tree] => some tree
  | _ => none

theorem trees?_of_kept {language : Language} {text : List Char} {tree : Tree.Unrendered}
    (h : (trees? language text).bind kept? = some tree) :
    trees? language text = some [.unrendered tree] := by
  obtain ⟨found, hfound, hone⟩ := Option.bind_eq_some_iff.1 h
  unfold kept? at hone
  split at hone
  · rw [hfound, Option.some.inj hone]
  · cases hone

/-- A statement, a grant and a comment that agree with their pieces though more than a semicolon
follows them, and a text without a piece. -/
theorem agrees_with_pieces_trailing :
    Agrees {} "commit;;".toList ∧ Agrees {} "grant usage on schema s to role r\n ;".toList ∧
      Agrees {} "-- note\n;;".toList ∧ statements? {} ";".toList = none := by
  refine ⟨?_, ?_, ?_, ?_⟩
  · obtain ⟨core, tail, h, -, -, hbody⟩ := (agrees_with_pieces {} "commit;;".toList).2.2.2
      (by decide) (by decide) (by decide)
    obtain ⟨rfl, rfl⟩ := h.unique "commit".toList ";;".toList (by decide) (by decide)
    refine hbody "commit;;".toList "commit;".toList (by decide) (by decide)
      (by decide) fun encoded hencode => ?_
    have htext : (Placeholder.encode (splitComments "commit".toList).2).toOption.map
        Placeholder.Encoded.text = some "commit".toList := by decide
    rw [hencode] at htext
    rw [Option.some.inj htext]
    let tree : Tree.Unrendered := { kind := "Commit", sql := "COMMIT" }
    obtain ⟨hwhole, hown⟩ : (trees? {} "commit;;".toList).bind kept? = some tree ∧
        (trees? {} "commit;".toList).bind kept? = some tree := by decide
    exact (trees?_of_kept hwhole).trans (trees?_of_kept hown).symm
  · obtain ⟨core, tail, h, -, hgrant, -⟩ :=
      (agrees_with_pieces {} "grant usage on schema s to role r\n ;".toList).2.2.2
        (by decide) (by decide) (by decide)
    obtain ⟨rfl, rfl⟩ := h.unique "grant usage on schema s to role r".toList "\n ;".toList
      (by decide) (by decide)
    let node : Tree.Grant :=
      { privilege := some "USAGE", onType := some "SCHEMA", onName := some "s",
        toType := some "ROLE", toName := some "r" }
    obtain ⟨hwhole, hown⟩ : Grant.parse "grant usage on schema s to role r\n ;".toList = node ∧
        Grant.parse "grant usage on schema s to role r;".toList = node := by decide
    exact (hgrant "grant usage on schema s to role r\n ;".toList
      "grant usage on schema s to role r;".toList (by decide) (by decide)).2
      (hwhole.trans hown.symm)
  · obtain ⟨core, tail, h, hcomments, -, -⟩ := (agrees_with_pieces {} "-- note\n;;".toList).2.2.2
      (by decide) (by decide) (by decide)
    obtain ⟨rfl, rfl⟩ := h.unique "-- note".toList "\n;;".toList (by decide) (by decide)
    exact (hcomments (by decide) (by decide)).2 (by decide)
  · exact ((agrees_with_pieces {} ";".toList).2.2.1 (by decide) (by decide)
      (by decide)).1

/-- A grant with two semicolons is kept as it is written, though its only piece is taken apart, and
a text of a semicolon alone has no statements to read, though it has no piece either. -/
theorem disagrees_with_pieces :
    ¬ Agrees {} "grant usage on schema s to role r;;".toList ∧
      (fromPieces? {} ";".toList).isSome = true ∧ statements? {} ";".toList = none := by
  have hsingle : ∃ core tail, Single (Text.strip "grant usage on schema s to role r;;".toList)
      core tail :=
    exists_single (by decide) (by decide) (by decide) (by decide)
  refine ⟨?_, by decide, by decide⟩
  obtain ⟨core, tail, h⟩ := hsingle
  obtain ⟨rfl, rfl⟩ := h.unique "grant usage on schema s to role r".toList ";;".toList
    (by decide) (by decide)
  rw [h.agrees_grant {} "grant usage on schema s to role r;;".toList
    "grant usage on schema s to role r;".toList (by decide) (by decide)]
  decide

end Document

end SqlLayout
