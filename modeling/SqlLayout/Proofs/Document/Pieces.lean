import SqlLayout.Document

/-!
# The pieces of a document

A text is parsed piece by piece.  Every statement of its document is a comment in front of a piece,
a grant, or one of the restored trees of a part that the grammar reads.

## Implementation notes

`Gives` says what holds of the value of a computation when it succeeds, whatever was logged before
it, so that the parts of a document can be described one after the other.
-/

namespace SqlLayout

open SqlLayout.Tree (Statement)

namespace Logged

variable {ε α β : Type}

/-- When a computation succeeds, its value has a property. -/
def Gives (action : Logged ε α) (property : α → Prop) : Prop :=
  ∀ log value, (action.run log).1 = .ok value → property value

theorem run_bind (action : Logged ε α) (next : α → Logged ε β) (log : List Event) :
    (action >>= next).run log = match action.run log with
      | (.ok value, later) => (next value).run later
      | (.error cause, later) => (.error cause, later) := by
  change (ExceptT.bindCont next (action.run log).1).run (action.run log).2 = _
  rcases action.run log with ⟨_ | _, _⟩ <;> rfl

theorem Gives.bind {action : Logged ε α} {next : α → Logged ε β} {first : α → Prop}
    {later : β → Prop} (haction : Gives action first)
    (hnext : ∀ value, first value → Gives (next value) later) :
    Gives (action >>= next) later := by
  intro log value hvalue
  have hfirst := haction log
  obtain ⟨result, middle, hrun⟩ : ∃ result middle, action.run log = (result, middle) := ⟨_, _, rfl⟩
  rw [run_bind, hrun] at hvalue
  rw [hrun] at hfirst
  cases result with
  | error cause => simp at hvalue
  | ok found => exact hnext found (hfirst found rfl) middle value hvalue

theorem Gives.pure {value : α} {property : α → Prop} (h : property value) :
    Gives (pure value : Logged ε α) property := by
  rintro log _ hvalue
  obtain rfl := Except.ok.inj hvalue
  exact h

theorem Gives.trivial (action : Logged ε α) : Gives action fun _ => True :=
  fun _ _ _ => True.intro

theorem Gives.mapM {action : α → Logged ε β} {property : β → Prop}
    (haction : ∀ x, Gives (action x) property) (xs : List α) :
    Gives (xs.mapM action) fun values => ∀ value ∈ values, property value := by
  induction xs with
  | nil => exact Gives.pure (by simp)
  | cons x rest ih =>
      rw [List.mapM_cons]
      refine (haction x).bind fun value hvalue => ih.bind fun values hvalues => Gives.pure ?_
      simpa using ⟨hvalue, hvalues⟩

/-- What the lists of a sequence of computations hold together. -/
theorem Gives.mapM_flatten {action : α → Logged ε (List β)} {property : α → β → Prop}
    (haction : ∀ x, Gives (action x) fun values => ∀ value, value ∈ values ↔ property x value)
    (xs : List α) :
    Gives (xs.mapM action) fun lists => ∀ value, value ∈ lists.flatten ↔
      ∃ x ∈ xs, property x value := by
  induction xs with
  | nil => exact Gives.pure (by simp)
  | cons x rest ih =>
      rw [List.mapM_cons]
      refine (haction x).bind fun values hvalues => ih.bind fun lists hlists => Gives.pure ?_
      intro value
      simp [hvalues, hlists]

theorem Gives.ofExcept (result : Except ε α) :
    Gives (ofExcept result) fun value => result = .ok value :=
  fun _ _ h => h

end Logged

open Logged (Gives)

namespace Document

/-! ## Parts of a text -/

/-- Whether a piece holds nothing but comment lines. -/
def onlyComments (statement : List Char) : Bool :=
  (splitComments statement).1.isSome &&
    (Text.strip (dropTerminators (splitComments statement).2)).isEmpty

/-- The comment lines of a piece; without a statement after them they lose their terminators. -/
def comment? (statement : List Char) : Option (List Char) :=
  (splitComments statement).1.map fun comment =>
    if onlyComments statement then Text.dropEndWhile Text.isBlank (dropTerminators comment)
    else comment

/-- The grant of a piece. -/
def grant? (statement : List Char) : Option (List Char) :=
  if !onlyComments statement && Grant.isGrant (splitComments statement).2 then
    some (splitComments statement).2
  else none

/-- The part of a piece that the grammar reads: comment lines and grants are read apart. -/
def body? (statement : List Char) : Option (List Char) :=
  if onlyComments statement || Grant.isGrant (splitComments statement).2 then none
  else some (splitComments statement).2

/-- What a text holds besides a single grant, from what each of its pieces holds. -/
def ofPieces (part? : List Char → Option (List Char)) (text : List Char) : List (List Char) :=
  let trimmed := Text.strip text
  let pieces := Source.statements trimmed
  if pieces.length > 1 then pieces.filterMap part?
  else if trimmed.isEmpty || Grant.isGrant trimmed then []
  else (part? trimmed).toList

/-- The comments of a text. -/
def comments : List Char → List (List Char) :=
  ofPieces comment?

/-- The parts of a text that the grammar reads. -/
def bodies : List Char → List (List Char) :=
  ofPieces body?

/-- The grants of a text; a text that is a single grant is not cut into pieces. -/
def grants (text : List Char) : List (List Char) :=
  ofPieces grant? text ++
    if (Source.statements (Text.strip text)).length > 1 || !Grant.isGrant (Text.strip text) then []
    else [Text.strip text]

/-! ## Statements of the grammar -/

/-- The message about a pivot clause that is left alone. -/
def noteUnclosed (body : List Char) : Logged Error Unit :=
  match Placeholder.encodeNote? body with
  | some keyword => Logged.log (.unclosedClause keyword)
  | none => pure ()

/-- The message about the placeholders of a statement. -/
def noteEncoded (encoded : Placeholder.Encoded) : Logged Error Unit :=
  if encoded.records.isEmpty then pure ()
  else Logged.log (.encoded encoded.records.length (String.ofList encoded.text))

/-- The trees of an encoded statement, restored. -/
def restoredTrees (language : Language) (encoded : Placeholder.Encoded) :
    Logged Error (Except Cause (List Statement)) := do
  Logged.logAll (language.trees encoded.text).events.2
  match (language.trees encoded.text).events.1 with
  | .error cause => return .error cause
  | .ok built =>
    Logged.logAll ((Placeholder.restore encoded.records built).unapplied.map .unapplied)
    return .ok (Placeholder.restore encoded.records built).statements

theorem ordinary_eq (language : Language) (body : List Char) :
    ordinary language body =
      (noteUnclosed body >>= fun _ =>
        Logged.ofExcept ((Placeholder.encode body).mapError .encoding) >>= fun encoded =>
          noteEncoded encoded >>= fun _ => restoredTrees language encoded) := by
  have hnote (encoded : Placeholder.Encoded) :
      (noteEncoded encoded >>= fun _ => restoredTrees language encoded) =
        if encoded.records.isEmpty then restoredTrees language encoded
        else Logged.log (.encoded encoded.records.length (String.ofList encoded.text)) >>= fun _ =>
          restoredTrees language encoded := by
    unfold noteEncoded
    split <;> rfl
  simp only [hnote]
  unfold ordinary noteUnclosed
  cases Placeholder.encodeNote? body <;> rfl

/-- The trees of a piece without its comment lines, after the trees of those. -/
def afterComments (language : Language) (alone : Bool) (statement : List Char)
    (comments : List Statement) (body : List Char) : Logged Error (List Statement) :=
  if Grant.isGrant body then do return comments ++ [← grant body]
  else do
    match ← ordinary language body with
    | .ok statements => return comments ++ statements
    | .error cause => throw (.unparsed (String.ofList statement) alone cause)

/-- A tree that the grammar part of a text gives: restored from the encoded text. -/
def Reads (language : Language) (body : List Char) (statement : Statement) : Prop :=
  ∃ encoded built, Placeholder.encode body = .ok encoded ∧
    (language.trees encoded.text).events.1 = .ok built ∧
    statement ∈ (Placeholder.restore encoded.records built).statements

theorem restoredTrees_gives (language : Language) (encoded : Placeholder.Encoded) :
    Gives (restoredTrees language encoded) fun result => ∀ statements, result = .ok statements →
      ∃ built, (language.trees encoded.text).events.1 = .ok built ∧
        statements = (Placeholder.restore encoded.records built).statements := by
  unfold restoredTrees
  refine (Gives.trivial _).bind fun _ _ => ?_
  cases htrees : (language.trees encoded.text).events.1 with
  | error cause =>
      refine Gives.pure fun statements h => ?_
      cases h
  | ok built =>
      refine (Gives.trivial _).bind fun _ _ => Gives.pure fun statements h => ?_
      exact ⟨built, rfl, (Except.ok.inj h).symm⟩

theorem ordinary_gives (language : Language) (body : List Char) :
    Gives (ordinary language body) fun result => ∀ statements, result = .ok statements →
      ∀ statement, statement ∈ statements ↔ Reads language body statement := by
  rw [ordinary_eq]
  refine (Gives.trivial _).bind fun _ _ => (Gives.ofExcept _).bind fun encoded hencoded => ?_
  have hencode : Placeholder.encode body = .ok encoded := by
    cases hresult : Placeholder.encode body with
    | error fault =>
        rw [hresult] at hencoded
        cases hencoded
    | ok found =>
        rw [hresult] at hencoded
        exact congrArg _ (Except.ok.inj hencoded)
  refine (Gives.trivial _).bind fun _ _ => ?_
  intro log result hresult statements hok statement
  obtain ⟨built, hbuilt, rfl⟩ :=
    restoredTrees_gives language encoded log result hresult statements hok
  constructor
  · intro hmem
    exact ⟨encoded, built, hencode, hbuilt, hmem⟩
  · rintro ⟨other, trees, hother, htrees, hmem⟩
    obtain rfl := Except.ok.inj (hencode.symm.trans hother)
    obtain rfl := Except.ok.inj (hbuilt.symm.trans htrees)
    exact hmem

/-! ## Statements of a text -/

/-- A statement that comes from comments, grants and parts that the grammar reads. -/
def Gathered (language : Language) (comments grants bodies : List (List Char))
    (statement : Statement) :
    Prop :=
  (∃ text ∈ comments, statement = .comment { text := String.ofList text }) ∨
    (∃ text ∈ grants, statement = .grant (Grant.parse text)) ∨
    ∃ text ∈ bodies, Reads language text statement

theorem grant_gives {ε : Type} (text : List Char) :
    Gives (grant text : Logged ε Statement) fun statement => statement =
      .grant (Grant.parse text) := by
  unfold grant
  dsimp only
  split
  · exact (Gives.trivial _).bind fun _ _ => Gives.pure rfl
  · exact Gives.pure rfl

theorem afterComments_gives (language : Language) (alone : Bool) (piece : List Char)
    (comments : List Statement) (body : List Char) :
    Gives (afterComments language alone piece comments body) fun statements =>
      ∀ statement, statement ∈ statements ↔ statement ∈ comments ∨
        (Grant.isGrant body = true ∧ statement = .grant (Grant.parse body)) ∨
          (Grant.isGrant body = false ∧ Reads language body statement) := by
  unfold afterComments
  split
  · next hgrant =>
      refine (grant_gives body).bind fun found hfound => Gives.pure fun statement => ?_
      simp [hgrant, hfound]
  · next hgrant =>
      refine (ordinary_gives language body).bind fun result hresult => ?_
      cases result with
      | error cause =>
          intro log statements h
          cases h
      | ok statements =>
          refine Gives.pure fun statement => ?_
          simp [hgrant, hresult statements rfl]

theorem piece_gives (language : Language) (alone : Bool) (statement : List Char) :
    Gives (piece language alone statement) fun statements => ∀ found, found ∈ statements ↔
      Gathered language (comment? statement).toList (grant? statement).toList
        (body? statement).toList
        found := by
  unfold piece Gathered comment? grant? body? onlyComments
  dsimp only
  split
  · next comment hcomment =>
      split
      · next hempty => exact Gives.pure fun found => by simp [hcomment, hempty]
      · next hempty =>
          intro log statements hrun found
          have hfound := afterComments_gives language alone statement _ _ log statements hrun found
          rw [hfound, hcomment]
          cases Grant.isGrant (splitComments statement).2 <;> simp [hempty]
  · next hcomment =>
      intro log statements hrun found
      have hfound := afterComments_gives language alone statement _ _ log statements hrun found
      rw [hfound, hcomment]
      cases Grant.isGrant (splitComments statement).2 <;> simp

theorem gathered_pieces (language : Language) (pieces : List (List Char)) (statement : Statement) :
    (∃ piece ∈ pieces, Gathered language (comment? piece).toList (grant? piece).toList
      (body? piece).toList statement) ↔
      Gathered language (pieces.filterMap comment?) (pieces.filterMap grant?)
        (pieces.filterMap body?)
        statement := by
  simp only [Gathered, List.mem_filterMap, Option.mem_toList]
  constructor
  · rintro ⟨piece, hpiece, ⟨text, htext, hfound⟩ | ⟨text, htext, hfound⟩ | ⟨text, htext, hfound⟩⟩
    · exact .inl ⟨text, ⟨piece, hpiece, htext⟩, hfound⟩
    · exact .inr (.inl ⟨text, ⟨piece, hpiece, htext⟩, hfound⟩)
    · exact .inr (.inr ⟨text, ⟨piece, hpiece, htext⟩, hfound⟩)
  · rintro (⟨text, ⟨piece, hpiece, htext⟩, hfound⟩ | ⟨text, ⟨piece, hpiece, htext⟩, hfound⟩ |
      ⟨text, ⟨piece, hpiece, htext⟩, hfound⟩)
    · exact ⟨piece, hpiece, .inl ⟨text, htext, hfound⟩⟩
    · exact ⟨piece, hpiece, .inr (.inl ⟨text, htext, hfound⟩)⟩
    · exact ⟨piece, hpiece, .inr (.inr ⟨text, htext, hfound⟩)⟩

/-- The statements of a document are the comments and grants of its text and the trees of the
rest. -/
theorem mem_statements {language : Language} {text : List Char} {document : Document}
    (h : (parse language text).events.1 = .ok document) (statement : Statement) :
    statement ∈ document.statements ↔
      Gathered language (comments text) (grants text) (bodies text) statement := by
  have hgives : Gives (parse language text) fun document => ∀ statement,
    statement ∈ document.statements ↔
      Gathered language (comments text) (grants text) (bodies text) statement := by
    unfold parse comments grants bodies ofPieces
    dsimp only
    split
    · next hmany =>
        refine (Gives.trivial _).bind fun _ _ =>
          (Gives.mapM_flatten (piece_gives language false) _).bind fun lists hlists => ?_
        refine Gives.pure fun statement => (hlists statement).trans ?_
        rw [gathered_pieces]
        simp [hmany]
    · next hsingle =>
        split
        · next hempty =>
            have hgrant : Grant.isGrant (Text.strip text) = false := by
              rw [List.isEmpty_iff.1 hempty]
              decide
            exact Gives.pure fun statement => by simp [Gathered, hempty, hgrant]
        · next hempty =>
            split
            · next hgrant =>
                refine (grant_gives _).bind fun found hfound => Gives.pure fun statement => ?_
                simp [Gathered, hgrant, hfound, hsingle]
            · next hgrant =>
                refine (piece_gives language true _).bind fun found hfound =>
                  Gives.pure fun statement => ?_
                refine (hfound statement).trans ?_
                simp [hgrant, hempty]
  exact hgives [] document h statement

end Document

end SqlLayout
