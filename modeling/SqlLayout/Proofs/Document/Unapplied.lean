import SqlLayout.Proofs.Document.Pieces
import SqlLayout.Proofs.Placeholder.Places
import SqlLayout.Proofs.Tree.Build
import SqlLayout.Proofs.Tree.Untouched

/-!
# Records that are not restored

Parsing a text reports the records that were not found again.  A record is reported exactly when it
is a record of a statement of the text, and none of the trees built from the encoded statement holds
a place for it.

## Implementation notes

`Reports` says what a computation reports when it succeeds, whatever was logged before it, so that
the reports of a sequence are those of its steps.
-/

namespace SqlLayout

open SqlLayout.Tree (Statement)
open SqlLayout.Placeholder (Record)

namespace Logged

variable {ε α β : Type}

/-- When a computation succeeds, it reports the records for which a condition holds, and no other
ones. -/
def Reports (action : Logged ε α) (reported : Record → Prop) : Prop :=
  ∀ log value, (action.run log).1 = .ok value →
    ∀ record, .unapplied record ∈ (action.run log).2 ↔ .unapplied record ∈ log ∨ reported record

/-- A computation that reports no record, also when it fails. -/
def Quiet (action : Logged ε α) : Prop :=
  ∀ log record, .unapplied record ∈ (action.run log).2 → .unapplied record ∈ log

/-! ## Computations that report nothing -/

theorem Quiet.pure (value : α) : Quiet (pure value : Logged ε α) :=
  fun _ _ h => h

theorem Quiet.ofExcept (result : Except ε α) : Quiet (ofExcept result) :=
  fun _ _ h => h

theorem Quiet.log {event : Event} (hevent : ∀ record, event ≠ .unapplied record) :
    Quiet (log event : Logged ε Unit) := by
  intro log record h
  rcases List.mem_append.1 h with h | h
  · exact h
  · exact absurd (List.mem_singleton.1 h).symm (hevent record)

theorem Quiet.logAll {events : List Event} (hevents : ∀ record, .unapplied record ∉ events) :
    Quiet (logAll events : Logged ε Unit) := by
  intro log record h
  exact (List.mem_append.1 h).resolve_right (hevents record)

theorem Quiet.bind {action : Logged ε α} {next : α → Logged ε β} (haction : Quiet action)
    (hnext : ∀ value, Quiet (next value)) : Quiet (action >>= next) := by
  intro log record h
  have hfirst := haction log record
  obtain ⟨result, later, hrun⟩ : ∃ result later, action.run log = (result, later) := ⟨_, _, rfl⟩
  rw [run_bind, hrun] at h
  rw [hrun] at hfirst
  cases result with
  | error cause => exact hfirst h
  | ok value => exact hfirst (hnext value later record h)

theorem Quiet.mapM {action : α → Logged ε β} (haction : ∀ x, Quiet (action x)) (xs : List α) :
    Quiet (xs.mapM action) := by
  induction xs with
  | nil => exact Quiet.pure []
  | cons x rest ih =>
      rw [List.mapM_cons]
      exact (haction x).bind fun _ => ih.bind fun _ => Quiet.pure _

/-! ## What computations report -/

theorem Quiet.reports {action : Logged ε α} (haction : Quiet action)
    (hkeeps : ∀ log event, event ∈ log → event ∈ (action.run log).2) :
    Reports action fun _ => False := by
  intro log value _ record
  rw [or_false]
  exact ⟨haction log record, hkeeps log _⟩

theorem Reports.pure (value : α) : Reports (pure value : Logged ε α) fun _ => False :=
  (Quiet.pure value).reports fun _ _ h => h

theorem Reports.throw (cause : ε) (reported : Record → Prop) :
    Reports (throw cause : Logged ε α) reported := by
  intro log value h
  cases h

theorem Reports.log {event : Event} (hevent : ∀ record, event ≠ .unapplied record) :
    Reports (log event : Logged ε Unit) fun _ => False :=
  (Quiet.log hevent).reports fun _ _ h => List.mem_append_left _ h

theorem Reports.logAll (events : List Event) :
    Reports (logAll events : Logged ε Unit) fun record => .unapplied record ∈ events :=
  fun _ _ _ _ => List.mem_append

theorem Reports.congr {action : Logged ε α} {reported other : Record → Prop}
    (h : Reports action reported) (hiff : ∀ record, reported record ↔ other record) :
    Reports action other :=
  fun log value hvalue record => (h log value hvalue record).trans (or_congr_right (hiff record))

theorem Reports.bind {action : Logged ε α} {next : α → Logged ε β} {first later : Record → Prop}
    (haction : Reports action first) (hnext : ∀ value, Reports (next value) later) :
    Reports (action >>= next) fun record => first record ∨ later record := by
  intro log value hvalue record
  have hfirst := haction log
  obtain ⟨result, middle, hrun⟩ : ∃ result middle, action.run log = (result, middle) := ⟨_, _, rfl⟩
  rw [run_bind, hrun] at hvalue ⊢
  rw [hrun] at hfirst
  cases result with
  | error cause => simp at hvalue
  | ok found => rw [hnext found middle value hvalue record, hfirst found rfl record, or_assoc]

theorem Reports.bind_quiet {action : Logged ε α} {next : α → Logged ε β} {reported : Record → Prop}
    (haction : Reports action reported) (hnext : ∀ value, Reports (next value) fun _ => False) :
    Reports (action >>= next) reported :=
  (haction.bind hnext).congr fun _ => iff_of_eq (or_false _)

theorem Reports.quiet_bind {action : Logged ε α} {next : α → Logged ε β} {reported : Record → Prop}
    (haction : Reports action fun _ => False) (hnext : ∀ value, Reports (next value) reported) :
    Reports (action >>= next) reported :=
  (haction.bind hnext).congr fun _ => iff_of_eq (false_or _)

theorem Reports.mapM {action : α → Logged ε β} {reported : α → Record → Prop}
    (haction : ∀ x, Reports (action x) (reported x)) (xs : List α) :
    Reports (xs.mapM action) fun record => ∃ x ∈ xs, reported x record := by
  induction xs with
  | nil => exact (Reports.pure []).congr (by simp)
  | cons x rest ih =>
      rw [List.mapM_cons]
      refine ((haction x).bind fun _ => ih.bind_quiet fun _ => Reports.pure _).congr fun record =>
        ?_
      simp

end Logged

open Logged (Gives Reports Quiet)

/-! ## Built trees -/

section

open SqlLayout.Tree
open Placeholder (Fresh)

/-- A statement as the builder gives it: without properties of a dynamic table, and no comment. -/
structure Built (statement : Statement) : Prop where
  fresh : Fresh statement
  noComment : statement.isComment = false

/-- A statement that is no created object is built when it is no comment. -/
theorem Built.of_shape {statement : Statement} (hcreate : ∀ node, statement ≠ .create node)
    (hcomment : statement.isComment = false) : Built statement :=
  ⟨fun node hnode => absurd hnode (hcreate node), hcomment⟩

theorem createOf_built {dialect : Grammar.Dialect} {term : Grammar.CreateTerm}
    {statement : Statement} (h : createOf dialect term = .ok statement) : Built statement := by
  unfold createOf at h
  simp only at h
  split at h
  · obtain rfl := Except.ok.inj h
    exact Built.of_shape (fun _ hnode => by cases hnode) rfl
  · obtain ⟨columns, -, h⟩ := bind_ok h
    split at h
    · obtain ⟨query, -, h⟩ := bind_ok h
      obtain rfl := Except.ok.inj h
      exact ⟨fun node hnode => by cases hnode; rfl, rfl⟩
    · obtain rfl := Except.ok.inj h
      exact Built.of_shape (fun _ hnode => by cases hnode) rfl

theorem insertOf_built {dialect : Grammar.Dialect} {term : Grammar.InsertTerm}
    {statement : Statement} (h : insertOf dialect term = .ok statement) : Built statement := by
  unfold insertOf at h
  split at h
  · obtain rfl := Except.ok.inj h
    exact Built.of_shape (fun _ hnode => by cases hnode) rfl
  · dsimp only at h
    split at h
    · obtain ⟨rows, -, h⟩ := bind_ok h
      obtain rfl := Except.ok.inj h
      exact Built.of_shape (fun _ hnode => by cases hnode) rfl
    · obtain ⟨query, -, h⟩ := bind_ok h
      obtain ⟨ctes, -, h⟩ := bind_ok h
      obtain rfl := Except.ok.inj h
      exact Built.of_shape (fun _ hnode => by cases hnode) rfl
    · obtain rfl := Except.ok.inj h
      exact Built.of_shape (fun _ hnode => by cases hnode) rfl

theorem updateOf_built {dialect : Grammar.Dialect} {term : Grammar.UpdateTerm}
    {statement : Statement} (h : updateOf dialect term = .ok statement) : Built statement := by
  obtain ⟨items, -, h⟩ := bind_ok h
  split at h
  · obtain rfl := Except.ok.inj h
    exact Built.of_shape (fun _ hnode => by cases hnode) rfl
  · obtain ⟨sources, -, h⟩ := bind_ok h
    obtain ⟨filter, -, h⟩ := bind_ok h
    obtain rfl := Except.ok.inj h
    exact Built.of_shape (fun _ hnode => by cases hnode) rfl

theorem deleteOf_built {dialect : Grammar.Dialect} {term : Grammar.DeleteTerm}
    {statement : Statement} (h : deleteOf dialect term = .ok statement) : Built statement := by
  obtain ⟨sources, -, h⟩ := bind_ok h
  obtain ⟨filter, -, h⟩ := bind_ok h
  obtain rfl := Except.ok.inj h
  exact Built.of_shape (fun _ hnode => by cases hnode) rfl

theorem statementOf_built {dialect : Grammar.Dialect} {parsed : Grammar.Parsed}
    {statement : Statement} (h : statementOf dialect parsed = .ok statement) : Built statement := by
  unfold statementOf at h
  split at h
  · obtain rfl := Except.ok.inj h
    exact Built.of_shape (fun _ hnode => by cases hnode) rfl
  · obtain ⟨query, -, h⟩ := bind_ok h
    obtain rfl := Except.ok.inj h
    exact Built.of_shape (fun _ hnode => by cases hnode) rfl
  · exact createOf_built h
  · exact insertOf_built h
  · exact updateOf_built h
  · exact deleteOf_built h
  · obtain rfl := Except.ok.inj h
    exact Built.of_shape (fun _ hnode => by cases hnode) rfl

theorem Language.build_built (language : Language) (parsed : Grammar.Parsed) :
    Gives (language.build parsed) Built := by
  have hstatement : Gives
      (Logged.ofExcept ((statementOf language.dialect parsed).mapError Cause.unsupported))
        Built := by
    intro log statement h
    cases hresult : statementOf language.dialect parsed with
    | error unsupported =>
        rw [hresult] at h
        cases h
    | ok found =>
        rw [hresult] at h
        obtain rfl := Except.ok.inj h
        exact statementOf_built hresult
  refine hstatement.bind fun statement hbuilt => ?_
  cases statement with
  | unrendered node => exact (Gives.trivial _).bind fun _ _ => Gives.pure hbuilt
  | _ => exact Gives.pure hbuilt

theorem Language.trees_built {language : Language} {text : List Char} {statements : List Statement}
    (h : (language.trees text).events.1 = .ok statements) :
    ∀ statement ∈ statements, Built statement := by
  have hgives : Gives (language.trees text) fun built => ∀ statement ∈ built, Built statement :=
    (Gives.trivial _).bind fun parsed _ => Gives.mapM language.build_built parsed
  exact hgives [] statements h

end

/-! ## Texts of the grammar -/

theorem Language.parse_quiet (language : Language) (text : List Char) :
    Quiet (language.parse text) := by
  refine (Quiet.ofExcept _).bind fun parsed => ?_
  refine (Quiet.logAll fun record h => ?_).bind fun _ => (Quiet.log ?_).bind fun _ => Quiet.pure _
  · obtain ⟨warning, -, hwarning⟩ := List.mem_map.1 h
    cases hwarning
  · intro record h
    cases h

theorem Language.build_quiet (language : Language) (parsed : Grammar.Parsed) :
    Quiet (language.build parsed) := by
  refine (Quiet.ofExcept _).bind fun statement => ?_
  cases statement with
  | unrendered node =>
      refine (Quiet.log ?_).bind fun _ => Quiet.pure _
      intro record h
      cases h
  | _ => exact Quiet.pure _

theorem Language.trees_quiet (language : Language) (text : List Char) :
    Quiet (language.trees text) :=
  (language.parse_quiet text).bind fun parsed => Quiet.mapM language.build_quiet parsed

namespace Document

/-- A record of a statement for which no tree of its encoded text holds a place. -/
def Unplaced (language : Language) (body : List Char) (record : Record) : Prop :=
  ∃ encoded built position, Placeholder.encode body = .ok encoded ∧
    (language.trees encoded.text).events.1 = .ok built ∧
    encoded.records[position]? = some record ∧
    ∀ statement ∈ built, ¬ Placeholder.Place encoded.records statement position record

theorem noteUnclosed_reports (body : List Char) : Reports (noteUnclosed body) fun _ => False := by
  unfold noteUnclosed
  split
  · refine Reports.log ?_
    intro record h
    cases h
  · exact Reports.pure ()

theorem noteEncoded_reports (encoded : Placeholder.Encoded) :
    Reports (noteEncoded encoded) fun _ => False := by
  unfold noteEncoded
  split
  · exact Reports.pure ()
  · refine Reports.log ?_
    intro record h
    cases h

theorem restoredTrees_reports (language : Language) (encoded : Placeholder.Encoded) :
    Reports (restoredTrees language encoded) fun record =>
      ∃ built, (language.trees encoded.text).events.1 = .ok built ∧
        record ∈ (Placeholder.restore encoded.records built).unapplied := by
  unfold restoredTrees
  have hquiet (record : Record) : .unapplied record ∉ (language.trees encoded.text).events.2 :=
    fun h => List.not_mem_nil (language.trees_quiet encoded.text [] record h)
  refine ((Reports.logAll _).bind fun _ => ?_).congr fun record => or_iff_right (hquiet record)
  split
  · next cause htrees => exact (Reports.pure _).congr fun record => by simp [htrees]
  · next built htrees =>
      refine ((Reports.logAll _).bind_quiet fun _ => Reports.pure _).congr fun record => ?_
      simp [htrees]

theorem ordinary_reports (language : Language) (body : List Char) :
    Reports (ordinary language body) (Unplaced language body) := by
  rw [ordinary_eq]
  cases hencode : Placeholder.encode body with
  | error fault =>
      refine (noteUnclosed_reports body).quiet_bind fun _ => ?_
      intro log value h
      cases h
  | ok encoded =>
      refine (noteUnclosed_reports body).quiet_bind fun _ => ?_
      refine ((noteEncoded_reports encoded).quiet_bind fun _ =>
        restoredTrees_reports language encoded).congr fun record => ?_
      have hfresh {built : List Statement} (hbuilt : (language.trees encoded.text).events.1 =
        .ok built) :
          ∀ statement ∈ built, Placeholder.Fresh statement := fun statement hmem =>
        (Language.trees_built hbuilt statement hmem).fresh
      constructor
      · rintro ⟨built, hbuilt, hrecord⟩
        obtain ⟨position, hposition, hplaces⟩ :=
          (Placeholder.mem_unapplied (Placeholder.encode_shaped hencode) (hfresh hbuilt) record).1
            hrecord
        exact ⟨encoded, built, position, hencode, hbuilt, hposition, hplaces⟩
      · rintro ⟨other, built, position, hother, hbuilt, hposition, hplaces⟩
        obtain rfl := Except.ok.inj (hencode.symm.trans hother)
        exact ⟨built, hbuilt, (Placeholder.mem_unapplied (Placeholder.encode_shaped hencode)
          (hfresh hbuilt) record).2 ⟨position, hposition, hplaces⟩⟩

/-! ## Texts -/

theorem grant_reports {ε : Type} (text : List Char) :
    Reports (grant text : Logged ε Statement) fun _ => False := by
  unfold grant
  dsimp only
  split
  · refine (Reports.log ?_).quiet_bind fun _ => Reports.pure _
    intro record h
    cases h
  · exact Reports.pure _

theorem afterComments_reports (language : Language) (alone : Bool) (statement : List Char)
    (comments : List Statement) (body : List Char) :
    Reports (afterComments language alone statement comments body) fun record =>
      Grant.isGrant body = false ∧ Unplaced language body record := by
  unfold afterComments
  split
  · next hgrant =>
      refine ((grant_reports body).bind_quiet fun _ => Reports.pure _).congr fun record => ?_
      simp [hgrant]
  · next hgrant =>
      refine ((ordinary_reports language body).bind_quiet fun result => ?_).congr
        fun record => by simp [hgrant]
      cases result with
      | ok statements => exact Reports.pure _
      | error cause => exact Reports.throw _ _

theorem piece_reports (language : Language) (alone : Bool) (statement : List Char) :
    Reports (piece language alone statement) fun record =>
      ∃ body ∈ body? statement, Unplaced language body record := by
  unfold piece body? onlyComments
  dsimp only
  split
  · next comment hcomment =>
      split
      · next hempty => exact (Reports.pure _).congr fun record => by simp [hcomment, hempty]
      · next hempty =>
          refine (afterComments_reports language alone statement _ _).congr fun record => ?_
          cases Grant.isGrant (splitComments statement).2 <;> simp [hempty]
  · next hcomment =>
      refine (afterComments_reports language alone statement _ _).congr fun record => ?_
      cases Grant.isGrant (splitComments statement).2 <;> simp [hcomment]

theorem parse_reports (language : Language) (text : List Char) :
    Reports (parse language text) fun record =>
      ∃ body ∈ bodies text, Unplaced language body record := by
  unfold parse bodies ofPieces
  dsimp only
  split
  · refine (Reports.log ?_).quiet_bind fun _ => ((Reports.mapM (piece_reports language false)
      _).bind_quiet fun _ => Reports.pure _).congr fun record => ?_
    · intro record h
      cases h
    · simp only [List.mem_filterMap]
      constructor
      · rintro ⟨piece, hpiece, body, hbody, hunplaced⟩
        exact ⟨body, ⟨piece, hpiece, hbody⟩, hunplaced⟩
      · rintro ⟨body, ⟨piece, hpiece, hbody⟩, hunplaced⟩
        exact ⟨piece, hpiece, body, hbody, hunplaced⟩
  · split
    · next hempty => exact (Reports.pure _).congr fun record => by simp [hempty]
    · next hempty =>
        split
        · next hgrant =>
            refine ((grant_reports _).bind_quiet fun _ => Reports.pure _).congr fun record => ?_
            simp [hgrant]
        · next hgrant =>
            refine ((piece_reports language true _).bind_quiet fun _ =>
              Reports.pure _).congr fun record => ?_
            simp [hempty, hgrant]

end Document

/-- The records that a log reports. -/
def reported (events : List Event) : List Record :=
  events.filterMap fun
    | .unapplied record => some record
    | _ => none

theorem mem_reported {events : List Event} {record : Record} :
    record ∈ reported events ↔ .unapplied record ∈ events := by
  simp only [reported, List.mem_filterMap]
  constructor
  · rintro ⟨event, hevent, h⟩
    cases event <;> simp_all
  · intro h
    exact ⟨_, h, rfl⟩

/-- Every record of a statement has a place in one of the trees of its encoded text. -/
def Document.Placed (language : Language) (body : List Char) : Prop :=
  ∀ encoded built position record, Placeholder.encode body = .ok encoded →
    (language.trees encoded.text).events.1 = .ok built → encoded.records[position]? = some record →
    ∃ statement ∈ built, Placeholder.Place encoded.records statement position record

theorem Document.placed_iff (language : Language) (body : List Char) :
    Placed language body ↔ ∀ record, ¬ Unplaced language body record := by
  constructor
  · rintro hplaced record ⟨encoded, built, position, hencoded, hbuilt, hrecord, hplaces⟩
    obtain ⟨statement, hmem, hplace⟩ :=
      hplaced encoded built position record hencoded hbuilt hrecord
    exact hplaces statement hmem hplace
  · intro hnone encoded built position record hencoded hbuilt hrecord
    by_contra hplaces
    refine hnone record ⟨encoded, built, position, hencoded, hbuilt, hrecord, ?_⟩
    exact fun statement hmem hplace => hplaces ⟨statement, hmem, hplace⟩

/-- Parsing reports a record exactly when it is a record of a statement of the text and no tree of
the encoded statement holds a place for it; so nothing is reported exactly when every record of
every statement has a place. -/
theorem reported_iff_unplaced {language : Language} {text : List Char} {document : Document}
    (h : (Document.parse language text).events.1 = .ok document) :
    (∀ record, record ∈ reported (Document.parse language text).events.2 ↔
      ∃ body ∈ Document.bodies text, Document.Unplaced language body record) ∧
    (reported (Document.parse language text).events.2 = [] ↔
      ∀ body ∈ Document.bodies text, Document.Placed language body) := by
  have hrecord (record : Record) : record ∈ reported (Document.parse language text).events.2 ↔
      ∃ body ∈ Document.bodies text, Document.Unplaced language body record := by
    rw [mem_reported]
    exact (Document.parse_reports language text [] document h record).trans
      (or_iff_right List.not_mem_nil)
  refine ⟨hrecord, ?_⟩
  simp only [List.eq_nil_iff_forall_not_mem, hrecord, Document.placed_iff, not_exists, not_and]
  exact forall_comm.trans (forall_congr' fun body => forall_comm)

theorem exists_ok {ε α : Type} {result : Except ε α} (h : result.isOk = true) :
    ∃ value, result = .ok value := by
  cases result with
  | error cause => cases h
  | ok value => exact ⟨value, rfl⟩

/-- A statement with placeholders of three kinds, all of which are found again. -/
theorem reported_iff_unplaced_select :
    let text := "select f(a::b)[0] group by all".toList
    (∃ document, (Document.parse {} text).events.1 = .ok document) ∧
      reported (Document.parse {} text).events.2 = [] ∧
      ∀ body ∈ Document.bodies text, Document.Placed {} body := by
  intro text
  obtain ⟨hok, hreported⟩ : (Document.parse {} text).events.1.isOk = true ∧
      reported (Document.parse {} text).events.2 = [] := by decide +kernel
  obtain ⟨document, hdocument⟩ := exists_ok hok
  exact ⟨⟨document, hdocument⟩, hreported, (reported_iff_unplaced hdocument).2.1 hreported⟩

/-- The custom type of a column of a transient table is not found again: such a table has no
node. -/
theorem reported_transient_table :
    let text := "create transient table t (a array)".toList
    (Document.parse {} text).events.1.isOk = true ∧
      reported (Document.parse {} text).events.2 =
        [.customType { column := "a", standIn := "VARCHAR", keyword := "ARRAY" }] := by
  decide +kernel

end SqlLayout
