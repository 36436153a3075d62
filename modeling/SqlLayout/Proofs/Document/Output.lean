import SqlLayout.Format
import SqlLayout.Proofs.Document.Pieces
import SqlLayout.Proofs.Layout.Statements
import SqlLayout.Proofs.Source.Split
import SqlLayout.Proofs.Text.Strip

/-!
# The output of a text

The output depends on the statements of a text and not on the blanks around it.  Whether the output
of a text without markers has one depends on the trees of its statements alone: it has one exactly
when the printer takes a text with a marker from a restored tree or from a grant.
-/

namespace SqlLayout

open SqlLayout.Tree (Statement)
open SqlLayout.Layout (HasMarker statementTexts)

/-! ## Blanks around a text -/

theorem Document.parse_strip (language : Language) (text : List Char) :
    statements <$> parse language (Text.strip text) = statements <$> parse language text := by
  unfold parse
  simp only [Text.strip_strip]
  split
  · simp only [map_bind, map_pure]
  · split
    · rfl
    · split
      · simp only [map_bind, map_pure]
      · simp only [map_bind, map_pure]

/-- Blanks around a text do not matter, so the line feed at the end of an output does not either. -/
theorem format_stripBlanks (settings : Settings) (text : String) :
    format settings text.stripBlanks = format settings text := by
  have hformat (language : Language) (text : String) : formatIn language settings text =
      Document.statements <$> Document.parse language text.toList >>= printStatements settings := by
    rw [bind_map_left]
    rfl
  unfold format
  simp only [hformat, String.stripBlanks, String.toList_ofList, Document.parse_strip]

/-- Two signs in a row begin a comment, so formatting the output again loses what follows them. -/
theorem format_twice_minus :
    (format {} "select - -1").events.1.toOption = some "SELECT --1\n;\n" ∧
      (format {} "SELECT --1\n;\n").events.1.toOption = some "SELECT\n;\n" := by
  decide +kernel

/-! ## Successful formatting -/

theorem ok_of_toOption {ε α : Type} {result : Except ε α} {value : α}
    (h : result.toOption = some value) :
    result = .ok value := by
  cases result with
  | error cause => cases h
  | ok found => exact congrArg _ (Option.some.inj h)

theorem printStatements_gives (settings : Settings) (statements : List Statement) :
    Logged.Gives (printStatements settings statements) fun out =>
      out = Layout.printStatements settings.tabWidth statements := by
  unfold printStatements
  split
  · intro log out h
    cases h
  · next text htext =>
      refine (Logged.Gives.trivial _).bind fun _ _ => Logged.Gives.pure ?_
      unfold Layout.print at htext
      split at htext
      · cases htext
      · exact (Except.ok.inj htext).symm

theorem ofExcept_ok_bind {ε α β : Type} (value : α) (next : α → Logged ε β) :
    Logged.ofExcept (.ok value) >>= next = next value := rfl

theorem format_eq {settings : Settings} {language : Language}
    (h : Language.named settings.dialect = .ok language) (text : String) :
    format settings text = formatIn language settings text := by
  rw [format, h]
  exact ofExcept_ok_bind language fun language => formatIn language settings text

theorem format_ok {settings : Settings} {text out : String}
    (h : (format settings text).events.1 = .ok out) :
    ∃ language document, Language.named settings.dialect = .ok language ∧
      (Document.parse language text.toList).events.1 = .ok document ∧
      out = Layout.printStatements settings.tabWidth document.statements := by
  cases hlanguage : Language.named settings.dialect with
  | error cause =>
      rw [format, hlanguage] at h
      cases h
  | ok language =>
      rw [format_eq hlanguage, Logged.events, formatIn, Logged.run_bind] at h
      cases hparse : (Document.parse language text.toList).run [] with
      | mk result log =>
          rw [hparse] at h
          cases result with
          | error cause => cases h
          | ok document =>
              refine ⟨language, document, rfl, congrArg Prod.fst hparse, ?_⟩
              exact printStatements_gives settings document.statements log out h

/-! ## Markers in comments -/

namespace Document

theorem splitComments_isInfix {statement comment : List Char}
    (h : (splitComments statement).1 = some comment) : comment <:+: statement := by
  unfold splitComments at h
  split at h
  · obtain rfl := Option.some.inj h
    exact (Text.strip_isInfix _).trans (List.IsPrefix.isInfix (List.take_prefix _ _))
  · cases h

theorem comment_isInfix {statement comment : List Char} (h : comment? statement = some comment) :
    comment <:+: statement := by
  obtain ⟨lines, hlines, hcomment⟩ := Option.map_eq_some_iff.1 h
  have hinside := splitComments_isInfix hlines
  split at hcomment
  · subst hcomment
    exact ((Text.dropEndWhile_isPrefix _ _).trans (Text.dropEndWhile_isPrefix _ _)).isInfix.trans
      hinside
  · exact hcomment ▸ hinside

theorem hasMarker_of_piece {text piece : List Char} (hpiece : piece ∈ Source.statements text)
    (h : HasMarker piece) : HasMarker text := by
  obtain ⟨part, hpart, hsome⟩ := List.mem_filterMap.1 hpiece
  dsimp only at hsome
  split at hsome
  · cases hsome
  · obtain rfl := Option.some.inj hsome
    rw [Layout.hasMarker_gap (by decide), or_iff_left Layout.not_hasMarker_nil,
      Layout.hasMarker_strip] at h
    exact Layout.hasMarker_of_isInfix ((Source.pieces_splitOutside text).isInfix hpart) h

/-- The comments of a text are parts of it. -/
theorem hasMarker_of_comment {text comment : List Char} (hcomment : comment ∈ comments text)
    (h : HasMarker comment) : HasMarker text := by
  rw [← Layout.hasMarker_strip]
  unfold comments ofPieces at hcomment
  dsimp only at hcomment
  split at hcomment
  · obtain ⟨piece, hpiece, hsome⟩ := List.mem_filterMap.1 hcomment
    exact hasMarker_of_piece hpiece (Layout.hasMarker_of_isInfix (comment_isInfix hsome) h)
  · split at hcomment
    · cases hcomment
    · exact Layout.hasMarker_of_isInfix (comment_isInfix (Option.mem_toList.1 hcomment)) h

end Document

/-! ## Markers in the output -/

/-- Whether the printer takes a text with a marker from a statement. -/
def PrintsMarker (statement : Statement) : Prop :=
  ∃ text ∈ statementTexts statement, HasMarker text.toList

instance (statement : Statement) : Decidable (PrintsMarker statement) :=
  inferInstanceAs (Decidable (∃ text ∈ statementTexts statement, HasMarker text.toList))

/-- The output of a text without markers has one exactly when a restored tree of one of its
statements, or one of its grants, prints a text with one. -/
theorem hasMarker_format_iff {settings : Settings} {text out : String}
    (hclean : ¬ HasMarker text.toList) (h : (format settings text).events.1 = .ok out) :
    ∃ language, Language.named settings.dialect = .ok language ∧
      (HasMarker out.toList ↔
        (∃ body ∈ Document.bodies text.toList, ∃ statement, Document.Reads language body statement ∧
          PrintsMarker statement) ∨
        ∃ grant ∈ Document.grants text.toList, PrintsMarker (.grant (Grant.parse grant))) := by
  obtain ⟨language, document, hlanguage, hdocument, rfl⟩ := format_ok h
  refine ⟨language, hlanguage, ?_⟩
  rw [Layout.hasMarker_printStatements]
  constructor
  · rintro ⟨statement, hstatement, hprints⟩
    rcases (Document.mem_statements hdocument statement).1 hstatement with
      ⟨comment, hcomment, rfl⟩ | ⟨grant, hgrant, rfl⟩ | ⟨body, hbody, hreads⟩
    · obtain ⟨found, hfound, hmarker⟩ := hprints
      obtain rfl := List.mem_singleton.1 hfound
      rw [String.toList_ofList] at hmarker
      exact absurd (Document.hasMarker_of_comment hcomment hmarker) hclean
    · exact .inr ⟨grant, hgrant, hprints⟩
    · exact .inl ⟨body, hbody, statement, hreads, hprints⟩
  · rintro (⟨body, hbody, statement, hreads, hprints⟩ | ⟨grant, hgrant, hprints⟩)
    · exact ⟨statement, (Document.mem_statements hdocument statement).2
        (.inr (.inr ⟨body, hbody, hreads⟩)), hprints⟩
    · exact ⟨_, (Document.mem_statements hdocument _).2 (.inr (.inl ⟨grant, hgrant, rfl⟩)), hprints⟩

/-- A statement with placeholders of three kinds: none of them is left in its trees. -/
theorem hasMarker_format_iff_select :
    let text := "select f(a::b)[0] group by all"
    let out := "SELECT F(a::B)[0]\nGROUP BY ALL\n;\n"
    ¬ HasMarker text.toList ∧ (format {} text).events.1 = .ok out ∧ ¬ HasMarker out.toList ∧
      ¬ ((∃ body ∈ Document.bodies text.toList, ∃ statement, Document.Reads {} body statement ∧
          PrintsMarker statement) ∨
        ∃ grant ∈ Document.grants text.toList, PrintsMarker (.grant (Grant.parse grant))) := by
  intro text out
  have htext : ¬ HasMarker text.toList := by decide
  have hout : ¬ HasMarker out.toList := by decide
  have hformat : (format {} text).events.1 = .ok out := ok_of_toOption (by decide +kernel)
  obtain ⟨language, hlanguage, hiff⟩ := hasMarker_format_iff htext hformat
  obtain rfl : ({} : Language) = language := Except.ok.inj hlanguage
  exact ⟨htext, hformat, hout, fun hleft => hout (hiff.2 hleft)⟩

/-- A grouping by all columns and one more key keeps its placeholder. -/
theorem hasMarker_grouped_by_more :
    let text := "select a from t group by all, b"
    let out := "SELECT a\nFROM t\nGROUP BY __group_by_all_0__, b\n;\n"
    ¬ HasMarker text.toList ∧ (format {} text).events.1.toOption = some out ∧
      HasMarker out.toList := by
  decide +kernel

end SqlLayout
