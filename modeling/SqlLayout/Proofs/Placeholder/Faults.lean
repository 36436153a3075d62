import SqlLayout.Proofs.Placeholder.Casts
import SqlLayout.Proofs.Placeholder.TypeWords
import SqlLayout.Proofs.Placeholder.Undisturbed

/-!
# Statements that cannot be encoded

A keyword is found whatever the case of its letters, and then looked up in upper case.  The two
agree on every character that reads as a letter of a keyword, except for the capital I with a dot:
it reads as an I and is its own upper-case form.  So a statement fails to be encoded exactly when a
keyword that is looked up is spelled with this letter.

## Implementation notes

Two steps look keywords up, and the first of them that fails decides.  All other steps always
succeed, so what is said of a step is said of the text that reaches it.
-/

namespace SqlLayout.Placeholder

open Pattern (Match Spells)
open Source (mask)

/-! ## Keywords in upper case -/

/-- The words that are looked up in upper case once they are found. -/
def lookedUp : List String :=
  "TABLE" :: "VIEW" :: typeKeywords

/-- A word in a spelling with the dotted capital I. -/
def SpellsDotted (letters : String) (word : List Char) : Prop :=
  Spells letters word ∧ 'İ' ∈ word

instance (letters : String) (word : List Char) : Decidable (SpellsDotted letters word) :=
  inferInstanceAs (Decidable (_ ∧ _))

/-- The letters of words that are looked up: capitals and the underscore.  There is no K among them,
as which the Kelvin sign would be read. -/
def keywordLetters : List Char :=
  "ABCDEFGHIJLMNOPQRSTUVWXYZ_".toList

theorem mem_keywordLetters {keyword : String} (hmem : keyword ∈ lookedUp) :
    ∀ letter ∈ keyword.toList, letter ∈ keywordLetters := by
  have hall : (lookedUp.all fun keyword => keyword.toList.all keywordLetters.contains) = true := by
    decide
  exact fun letter hletter => by
    simpa using List.all_eq_true.1 (List.all_eq_true.1 hall keyword hmem) letter hletter

/-- The codes of the characters that can read as a letter: those from A to z, and four beyond. -/
def letterCodes : List Nat :=
  List.range' 65 58 ++ [0x130, 0x131, 0x17f, 0x212a]

/-- In upper case, every character that reads as a letter of a keyword is this letter, or else the
dotted capital I. -/
theorem upper_letters : (keywordLetters.all fun letter => letterCodes.all fun code =>
    !Text.sameLetter letter (Char.ofNat code) || code == 0x130 ||
      Text.upperChar (Char.ofNat code) == [letter]) = true := by
  decide

theorem code_of_letter {letter c : Char} (hletter : letter ∈ keywordLetters)
    (h : Text.sameLetter letter c = true) :
    c.toNat ∈ letterCodes := by
  have hplain : (keywordLetters.all fun letter => letter == '_' || Text.isAsciiLetter letter) =
      true := by
    decide
  obtain hmark | hletter := Bool.or_eq_true_iff.1 (List.all_eq_true.1 hplain letter hletter)
  · obtain rfl := eq_of_beq hmark
    rw [Text.eq_of_sameLetter_underscore h]
    decide
  · have hcode := Text.code_of_sameLetter hletter h
    simp only [letterCodes, List.mem_append, List.mem_range'_1, List.mem_cons, List.not_mem_nil,
      or_false]
    omega

theorem upperChar_of_sameLetter {letter c : Char} (hletter : letter ∈ keywordLetters)
    (h : Text.sameLetter letter c = true) (hc : c ≠ 'İ') : Text.upperChar c = [letter] := by
  have hall := List.all_eq_true.1 (List.all_eq_true.1 upper_letters letter hletter) c.toNat
    (code_of_letter hletter h)
  have hdotted : c.toNat ≠ 0x130 := fun heq => hc (Char.toNat_inj.1 heq)
  rw [Char.ofNat_toNat] at hall
  simpa [h, hdotted] using hall

/-- A keyword that is spelled without the dotted capital I is itself in upper case. -/
theorem upper_of_spells {keyword : String} (hmem : keyword ∈ lookedUp) {word : List Char}
    (h : Spells keyword word) (hdotted : 'İ' ∉ word) : Text.upper word = keyword.toList := by
  have hletters := mem_keywordLetters hmem
  unfold Spells at h
  -- the induction is on the letters, so all that is left of the keyword is that they are letters of
  -- keywords
  generalize keyword.toList = letters at h hletters
  induction h with
  | nil => rfl
  | @cons letter c letters word hsame _ ih =>
      obtain ⟨hletter, hletters⟩ := List.forall_mem_cons.1 hletters
      rw [List.mem_cons, not_or] at hdotted
      rw [Text.upper, List.flatMap_cons, upperChar_of_sameLetter hletter hsame (Ne.symm hdotted.1)]
      exact congrArg (letter :: ·) (ih hdotted.2 hletters)

/-- A text with the dotted capital I is no keyword in upper case. -/
theorem upper_ne_of_dotted {keyword : String} (hmem : keyword ∈ lookedUp) {word : List Char}
    (h : 'İ' ∈ word) :
    Text.upper word ≠ keyword.toList := by
  intro heq
  have hplain : (lookedUp.all fun keyword => !keyword.toList.contains 'İ') = true := by decide
  have hupper : 'İ' ∈ Text.upper word := List.mem_flatMap.2 ⟨'İ', h, by decide⟩
  have hnot := List.all_eq_true.1 hplain keyword hmem
  rw [heq] at hupper
  simp [hupper] at hnot

/-- A table has no I in its keyword. -/
theorem not_dotted_table {word : List Char} (h : Spells "TABLE" word) : 'İ' ∉ word := by
  have hletters : ("TABLE".toList.all fun letter => !Text.sameLetter letter 'İ') = true := by decide
  have hplain : ∀ c ∈ word, c ≠ 'İ' :=
    Text.forall_mem_of_letters h fun letter hletter c hsame heq => by
    have hnot := List.all_eq_true.1 hletters letter hletter
    rw [← heq, hsame] at hnot
    cases hnot
  exact fun hdotted => hplain 'İ' hdotted rfl

theorem replacedKind_upper {keyword : String} (hmem : keyword ∈ ["TABLE", "VIEW"])
    {word : List Char} (h : Spells keyword word) : replacedKind? (Text.upper word) = none ↔
    SpellsDotted "VIEW" word := by
  have hlooked : keyword ∈ lookedUp := List.mem_append_left typeKeywords hmem
  constructor
  · intro hnone
    have hdotted : 'İ' ∈ word := by
      by_contra hplain
      have hkinds : ∀ keyword ∈ ["TABLE", "VIEW"], replacedKind? keyword.toList ≠ none := by decide
      rw [upper_of_spells hlooked h hplain] at hnone
      exact hkinds keyword hmem hnone
    obtain rfl | hmem := List.mem_cons.1 hmem
    · exact absurd hdotted (not_dotted_table h)
    · obtain rfl := List.mem_singleton.1 hmem
      exact ⟨h, hdotted⟩
  · rintro ⟨-, hdotted⟩
    have hne (keyword : String) (hmem : keyword ∈ lookedUp) :
        ¬ (Text.upper word == keyword.toList) = true :=
      fun heq => upper_ne_of_dotted hmem hdotted (eq_of_beq heq)
    rw [replacedKind?, if_neg (hne _ (by decide)), if_neg (hne _ (by decide))]

theorem lookup_upper {keyword : String} (hmem : keyword ∈ typeKeywords) {word : List Char}
    (h : Spells keyword word) :
    standIns.lookup (String.ofList (Text.upper word)) = none ↔ 'İ' ∈ word := by
  have hlooked (keyword : String) (hmem : keyword ∈ typeKeywords) : keyword ∈ lookedUp :=
    List.mem_append_right ["TABLE", "VIEW"] hmem
  constructor
  · intro hnone
    by_contra hplain
    rw [upper_of_spells (hlooked keyword hmem) h hplain, String.ofList_toList] at hnone
    obtain ⟨entry, hentry, rfl⟩ := List.mem_map.1 hmem
    simpa using List.lookup_eq_none_iff.1 hnone entry hentry
  · intro hdotted
    refine List.lookup_eq_none_iff.2 fun entry hentry => bne_iff_ne.2 fun heq => ?_
    refine upper_ne_of_dotted (hlooked entry.1 (List.mem_map_of_mem hentry)) hdotted ?_
    rw [← heq, String.toList_ofList]

/-! ## The words that are found -/

theorem exists_spells {text : List Char} {p : Pattern} {m : Match} (h : m.Of p text) {group : Nat}
    (hcaptures : p.alwaysCaptures group = true) {words : List String} (hwords : words ≠ [])
    (hgroup : ∀ a, (group, a) ∈ p.groups → a = .any (words.map .word)) :
    ∃ letters ∈ words, Spells letters (m.group text group) := by
  obtain ⟨⟨s, t⟩, hspan⟩ := Option.isSome_iff_exists.1 (h.reads.isSome_of_captures hcaptures)
  obtain ⟨a, before, after, hmem, hread, -⟩ := h.span hspan
  rw [hgroup a hmem] at hread
  obtain ⟨-, part, htakes, letters, hletters, hspells⟩ := (reads_oneOf words hwords).1 hread
  have hgroup : m.group text group = part := by
    rw [Match.group, Match.span?, hspan]
    exact htakes.slice_eq
  exact ⟨letters, hletters, hgroup ▸ hspells⟩

section

variable {text : List Char} {m : Match}

theorem spells_kind (hm : m ∈ createOrReplace.findOutside text) :
    ∃ letters ∈ ["TABLE", "VIEW"], Spells letters (m.group text 1) := by
  have hof := ((Pattern.inOrder_findAll createOrReplace (mask text)).each m hm).1
  rw [group_shown hof (by cbv) 1 (by cbv)]
  refine exists_spells hof (by cbv) (by decide) fun a ha => ?_
  have hgroups : createOrReplace.groups = [(1, .any (["TABLE", "VIEW"].map .word))] := rfl
  rw [hgroups] at ha
  exact (Prod.mk.inj (List.mem_singleton.1 ha)).2

theorem spells_type (hm : m ∈ customTypeColumn.findOutside text) :
    ∃ letters ∈ typeKeywords, Spells letters (m.group text 2) := by
  have hof := ((Pattern.inOrder_findAll customTypeColumn (mask text)).each m hm).1
  rw [group_shown hof standsOutside_customTypeColumn 2 (solidGroup_customTypeColumn 2)]
  refine exists_spells hof (by cbv) (by decide) fun a ha => ?_
  have hgroups : customTypeColumn.groups =
      [(1, .name), (2, .any (typeKeywords.map .word)), (3, .digits), (4, .digits)] := rfl
  rw [hgroups] at ha
  simpa using ha

end

/-! ## The steps that can fail -/

/-- A text whose first replacing table or view has its keyword spelled with the dotted capital I. -/
def DottedKind (text : List Char) : Prop :=
  ∃ m, (createOrReplace.findOutside text).head? = some m ∧ SpellsDotted "VIEW" (m.group text 1)

/-- A text that creates a table and has the keyword of a type that is replaced spelled with the
dotted capital I. -/
def DottedType (text : List Char) : Prop :=
  (createTableHead.matchStart (mask text)).isSome = true ∧
    ∃ m ∈ customTypeColumn.findOutside text, ∃ keyword ∈ typeKeywords,
      SpellsDotted keyword (m.group text 2)

section

variable {text : List Char} {fault : Fault}

theorem encodeReplaceMarker_error_iff : encodeReplaceMarker text = .error fault ↔
    ∃ m, (createOrReplace.findOutside text).head? = some m ∧ SpellsDotted "VIEW" (m.group text 1) ∧
      fault = .unknownObjectKind (String.ofList (Text.upper (m.group text 1))) := by
  rw [encodeReplaceMarker]
  cases hfound : createOrReplace.findOutside text with
  | nil => simp
  | cons m rest =>
      obtain ⟨letters, hletters, hspells⟩ := spells_kind (hfound ▸ List.mem_cons_self : m ∈ _)
      have hdotted := replacedKind_upper hletters hspells
      simp only [List.head?_cons, Option.some.injEq, exists_eq_left', ← hdotted]
      cases replacedKind? (Text.upper (m.group text 1)) with
      | none => simp [eq_comm]
      | some kind => simp

theorem readCustomType_error_iff {m : Match} (hm : m ∈ customTypeColumn.findOutside text) :
    readCustomType text m = .error fault ↔
      (∃ keyword ∈ typeKeywords, SpellsDotted keyword (m.group text 2)) ∧
        fault = .unknownTypeKeyword (String.ofList (Text.upper (m.group text 2))) := by
  obtain ⟨letters, hletters, hspells⟩ := spells_type hm
  have hdotted : (∃ keyword ∈ typeKeywords, SpellsDotted keyword (m.group text 2)) ↔
      standIns.lookup (String.ofList (Text.upper (m.group text 2))) = none := by
    rw [lookup_upper hletters hspells]
    exact ⟨fun ⟨_, _, _, hmem⟩ => hmem, fun hmem => ⟨letters, hletters, hspells, hmem⟩⟩
  rw [hdotted, readCustomType]
  cases standIns.lookup (String.ofList (Text.upper (m.group text 2))) with
  | none => simp [eq_comm]
  | some standIn => simp

end

section

variable {ε α β : Type} {f : α → Except ε β} {xs : List α}

/-- An action on all elements of a list fails as it does on one of them. -/
theorem error_of_mapM {e : ε} (h : xs.mapM f = .error e) : ∃ x ∈ xs, f x = .error e := by
  induction xs with
  | nil => cases h
  | cons x xs ih =>
      rw [List.mapM_cons] at h
      cases hx : f x with
      | error e' =>
          simp only [hx, bind, Except.bind, Except.error.injEq] at h
          exact ⟨x, List.mem_cons_self, h ▸ hx⟩
      | ok y =>
          cases hrest : xs.mapM f with
          | error e' =>
              simp only [hx, hrest, bind, Except.bind, Except.error.injEq] at h
              obtain ⟨other, hother, hfails⟩ := ih (h ▸ hrest)
              exact ⟨other, List.mem_cons_of_mem x hother, hfails⟩
          | ok ys => simp [hx, hrest, bind, Except.bind, pure, Except.pure] at h

/-- An action that fails on one element of a list fails on the list. -/
theorem mapM_error {x : α} (hx : x ∈ xs) {e : ε} (h : f x = .error e) :
    ∃ e', xs.mapM f = .error e' := by
  induction xs with
  | nil => cases hx
  | cons first xs ih =>
      rw [List.mapM_cons]
      cases hfirst : f first with
      | error e' => exact ⟨e', rfl⟩
      | ok y =>
          have hmem : x ∈ xs := (List.mem_cons.1 hx).resolve_left fun heq => by
            rw [← heq, h] at hfirst
            cases hfirst
          obtain ⟨e', hrest⟩ := ih hmem
          exact ⟨e', by rw [hrest]; rfl⟩

end

section

variable {text : List Char} {fault : Fault}

theorem encodeCustomTypes_error_iff : encodeCustomTypes text = .error fault ↔
    (createTableHead.matchStart (mask text)).isSome = true ∧
      (customTypeColumn.findOutside text).mapM (readCustomType text) = .error fault := by
  rw [encodeCustomTypes]
  cases createTableHead.matchStart (mask text) with
  | none => simp [pure, Except.pure]
  | some head =>
      cases hrecords : (customTypeColumn.findOutside text).mapM (readCustomType text) with
      | error fault => simp [hrecords, bind, Except.bind]
      | ok records => simp [hrecords, bind, Except.bind, pure, Except.pure]

/-- The step over column types fails with a keyword that is not listed, and for no other reason. -/
theorem exists_keyword_of_encodeCustomTypes (h : encodeCustomTypes text = .error fault) :
    DottedType text ∧ ∃ keyword, fault = .unknownTypeKeyword keyword := by
  obtain ⟨hhead, hrecords⟩ := encodeCustomTypes_error_iff.1 h
  obtain ⟨m, hm, hfails⟩ := error_of_mapM hrecords
  obtain ⟨hdotted, hfault⟩ := (readCustomType_error_iff hm).1 hfails
  exact ⟨⟨hhead, m, hm, hdotted⟩, _, hfault⟩

theorem encodeCustomTypes_of_dotted (h : DottedType text) :
    ∃ keyword, encodeCustomTypes text = .error (.unknownTypeKeyword keyword) := by
  obtain ⟨hhead, m, hm, hdotted⟩ := h
  obtain ⟨fault, hrecords⟩ := mapM_error hm ((readCustomType_error_iff hm).2 ⟨hdotted, rfl⟩)
  have hfails := encodeCustomTypes_error_iff.2 ⟨hhead, hrecords⟩
  obtain ⟨-, keyword, rfl⟩ := exists_keyword_of_encodeCustomTypes hfails
  exact ⟨keyword, hfails⟩

/-! ## All steps -/

theorem apply_error_iff {stage : Stage} : stage.apply text = .error fault ↔
    stage = .replaceMarker ∧ encodeReplaceMarker text = .error fault ∨
      stage = .customTypes ∧ encodeCustomTypes text = .error fault := by
  cases stage <;> simp [Stage.apply]

/-- Steps fail as the first of them that does. -/
theorem runStages_error_iff {list : List Stage} : runStages list text = .error fault ↔
    ∃ front stage back before, list = front ++ stage :: back ∧ runStages front text = .ok before ∧
      stage.apply before.text = .error fault := by
  constructor
  · intro h
    induction list generalizing text with
    | nil => cases h
    | cons stage rest ih =>
        rw [runStages] at h
        cases hfirst : stage.apply text with
        | error other =>
            simp only [hfirst, bind, Except.bind, Except.error.injEq] at h
            exact ⟨[], stage, rest, { text := text }, rfl, rfl, h ▸ hfirst⟩
        | ok first =>
            cases hrest : runStages rest first.text with
            | error other =>
                simp only [hfirst, hrest, bind, Except.bind, Except.error.injEq] at h
                obtain ⟨front, failing, back, before, rfl, hbefore, hfails⟩ := ih (h ▸ hrest)
                refine ⟨stage :: front, failing, back,
                  { before with records := first.records ++ before.records }, rfl, ?_, hfails⟩
                rw [runStages, hfirst]
                simp [hbefore, bind, Except.bind, pure, Except.pure]
            | ok later => simp [hfirst, hrest, bind, Except.bind, pure, Except.pure] at h
  · rintro ⟨front, stage, back, before, rfl, hbefore, hfails⟩
    induction front generalizing text before with
    | nil =>
        obtain rfl := Except.ok.inj hbefore
        rw [List.nil_append, runStages, hfails]
        rfl
    | cons first front ih =>
        obtain ⟨own, later, hown, hlater, rfl⟩ := runStages_cons hbefore
        rw [List.cons_append, runStages, hown]
        simp [ih later hlater hfails, bind, Except.bind]

/-- A text that reaches a step: no step before it fails, and they leave this text. -/
def Reaches (stage : Stage) (text current : List Char) : Prop :=
  ∃ before, runStages (stages.takeWhile (· != stage)) text = .ok before ∧ before.text = current

/-- Every step stands behind those that run before it. -/
theorem exists_stages_eq (stage : Stage) :
    ∃ back, stages = stages.takeWhile (· != stage) ++ stage :: back := by
  cases stage <;> exact ⟨_, rfl⟩

/-- The steps before a step are told by the step. -/
theorem takeWhile_stages {front back : List Stage} {stage : Stage}
    (h : stages = front ++ stage :: back) :
    stages.takeWhile (· != stage) = front := by
  have hnodup : (front ++ stage :: back).Nodup := h ▸ (by decide : stages.Nodup)
  have hne : ∀ x ∈ front, (x != stage) = true := fun x hx =>
    bne_iff_ne.2 ((List.nodup_append.1 hnodup).2.2 x hx stage List.mem_cons_self)
  rw [h, List.takeWhile_append_of_pos hne, List.takeWhile_cons_of_neg (by simp), List.append_nil]

theorem encode_error_iff : encode text = .error fault ↔
    ∃ stage current, Reaches stage text current ∧ stage.apply current = .error fault := by
  rw [encode, runStages_error_iff]
  constructor
  · rintro ⟨front, stage, back, before, hstages, hbefore, hfails⟩
    rw [← takeWhile_stages hstages] at hbefore
    exact ⟨stage, before.text, ⟨before, hbefore, rfl⟩, hfails⟩
  · rintro ⟨stage, _, ⟨before, hbefore, rfl⟩, hfails⟩
    obtain ⟨back, hstages⟩ := exists_stages_eq stage
    exact ⟨_, stage, back, before, hstages, hbefore, hfails⟩

theorem unknownObjectKind_iff : (∃ keyword, encode text = .error (.unknownObjectKind keyword)) ↔
    ∃ current, Reaches .replaceMarker text current ∧ DottedKind current := by
  simp only [encode_error_iff, apply_error_iff]
  constructor
  · rintro ⟨keyword, stage, current, hreaches, ⟨rfl, hfails⟩ | ⟨rfl, hfails⟩⟩
    · obtain ⟨m, hm, hdotted, -⟩ := encodeReplaceMarker_error_iff.1 hfails
      exact ⟨current, hreaches, m, hm, hdotted⟩
    · obtain ⟨-, _, ⟨⟩⟩ := exists_keyword_of_encodeCustomTypes hfails
  · rintro ⟨current, hreaches, m, hm, hdotted⟩
    exact ⟨_, .replaceMarker, current, hreaches,
      .inl ⟨rfl, encodeReplaceMarker_error_iff.2 ⟨m, hm, hdotted, rfl⟩⟩⟩

theorem unknownTypeKeyword_iff : (∃ keyword, encode text = .error (.unknownTypeKeyword keyword)) ↔
    ∃ current, Reaches .customTypes text current ∧ DottedType current := by
  simp only [encode_error_iff, apply_error_iff]
  constructor
  · rintro ⟨keyword, stage, current, hreaches, ⟨rfl, hfails⟩ | ⟨rfl, hfails⟩⟩
    · obtain ⟨m, hm, hdotted, ⟨⟩⟩ := encodeReplaceMarker_error_iff.1 hfails
    · exact ⟨current, hreaches, (exists_keyword_of_encodeCustomTypes hfails).1⟩
  · rintro ⟨current, hreaches, hdotted⟩
    obtain ⟨keyword, hfails⟩ := encodeCustomTypes_of_dotted hdotted
    exact ⟨keyword, .customTypes, current, hreaches, .inr ⟨rfl, hfails⟩⟩

/-- No cast with `::` is left in a text that is encoded. -/
theorem none_left_of_encode {encoded : Encoded} (h : encode text = .ok encoded) :
    shorthandCast.findOutside encoded.text = [] := by
  have hsteps : runStages (stages.dropLast ++ [.casts]) text = .ok encoded := h
  obtain ⟨first, later, -, hlater, rfl⟩ := runStages_split hsteps
  obtain ⟨expanded, rest, hexpanded, hrest, rfl⟩ := runStages_cons hlater
  obtain rfl := Except.ok.inj hexpanded
  obtain rfl := Except.ok.inj hrest
  exact (expands_expandCasts (Nat.le_refl _)).none_left

end

/-- A statement is encoded, with all its casts, unless a keyword that is looked up is spelled with
the dotted capital I: that of the first replacing table or view, or else that of a column type. -/
theorem encode_fails_iff_dotted (text : List Char) :
    ((∃ keyword, encode text = .error (.unknownObjectKind keyword)) ↔
        ∃ current, Reaches .replaceMarker text current ∧ DottedKind current) ∧
      ((∃ keyword, encode text = .error (.unknownTypeKeyword keyword)) ↔
        ∃ current, Reaches .customTypes text current ∧ DottedType current) ∧
      ((∃ encoded, encode text = .ok encoded ∧ shorthandCast.findOutside encoded.text = []) ↔
        (¬ ∃ current, Reaches .replaceMarker text current ∧ DottedKind current) ∧
          ¬ ∃ current, Reaches .customTypes text current ∧ DottedType current) := by
  refine ⟨unknownObjectKind_iff, unknownTypeKeyword_iff, ?_⟩
  rw [← unknownObjectKind_iff, ← unknownTypeKeyword_iff]
  cases hencode : encode text with
  | ok encoded => simpa using none_left_of_encode hencode
  | error fault => cases fault <;> simp

/-- The dotted capital I in the keyword of a column type, with nothing wrong in the head of the
table. -/
example :
    (match encode "create or replace table t (a str\u0130ng)".toList with
      | .error (.unknownTypeKeyword keyword) => keyword == "STR\u0130NG"
      | _ => false) = true := by
  decide

end SqlLayout.Placeholder
