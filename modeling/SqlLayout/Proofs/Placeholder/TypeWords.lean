import SqlLayout.Proofs.Pattern.Goes
import SqlLayout.Proofs.Placeholder.Chains
import SqlLayout.Proofs.Text.Letters

/-!
# Words for column types

A column type that is replaced is a word behind another word, which is taken for the name of its
column.  Where no such pair of words stands in a part of a statement, the search for column types
passes over the part.
-/

namespace SqlLayout.Placeholder

open Pattern (Captures Match Reads Spells Takes foundFrom matchAt placeAt)

/-- The words that name no column where column types are looked for. -/
def reservedNames : List String := ["TABLE", "EXISTS", "AS"]

/-- The column types that are replaced. -/
def typeKeywords : List String := standIns.map Prod.fst

/-- Whether a text is one of some words, its letters in either case. -/
def isOneOf (words : List String) (text : List Char) : Bool :=
  words.any fun letters => decide (Spells letters text)

/-- Whether a text starts with a name and a column type that is replaced. -/
def startsTyped (text : List Char) : Bool :=
  let name := text.takeWhile Text.isWord
  let rest := text.dropWhile Text.isWord
  !name.isEmpty && !isOneOf reservedNames name && !(rest.takeWhile Text.isBlank).isEmpty &&
    isOneOf typeKeywords ((rest.dropWhile Text.isBlank).takeWhile Text.isWord)

/-- Whether a column type that is replaced stands behind a name in a text, given the character
before the text. -/
def namesType (before : Option Char) : List Char → Bool
  | [] => false
  | c :: rest => !before.any Text.isWord && startsTyped (c :: rest) || namesType (some c) rest

/-- Whether a text starts with a character that is part of no word and no blank, if it has any. -/
def StartsApart (text : List Char) : Prop :=
  ∀ x ∈ text.head?, Text.isWord x = false ∧ Text.isBlank x = false

/-- Whether no column type that is replaced stands behind a name in a text, whatever stands before
it. -/
def Untyped (text : List Char) : Prop :=
  ∀ before, namesType before text = false

section

variable {text part rest name gap type : List Char} {i j : Nat} {c d : Captures}

theorem isOneOf_iff {words : List String} :
    isOneOf words text = true ↔ ∃ letters ∈ words, Spells letters text := by
  simp [isOneOf]

/-! ## Words -/

/-- A keyword of letters and underscores is a word in every spelling. -/
theorem isWord_of_letters {letters : String}
    (hletters : (!letters.toList.isEmpty && letters.toList.all fun c => Text.isAsciiLetter c ||
      c == '_') = true)
    (h : Spells letters text) : text ≠ [] ∧ ∀ x ∈ text, Text.isWord x = true := by
  obtain ⟨hne, hletters⟩ := Bool.and_eq_true_iff.1 hletters
  refine ⟨?_, Text.forall_mem_of_letters h fun letter hletter x hsame => ?_⟩
  · rintro rfl
    have hnil : letters.toList = [] := List.forall₂_nil_right_iff.1 h
    simp [hnil] at hne
  · obtain hascii | hmark := Bool.or_eq_true_iff.1 (List.all_eq_true.1 hletters letter hletter)
    · exact Text.isWord_of_sameLetter hascii hsame
    · obtain rfl := eq_of_beq hmark
      rw [Text.eq_of_sameLetter_underscore hsame]
      decide

theorem isWord_of_spells {letters : String} (hmem : letters ∈ reservedNames ++ typeKeywords)
    (h : Spells letters text) : text ≠ [] ∧ ∀ x ∈ text, Text.isWord x = true := by
  have hall : ((reservedNames ++ typeKeywords).all fun letters =>
      !letters.toList.isEmpty && letters.toList.all fun c => Text.isAsciiLetter c || c == '_') =
        true := by decide
  exact isWord_of_letters (List.all_eq_true.1 hall letters hmem) h

theorem not_isWord_of_isBlank {x : Char} (h : Text.isBlank x = true) : Text.isWord x = false := by
  refine Bool.eq_false_iff.2 fun hword => ?_
  cases h.symm.trans (not_isBlank_of_isWord hword)

theorem not_isBlank_of_isDigit {x : Char} (h : Text.isDigit x = true) : Text.isBlank x = false :=
  not_isBlank_of_isWord (Text.isWord_of_isDigit h)

theorem span_append {p : Char → Bool} (hpart : ∀ x ∈ part, p x = true)
    (hrest : ∀ y ∈ rest.head?, p y = false) :
    (part ++ rest).takeWhile p = part ∧ (part ++ rest).dropWhile p = rest := by
  rw [List.takeWhile_append_of_pos hpart, List.dropWhile_append_of_pos hpart]
  cases rest with
  | nil => simp
  | cons y rest => simp [hrest y rfl]

theorem span_apart {p : Char → Bool} (part : List Char) (hrest : ∀ y ∈ rest.head?, p y = false) :
    (part ++ rest).takeWhile p = part.takeWhile p ∧
      (part ++ rest).dropWhile p = part.dropWhile p ++ rest := by
  induction part with
  | nil => exact span_append (by simp) hrest
  | cons x part ih =>
      rw [List.cons_append]
      by_cases hx : p x = true
      · simp [hx, ih.1, ih.2]
      · simp [hx]

theorem startsTyped_of_head (h : ∀ x ∈ text.head?, Text.isWord x = false) :
    startsTyped text = false := by
  cases text with
  | nil => rfl
  | cons x rest => simp [startsTyped, h x rfl]

/-- What starts apart from a text does not matter for it. -/
theorem startsTyped_append (part : List Char) (hrest : StartsApart rest) :
    startsTyped (part ++ rest) = startsTyped part := by
  have hword : ∀ y ∈ rest.head?, Text.isWord y = false := fun y hy => (hrest y hy).1
  have hblank : ∀ y ∈ rest.head?, Text.isBlank y = false := fun y hy => (hrest y hy).2
  obtain ⟨hname, hbehind⟩ := span_apart part hword
  obtain ⟨hgap, htype⟩ := span_apart (part.dropWhile Text.isWord) hblank
  rw [startsTyped, startsTyped, hname, hbehind, hgap, htype, (span_apart _ hword).1]

/-- A name with a gap behind it is typed by the word behind the gap. -/
theorem startsTyped_gap (hname : name ≠ []) (hletters : ∀ x ∈ name, Text.isWord x = true)
    (hgap : gap ≠ []) (hblank : ∀ x ∈ gap, Text.isBlank x = true)
    (hrest : ∀ y ∈ rest.head?, Text.isBlank y = false) :
    startsTyped (name ++ (gap ++ rest)) =
      (!isOneOf reservedNames name && isOneOf typeKeywords (rest.takeWhile Text.isWord)) := by
  have hhead : ∀ y ∈ (gap ++ rest).head?, Text.isWord y = false := by
    obtain ⟨x, gap, rfl⟩ := List.exists_cons_of_ne_nil hgap
    rintro y hy
    obtain rfl := Option.some.inj hy
    exact not_isWord_of_isBlank (hblank _ List.mem_cons_self)
  obtain ⟨htake, hdrop⟩ := span_append hletters hhead
  obtain ⟨htake', hdrop'⟩ := span_append hblank hrest
  rw [startsTyped, htake, hdrop, htake', hdrop']
  rw [List.isEmpty_eq_false_iff.2 hname, List.isEmpty_eq_false_iff.2 hgap]
  simp

/-! ## Texts without a type -/

theorem namesType_append (part : List Char) {x : Char}
    (hx : Text.isWord x = false ∧ Text.isBlank x = false) (before : Option Char) :
    namesType before (part ++ x :: rest) = (namesType before part || namesType none rest) := by
  have hapart : StartsApart (x :: rest) := by
    rintro y hy
    obtain rfl := Option.some.inj hy
    exact hx
  induction part generalizing before with
  | nil =>
      have hrest : namesType (some x) rest = namesType none rest := by
        cases rest with
        | nil => rfl
        | cons c rest => simp [namesType, hx.1]
      have hhead : startsTyped (x :: rest) = false :=
        startsTyped_of_head fun y hy => (hapart y hy).1
      simp [namesType, hhead, hrest]
  | cons c part ih =>
      rw [List.cons_append, namesType, ih, ← List.cons_append, startsTyped_append _ hapart,
        namesType, Bool.or_assoc]

theorem untyped_nil : Untyped [] :=
  fun _ => rfl

theorem Untyped.cons {x : Char} (hx : startsTyped (x :: rest) = false) (hrest : Untyped rest) :
    Untyped (x :: rest) := by
  intro before
  rw [namesType, hx, hrest, Bool.and_false]
  rfl

theorem Untyped.blanks_append (hblank : ∀ x ∈ gap, Text.isBlank x = true) (hrest : Untyped rest) :
    Untyped (gap ++ rest) := by
  induction gap with
  | nil => exact hrest
  | cons x gap ih =>
      obtain ⟨hx, hgap⟩ := List.forall_mem_cons.1 hblank
      refine .cons (startsTyped_of_head ?_) (ih hgap)
      rintro y hy
      obtain rfl := Option.some.inj hy
      exact not_isWord_of_isBlank hx

theorem untyped_blanks (hblank : ∀ x ∈ gap, Text.isBlank x = true) : Untyped gap := by
  simpa using untyped_nil.blanks_append hblank

theorem startsTyped_word (hletters : ∀ x ∈ name, Text.isWord x = true) :
    startsTyped name = false := by
  have hspan := @span_append name [] Text.isWord hletters (by simp)
  rw [List.append_nil] at hspan
  simp [startsTyped, hspan.1, hspan.2]

theorem startsTyped_name (hname : ∀ x ∈ name, isNamePart x = true) (hne : name ≠ [])
    (hblank : ∀ x ∈ gap, Text.isBlank x = true) (hgap : gap = [] → StartsApart rest)
    (hrest : ∀ y ∈ rest.head?, Text.isBlank y = false)
    (htype : isOneOf typeKeywords (rest.takeWhile Text.isWord) = false) :
    startsTyped (name ++ (gap ++ rest)) = false := by
  have hword : startsTyped (name.takeWhile Text.isWord) = false :=
    startsTyped_word fun x hx => List.all_eq_true.1 List.all_takeWhile x hx
  cases hdrop : name.dropWhile Text.isWord with
  | nil =>
      -- The name is a single word.
      have hsame : name.takeWhile Text.isWord = name := by
        simpa [hdrop] using List.takeWhile_append_dropWhile (p := Text.isWord) (l := name)
      by_cases hempty : gap = []
      · rw [hempty, List.nil_append, startsTyped_append _ (hgap hempty), ← hsame, hword]
      · have hletters := List.dropWhile_eq_nil_iff.1 hdrop
        rw [startsTyped_gap hne hletters hempty hblank hrest, htype, Bool.and_false]
  | cons x behind =>
      -- The word before a dollar sign is not a name.
      have hx : Text.isWord x = false := by
        simpa [hdrop] using List.head?_dropWhile_not Text.isWord name
      have hmem : x ∈ name := (List.dropWhile_suffix Text.isWord).subset
        (hdrop ▸ List.mem_cons_self)
      obtain rfl : x = '$' := by simpa [isNamePart, hx] using hname x hmem
      have hapart : StartsApart ('$' :: (behind ++ (gap ++ rest))) := by
        rintro y hy
        obtain rfl := Option.some.inj hy
        exact ⟨hx, by decide⟩
      rw [← List.takeWhile_append_dropWhile (p := Text.isWord) (l := name), hdrop,
        List.append_assoc, List.cons_append, startsTyped_append _ hapart, hword]

/-- A name with a gap names no type, when no type stands behind the gap. -/
theorem Untyped.name_append (h : Untyped rest) (hname : ∀ x ∈ name, isNamePart x = true)
    (hblank : ∀ x ∈ gap, Text.isBlank x = true) (hgap : gap = [] → StartsApart rest)
    (hrest : ∀ y ∈ rest.head?, Text.isBlank y = false)
    (htype : isOneOf typeKeywords (rest.takeWhile Text.isWord) = false) :
    Untyped (name ++ (gap ++ rest)) := by
  induction name with
  | nil => exact show Untyped (gap ++ rest) from h.blanks_append hblank
  | cons x name ih =>
      have hhead := startsTyped_name hname (List.cons_ne_nil x name) hblank hgap hrest htype
      exact .cons hhead (ih (List.forall_mem_cons.1 hname).2)

/-! ## The search for column types -/

/-- A reserved name. -/
def reservedName : Pattern :=
  .seq (.any (reservedNames.map .word)) .wordEdge

theorem matchAt_reserved (h : Reads text reservedName i [] j d) (hi : i ≤ text.length) :
    matchAt customTypeColumn text.length (placeAt text i) = none := by
  have hfound : (Pattern.run text.length reservedName (placeAt text i) [] fun place captures =>
      some (place.pos, captures)).isSome = true := Pattern.finds_run (by cbv) h hi rfl
  change Option.map _ (if Pattern.isWordEdge (placeAt text i) = true then
    (if (Pattern.run text.length reservedName (placeAt text i) [] _).isSome = true then none else _)
      else none) = none
  rw [if_pos hfound, ite_self]
  rfl

theorem reads_oneOf (words : List String) (hwords : words ≠ []) :
    Reads text (.any (words.map .word)) i c j d ↔
      d = c ∧ ∃ part, Takes text part i j ∧ ∃ letters ∈ words, Spells letters part := by
  rw [Pattern.reads_any (by simpa using hwords)]
  constructor
  · rintro ⟨p, hp, h⟩
    obtain ⟨letters, hletters, rfl⟩ := List.mem_map.1 hp
    obtain ⟨rfl, part, htakes, hpart⟩ := Pattern.reads_word.1 h
    exact ⟨rfl, part, htakes, letters, hletters, hpart⟩
  · rintro ⟨rfl, part, htakes, letters, hletters, hpart⟩
    exact ⟨.word letters, List.mem_map_of_mem hletters,
      Pattern.reads_word.2 ⟨rfl, part, htakes, hpart⟩⟩

/-- Where a column type is found, the text starts with a name and a type. -/
theorem startsTyped_of_matchAt {m : Match} (hi : i ≤ text.length)
    (h : matchAt customTypeColumn text.length (placeAt text i) = some m) :
    (∀ y ∈ (text.take i).getLast?, Text.isWord y = false) ∧ startsTyped (text.drop i) = true := by
  obtain ⟨-, hread⟩ := Pattern.of_matchAt h
  obtain ⟨_, _, hstart, hread⟩ := Pattern.reads_all_cons.1 hread
  obtain ⟨rfl, rfl, hedge⟩ := Pattern.reads_wordEdge.1 hstart
  obtain ⟨_, _, hahead, hread⟩ := Pattern.reads_all_cons.1 hread
  obtain ⟨rfl, rfl⟩ := Pattern.reads_notAhead.1 hahead
  obtain ⟨a, _, hcapture, hread⟩ := Pattern.reads_all_cons.1 hread
  obtain ⟨_, rfl, hcolumn⟩ := Pattern.reads_capture.1 hcapture
  obtain ⟨rfl, name, hname, hne, hletters⟩ := Pattern.reads_many1_one.1 hcolumn
  obtain ⟨b, _, hblanks, hread⟩ := Pattern.reads_all_cons.1 hread
  obtain ⟨rfl, gap, hgap, hgapne, hblank⟩ := Pattern.reads_many1_one.1 hblanks
  obtain ⟨stop, _, hcapture', hread⟩ := Pattern.reads_all_cons.1 hread
  obtain ⟨_, rfl, hkeyword⟩ := Pattern.reads_capture.1 hcapture'
  obtain ⟨rfl, type, htype, letters, hmem, hspells⟩ :=
    (reads_oneOf typeKeywords (by decide)).1 hkeyword
  obtain ⟨htypene, htypeletters⟩ := isWord_of_spells (List.mem_append_right _ hmem) hspells
  obtain ⟨_, _, hend, -⟩ := Pattern.reads_all_cons.1 hread
  obtain ⟨rfl, rfl, hbehind⟩ := Pattern.reads_wordEdge.1 hend
  have hrest := (htype.isWordEdge_end htypene htypeletters).1 hbehind
  have hhead : ∀ y ∈ (type ++ text.drop stop).head?, Text.isBlank y = false := by
    obtain ⟨y, type, rfl⟩ := List.exists_cons_of_ne_nil htypene
    rintro _ ⟨⟩
    exact not_isBlank_of_isWord (htypeletters y List.mem_cons_self)
  have hfree : isOneOf reservedNames name = false := by
    refine Bool.eq_false_iff.2 fun hreserved => ?_
    have hreads : Reads text (.any (reservedNames.map .word)) i [] a [] :=
      (reads_oneOf reservedNames (by decide)).2 ⟨rfl, name, hname, isOneOf_iff.1 hreserved⟩
    have hstop : Pattern.isWordEdge (placeAt text a) = true := by
      refine (hname.isWordEdge_end hne hletters).2 ?_
      obtain ⟨y, gap, rfl⟩ := List.exists_cons_of_ne_nil hgapne
      rw [hgap.starts]
      rintro _ ⟨⟩
      exact not_isWord_of_isBlank (hblank y List.mem_cons_self)
    cases h.symm.trans (matchAt_reserved (.seq hreads (.wordEdge hstop)) hi)
  refine ⟨(hname.isWordEdge_start hne hletters).1 hedge, ?_⟩
  rw [hname.starts, hgap.starts, htype.starts, startsTyped_gap hne hletters hgapne hblank hhead,
    hfree, (span_append htypeletters hrest).1]
  exact isOneOf_iff.2 ⟨letters, hmem, hspells⟩

/-- A part of a text that names no type is passed over. -/
theorem foundFrom_pass (h : Takes text part i j) (hj : j ≤ text.length)
    (hpart : namesType (text.take i).getLast? part = false) (hrest : StartsApart (text.drop j)) :
    foundFrom customTypeColumn text i = foundFrom customTypeColumn text j := by
  induction part generalizing i with
  | nil => rw [Pattern.takes_nil.1 h]
  | cons x part ih =>
      obtain ⟨hfirst, hmore⟩ := h.uncons
      obtain ⟨hhere, hlater⟩ := Bool.or_eq_false_iff.1 hpart
      have hlast : (text.take (i + 1)).getLast? = some x := by
        rw [hfirst.take_eq, List.getLast?_concat]
      have hle := hmore.ends
      have hnone : matchAt customTypeColumn text.length (placeAt text i) = none := by
        refine Option.eq_none_iff_forall_ne_some.2 fun m hm => ?_
        obtain ⟨hbefore, htyped⟩ := startsTyped_of_matchAt (by omega) hm
        rw [h.starts, startsTyped_append _ hrest] at htyped
        have hany : (text.take i).getLast?.any Text.isWord = false := by
          cases hend : (text.take i).getLast? with
          | none => rfl
          | some y => exact hbefore y hend
        simp [htyped, hany] at hhere
      rw [Pattern.foundFrom_succ (by omega) hnone, ih hmore (hlast ▸ hlater)]

end

end SqlLayout.Placeholder
