import SqlLayout.Proofs.Grant.Normal
import SqlLayout.Proofs.Placeholder.Trailing
import SqlLayout.Proofs.Source.Alike

/-!
# The ends of printed grants

A grant that is kept as it is written ends as its source does.  A grant of the fixed shape is
printed on one line, in words that the scanner reads like those of the source; so it ends like its
source, unless a line comment begins in it.  No other semicolon than the last one is visible in a
printed piece.

## Implementation notes

The words of a grant are alike word by word: keywords are spelled in letters, which are ordinary,
and upper case only changes ordinary characters.  That the body of a grant of the fixed shape holds
no visible semicolon is seen from its last word, an object name.
-/

namespace SqlLayout.Grant

open Pattern Text Layout
open Placeholder (isTrailing inert_of_trailing trailing_terminator)
open Source (Alike isOrdinary oneLine oneLine_append modeAfter mask hidden_iff hidden_of_append)

/-! ## Words that are scanned alike -/

section

variable {c : Char} {text w : List Char}

theorem ordinary_of_blank (h : isBlank c = true) (hfeed : c ≠ '\n') : isOrdinary c = true := by
  obtain ⟨hinert, hbackslash⟩ :=
    inert_of_trailing (show isTrailing c = true by simp [isTrailing, h])
  have hsemicolon : c ≠ ';' := by
    rintro rfl
    exact absurd h (by decide)
  simp [isOrdinary, hinert, hbackslash, hfeed, hsemicolon]

theorem ordinary_of_sameLetter {letter : Char} (hletter : isAsciiLetter letter = true)
    (h : sameLetter letter c = true) : isOrdinary c = true := by
  have hcode := code_of_sameLetter hletter h
  by_contra hspecial
  have hc : c.toNat < 65 ∨ c.toNat = 92 ∨ c.toNat = 96 := by
    obtain rfl | rfl | rfl | rfl | rfl | rfl | rfl | rfl | rfl :=
      Source.special_of_not_ordinary hspecial <;> decide
  omega

theorem alike_of_ordinary {front back : List Char} (hfront : front ≠ []) (hback : back ≠ [])
    (hfrontall : ∀ x ∈ front, isOrdinary x = true) (hbackall : ∀ x ∈ back, isOrdinary x = true) :
    Alike front back := by
  obtain ⟨c, front, rfl⟩ := List.exists_cons_of_ne_nil hfront
  obtain ⟨d, back, rfl⟩ := List.exists_cons_of_ne_nil hback
  simpa using Alike.ordinary hfrontall hbackall .nil

theorem ordinary_of_spells {letters : List Char} (hall : letters.all isAsciiLetter = true)
    (h : List.Forall₂ (fun letter c => sameLetter letter c = true) letters w) :
    ∀ x ∈ w, isOrdinary x = true := by
  exact forall_mem_of_letters h fun letter hletter c hsame =>
    ordinary_of_sameLetter (List.all_eq_true.1 hall letter hletter) hsame

theorem alike_keyword {keyword : String} (hne : keyword.toList ≠ [])
    (hall : keyword.toList.all isAsciiLetter = true) (h : Spells keyword w) :
    Alike w keyword.toList :=
  alike_of_ordinary (unbroken_of_spells hne hall h).nonempty hne (ordinary_of_spells hall h)
    (ordinary_of_spells hall spells_self)

/-- A blank text becomes ordinary when it is put on one line. -/
theorem ordinary_oneLine {blanks : List Char} (h : Blank blanks) :
    ∀ x ∈ oneLine blanks, isOrdinary x = true := by
  refine List.forall_mem_map.2 fun x hx => ?_
  split
  · decide
  · next hfeed => exact ordinary_of_blank (h x hx) (by simpa using hfeed)

theorem oneLine_unbroken (h : Unbroken w) : oneLine w = w := by
  refine Eq.trans (List.map_congr_left fun x hx => if_neg fun hfeed => ?_) (List.map_id w)
  rw [eq_of_beq hfeed] at hx
  exact absurd (h.solid _ hx) (by decide)

/-- A text of blanks and words is like the words with single spaces before them. -/
theorem alike_words {ws vs : List (List Char)} (h : List.Forall₂ Alike ws vs)
    (hwords : words text = ws) (hbreaks : Breaks text)
    (hend : ∀ x ∈ text.getLast?, isBlank x = false) :
    Alike (oneLine text) (vs.flatMap fun v => ' ' :: v) := by
  induction h generalizing text with
  | nil =>
      obtain rfl : text = [] := by
        by_contra hne
        have hblank := blank_of_words_eq_nil hwords
        have hlast := hend _ (List.getLast?_eq_some_getLast hne)
        rw [hblank _ (List.getLast_mem hne)] at hlast
        cases hlast
      exact .nil
  | @cons w v ws vs hw hws ih =>
      obtain ⟨blanks, rest, rfl, hblanks, hbreaks', hws'⟩ := exists_of_words hwords
      have hword : Unbroken w := unbroken_of_mem_words w (hwords ▸ List.mem_cons_self)
      have hblanksne : blanks ≠ [] := by
        rintro rfl
        exact hword.not_breaks rest hbreaks
      have hrest := ih hws' hbreaks' fun x hx =>
        hend x (List.mem_getLast?_append_of_mem_getLast?
          (List.mem_getLast?_append_of_mem_getLast? hx))
      have hgap : Alike (oneLine blanks) [' '] :=
        alike_of_ordinary (by simpa [oneLine] using hblanksne) (by simp) (ordinary_oneLine hblanks)
          (List.forall_mem_singleton.2 (by decide))
      rw [oneLine_append, oneLine_append, oneLine_unbroken hword, List.flatMap_cons]
      exact hgap.append (hw.append hrest)

end

/-! ## The printed text -/

section

variable {text : List Char} {o : Object} {p : Parts}

theorem alike_object {keyword : String} {ws : List (List Char)} (hne : keyword.toList ≠ [])
    (hall : keyword.toList.all isAsciiLetter = true) (h : o.Words keyword ws) :
    ∃ vs, List.Forall₂ Alike ws vs ∧
      o.normal.written keyword = vs.flatMap fun v => ' ' :: v := by
  obtain ⟨w, hspells, rfl⟩ := h
  refine ⟨[keyword.toList, upper o.kind, o.name], ?_, by simp [Object.written, Object.normal]⟩
  exact .cons (alike_keyword hne hall hspells)
    (.cons (Source.alike_upper o.kind) (.cons (.refl o.name) .nil))

theorem alike_scope {scope : Option Object} {ws : List (List Char)} (h : scopeWords scope ws) :
    ∃ vs, List.Forall₂ Alike ws vs ∧ scopeWritten (scope.map Object.normal) = vs.flatMap fun v =>
      ' ' :: v := by
  cases scope with
  | none =>
      obtain rfl : ws = [] := h
      exact ⟨[], .nil, rfl⟩
  | some o => exact alike_object (by decide) (by decide) h

/-- A grant of the fixed shape is printed like its source on one line. -/
theorem alike_written (h : p.Words (words text)) (htrim : strip text = text) :
    Alike (oneLine text) p.normal.written := by
  obtain ⟨grant, target, scope, grantee, hgrant, htarget, hscope, hgrantee, hwords⟩ := h
  obtain ⟨target', htarget, htargetwritten⟩ := alike_object (by decide) (by decide) htarget
  obtain ⟨scope', hscope, hscopewritten⟩ := alike_scope hscope
  obtain ⟨grantee', hgrantee, hgranteewritten⟩ := alike_object (by decide) (by decide) hgrantee
  obtain ⟨hhead, hlast⟩ := strip_eq_self_iff.1 htrim
  obtain ⟨blanks, rest, rfl, hblanks, hbreaks, hrest⟩ := exists_of_words hwords
  obtain rfl : blanks = [] := by
    by_contra hne
    obtain ⟨x, more, rfl⟩ := List.exists_cons_of_ne_nil hne
    have hx := hhead x rfl
    rw [hblanks x List.mem_cons_self] at hx
    cases hx
  have hend : ∀ x ∈ rest.getLast?, isBlank x = false := fun x hx =>
    hlast x (List.mem_getLast?_append_of_mem_getLast? (List.mem_getLast?_append_of_mem_getLast? hx))
  have hall := alike_words (.cons (Source.alike_upper p.privilege) (List.rel_append htarget
    (List.rel_append hscope hgrantee))) hrest hbreaks hend
  have hwritten : p.normal.written = "GRANT".toList ++
      (upper p.privilege :: (target' ++ (scope' ++ grantee'))).flatMap fun v => ' ' :: v := by
    rw [List.flatMap_cons, List.flatMap_append,
      List.flatMap_append, ← htargetwritten, ← hscopewritten, ← hgranteewritten]
    rfl
  rw [List.nil_append, oneLine_append, oneLine_unbroken (unbroken_of_grant hgrant), hwritten]
  exact (alike_keyword (by decide) (by decide) hgrant).append hall

end

/-! ## The start of a grant -/

section

variable {text core tail : List Char}

/-- Whether a text is the keyword of a grant, with blanks around it. -/
def Opening (front : List Char) : Prop :=
  ∃ lead grant gap, Blank lead ∧ Spells "GRANT" grant ∧ Blank gap ∧ gap ≠ [] ∧
    front = lead ++ (grant ++ gap)

theorem Opening.getLast {front : List Char} (h : Opening front) :
    ∃ x, front.getLast? = some x ∧ isBlank x = true := by
  obtain ⟨lead, grant, gap, -, -, hgap, hne, rfl⟩ := h
  refine ⟨gap.getLast hne, ?_, hgap _ (List.getLast_mem hne)⟩
  rw [List.getLast?_append, List.getLast?_append, List.getLast?_eq_some_getLast hne]
  rfl

theorem isGrant_iff : isGrant text = true ↔ ∃ front, Opening front ∧ front <+: text := by
  constructor
  · intro h
    obtain ⟨m, hm⟩ := Option.isSome_iff_exists.1 h
    obtain ⟨-, hread⟩ := of_matchAt (i := 0) hm
    simp only [head, blanks, blanks1, reads_all_cons, reads_all_nil, reads_many_one,
      reads_many1_one, reads_word] at hread
    obtain ⟨_, _, hstart, _, _, ⟨rfl, lead, hlead, hleadblank⟩, _, _, ⟨rfl, grant, hgrant, hspells⟩,
      _, _, ⟨rfl, gap, hgap, hgapne, hgapblank⟩, rfl, -⟩ := hread
    cases hstart
    have hall := takes_append.2 ⟨_, hlead, takes_append.2 ⟨_, hgrant, hgap⟩⟩
    exact ⟨_, ⟨lead, grant, gap, hleadblank, hspells, hgapblank, hgapne, rfl⟩, _, hall.starts.symm⟩
  · rintro ⟨_, ⟨lead, grant, gap, hlead, hspells, hgap, hne, rfl⟩, back, rfl⟩
    generalize htext : lead ++ (grant ++ gap) ++ back = text
    have hdrop : text.drop 0 = (lead ++ (grant ++ gap)) ++ back := htext.symm
    obtain ⟨htakes, -⟩ := takes_of_drop hdrop
    obtain ⟨j, hleadtakes, hrest⟩ := takes_append.1 htakes
    obtain ⟨k, hgranttakes, hgaptakes⟩ := takes_append.1 hrest
    have hread : Reads text head 0 [] (0 + (lead ++ (grant ++ gap)).length) [] := by
      simp only [head, blanks, blanks1, reads_all_cons, reads_all_nil, reads_many_one,
        reads_many1_one, reads_word]
      exact ⟨_, _, .atStart, j, [], ⟨rfl, lead, hleadtakes, hlead⟩, k, [],
        ⟨rfl, grant, hgranttakes, hspells⟩, _, [], ⟨rfl, gap, hgaptakes, hne, hgap⟩, rfl, rfl⟩
    exact isSome_matchAt_of_reads rfl hread (Nat.zero_le _)

/-- A text is a grant whatever stands behind it; and a semicolon that stands behind it does not make
it one. -/
theorem isGrant_append (h : isGrant (core ++ [';']) = true) (tail : List Char) :
    isGrant (core ++ tail) = true := by
  obtain ⟨front, hopening, back, hback⟩ := isGrant_iff.1 h
  obtain ⟨more, hmore⟩ : front <+: core := by
    obtain ⟨x, hx, hblank⟩ := hopening.getLast
    obtain rfl | ⟨more, y, rfl⟩ := List.eq_nil_or_concat' back
    · rw [List.append_nil] at hback
      rw [hback, List.getLast?_concat] at hx
      obtain rfl := Option.some.inj hx
      exact absurd hblank (by decide)
    · rw [← List.append_assoc] at hback
      exact ⟨more, (List.append_inj' hback rfl).1⟩
  exact isGrant_iff.2 ⟨front, hopening, more ++ tail, by rw [← hmore, List.append_assoc]⟩

end

/-! ## Visible semicolons -/

section

variable {text core tail : List Char} {p : Parts}

/-- The words of a grant end with one that holds no semicolon. -/
theorem not_trailing_of_words (hvalid : p.Valid) (hwords : p.Words (words text))
    {front back : List Char} (htext : text = front ++ ';' :: back) :
    ¬∀ x ∈ back, isTrailing x = true := by
  intro hback
  have hall : ∀ x ∈ ';' :: back, isTrailing x = true := List.forall_mem_cons.2 ⟨by decide, hback⟩
  have hparts : (';' :: back).rdropWhile isBlank ++ (';' :: back).rtakeWhile isBlank =
      ';' :: back :=
    List.rdropWhile_append_rtakeWhile
  have hne : (';' :: back).rdropWhile isBlank ≠ [] := fun hnil =>
    absurd (List.rdropWhile_eq_nil_iff.1 hnil ';' List.mem_cons_self) (by decide)
  obtain ⟨more, last, hmore⟩ := (List.eq_nil_or_concat' _).resolve_left hne
  obtain rfl : last = ';' := by
    have hsolid := List.rdropWhile_last_not isBlank _ hne
    have hlast := hall last (by
      rw [← hparts, hmore]
      simp)
    simp only [hmore, List.getLast_concat] at hsolid
    simpa [isTrailing, hsolid] using hlast
  have hblanks : Blank ((';' :: back).rtakeWhile isBlank) := fun x => List.mem_rtakeWhile_imp
  rw [htext, ← hparts, hmore, ← List.append_assoc, words_append_blank hblanks, ← List.append_assoc]
    at hwords
  obtain ⟨ws, w, hlast⟩ := @exists_last_wordsFrom [] ';' (by decide) (front ++ more)
  obtain ⟨grant, target, scope, grantee, -, -, -, ⟨onto, -, rfl⟩, hall⟩ := hwords
  have hname : p.grantee.name = w ++ [';'] := by
    have hsame : ws ++ [w ++ [';']] =
        (grant :: p.privilege :: (target ++ (scope ++ [onto, p.grantee.kind]))) ++
          [p.grantee.name] := by
      simpa using hlast.symm.trans hall
    exact (List.cons.inj (List.append_inj' hsame rfl).2).1.symm
  exact hvalid.grantee.open_end (hname ▸ List.mem_append_right w List.mem_cons_self)

theorem body_prefix (htrim : strip text = text) : body text <+: text := by
  rw [body, htrim]
  split
  · exact List.dropLast_prefix text
  · exact List.prefix_refl text

/-- The body of a grant of the fixed shape reaches to no visible semicolon. -/
theorem hidden_body (hvalid : p.Valid) (hwords : p.Words (words (body text)))
    (htrim : strip text = text) (htext : text = core ++ tail)
    (htail : ∀ x ∈ tail, isTrailing x = true) (hcore : ';' ∉ mask core) :
    ';' ∉ mask (body text) := by
  refine hidden_iff.2 fun front back hbody hcode => ?_
  obtain ⟨more, hmore⟩ := body_prefix htrim
  rw [hbody, htext, List.append_assoc, List.cons_append] at hmore
  obtain ⟨gap, -, hgap⟩ := Source.exists_gap hcore hmore.symm hcode
  refine not_trailing_of_words hvalid hwords hbody fun x hx => htail x ?_
  simp [hgap, hx]

end

/-! ## Grants as they are printed -/

section

variable {text core tail : List Char} {p : Parts}

/-- A grant of the fixed shape shows no semicolon within its printed text either. -/
theorem hidden_written (hvalid : p.Valid) (hwords : p.Words (words (body text)))
    (htrim : strip text = text) (htext : text = core ++ tail)
    (htail : ∀ x ∈ tail, isTrailing x = true) (hcore : ';' ∉ mask core) :
    ';' ∉ mask p.normal.written := by
  have hhead : ∀ x ∈ (body text).head?, isBlank x = false := by
    obtain ⟨more, hmore⟩ := body_prefix htrim
    intro x hx
    apply (strip_eq_self_iff.1 htrim).1 x
    rw [← hmore]
    exact List.mem_head?_append_of_mem_head? hx
  obtain ⟨blanks, -, hbody⟩ := exists_strip_append hhead
  have hidden := hidden_body hvalid hwords htrim htext htail hcore
  rw [hbody] at hidden
  rw [← words_strip] at hwords
  exact (alike_written hwords (strip_strip (body text))).hidden (hidden_of_append hidden)

theorem strip_written (hvalid : p.Valid) : strip p.normal.written ≠ [] := by
  rw [(fenced_written hvalid.normal).strip_eq]
  simp [Parts.written]

/-- A printed grant is one statement, and semicolons and blanks behind it. -/
theorem exists_rendered (tabWidth : Nat) (htrim : strip text = text) (htext : text = core ++ tail)
    (htail : ∀ x ∈ tail, isTrailing x = true) (hcore : ';' ∉ mask core) (hsolid : strip core ≠ []) :
    ∃ front back, (rendered tabWidth text).toList = front ++ back ∧
      (∀ x ∈ back, isTrailing x = true) ∧
      ';' ∉ mask front ∧ strip front ≠ [] := by
  by_cases h : ∃ p : Parts, p.Valid ∧ p.Words (words (body text))
  · obtain ⟨p, hvalid, hwords⟩ := h
    refine ⟨p.normal.written, [';'], ?_, trailing_terminator,
      hidden_written hvalid hwords htrim htext htail hcore, strip_written hvalid⟩
    rw [rendered_of_words tabWidth hvalid hwords, String.toList_ofList]
  · rw [rendered_of_not_words tabWidth h, String.toList_ofList, htrim, closed]
    split
    · exact ⟨core, tail, htext, htail, hcore, hsolid⟩
    · refine ⟨core, tail ++ [';'], ?_, List.forall_mem_append.2 ⟨htail, trailing_terminator⟩,
        hcore, hsolid⟩
      rw [htext, List.append_assoc]

/-- Whether the semicolon of a grant is printed within a line comment: a grant that is kept as it is
written ends in one, and one that is taken apart has one anywhere, since it is printed on one
line. -/
def hidesEnd (piece : List Char) : Bool :=
  if (parse piece).verbatim.isSome then modeAfter .code piece == .line
  else piece.inits.any fun front => modeAfter .code front == .line

/-- A printed piece ends with a semicolon, and shows no other one; it ends in a line comment when it
hides its end, and in the mode of the piece else. -/
theorem rendered_piece (tabWidth : Nat) (hcore : ';' ∉ mask core) (htrim : strip core = core)
    (hsolid : core ≠ []) :
    ∃ front, (rendered tabWidth (core ++ [';'])).toList = front ++ [';'] ∧ ';' ∉ mask front ∧
      strip front ≠ [] ∧
      (modeAfter .code (front ++ [';']) = .line ↔ hidesEnd (core ++ [';']) = true) ∧
      (modeAfter .code (front ++ [';']) = .line ∨
        modeAfter .code (front ++ [';']) = modeAfter .code (core ++ [';'])) := by
  have hpiece : strip (core ++ [';']) = core ++ [';'] := strip_concat (by decide) htrim
  have hbody : body (core ++ [';']) = core := by
    rw [body, hpiece, if_pos List.getLast?_concat, List.dropLast_concat]
  by_cases h : ∃ p : Parts, p.Valid ∧ p.Words (words (body (core ++ [';'])))
  · obtain ⟨p, hvalid, hwords⟩ := h
    have hhides : hidesEnd (core ++ [';']) = true ↔
        ∃ front, front <+: core ++ [';'] ∧ modeAfter .code front = .line := by
      rw [hidesEnd, parse_of_words hvalid hwords, if_neg (by simp [Parts.node]), List.any_eq_true]
      simp only [List.mem_inits, beq_iff_eq]
    refine ⟨p.normal.written, ?_, hidden_written hvalid hwords hpiece rfl trailing_terminator hcore,
      strip_written hvalid, ?_⟩
    · rw [rendered_of_words tabWidth hvalid hwords, String.toList_ofList]
    · rw [hbody] at hwords
      have hmode : modeAfter .code (p.normal.written ++ [';']) =
          modeAfter .code (oneLine (core ++ [';'])) := by
        rw [oneLine_append]
        exact (((alike_written hwords htrim).append (.refl [';'])).modeAfter_eq
          Source.Mode.opened_code).1.symm
      obtain ⟨hline, -⟩ := Source.oneLined_modeAfter Source.Mode.opened_code (core ++ [';'])
      rw [hmode, hhides]
      exact ⟨hline.line_iff, hline.line_or_same⟩
  · have hhides : hidesEnd (core ++ [';']) = true ↔ modeAfter .code (core ++ [';']) = .line := by
      rw [hidesEnd, parse_of_not_words h, if_pos (by rfl), beq_iff_eq]
    refine ⟨core, ?_, hcore, by rwa [htrim], hhides.symm, .inr rfl⟩
    rw [rendered_of_not_words tabWidth h, String.toList_ofList, hpiece, closed,
      if_pos List.getLast?_concat]

end

end SqlLayout.Grant
