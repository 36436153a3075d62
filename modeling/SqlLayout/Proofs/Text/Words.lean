import SqlLayout.Proofs.Text.Strip

/-!
# Words of texts

A text is cut at its blanks into words.  Where it is cut does not depend on how many blanks there
are, so a text with other blanks between the same words has the same words.
-/

namespace SqlLayout.Text

/-- The words of a text; `word` holds the characters of the current word. -/
def wordsFrom (word : List Char) : List Char → List (List Char)
  | [] => if word.isEmpty then [] else [word]
  | c :: rest =>
    if isBlank c then (if word.isEmpty then wordsFrom [] rest else word :: wordsFrom [] rest)
    else wordsFrom (word ++ [c]) rest

/-- The words of a text, between blanks. -/
def words (text : List Char) : List (List Char) :=
  wordsFrom [] text

/-- Whether a text consists of blanks. -/
def Blank (text : List Char) : Prop :=
  ∀ x ∈ text, isBlank x = true

/-- Whether a text is a single word. -/
structure Unbroken (text : List Char) : Prop where
  nonempty : text ≠ []
  solid : ∀ x ∈ text, isBlank x = false

/-- Whether a text is empty or begins with a blank. -/
def Breaks (text : List Char) : Prop :=
  ∀ x ∈ text.head?, isBlank x = true

section

variable {word text blanks front rest : List Char}

theorem wordsFrom_append (h : ∀ x ∈ front, isBlank x = false) :
    wordsFrom word (front ++ rest) = wordsFrom (word ++ front) rest := by
  induction front generalizing word with
  | nil => rw [List.nil_append, List.append_nil]
  | cons c front ih =>
      obtain ⟨hc, hfront⟩ := List.forall_mem_cons.1 h
      rw [List.cons_append, wordsFrom, if_neg (by simp [hc]), ih hfront, List.append_assoc,
        List.singleton_append]

theorem words_blank_append (h : Blank blanks) : words (blanks ++ rest) = words rest := by
  induction blanks with
  | nil => rfl
  | cons c blanks ih =>
      obtain ⟨hc, hblanks⟩ := List.forall_mem_cons.1 h
      exact (if_pos hc).trans (ih hblanks)

/-- A word is the first one when it ends where a blank is. -/
theorem words_append (h : Unbroken word) (hrest : Breaks rest) :
    words (word ++ rest) = word :: words rest := by
  have hfront : wordsFrom [] (word ++ rest) = wordsFrom word rest := wordsFrom_append h.solid
  rw [words, hfront]
  cases rest with
  | nil => simp [wordsFrom, words, h.nonempty]
  | cons c rest =>
      have hc : isBlank c = true := hrest c rfl
      simp [wordsFrom, words, hc, h.nonempty]

theorem Unbroken.not_breaks (h : Unbroken word) (rest : List Char) : ¬Breaks (word ++ rest) := by
  obtain ⟨x, more, rfl⟩ := List.exists_cons_of_ne_nil h.nonempty
  intro hbreaks
  have hx := hbreaks x rfl
  rw [h.solid x List.mem_cons_self] at hx
  cases hx

theorem wordsFrom_append_blank (h : Blank blanks) :
    wordsFrom word (text ++ blanks) = wordsFrom word text := by
  induction text generalizing word with
  | nil =>
      cases blanks with
      | nil => rfl
      | cons c blanks =>
          obtain ⟨hc, hblanks⟩ := List.forall_mem_cons.1 h
          have hnone : wordsFrom [] blanks = [] := by
            simpa [words, wordsFrom] using @words_blank_append blanks [] hblanks
          simp [wordsFrom, hc, hnone]
  | cons c text ih => simp only [List.cons_append, wordsFrom, ih]

/-- Blanks behind a text are no part of a word. -/
theorem words_append_blank (h : Blank blanks) : words (text ++ blanks) = words text :=
  wordsFrom_append_blank h

theorem unbroken_of_mem_wordsFrom (hword : ∀ x ∈ word, isBlank x = false) :
    ∀ w ∈ wordsFrom word text, Unbroken w := by
  have hown (h : word ≠ []) : Unbroken word := ⟨h, hword⟩
  induction text generalizing word with
  | nil =>
      intro w hw
      rw [wordsFrom] at hw
      split at hw
      · cases hw
      · next hne =>
          obtain rfl := List.mem_singleton.1 hw
          exact hown (by simpa using hne)
  | cons c text ih =>
      rw [wordsFrom]
      split
      · have hrest := @ih [] (by simp) (by simp)
        split
        · exact hrest
        · next hne => exact List.forall_mem_cons.2 ⟨hown (by simpa using hne), hrest⟩
      · next hc =>
          have hmore : ∀ x ∈ word ++ [c], isBlank x = false :=
            List.forall_mem_append.2 ⟨hword, by simpa using hc⟩
          exact ih hmore fun h => ⟨h, hmore⟩

theorem unbroken_of_mem_words : ∀ w ∈ words text, Unbroken w :=
  unbroken_of_mem_wordsFrom (by simp)

/-- The first word of a text stands behind the blanks that it begins with, and the others behind
it. -/
theorem exists_of_wordsFrom {w : List Char} {ws : List (List Char)}
    (h : wordsFrom word text = w :: ws) :
    ∃ blanks tail rest, text = blanks ++ (tail ++ rest) ∧ w = word ++ tail ∧ Blank blanks ∧
      (word ≠ [] → blanks = []) ∧ Breaks rest ∧ words rest = ws := by
  induction text generalizing word with
  | nil =>
      rw [wordsFrom] at h
      split at h
      · cases h
      · obtain ⟨rfl, rfl⟩ := List.cons.inj h
        exact ⟨[], [], [], rfl, (List.append_nil _).symm, by simp [Blank],
          fun _ => rfl, by simp [Breaks], rfl⟩
  | cons c text ih =>
      rw [wordsFrom] at h
      split at h
      · next hc =>
          split at h
          · next hempty =>
              obtain rfl := List.isEmpty_iff.1 hempty
              obtain ⟨blanks, tail, rest, rfl, hw, hblanks, -, hrest, hws⟩ := ih h
              exact ⟨c :: blanks, tail, rest, rfl, hw,
                List.forall_mem_cons.2 ⟨hc, hblanks⟩, by simp, hrest, hws⟩
          · obtain ⟨rfl, rfl⟩ := List.cons.inj h
            refine ⟨[], [], c :: text, rfl, (List.append_nil _).symm, by simp [Blank],
              fun _ => rfl, ?_, ?_⟩
            · simpa [Breaks] using hc
            · exact if_pos hc
      · obtain ⟨blanks, tail, rest, rfl, rfl, -, hnone, hrest, hws⟩ := ih h
        obtain rfl := hnone (by simp)
        exact ⟨[], c :: tail, rest, rfl, by simp, by simp [Blank], fun _ => rfl, hrest, hws⟩

theorem exists_of_words {w : List Char} {ws : List (List Char)} (h : words text = w :: ws) :
    ∃ blanks rest, text = blanks ++ (w ++ rest) ∧ Blank blanks ∧ Breaks rest ∧ words rest = ws := by
  obtain ⟨blanks, tail, rest, htext, rfl, hblanks, -, hrest, hws⟩ := exists_of_wordsFrom h
  exact ⟨blanks, rest, htext, hblanks, hrest, hws⟩

theorem wordsFrom_ne_nil (hword : word ≠ []) : wordsFrom word text ≠ [] := by
  induction text generalizing word with
  | nil => simp [wordsFrom, hword]
  | cons c text ih =>
      rw [wordsFrom]
      split
      · simp [hword]
      · exact ih (by simp)

theorem blank_of_words_eq_nil (h : words text = []) : Blank text := by
  induction text with
  | nil => simp [Blank]
  | cons c text ih =>
      rw [words, wordsFrom] at h
      split at h
      · next hc => exact List.forall_mem_cons.2 ⟨hc, ih h⟩
      · exact absurd h (wordsFrom_ne_nil (by simp))

theorem words_strip (text : List Char) : words (strip text) = words text := by
  obtain ⟨lead, trail, hlead, htrail, htext⟩ := exists_strip text
  conv_rhs => rw [htext, words_blank_append hlead, words_append_blank htrail]

/-- The last word of a text ends with the last character, unless that is a blank. -/
theorem exists_last_wordsFrom {c : Char} (hc : isBlank c = false) (text : List Char) :
    ∃ ws w, wordsFrom word (text ++ [c]) = ws ++ [w ++ [c]] := by
  induction text generalizing word with
  | nil => exact ⟨[], word, by simp [wordsFrom, hc]⟩
  | cons x text ih =>
      rw [List.cons_append, wordsFrom]
      split
      · obtain ⟨ws, w, hlast⟩ := @ih []
        split
        · exact ⟨ws, w, hlast⟩
        · exact ⟨word :: ws, w, by rw [hlast, List.cons_append]⟩
      · exact ih

/-! ## Parts of texts -/

/-- Whether a part of a text is made of words, with blanks before each one. -/
def Led (front : List Char) (ws : List (List Char)) : Prop :=
  ∀ rest, Breaks rest → Breaks (front ++ rest) ∧ words (front ++ rest) = ws ++ words rest

theorem led_word (hblanks : Blank blanks) (hne : blanks ≠ []) (hword : Unbroken word) :
    Led (blanks ++ word) [word] := by
  intro rest hrest
  rw [List.append_assoc, words_blank_append hblanks, words_append hword hrest]
  obtain ⟨c, more, rfl⟩ := List.exists_cons_of_ne_nil hne
  refine ⟨fun x hx => hblanks x ?_, rfl⟩
  obtain rfl := Option.some.inj hx
  exact List.mem_cons_self

theorem Led.append {front back : List Char} {ws vs : List (List Char)} (hfront : Led front ws)
    (hback : Led back vs) :
    Led (front ++ back) (ws ++ vs) := by
  intro rest hrest
  obtain ⟨hbreaks, hwords⟩ := hback rest hrest
  obtain ⟨hbreaks', hwords'⟩ := hfront _ hbreaks
  rw [List.append_assoc, List.append_assoc, hwords', hwords]
  exact ⟨hbreaks', rfl⟩

end

end SqlLayout.Text
