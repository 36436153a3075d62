import Mathlib.Data.List.Forall2
import SqlLayout.Text.Basic

/-!
# Letters and digits

The characters that read as an ASCII letter when case is ignored.  They are identifier characters
and no blanks, and so are the digits that numbers are printed with.  The digits of every script are
identifier characters too.
-/

namespace SqlLayout.Text

theorem toNat_asciiLower {c : Char} :
    (asciiLower c).toNat = if 65 ≤ c.toNat ∧ c.toNat ≤ 90 then c.toNat + 32 else c.toNat := by
  have hcapital : ('A' ≤ c && c ≤ 'Z') = true ↔ 65 ≤ c.toNat ∧ c.toNat ≤ 90 := by
    simp [Char.le_def, UInt32.le_iff_toNat_le]
  rw [asciiLower]
  split
  · next h =>
      have hc := hcapital.1 h
      have hvalid : (c.toNat + 32).isValidChar := .inl (by omega)
      rw [if_pos hc]
      exact congrArg Char.toNat (dif_pos hvalid)
  · next h => rw [if_neg (mt hcapital.2 h)]

/-- The characters that read as a letter when case is ignored: the letters, and four more. -/
theorem code_of_sameLetter {letter c : Char} (hletter : isAsciiLetter letter = true)
    (h : sameLetter letter c = true) : (97 ≤ c.toNat ∧ c.toNat ≤ 122) ∨
    (65 ≤ c.toNat ∧ c.toNat ≤ 90) ∨
      c.toNat = 0x130 ∨ c.toNat = 0x131 ∨ c.toNat = 0x17f ∨ c.toNat = 0x212a := by
  have hlower := @toNat_asciiLower letter
  have hlower' := @toNat_asciiLower c
  have hcode : 97 ≤ letter.toNat ∧ letter.toNat ≤ 122 ∨ 65 ≤ letter.toNat ∧ letter.toNat ≤ 90 := by
    simpa [isAsciiLetter, Char.le_def, UInt32.le_iff_toNat_le] using hletter
  obtain h | h := Bool.or_eq_true_iff.1 h
  · rw [eq_of_beq h] at hlower'
    split at hlower <;> split at hlower' <;> omega
  · unfold caseVariants at h
    split at h <;> simp at h <;> omega

theorem isBlank_of_sameLetter {letter c : Char} (hletter : isAsciiLetter letter = true)
    (h : sameLetter letter c = true) : isBlank c = false := by
  have hcode := code_of_sameLetter hletter h
  refine Bool.eq_false_iff.2 fun hblank => ?_
  simp only [isBlank, blankRanges, Ranges.has, List.any_cons, List.any_nil, Bool.or_eq_true,
    Bool.and_eq_true, decide_eq_true_eq, Bool.false_eq_true, or_false] at hblank
  omega

theorem isWord_of_sameLetter {letter c : Char} (hletter : isAsciiLetter letter = true)
    (h : sameLetter letter c = true) : isWord c = true := by
  have hbeyond : ([0x130, 0x131, 0x17f, 0x212a].all fun code => wordRanges.has code) = true := by
    decide +kernel
  have hascii : (97 ≤ c.toNat ∧ c.toNat ≤ 122) ∨ (65 ≤ c.toNat ∧ c.toNat ≤ 90) →
      isAsciiLetter c = true := by
    intro hcode
    simpa [isAsciiLetter, Char.le_def, UInt32.le_iff_toNat_le] using hcode
  rw [isWord]
  obtain hcode | hcode | hcode := code_of_sameLetter hletter h
  · rw [if_pos (by omega), hascii (.inl hcode)]
    rfl
  · rw [if_pos (by omega), hascii (.inr hcode)]
    rfl
  · rw [if_neg (by omega)]
    refine List.all_eq_true.1 hbeyond _ ?_
    simpa using hcode

/-- The underscore is in one case only. -/
theorem eq_of_sameLetter_underscore {c : Char} (h : sameLetter '_' c = true) : c = '_' := by
  have hcode := @toNat_asciiLower c
  have hlower : asciiLower c = '_' := by
    simpa [sameLetter, caseVariants, show asciiLower '_' = '_' by decide] using h
  rw [hlower, show ('_' : Char).toNat = 95 by decide] at hcode
  refine Char.toNat_inj.1 ?_
  rw [show ('_' : Char).toNat = 95 by decide]
  split at hcode <;> omega

/-- The characters with a given upper-case form are this form and its lower-case one. -/
theorem eq_of_asciiUpper {c upper : Char} (h : asciiUpper c = upper) :
    c = upper ∨ c = asciiLower upper := by
  rw [asciiUpper] at h
  split at h
  · next hlower =>
      have hcode : 97 ≤ c.toNat ∧ c.toNat ≤ 122 := by
        simpa [Char.le_def, UInt32.le_iff_toNat_le] using hlower
      have hvalid : (c.toNat - 32).isValidChar := .inl (by omega)
      have hupper : upper.toNat = c.toNat - 32 := h ▸ congrArg Char.toNat (dif_pos hvalid)
      refine .inr (Char.toNat_inj.1 ?_)
      rw [toNat_asciiLower, if_pos (by omega)]
      omega
  · exact .inl h

theorem sameLetter_of_asciiUpper {c upper : Char} (h : asciiUpper c = upper) :
    sameLetter upper c = true := by
  obtain rfl | rfl := eq_of_asciiUpper h
  · simp [sameLetter]
  · have hlower : asciiLower (asciiLower upper) = asciiLower upper := by
      refine Char.toNat_inj.1 ?_
      have hcode := @toNat_asciiLower upper
      rw [toNat_asciiLower]
      split at hcode <;> split <;> omega
    simp [sameLetter, hlower]

/-- The full upper-case form of an ASCII text is its ASCII one. -/
theorem upper_eq_map {word : List Char} (h : ∀ c ∈ word, c.toNat < 128) :
    upper word = word.map asciiUpper := by
  induction word with
  | nil => rfl
  | cons c word ih =>
      obtain ⟨hc, hword⟩ := List.forall_mem_cons.1 h
      rw [upper, List.flatMap_cons, upperChar, if_pos hc]
      exact congrArg (asciiUpper c :: ·) (ih hword)

/-- What holds of every character that reads as one of some letters holds of a word spelled with
them. -/
theorem forall_mem_of_letters {letters word : List Char} {p : Char → Prop}
    (h : List.Forall₂ (fun letter c => sameLetter letter c = true) letters word)
    (hp : ∀ letter ∈ letters, ∀ c, sameLetter letter c = true → p c) : ∀ c ∈ word, p c := by
  induction h with
  | nil => simp
  | cons hsame _ ih =>
      obtain ⟨hletter, hletters⟩ := List.forall_mem_cons.1 hp
      exact List.forall_mem_cons.2 ⟨hletter _ hsame, ih hletters⟩

/-! ## Digits of numbers -/

/-- The digits of a script are ten in a row. -/
theorem code_of_isDigit {c : Char} (h : isDigit c = true) :
    ∃ first ∈ 48 :: decimalZeros, first ≤ c.toNat ∧ c.toNat < first + 10 := by
  rw [isDigit, digitValue?] at h
  split at h
  · split at h
    · next hdigit =>
        have hcode : 48 ≤ c.toNat ∧ c.toNat ≤ 57 := by
          simpa [isAsciiDigit, Char.le_def, UInt32.le_iff_toNat_le] using hdigit
        exact ⟨48, List.mem_cons_self, by omega, by omega⟩
    · cases h
  · rw [Option.isSome_map] at h
    obtain ⟨first, hfind⟩ := Option.isSome_iff_exists.1 h
    exact ⟨first, List.mem_cons_of_mem _
      (List.mem_of_find?_eq_some hfind), by simpa using List.find?_some hfind⟩

theorem isWord_of_isDigit {c : Char} (h : isDigit c = true) : isWord c = true := by
  have hbeyond : (decimalZeros.all fun first => Nat.ble 128 first && wordRanges.any fun range =>
      range.1.ble first && (first + 9).ble range.2) = true := by decide +kernel
  obtain ⟨first, hfirst, hlow, hhigh⟩ := code_of_isDigit h
  rw [isWord]
  obtain rfl | hfirst := List.mem_cons.1 hfirst
  · have hdigit : isAsciiDigit c = true := by
      have hcode : 48 ≤ c.toNat ∧ c.toNat ≤ 57 := by omega
      simpa [isAsciiDigit, Char.le_def, UInt32.le_iff_toNat_le] using hcode
    rw [if_pos (by omega), hdigit, Bool.or_true, Bool.true_or]
  · have hrange := List.all_eq_true.1 hbeyond first hfirst
    simp only [Bool.and_eq_true, Nat.ble_eq, List.any_eq_true] at hrange
    obtain ⟨hascii, range, hmem, hstart, hend⟩ := hrange
    rw [if_neg (by omega)]
    exact Ranges.has_iff.2 ⟨range, hmem, by omega, by omega⟩

/-- A number is printed with the ASCII digits. -/
theorem code_of_toString (number : Nat) :
    ∀ c ∈ (toString number).toList, 48 ≤ c.toNat ∧ c.toNat ≤ 57 := by
  intro c hc
  have hdigit : c.isDigit = true := by
    refine Nat.isDigit_of_mem_toDigits (b := 10) (n := number) (by decide) (by decide) ?_
    simpa [toString, Nat.repr] using hc
  exact Char.isDigit_iff_toNat.1 hdigit

theorem isWord_of_toString (number : Nat) : ∀ c ∈ (toString number).toList, isWord c = true := by
  intro c hc
  obtain ⟨hlow, hhigh⟩ := code_of_toString number c hc
  have hdigit : isAsciiDigit c = true := by
    simpa [isAsciiDigit, Char.le_def, UInt32.le_iff_toNat_le] using ⟨hlow, hhigh⟩
  rw [isWord, if_pos (by omega), hdigit, Bool.or_true, Bool.true_or]

end SqlLayout.Text
