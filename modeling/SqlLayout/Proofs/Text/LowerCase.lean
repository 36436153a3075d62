import Mathlib.Data.List.Basic
import SqlLayout.Proofs.Text.Case

/-!
# Lower case

Lower case makes no ASCII characters but letters, and it leaves no character out.  So a text in
lower case has only the blanks, signs and digits of the text itself, and it begins with one of them
only where the text does.
-/

namespace SqlLayout.Text

/-- The ASCII letters that lower case maps. -/
def asciiCapitals : CaseRun :=
  { first := 65, last := 90, step := 1, offset := 32 }

/-- The runs of the code points that lower case maps to. -/
def lowerTargets : List CaseRun :=
  mapTargets lowerExpansions (asciiCapitals :: lowerRuns)

/-- Whether a run holds code points of characters only, and no ASCII ones but letters. -/
def CaseRun.lettered (run : CaseRun) : Bool :=
  ((0xD800, 0xDFFF) :: asciiMarks).all (fun range => run.apart (.ofRange range)) &&
    run.last < 0x110000

theorem first_lowerRuns : ((asciiCapitals :: lowerRuns).all fun run => 0 ≤ run.first + run.offset) =
    true := by
  decide

theorem ne_nil_lowerExpansions : (lowerExpansions.all fun entry => !entry.2.isEmpty) = true := by
  decide

theorem lettered_lowerTargets : (lowerTargets.all fun run => run.lettered) = true := by
  decide

theorem lowerTargets_of_lowerRuns {run : CaseRun} (h : run ∈ mapTargets lowerExpansions lowerRuns) :
    run ∈ lowerTargets :=
  (List.append_subset.2 ⟨fun _ hrun => List.mem_append_left _ (List.mem_cons_of_mem _ hrun),
    List.subset_append_right _ _⟩) h

/-! ## Characters -/

section

variable {c d : Char}

theorem asciiCapitals_has : asciiCapitals.has c.toNat = (decide ('A' ≤ c) && decide (c ≤ 'Z')) := by
  rw [Bool.eq_iff_iff, CaseRun.has_iff]
  simp [asciiCapitals, Nat.mod_one, Char.le_def, UInt32.le_iff_toNat_le]

/-- A lettered run holds the code points of characters that are no ASCII marks. -/
theorem not_asciiMark_of_has {run : CaseRun} {code : Nat} (h : run.lettered = true)
    (hcode : run.has code = true) :
    asciiMarks.has (Char.ofNat code).toNat = false := by
  obtain ⟨hapart, hbound⟩ := Bool.and_eq_true_iff.1 h
  have hrange (range : Nat × Nat) (hmem : range ∈ (0xD800, 0xDFFF) :: asciiMarks) :
      ¬(range.1 ≤ code ∧ code ≤ range.2) := by
    have hhas := CaseRun.has_eq_false (List.all_eq_true.1 hapart range hmem) hcode
    exact mt CaseRun.has_ofRange.2 (Bool.eq_false_iff.1 hhas)
  have hvalid : code.isValidChar := by
    have hsurrogate := hrange _ List.mem_cons_self
    have hle := (CaseRun.has_iff.1 hcode).2.1
    have hlast := of_decide_eq_true hbound
    simp only [Nat.isValidChar]
    omega
  have hcodeOf : (Char.ofNat code).toNat = code := congrArg Char.toNat (dif_pos hvalid)
  refine Bool.eq_false_iff.2 fun hmark => ?_
  obtain ⟨range, hmem, hin⟩ := Ranges.has_iff.1 hmark
  rw [hcodeOf] at hin
  exact hrange range (List.mem_cons_of_mem _ hmem) hin

/-- Lower case leaves a character as it is, or maps it to characters of the targets. -/
theorem lowerChar_targets (c : Char) : lowerChar c = [c] ∨ lowerChar c ≠ [] ∧ ∀ d ∈ lowerChar c,
    ∃ code, d = Char.ofNat code ∧ ∃ target ∈ lowerTargets, target.has code = true := by
  rw [lowerChar]
  split
  · rw [← asciiCapitals_has]
    cases hascii : asciiCapitals.has c.toNat with
    | false => exact .inl rfl
    | true =>
        have htarget := image_mem_mapTargets lowerExpansions first_lowerRuns
          List.mem_cons_self hascii
        have hcode : ((c.toNat : Int) + asciiCapitals.offset).toNat = c.toNat + 32 := by
          simp only [asciiCapitals]
          omega
        rw [hcode] at htarget
        exact .inr ⟨by simp, List.forall_mem_singleton.2 ⟨_, rfl, htarget⟩⟩
  · have hruns := (List.all_cons ▸ first_lowerRuns : (_ && _) = true)
    refine (mapChar_targets ne_nil_lowerExpansions (Bool.and_eq_true_iff.1 hruns).2 c).imp_right ?_
    refine And.imp_right fun h d hd => ?_
    obtain ⟨code, hcode, target, htarget, hhas⟩ := h d hd
    exact ⟨code, hcode, target, lowerTargets_of_lowerRuns htarget, hhas⟩

theorem lowerChar_ne_nil (c : Char) : lowerChar c ≠ [] := by
  obtain hself | ⟨hne, -⟩ := lowerChar_targets c
  · simp [hself]
  · exact hne

/-- Lower case makes no ASCII character but letters. -/
theorem eq_of_mem_lowerChar (h : d ∈ lowerChar c) (hd : asciiMarks.has d.toNat = true) : d = c := by
  obtain hself | ⟨-, htargets⟩ := lowerChar_targets c
  · simpa [hself] using h
  · obtain ⟨code, rfl, target, hmem, hhas⟩ := htargets d h
    have hnot := not_asciiMark_of_has (List.all_eq_true.1 lettered_lowerTargets target hmem) hhas
    exact absurd hd (Bool.eq_false_iff.1 hnot)

end

/-! ## Texts -/

/-- The lower-case form of a character within a text. -/
def lowerForm (before : List Char) (c : Char) (rest : List Char) : List Char :=
  if c == 'Σ' then [lowerSigma before rest] else lowerChar c

theorem lowerForm_ne_nil (before : List Char) (c : Char) (rest : List Char) :
    lowerForm before c rest ≠ [] := by
  rw [lowerForm]
  split
  · exact List.cons_ne_nil _ _
  · exact lowerChar_ne_nil c

theorem eq_of_mem_lowerForm {before rest : List Char} {c d : Char} (h : d ∈ lowerForm before c rest)
    (hd : asciiMarks.has d.toNat = true) : d = c := by
  rw [lowerForm] at h
  split at h
  · obtain rfl := List.mem_singleton.1 h
    rw [lowerSigma] at hd
    split at hd <;> exact absurd hd (by decide)
  · exact eq_of_mem_lowerChar h hd

section

variable {text : List Char} {mark : Char}

theorem mem_of_mem_lowerFrom {before : List Char} (h : mark ∈ lowerFrom before text)
    (hmark : asciiMarks.has mark.toNat = true) : mark ∈ text := by
  induction text generalizing before with
  | nil => exact absurd h List.not_mem_nil
  | cons c rest ih =>
      obtain hform | hrest := List.mem_append.1 h
      · exact eq_of_mem_lowerForm hform hmark ▸ List.mem_cons_self
      · exact List.mem_cons_of_mem c (ih hrest)

/-- A text in lower case has only the ASCII marks of the text. -/
theorem mem_of_mem_lower (h : mark ∈ lower text) (hmark : asciiMarks.has mark.toNat = true) :
    mark ∈ text :=
  mem_of_mem_lowerFrom h hmark

theorem lower_ne_nil (h : text ≠ []) : lower text ≠ [] := by
  obtain ⟨c, rest, rfl⟩ := List.exists_cons_of_ne_nil h
  exact fun hnil => lowerForm_ne_nil [] c rest (List.append_eq_nil_iff.1 hnil).1

/-- A text in lower case begins with an ASCII mark only when the text does. -/
theorem head_of_head_lower (h : (lower text).head? = some mark)
    (hmark : asciiMarks.has mark.toNat = true) :
    text.head? = some mark := by
  cases text with
  | nil => exact h
  | cons c rest =>
      have hform : (lowerForm [] c rest).head? = some mark := by
        rwa [lower, lowerFrom, ← lowerForm,
          List.head?_append_of_ne_nil _ (lowerForm_ne_nil [] c rest)] at h
      exact congrArg some (eq_of_mem_lowerForm (List.mem_of_head? hform) hmark).symm

/-- A text in upper case has only the ASCII marks of the text. -/
theorem mem_of_mem_upper (h : mark ∈ upper text) (hmark : asciiMarks.has mark.toNat = true) :
    mark ∈ text := by
  obtain ⟨c, hc, hmem⟩ := List.mem_flatMap.1 h
  exact (eq_of_mem_upperChar hmem hmark).1 ▸ hc

/-- A text in upper case begins with an ASCII mark only when the text does. -/
theorem head_of_head_upper (h : (upper text).head? = some mark)
    (hmark : asciiMarks.has mark.toNat = true) :
    text.head? = some mark := by
  cases text with
  | nil => exact h
  | cons c rest =>
      rw [upper, List.flatMap_cons, List.head?_append_of_ne_nil _ (upperChar_ne_nil c)] at h
      exact congrArg some (eq_of_mem_upperChar (List.mem_of_head? h) hmark).1.symm

end

end SqlLayout.Text
