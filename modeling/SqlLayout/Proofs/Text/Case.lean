import SqlLayout.Text.Basic

/-!
# Upper case

Upper case maps to characters that it leaves as they are, and never to a blank or a mark.  The
tables are judged run by run, since a run maps to a run.
-/

namespace SqlLayout.Text

/-! ## Runs -/

namespace CaseRun

/-- Whether a run holds a code point. -/
def has (run : CaseRun) (code : Nat) : Bool :=
  run.first ≤ code && code ≤ run.last && (code - run.first) % run.step == 0

/-- The run of the code points that a run maps to. -/
def image (run : CaseRun) : CaseRun :=
  { first := (run.first + run.offset).toNat, last := (run.last + run.offset).toNat,
    step := run.step, offset := 0 }

/-- The run of the code points of a closed range. -/
def ofRange (range : Nat × Nat) : CaseRun :=
  { first := range.1, last := range.2, step := 1, offset := 0 }

/-- Whether two runs are seen to have no code point in common: one ends before the other, or they
take turns. -/
def apart (a b : CaseRun) : Bool :=
  a.last.blt b.first || b.last.blt a.first ||
    b.step == 2 && (a.step == 2 || a.first == a.last) && (a.first + b.first) % 2 == 1

theorem has_iff {run : CaseRun} {code : Nat} :
    run.has code = true ↔ run.first ≤ code ∧ code ≤ run.last ∧
      (code - run.first) % run.step = 0 := by
  simp [has, and_assoc]

theorem has_eq_false {a b : CaseRun} {code : Nat} (h : a.apart b = true) (ha : a.has code = true) :
    b.has code = false := by
  refine Bool.eq_false_iff.2 fun hb => ?_
  obtain ⟨hfirst, hlast, hstep⟩ := has_iff.1 ha
  obtain ⟨hfirst', hlast', hstep'⟩ := has_iff.1 hb
  simp only [apart, Bool.and_eq_true, Bool.or_eq_true, Nat.blt_eq, beq_iff_eq] at h
  obtain (h | h) | ⟨⟨htwo, hown⟩, hturn⟩ := h
  · omega
  · omega
  · rw [htwo] at hstep'
    obtain htwo | hsingle := hown
    · rw [htwo] at hstep
      omega
    · omega

theorem has_ofRange {range : Nat × Nat} {code : Nat} :
    (ofRange range).has code = true ↔ range.1 ≤ code ∧ code ≤ range.2 := by
  rw [has_iff]
  simp [ofRange, Nat.mod_one]

theorem has_image {run : CaseRun} {code : Nat} (h : run.has code = true)
    (hfirst : 0 ≤ run.first + run.offset) :
    run.image.has (code + run.offset).toNat = true := by
  obtain ⟨hle, hlast, hstep⟩ := has_iff.1 h
  have hsame : (code + run.offset).toNat - (run.first + run.offset).toNat = code - run.first := by
    omega
  refine has_iff.2 ⟨?_, ?_, ?_⟩
  · simp only [image]
    omega
  · simp only [image]
    omega
  · simp only [image]
    rwa [hsame]

end CaseRun

/-! ## The tables -/

/-- The ASCII letters that upper case maps. -/
def asciiRun : CaseRun :=
  { first := 97, last := 122, step := 1, offset := -32 }

/-- The characters besides blanks that separate parts of a text, or open and close literals and
comments. -/
def marks : List Char :=
  [',', ';', '\x27', '\x22', '\x60', '-', '*', '/', '\\']

/-- The code points of blanks, of marks and of no character. -/
def separating : Ranges :=
  blankRanges ++ marks.map (fun c => (c.toNat, c.toNat)) ++ [(0xD800, 0xDFFF)]

/-- The code points that upper case maps, and those of blanks, of marks and of no character. -/
def unsettled : List CaseRun :=
  asciiRun :: upperRuns ++ upperExpansions.map (fun entry => CaseRun.ofRange (entry.1, entry.1)) ++
    separating.map CaseRun.ofRange

/-- Whether upper case maps to no code point of a run's kind again. -/
def CaseRun.settled (run : CaseRun) : Bool :=
  unsettled.all run.apart && run.last < 0x110000

/-- The runs of the code points that upper case maps to. -/
def targets : List CaseRun :=
  (asciiRun :: upperRuns).map CaseRun.image ++
    upperExpansions.flatMap fun entry => entry.2.map fun code => CaseRun.ofRange (code, code)

/-- The ASCII code points that are no letters. -/
def asciiMarks : Ranges :=
  [(0, 64), (91, 96), (123, 127)]

/-- Ranges of code points next to each other, in which few runs lie. -/
def blocks : Ranges :=
  [(0, 0xFF), (0x100, 0x17F), (0x180, 0x24F), (0x250, 0x36F), (0x370, 0x3FF), (0x400, 0x5FF),
    (0x600, 0x1DFF),
   (0x1E00, 0x1EFF), (0x1F00, 0x1FFF), (0x2000, 0x2C7F), (0x2C80, 0xA63F), (0xA640, 0xA7FF),
   (0xA800, 0xFAFF), (0xFB00, 0xFFFF), (0x10000, 0x10FFFF)]

/-- Whether a run reaches into a range of code points. -/
def CaseRun.meets (range : Nat × Nat) (run : CaseRun) : Bool :=
  range.1.ble run.last && run.first.ble range.2

/-- What is checked of the tables run by run. -/
theorem checked_runs : ((asciiRun :: upperRuns).all fun run => 0 ≤ run.first + run.offset) = true ∧
    (upperExpansions.all fun entry => !entry.2.isEmpty) = true ∧
    ((targets ++ unsettled).all fun run => run.first.ble run.last) = true ∧
    (targets.all fun run => run.last < 0x110000) = true ∧
    (blocks.all fun block => (targets.filter (·.meets block)).all fun run =>
      (unsettled.filter (·.meets block)).all run.apart) = true ∧
    (targets.all fun run => asciiMarks.all fun range => run.apart (.ofRange range)) = true := by
  decide +kernel

theorem first_runs : ((asciiRun :: upperRuns).all fun run => 0 ≤ run.first + run.offset) = true :=
  checked_runs.1

theorem ne_nil_expansions : (upperExpansions.all fun entry => !entry.2.isEmpty) = true :=
  checked_runs.2.1

theorem ordered_runs : ((targets ++ unsettled).all fun run => run.first.ble run.last) = true :=
  checked_runs.2.2.1

theorem last_targets : (targets.all fun run => run.last < 0x110000) = true :=
  checked_runs.2.2.2.1

theorem apart_blocks : (blocks.all fun block => (targets.filter (·.meets block)).all fun run =>
    (unsettled.filter (·.meets block)).all run.apart) = true :=
  checked_runs.2.2.2.2.1

theorem exists_block {code : Nat} (h : code < 0x110000) :
    ∃ block ∈ blocks, block.1 ≤ code ∧ code ≤ block.2 := by
  rw [← Ranges.has_iff]
  simp only [Ranges.has, blocks, List.any_cons, List.any_nil, Bool.or_eq_true, Bool.and_eq_true,
    decide_eq_true_eq]
  omega

/-- Runs that overlap are judged in a block that both reach into. -/
theorem apart_of_mem {run other : CaseRun} (hrun : run ∈ targets) (hother : other ∈ unsettled) :
    run.apart other = true := by
  have hordered := List.all_eq_true.1 ordered_runs
  have hfirst : run.first ≤ run.last :=
    Nat.le_of_ble_eq_true (hordered run (List.mem_append_left _ hrun))
  have hfirst' : other.first ≤ other.last :=
    Nat.le_of_ble_eq_true (hordered other (List.mem_append_right _ hother))
  have hlast : run.last < 0x110000 := of_decide_eq_true (List.all_eq_true.1 last_targets run hrun)
  by_cases hover : run.last < other.first ∨ other.last < run.first
  · simp [CaseRun.apart, hover]
  · obtain ⟨block, hblock, hlow, hhigh⟩ :=
      exists_block (show min run.last other.last < 0x110000 by omega)
    have hmeets : run.meets block = true := by
      rw [CaseRun.meets, Bool.and_eq_true, Nat.ble_eq, Nat.ble_eq]
      omega
    have hmeets' : other.meets block = true := by
      rw [CaseRun.meets, Bool.and_eq_true, Nat.ble_eq, Nat.ble_eq]
      omega
    have hall := List.all_eq_true.1 (List.all_eq_true.1 apart_blocks block hblock) run
      (List.mem_filter.2 ⟨hrun, hmeets⟩)
    exact List.all_eq_true.1 hall other (List.mem_filter.2 ⟨hother, hmeets'⟩)

theorem settled_targets : (targets.all fun run => run.settled) = true :=
  List.all_eq_true.2 fun run hrun => Bool.and_eq_true_iff.2
    ⟨List.all_eq_true.2 fun _ hother => apart_of_mem hrun hother,
      List.all_eq_true.1 last_targets run hrun⟩
theorem letter_targets :
    (targets.all fun run => asciiMarks.all fun range => run.apart (.ofRange range)) = true :=
  checked_runs.2.2.2.2.2

/-! ## Characters -/

/-- A character that upper case leaves as it is, and that is no blank and no mark. -/
structure Settled (c : Char) : Prop where
  upper_eq : upperChar c = [c]
  solid : isBlank c = false
  unmarked : c ∉ marks

theorem Settled.not_comma {c : Char} (h : Settled c) : c ≠ ',' := by
  rintro rfl
  exact h.unmarked (by decide)

theorem Settled.not_semicolon {c : Char} (h : Settled c) : c ≠ ';' := by
  rintro rfl
  exact h.unmarked (by decide)

section

variable {c d : Char}

theorem asciiRun_has : asciiRun.has c.toNat = (decide ('a' ≤ c) && decide (c ≤ 'z')) := by
  rw [Bool.eq_iff_iff, CaseRun.has_iff]
  simp [asciiRun, Nat.mod_one, Char.le_def, UInt32.le_iff_toNat_le]

theorem mapRun_eq (runs : List CaseRun) : mapRun runs c =
    match runs.find? (·.has c.toNat) with
    | some run => Char.ofNat (c.toNat + run.offset).toNat
    | none => c := rfl

theorem upperChar_eq_self (hascii : asciiRun.has c.toNat = false)
    (hexpansions : ∀ entry ∈ upperExpansions, entry.1 ≠ c.toNat)
    (hruns : ∀ run ∈ upperRuns, run.has c.toNat = false) : upperChar c = [c] := by
  rw [upperChar]
  split
  · rw [← asciiRun_has, hascii]
    rfl
  · have hlookup : upperExpansions.lookup c.toNat = none := by
      refine List.lookup_eq_none_iff.2 fun entry hentry => ?_
      simpa using (hexpansions entry hentry).symm
    have hfind : upperRuns.find? (·.has c.toNat) = none := by simpa using hruns
    rw [mapChar, hlookup, mapRun_eq, hfind]

theorem not_separating_of_has {run : CaseRun} {code : Nat} (h : run.settled = true)
    (hcode : run.has code = true) {range : Nat × Nat} (hmem : range ∈ separating) :
    ¬(range.1 ≤ code ∧ code ≤ range.2) := by
  obtain ⟨hapart, -⟩ := Bool.and_eq_true_iff.1 h
  have hrange : CaseRun.ofRange range ∈ unsettled :=
    List.mem_append_right _ (List.mem_map_of_mem hmem)
  have hhas := CaseRun.has_eq_false (List.all_eq_true.1 hapart _ hrange) hcode
  exact mt CaseRun.has_ofRange.2 (Bool.eq_false_iff.1 hhas)

theorem toNat_ofNat_of_has {run : CaseRun} {code : Nat} (h : run.settled = true)
    (hcode : run.has code = true) :
    (Char.ofNat code).toNat = code := by
  have hvalid : code.isValidChar := by
    have hmem : (0xD800, 0xDFFF) ∈ separating := by simp [separating]
    have hsurrogate := not_separating_of_has h hcode hmem
    have hle := (CaseRun.has_iff.1 hcode).2.1
    have hbound := of_decide_eq_true (Bool.and_eq_true_iff.1 h).2
    simp only [Nat.isValidChar]
    omega
  exact congrArg Char.toNat (dif_pos hvalid)

/-- The code points of a settled run are those of settled characters. -/
theorem settled_of_has {run : CaseRun} {code : Nat} (h : run.settled = true)
    (hcode : run.has code = true) :
    Settled (Char.ofNat code) := by
  obtain ⟨hapart, -⟩ := Bool.and_eq_true_iff.1 h
  have hnot (other : CaseRun) (hother : other ∈ unsettled) : other.has code = false :=
    CaseRun.has_eq_false (List.all_eq_true.1 hapart other hother) hcode
  have hrange (range : Nat × Nat) (hmem : range ∈ separating) :
      ¬(range.1 ≤ code ∧ code ≤ range.2) :=
    not_separating_of_has h hcode hmem
  have hcodeOf : (Char.ofNat code).toNat = code := toNat_ofNat_of_has h hcode
  refine ⟨upperChar_eq_self ?_ ?_ ?_, ?_, ?_⟩
  · rw [hcodeOf]
    exact hnot asciiRun (by simp [unsettled])
  · intro entry hentry hkey
    have hhas := hnot (.ofRange (entry.1, entry.1)) (by
      refine List.mem_append_left _ (List.mem_append_right _ ?_)
      exact List.mem_map_of_mem (f := fun entry => CaseRun.ofRange (entry.1, entry.1)) hentry)
    refine Bool.eq_false_iff.1 hhas (CaseRun.has_ofRange.2 ?_)
    omega
  · intro run hrun
    rw [hcodeOf]
    exact hnot run (by simp [unsettled, hrun])
  · refine Bool.eq_false_iff.2 fun hblank => ?_
    rw [isBlank, hcodeOf] at hblank
    obtain ⟨range, hmem, hin⟩ := Ranges.has_iff.1 hblank
    exact hrange range (List.mem_append_left _ (List.mem_append_left _ hmem)) hin
  · intro hmark
    have hmem := List.mem_map_of_mem (f := fun c : Char => (c.toNat, c.toNat)) hmark
    refine hrange _ (List.mem_append_left _ (List.mem_append_right _ hmem)) ?_
    rw [hcodeOf]
    exact ⟨Nat.le_refl _, Nat.le_refl _⟩

/-- The runs of the code points that a mapping with the given tables maps to. -/
def mapTargets (expansions : List (Nat × List Nat)) (runs : List CaseRun) : List CaseRun :=
  runs.map CaseRun.image ++ expansions.flatMap fun entry => entry.2.map fun code =>
    CaseRun.ofRange (code, code)

section

variable {expansions : List (Nat × List Nat)} {runs : List CaseRun}

theorem image_mem_mapTargets (expansions : List (Nat × List Nat))
    (hfirst : (runs.all fun run => 0 ≤ run.first + run.offset) = true) {run : CaseRun}
    {code : Nat} (h : run ∈ runs) (hcode : run.has code = true) :
    ∃ target ∈ mapTargets expansions runs, target.has (code + run.offset).toNat = true :=
  ⟨_, List.mem_append_left _ (List.mem_map_of_mem h),
    CaseRun.has_image hcode (of_decide_eq_true (List.all_eq_true.1 hfirst run h))⟩

/-- A mapping leaves a character as it is, or maps it to characters of the targets. -/
theorem mapChar_targets (hne : (expansions.all fun entry => !entry.2.isEmpty) = true)
    (hfirst : (runs.all fun run => 0 ≤ run.first + run.offset) = true) (c : Char) :
    mapChar expansions runs c = [c] ∨ mapChar expansions runs c ≠ [] ∧
      ∀ d ∈ mapChar expansions runs c,
      ∃ code, d = Char.ofNat code ∧ ∃ target ∈ mapTargets expansions runs,
        target.has code = true := by
  rw [mapChar]
  split
  · next codes hlookup =>
      have hentry : (c.toNat, codes) ∈ expansions := by
        obtain ⟨front, back, htable, -⟩ := List.lookup_eq_some_iff.1 hlookup
        exact htable ▸ List.mem_append_right _ List.mem_cons_self
      have hcodes := List.all_eq_true.1 hne _ hentry
      refine .inr ⟨by simpa using hcodes, List.forall_mem_map.2 fun code hcode => ⟨code, rfl, ?_⟩⟩
      have hown : (CaseRun.ofRange (code, code)).has code = true :=
        CaseRun.has_ofRange.2 ⟨Nat.le_refl _, Nat.le_refl _⟩
      refine ⟨_, List.mem_append_right _ (List.mem_flatMap.2 ⟨_, hentry, ?_⟩), hown⟩
      exact List.mem_map_of_mem (f := fun code => CaseRun.ofRange (code, code)) hcode
  · rw [mapRun_eq]
    split
    · next run hfind =>
        have hhas : run.has c.toNat = true :=
          List.find?_some (p := fun run : CaseRun => run.has c.toNat) hfind
        have htarget := image_mem_mapTargets expansions hfirst
          (List.mem_of_find?_eq_some hfind) hhas
        exact .inr ⟨by simp, List.forall_mem_singleton.2 ⟨_, rfl, htarget⟩⟩
    · exact .inl rfl

end

theorem targets_of_upperRuns {run : CaseRun} (h : run ∈ mapTargets upperExpansions upperRuns) :
    run ∈ targets :=
  (List.append_subset.2 ⟨fun _ hrun => List.mem_append_left _ (List.mem_cons_of_mem _ hrun),
    List.subset_append_right _ _⟩) h

/-- Upper case leaves a character as it is, or maps it to characters of the targets. -/
theorem upperChar_targets (c : Char) : upperChar c = [c] ∨ upperChar c ≠ [] ∧ ∀ d ∈ upperChar c,
    ∃ code, d = Char.ofNat code ∧ ∃ target ∈ targets, target.has code = true := by
  rw [upperChar]
  split
  · rw [← asciiRun_has]
    cases hascii : asciiRun.has c.toNat with
    | false => exact .inl rfl
    | true =>
        have htarget := image_mem_mapTargets upperExpansions first_runs List.mem_cons_self hascii
        have hcode : ((c.toNat : Int) + asciiRun.offset).toNat = c.toNat - 32 := by
          simp only [asciiRun]
          omega
        rw [hcode] at htarget
        exact .inr ⟨by simp, List.forall_mem_singleton.2 ⟨_, rfl, htarget⟩⟩
  · have hruns := (List.all_cons ▸ first_runs : (_ && _) = true)
    refine (mapChar_targets ne_nil_expansions (Bool.and_eq_true_iff.1 hruns).2 c).imp_right ?_
    refine And.imp_right fun h d hd => ?_
    obtain ⟨code, hcode, target, htarget, hhas⟩ := h d hd
    exact ⟨code, hcode, target, targets_of_upperRuns htarget, hhas⟩

/-- Upper case leaves a character as it is, or maps it to settled ones. -/
theorem upperChar_cases (c : Char) : upperChar c = [c] ∨ upperChar c ≠ [] ∧ ∀ d ∈ upperChar c,
    Settled d := by
  refine (upperChar_targets c).imp_right fun ⟨hne, htargets⟩ => ⟨hne, fun d hd => ?_⟩
  obtain ⟨code, rfl, target, hmem, hhas⟩ := htargets d hd
  exact settled_of_has (List.all_eq_true.1 settled_targets target hmem) hhas

/-- Upper case makes no ASCII character but letters. -/
theorem eq_of_mem_upperChar (h : d ∈ upperChar c) (hd : asciiMarks.has d.toNat = true) :
    d = c ∧ upperChar c = [c] := by
  obtain hself | ⟨-, htargets⟩ := upperChar_targets c
  · exact ⟨by simpa [hself] using h, hself⟩
  · obtain ⟨code, rfl, target, hmem, hhas⟩ := htargets d h
    rw [toNat_ofNat_of_has (List.all_eq_true.1 settled_targets target hmem) hhas] at hd
    obtain ⟨range, hrange, hin⟩ := Ranges.has_iff.1 hd
    have hapart := List.all_eq_true.1 (List.all_eq_true.1 letter_targets target hmem) range hrange
    have hnot := CaseRun.has_eq_false hapart hhas
    rw [CaseRun.has_ofRange.2 hin] at hnot
    cases hnot

theorem upperChar_mark (h : asciiMarks.has c.toNat = true) : upperChar c = [c] := by
  obtain ⟨range, hrange, hin⟩ := Ranges.has_iff.1 h
  have hcode : c.toNat < 128 ∧ asciiRun.has c.toNat = false := by
    simp only [asciiMarks, List.mem_cons, List.not_mem_nil, or_false] at hrange
    rw [Bool.eq_false_iff, Ne, CaseRun.has_iff, asciiRun]
    dsimp only
    obtain rfl | rfl | rfl := hrange <;> dsimp only at hin <;> omega
  rw [upperChar, if_pos hcode.1, ← asciiRun_has, hcode.2]
  rfl

theorem upperChar_ne_nil (c : Char) : upperChar c ≠ [] := by
  obtain h | ⟨h, -⟩ := upperChar_cases c
  · simp [h]
  · exact h

/-- A character of an upper-case form is settled, or it was there before. -/
theorem settled_or_eq (h : d ∈ upperChar c) : Settled d ∨ d = c ∧ upperChar c = [c] := by
  obtain hself | ⟨-, hsettled⟩ := upperChar_cases c
  · exact .inr ⟨by simpa [hself] using h, hself⟩
  · exact .inl (hsettled d h)

end

/-! ## Texts -/

section

variable {text : List Char}

theorem upper_eq_self (h : ∀ x ∈ text, upperChar x = [x]) : upper text = text := by
  induction text with
  | nil => rfl
  | cons c rest ih =>
      obtain ⟨hc, hrest⟩ := List.forall_mem_cons.1 h
      rw [upper, List.flatMap_cons, hc, List.singleton_append]
      exact congrArg (c :: ·) (ih hrest)

/-- Upper case is reached in one step. -/
theorem upper_upper (text : List Char) : upper (upper text) = upper text := by
  refine upper_eq_self fun d hd => ?_
  obtain ⟨c, -, hmem⟩ := List.mem_flatMap.1 hd
  obtain hsettled | ⟨rfl, hself⟩ := settled_or_eq hmem
  · exact hsettled.upper_eq
  · exact hself

theorem upper_ne_nil (h : text ≠ []) : upper text ≠ [] := by
  obtain ⟨c, rest, rfl⟩ := List.exists_cons_of_ne_nil h
  simp [upper, upperChar_ne_nil]

/-- What is true of settled characters stays true of a text in upper case. -/
theorem forall_mem_upper {p : Char → Prop} (hp : ∀ d, Settled d → p d) (h : ∀ x ∈ text, p x) :
    ∀ x ∈ upper text, p x := by
  intro d hd
  obtain ⟨c, hc, hmem⟩ := List.mem_flatMap.1 hd
  obtain hsettled | ⟨rfl, -⟩ := settled_or_eq hmem
  · exact hp d hsettled
  · exact h d hc

/-- A text in upper case has the same ASCII characters that are no letters. -/
theorem count_upper {mark : Char} (hmark : asciiMarks.has mark.toNat = true) (text : List Char) :
    (upper text).count mark = text.count mark := by
  induction text with
  | nil => rfl
  | cons c rest ih =>
      have hchar : (upperChar c).count mark = [c].count mark := by
        by_cases hmem : mark ∈ upperChar c
        · rw [(eq_of_mem_upperChar hmem hmark).2]
        · rw [List.count_eq_zero.2 hmem, List.count_singleton, if_neg]
          intro hc
          obtain rfl := eq_of_beq hc
          simp [upperChar_mark hmark] at hmem
      rw [upper, List.flatMap_cons, List.count_append, ← upper, ih, hchar, ← List.count_append,
        List.singleton_append]

end

end SqlLayout.Text
