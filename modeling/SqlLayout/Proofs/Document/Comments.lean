import SqlLayout.Document
import SqlLayout.Proofs.Placeholder.Trailing
import SqlLayout.Proofs.Text.Strip

/-!
# Comment lines in front of a statement

The pattern of the comment lines is matched by a plain reader: blanks within the line, two dashes,
the rest of the line, and all blanks after it, again and again.  What is left is the statement, so
whatever is put after a statement stays after it.

## Implementation notes

Every part of the pattern takes as much as it can and is never asked for less, since what comes
after it either goes on at once or could not have gone on earlier.
-/

namespace SqlLayout.Document

open Pattern (Captures Place placeAt run run_many_one run_one_cons run_one_nil spanEnd spanEnd_le)

/-- A blank within a line. -/
def isLineBlank (c : Char) : Bool :=
  c == ' ' || c == '\t'

theorem isBlank_of_lineBlank {c : Char} (h : isLineBlank c = true) : Text.isBlank c = true := by
  obtain hspace | htab := Bool.or_eq_true_iff.1 h
  · rw [eq_of_beq hspace]
    decide
  · rw [eq_of_beq htab]
    decide

/-- The rest of a text after a comment line at its start and the blanks after that. -/
def pastComment? (text : List Char) : Option (List Char) :=
  match text.dropWhile isLineBlank with
  | '-' :: '-' :: rest => some ((rest.dropWhile (· != '\n')).dropWhile Text.isBlank)
  | _ => none

theorem length_pastComment {text rest : List Char} (h : pastComment? text = some rest) :
    rest.length < text.length := by
  unfold pastComment? at h
  split at h
  · next after hdashes =>
      obtain rfl := Option.some.inj h
      have hline := (List.dropWhile_suffix (l := text) isLineBlank).length_le
      have hafter := (List.dropWhile_suffix (l := after) (· != '\n')).length_le
      have hblanks := (List.dropWhile_suffix (l := after.dropWhile (· != '\n'))
        Text.isBlank).length_le
      rw [hdashes, List.length_cons, List.length_cons] at hline
      omega
  · cases h

/-- The rest of a text after all comment lines at its start. -/
def pastComments (text : List Char) : List Char :=
  match _h : pastComment? text with
  | some rest => pastComments rest
  | none => text
termination_by text.length
decreasing_by exact length_pastComment _h

/-- No blank is left in front of what stands after a comment line. -/
theorem head_pastComment {text rest : List Char} (h : pastComment? text = some rest) :
    ∀ x ∈ rest.head?, Text.isBlank x = false := by
  unfold pastComment? at h
  split at h
  · next after hdashes =>
      obtain rfl := Option.some.inj h
      intro x hx
      have hnot := List.head?_dropWhile_not Text.isBlank (after.dropWhile (· != '\n'))
      rwa [hx] at hnot
  · cases h

theorem pastComments_some {text rest : List Char} (h : pastComment? text = some rest) :
    pastComments text = pastComments rest := by
  rw [pastComments]
  split
  · next other hother =>
      obtain rfl := Option.some.inj (h.symm.trans hother)
      rfl
  · next hnone =>
      rw [h] at hnone
      cases hnone

theorem pastComments_none {text : List Char} (h : pastComment? text = none) :
    pastComments text = text := by
  rw [pastComments]
  split
  · next rest hrest =>
      rw [h] at hrest
      cases hrest
  · rfl

/-! ## The pattern -/

/-- One comment line with the blanks after it. -/
def commentLine : Pattern :=
  .all [.many (.one fun c => c == ' ' || c == '\t'), .char '-', .char '-',
    .many (.one (· != '\n')), .alt (.char '\n') .atEnd, .blanks]

section

variable {text : List Char} {i : Nat} {c : Captures}
  {next : Place → Captures → Option (Nat × Captures)}

/-- The end of a line with the blanks after it. -/
def lineEnd : List Pattern :=
  [.alt (.char '\n') .atEnd, .blanks]

theorem run_lineEnd (hnext : ∀ j, i ≤ j → j ≤ text.length → (next (placeAt text j) c).isSome = true)
    (hi : i ≤ text.length) (hline : ∀ x ∈ (text.drop i).head?, x = '\n') :
    ∃ k, i ≤ k ∧ k ≤ text.length ∧ text.drop k = (text.drop i).dropWhile Text.isBlank ∧
      run text.length (.all lineEnd) (placeAt text i) c next = next (placeAt text k) c := by
  have hrun : run text.length (.all lineEnd) (placeAt text i) c next =
      ((run text.length (.one (· == '\n')) (placeAt text i) c fun place captures =>
        run text.length (.many (.one Text.isBlank)) place captures next) <|>
      run text.length .atEnd (placeAt text i) c fun place captures =>
        run text.length (.many (.one Text.isBlank)) place captures next) := rfl
  rw [hrun]
  cases hrest : text.drop i with
  | nil =>
      have hspan : spanEnd text Text.isBlank i = i := by simp [spanEnd, hrest]
      have hblanks : run text.length (.many (.one Text.isBlank)) (placeAt text i) c next =
          next (placeAt text i) c := by
        have hsome := hnext i (Nat.le_refl i) hi
        rw [← hspan] at hsome
        rw [run_many_one (.inl hsome), hspan]
      refine ⟨i, Nat.le_refl i, hi, by rw [hrest]; rfl, ?_⟩
      have hend : (placeAt text i).rest.isEmpty = true := by simp [placeAt, hrest]
      rw [run_one_nil hrest, run, hend, Bool.true_or, if_pos rfl, hblanks]
      simp
  | cons x rest =>
      obtain rfl : x = '\n' := hline x (by simp [hrest])
      obtain ⟨hx, hdrop⟩ := Pattern.drop_eq_cons hrest
      have hlt := (List.getElem?_eq_some_iff.1 hx).1
      have hle : spanEnd text Text.isBlank (i + 1) ≤ text.length := spanEnd_le Text.isBlank hlt
      have hstart : i + 1 ≤ spanEnd text Text.isBlank (i + 1) := Nat.le_add_right _ _
      have hsome := hnext (spanEnd text Text.isBlank (i + 1)) (by omega) hle
      refine ⟨spanEnd text Text.isBlank (i + 1), by omega, hle, ?_, ?_⟩
      · rw [Pattern.drop_spanEnd, hdrop, List.dropWhile_cons_of_pos (by decide)]
      · obtain ⟨found, hfound⟩ := Option.isSome_iff_exists.1 hsome
        rw [run_one_cons hrest, if_pos (beq_self_eq_true '\n'), run_many_one (.inl hsome), hfound]
        simp

/-- The rest of a line and the blanks after it are read to their end. -/
theorem run_line (hnext : ∀ j, i ≤ j → j ≤ text.length → (next (placeAt text j) c).isSome = true)
    (hi : i ≤ text.length) :
    ∃ k, i ≤ k ∧ k ≤ text.length ∧
      text.drop k = ((text.drop i).dropWhile (· != '\n')).dropWhile Text.isBlank ∧
      run text.length (.all (.many (.one (· != '\n')) :: lineEnd)) (placeAt text i) c next =
        next (placeAt text k) c := by
  have hend : text.drop (spanEnd text (· != '\n') i) = (text.drop i).dropWhile (· != '\n') :=
    Pattern.drop_spanEnd (· != '\n') i
  have hstart : i ≤ spanEnd text (· != '\n') i := Nat.le_add_right _ _
  have hhead : ∀ x ∈ (text.drop (spanEnd text (· != '\n') i)).head?, x = '\n' :=
    fun x hx => by simpa using Pattern.head_spanEnd (· != '\n') i x hx
  obtain ⟨k, hik, hk, hdrop, hrun⟩ :=
    run_lineEnd (fun j hj => hnext j (Nat.le_trans hstart hj)) (spanEnd_le _ hi) hhead
  refine ⟨k, Nat.le_trans hstart hik, hk, by rw [hdrop, hend], ?_⟩
  rw [← hrun]
  exact run_many_one (.inl
    ((congrArg Option.isSome hrun).trans (hnext k (Nat.le_trans hstart hik) hk)))

/-- The two dashes of a comment line with what is read after them. -/
def dashes (next : Place → Captures → Option (Nat × Captures)) (size : Nat) (place : Place)
    (captures : Captures) : Option (Nat × Captures) :=
  run size (.all (.char '-' :: .char '-' :: .many (.one (· != '\n')) :: lineEnd)) place
    captures next

theorem dashes_eq : dashes next text.length (placeAt text i) c =
    run text.length (.one (· == '-')) (placeAt text i) c fun place captures =>
      run text.length (.one (· == '-')) place captures fun place captures =>
        run text.length (.all (.many (.one (· != '\n')) :: lineEnd)) place captures next :=
  rfl

theorem dashes_some {rest : List Char} (hrest : text.drop i = '-' :: '-' :: rest) :
    dashes next text.length (placeAt text i) c =
      run text.length (.all (.many (.one (· != '\n')) :: lineEnd)) (placeAt text (i + 2)) c
        next := by
  rw [dashes_eq, run_one_cons hrest, if_pos (beq_self_eq_true '-'),
    run_one_cons (Pattern.drop_eq_cons hrest).2, if_pos (beq_self_eq_true '-')]

theorem dashes_none (hrest : ∀ rest, text.drop i ≠ '-' :: '-' :: rest) :
    dashes next text.length (placeAt text i) c = none := by
  rw [dashes_eq]
  cases hdrop : text.drop i with
  | nil => rw [run_one_nil hdrop]
  | cons x back =>
      rw [run_one_cons hdrop]
      split
      · next hx =>
          have hback := (Pattern.drop_eq_cons hdrop).2
          cases back with
          | nil => rw [run_one_nil hback]
          | cons y rest =>
              rw [run_one_cons hback, if_neg]
              intro hy
              exact hrest rest (by rw [hdrop, eq_of_beq hx, eq_of_beq hy])
      · rfl

/-- A comment line is read to its end, with all blanks after it. -/
theorem run_commentLine (next : Place → Captures → Option (Nat × Captures))
    (hnext : ∀ j, i < j → j ≤ text.length → (next (placeAt text j) c).isSome = true) :
    (pastComment? (text.drop i) = none ∧
      run text.length commentLine (placeAt text i) c next = none) ∨
    ∃ k, i < k ∧ k ≤ text.length ∧ pastComment? (text.drop i) = some (text.drop k) ∧
      run text.length commentLine (placeAt text i) c next = next (placeAt text k) c := by
  have hline : run text.length commentLine (placeAt text i) c next =
      run text.length (.many (.one isLineBlank)) (placeAt text i) c (dashes next text.length) := rfl
  have hdrop : text.drop (spanEnd text isLineBlank i) = (text.drop i).dropWhile isLineBlank :=
    Pattern.drop_spanEnd isLineBlank i
  have hstart : i ≤ spanEnd text isLineBlank i := Nat.le_add_right _ _
  rw [hline, pastComment?, ← hdrop]
  by_cases hdashes : ∃ rest, text.drop (spanEnd text isLineBlank i) = '-' :: '-' :: rest
  · obtain ⟨rest, hrest⟩ := hdashes
    have hafter := (Pattern.drop_eq_cons (Pattern.drop_eq_cons hrest).2).2
    have hlength := congrArg List.length hrest
    rw [List.length_drop, List.length_cons, List.length_cons] at hlength
    obtain ⟨k, hik, hk, hend, hrun⟩ := run_line (c := c) (i := spanEnd text isLineBlank i + 2)
      (fun j hj => hnext j (by omega)) (by omega)
    have hread : dashes next text.length (placeAt text (spanEnd text isLineBlank i)) c =
        next (placeAt text k) c := (dashes_some hrest).trans hrun
    refine .inr ⟨k, by omega, hk, ?_, ?_⟩
    · rw [hrest, hend, ← hafter]
      rfl
    · rw [← hread]
      exact run_many_one (.inl ((congrArg Option.isSome hread).trans (hnext k (by omega) hk)))
  · have hnone (j : Nat) (hj : ∀ rest, text.drop j ≠ '-' :: '-' :: rest) :
        dashes next text.length (placeAt text j) c = none := dashes_none hj
    have hend := hnone _ fun rest hrest => hdashes ⟨rest, hrest⟩
    refine .inl ⟨?_, ?_⟩
    · split
      · next rest hrest => exact absurd ⟨rest, hrest⟩ hdashes
      · rfl
    · rw [← hend]
      refine run_many_one (.inr fun j hij hj => hnone j fun rest hrest => ?_)
      obtain ⟨x, hx, hblank⟩ := Pattern.exists_of_lt_spanEnd hij hj
      obtain rfl : '-' = x := Option.some.inj ((Pattern.drop_eq_cons hrest).1.symm.trans hx)
      exact absurd hblank (by decide)

/-- All further comment lines are read, and the place after them is the end. -/
theorem repeat_commentLines (next : Place → Captures → Option (Nat × Captures)) {rounds : Nat}
    (hrounds : text.length - i ≤ rounds)
    (hnext : ∀ j, i ≤ j → j ≤ text.length → (next (placeAt text j) c).isSome = true)
    (hi : i ≤ text.length) :
    ∃ k, i ≤ k ∧ k ≤ text.length ∧ text.drop k = pastComments (text.drop i) ∧
      Pattern.repeatMany (run text.length commentLine) rounds (placeAt text i) c next =
        next (placeAt text k) c := by
  induction rounds generalizing i with
  | zero =>
      have hnil : text.drop i = [] := List.drop_eq_nil_of_le (by omega)
      refine ⟨i, Nat.le_refl i, hi, ?_, rfl⟩
      rw [hnil, pastComments_none (by rfl)]
  | succ rounds ih =>
      have hround (j : Nat) (hij : i < j) (hj : j ≤ text.length) :=
        ih (i := j) (by omega) (fun k hk => hnext k (by omega)) hj
      have hsome (j : Nat) (hij : i < j) (hj : j ≤ text.length) :
          (if (placeAt text i).pos < (placeAt text j).pos then
            Pattern.repeatMany (run text.length commentLine) rounds (placeAt text j) c next
          else none).isSome = true := by
        obtain ⟨k, hjk, hk, -, hrun⟩ := hround j hij hj
        rw [if_pos (Pattern.before_iff.2 hij), hrun]
        exact hnext k (by omega) hk
      rw [Pattern.repeatMany]
      obtain ⟨hnone, hrun⟩ | ⟨j, hij, hj, hline, hrun⟩ :=
        run_commentLine (fun place captures => if (placeAt text i).pos < place.pos then
          Pattern.repeatMany (run text.length commentLine) rounds place captures next else none)
            hsome
      · refine ⟨i, Nat.le_refl i, hi, (pastComments_none hnone).symm, ?_⟩
        rw [hrun]
        simp
      · obtain ⟨k, hjk, hk, hdrop, hmore⟩ := hround j hij hj
        refine ⟨k, by omega, hk, by rw [hdrop, pastComments_some hline], ?_⟩
        obtain ⟨found, hfound⟩ := Option.isSome_iff_exists.1 (hnext k (by omega) hk)
        rw [hrun, if_pos (Pattern.before_iff.2 hij), hmore, hfound]
        simp

/-! ## Splitting off the comment lines -/

/-- The comment lines that follow a first one. -/
def moreLines (size : Nat) (place : Place) (captures : Captures) : Option (Nat × Captures) :=
  run size (.many commentLine) place captures fun place captures => some (place.pos, captures)

theorem moreLines_eq (hi : i ≤ text.length) :
    ∃ k, k ≤ text.length ∧ text.drop k = pastComments (text.drop i) ∧
      moreLines text.length (placeAt text i) c = some (k, c) := by
  obtain ⟨k, -, hk, hdrop, hrun⟩ :=
    repeat_commentLines (c := c) (fun place captures => some (place.pos, captures))
      (Nat.le_refl (text.length - i)) (fun _ _ _ => rfl) hi
  exact ⟨k, hk, hdrop, hrun⟩

/-- The match of the comment lines ends where the statement begins. -/
theorem matchStart_commentLines (text : List Char) :
    (pastComment? text = none ∧ commentLines.matchStart text = none) ∨
    ∃ rest found, pastComment? text = some rest ∧ commentLines.matchStart text = some found ∧
      found.stop ≤ text.length ∧ text.drop found.stop = pastComments rest := by
  have hmatch : commentLines.matchStart text =
      (run text.length commentLine (placeAt text 0) [] (moreLines text.length)).map
        fun found => { start := 0, stop := found.1, captures := found.2 } := rfl
  have hsome (j : Nat) (_ : 0 < j) (hj : j ≤ text.length) :
      (moreLines text.length (placeAt text j) []).isSome = true := by
    obtain ⟨k, -, -, hrun⟩ := moreLines_eq (c := []) hj
    exact congrArg Option.isSome hrun
  rw [hmatch]
  obtain ⟨hnone, hrun⟩ | ⟨j, -, hj, hline, hrun⟩ := run_commentLine (moreLines text.length) hsome
  · exact .inl ⟨hnone, by rw [hrun]; rfl⟩
  · obtain ⟨k, hk, hdrop, hlast⟩ := moreLines_eq (c := []) hj
    refine .inr ⟨text.drop j, { start := 0, stop := k, captures := [] }, hline, ?_, hk, hdrop⟩
    rw [hrun, hlast]
    rfl

/-- A statement is what stands after its comment lines. -/
theorem splitComments_eq (statement : List Char) :
    splitComments statement =
      match pastComment? statement with
      | none => (none, statement)
      | some rest =>
        (some (Text.strip (statement.take (statement.length - (pastComments rest).length))),
          Text.strip (pastComments rest)) := by
  obtain ⟨hnone, hmatch⟩ | ⟨rest, found, hsome, hmatch, hstop, hdrop⟩ :=
    matchStart_commentLines statement
  · rw [splitComments, hmatch, hnone]
  · have hlength := congrArg List.length hdrop
    rw [List.length_drop] at hlength
    have hoffset : statement.length - (pastComments rest).length = found.stop := by omega
    rw [splitComments, hmatch, hsome]
    simp only [hdrop, hoffset]

end

/-! ## What follows a statement -/

open Source (modeAfter modeAfter_line)

theorem pastComment_suffix {text rest : List Char} (h : pastComment? text = some rest) :
    rest <:+ text := by
  unfold pastComment? at h
  split at h
  · next after hdashes =>
      obtain rfl := Option.some.inj h
      have hline := List.dropWhile_suffix (l := text) isLineBlank
      rw [hdashes] at hline
      exact ((List.dropWhile_suffix _).trans (List.dropWhile_suffix _)).trans
        ((List.suffix_append ['-', '-'] after).trans hline)
  · cases h

theorem pastComments_suffix (text : List Char) : pastComments text <:+ text := by
  fun_induction pastComments text with
  | case1 text rest h ih => exact ih.trans (pastComment_suffix h)
  | case2 text h => exact List.suffix_refl text

theorem getLast?_of_suffix {text rest : List Char} (h : rest <:+ text) (hrest : rest ≠ []) :
    rest.getLast? = text.getLast? := by
  obtain ⟨front, rfl⟩ := h
  rw [List.getLast?_append_of_ne_nil _ hrest]

/-- The statement after comment lines does not begin with a blank. -/
theorem head_pastComments {text : List Char} (hhead : ∀ x ∈ text.head?, Text.isBlank x = false) :
    ∀ x ∈ (pastComments text).head?, Text.isBlank x = false := by
  fun_induction pastComments text with
  | case1 text rest h ih => exact ih (head_pastComment h)
  | case2 text h => exact hhead

theorem pastComment_eq_none {text : List Char}
    (h : ∀ rest, text.dropWhile isLineBlank ≠ '-' :: '-' :: rest) : pastComment? text = none := by
  unfold pastComment?
  split
  · next rest hrest => exact absurd hrest (h rest)
  · rfl

theorem pastComment_of_not_mem {text : List Char} (h : '-' ∉ text) : pastComment? text = none := by
  refine pastComment_eq_none fun rest hrest => h ?_
  exact (List.dropWhile_suffix isLineBlank).subset (by simp [hrest])

/-- Blanks in front of a text leave the scanner in statement text. -/
theorem modeAfter_blanks {blanks : List Char} (hblanks : ∀ x ∈ blanks, Text.isBlank x = true)
    (back : List Char) : modeAfter .code (blanks ++ back) = modeAfter .code back := by
  have hinert : ∀ x ∈ blanks, Source.isInert x = true := fun x hx =>
    (Placeholder.inert_of_trailing (by simp [Placeholder.isTrailing, hblanks x hx])).1
  refine Source.modeAfter_append (Source.modeAfter_of_inert (List.all_eq_true.2 hinert)) ?_
  exact fun x hx y _ => Source.joins_inert_left (hinert x (List.mem_of_getLast? hx)) y

/-- A comment line without its end: what comes next up to a line feed belongs to it. -/
structure IsLine (line : List Char) : Prop where
  past : ∀ back, pastComment? (line ++ back) =
    some ((back.dropWhile (· != '\n')).dropWhile Text.isBlank)
  mode : modeAfter .code line = .line

theorem isLine {blanks line : List Char} (hblanks : ∀ x ∈ blanks, isLineBlank x = true)
    (hline : ∀ x ∈ line, (x != '\n') = true) : IsLine (blanks ++ '-' :: '-' :: line) where
  past back := by
    have hdashes : (blanks ++ '-' :: '-' :: line ++ back).dropWhile isLineBlank =
        '-' :: '-' :: (line ++ back) := by
      rw [List.append_assoc, List.dropWhile_append_of_pos hblanks]
      exact List.dropWhile_cons_of_neg (by decide)
    rw [pastComment?, hdashes]
    simp only [List.dropWhile_append_of_pos hline]
  mode := by
    rw [modeAfter_blanks fun x hx => isBlank_of_lineBlank (hblanks x hx)]
    exact modeAfter_line hline

/-- A comment line at the start of a text: blanks, two dashes, the rest of the line, and the blanks
that begin with its line feed. -/
theorem exists_of_pastComment {text rest : List Char} (h : pastComment? text = some rest) :
    ∃ blanks line gap, text = blanks ++ '-' :: '-' :: (line ++ (gap ++ rest)) ∧
      (∀ x ∈ blanks, isLineBlank x = true) ∧ (∀ x ∈ line, (x != '\n') = true) ∧
      (gap = [] ∧ rest = [] ∨ ∃ more, gap = '\n' :: more ∧ ∀ x ∈ more, Text.isBlank x = true) := by
  unfold pastComment? at h
  split at h
  · next after hdashes =>
      obtain rfl := Option.some.inj h
      refine ⟨text.takeWhile isLineBlank, after.takeWhile (· != '\n'),
        (after.dropWhile (· != '\n')).takeWhile Text.isBlank, ?_, fun _ => List.mem_takeWhile_imp,
        fun x => List.mem_takeWhile_imp, ?_⟩
      · rw [List.takeWhile_append_dropWhile, List.takeWhile_append_dropWhile, ← hdashes,
          List.takeWhile_append_dropWhile]
      · cases hend : after.dropWhile (· != '\n') with
        | nil => exact .inl ⟨rfl, rfl⟩
        | cons x back =>
            obtain rfl : x = '\n' := by
              have hnot := List.head?_dropWhile_not (· != '\n') after
              simpa [hend] using hnot
            exact .inr ⟨back.takeWhile Text.isBlank, List.takeWhile_cons_of_pos (by decide),
              fun _ => List.mem_takeWhile_imp⟩
  · cases h

/-- The comment line at the start of a text that does not end with a blank. -/
theorem exists_isLine {text rest : List Char} (h : pastComment? text = some rest)
    (hlast : ∀ x ∈ text.getLast?, Text.isBlank x = false) :
    ∃ line, IsLine line ∧ (rest = [] ∧ text = line ∨ rest ≠ [] ∧
      ∃ gap, (∀ x ∈ gap, Text.isBlank x = true) ∧ text = line ++ '\n' :: (gap ++ rest)) := by
  obtain ⟨blanks, line, gap, rfl, hblanks, hline, ⟨rfl, rfl⟩ | ⟨gap, rfl, hgap⟩⟩ :=
    exists_of_pastComment h
  · exact ⟨_, isLine hblanks hline, .inl ⟨rfl, by simp⟩⟩
  · refine ⟨_, isLine hblanks hline, .inr ⟨?_, gap, hgap, by simp⟩⟩
    rintro rfl
    -- the text would end with the line feed or a blank behind it
    have hend : ∀ x ∈ '\n' :: gap, Text.isBlank x = true := List.forall_mem_cons.2 ⟨by decide, hgap⟩
    obtain ⟨x, hx⟩ : ∃ x, ('\n' :: gap).getLast? = some x :=
      ⟨_, List.getLast?_eq_some_getLast (List.cons_ne_nil _ _)⟩
    have hlastChar := hlast x (by simp [List.getLast?_append, List.getLast?_cons, hx])
    rw [hend x (List.mem_of_getLast? hx)] at hlastChar
    cases hlastChar

/-- A line feed behind a comment line leads back to statement text. -/
theorem IsLine.modeAfter_append {line : List Char} (h : IsLine line) {gap : List Char}
    (hgap : ∀ x ∈ gap, Text.isBlank x = true) (rest : List Char) :
    modeAfter .code (line ++ '\n' :: (gap ++ rest)) = modeAfter .code rest := by
  have hapart : ∀ x ∈ line.getLast?, ∀ y ∈ ('\n' :: (gap ++ rest)).head?, Source.joins x y =
      false := by
    intro x _ y hy
    obtain rfl : '\n' = y := Option.some.inj hy
    exact Source.joins_inert_right x (by decide)
  rw [(Source.scan_append Source.Mode.opened_code (.inr (by rfl)) hapart).mode, h.mode, modeAfter,
    if_pos (by decide), modeAfter_blanks hgap]

section

variable {text tail : List Char}

/-- The scanner reads comment lines in front of a statement as comments. -/
theorem modeAfter_pastComments (hlast : ∀ x ∈ text.getLast?, Text.isBlank x = false)
    (htext : text ≠ []) :
    modeAfter .code text = if pastComments text = [] then .line
      else modeAfter .code (pastComments text) := by
  fun_induction pastComments text with
  | case1 text rest h ih =>
      obtain ⟨line, hline, ⟨rfl, rfl⟩ | ⟨hrest, gap, hgap, htext⟩⟩ := exists_isLine h hlast
      · rw [pastComments_none rfl, if_pos rfl, hline.mode]
      · rw [← getLast?_of_suffix (pastComment_suffix h) hrest] at hlast
        rw [htext, hline.modeAfter_append hgap, ih hlast hrest]
  | case2 text h => rw [if_neg htext]

/-- What follows a statement makes no comment line of it. -/
theorem pastComment_append (h : pastComment? text = none)
    (hlast : ∀ x ∈ text.getLast?, Text.isBlank x = false) (htext : text ≠ []) (htail : '-' ∉ tail) :
    pastComment? (text ++ tail) = none := by
  have hstart : text.dropWhile isLineBlank ≠ [] := by
    intro hnil
    have hline := List.dropWhile_eq_nil_iff.1 hnil _ (List.getLast_mem htext)
    have hblank := hlast _ (List.getLast?_eq_some_getLast htext)
    rw [isBlank_of_lineBlank hline] at hblank
    cases hblank
  refine pastComment_eq_none fun rest hrest => ?_
  rw [List.dropWhile_append, if_neg (by simpa using hstart)] at hrest
  match hfront : text.dropWhile isLineBlank with
  | [] => exact hstart hfront
  | [x] =>
      rw [hfront] at hrest
      have hend : tail = '-' :: rest := (List.cons.inj hrest).2
      exact htail (by simp [hend])
  | x :: y :: back =>
      rw [hfront, List.cons_append, List.cons_append] at hrest
      obtain ⟨rfl, hback⟩ := List.cons.inj hrest
      obtain ⟨rfl, -⟩ := List.cons.inj hback
      rw [pastComment?, hfront] at h
      cases h

theorem isSome_pastComment_append (hlast : ∀ x ∈ text.getLast?, Text.isBlank x = false)
    (htext : text ≠ []) (htail : '-' ∉ tail) :
    (pastComment? (text ++ tail)).isSome = (pastComment? text).isSome := by
  cases h : pastComment? text with
  | none => rw [pastComment_append h hlast htext htail]
  | some rest =>
      obtain ⟨line, hline, ⟨-, rfl⟩ | ⟨-, gap, -, rfl⟩⟩ := exists_isLine h hlast
      · rw [hline.past]
        rfl
      · rw [List.append_assoc, hline.past]
        rfl

/-- What follows a statement stays after it when the comment lines are taken off. -/
theorem pastComments_append (hlast : ∀ x ∈ text.getLast?, Text.isBlank x = false)
    (htext : text ≠ []) (htail : '-' ∉ tail) :
    pastComments (text ++ tail) = if pastComments text = [] then
      (tail.dropWhile (· != '\n')).dropWhile Text.isBlank else pastComments text ++ tail := by
  fun_induction pastComments text with
  | case1 text rest h ih =>
      obtain ⟨line, hline, ⟨rfl, rfl⟩ | ⟨hrest, gap, hgap, htext⟩⟩ := exists_isLine h hlast
      · rw [if_pos (pastComments_none rfl), pastComments_some (hline.past tail)]
        refine pastComments_none (pastComment_of_not_mem fun hmem => htail ?_)
        exact ((List.dropWhile_suffix _).trans (List.dropWhile_suffix _)).subset hmem
      · rw [← getLast?_of_suffix (pastComment_suffix h) hrest] at hlast
        rw [← ih hlast hrest]
        refine pastComments_some ?_
        have hhead := head_pastComment h
        obtain ⟨x, back, rfl⟩ := List.exists_cons_of_ne_nil hrest
        rw [htext, List.append_assoc, hline.past, List.cons_append,
          List.dropWhile_cons_of_neg (by decide), List.dropWhile_cons_of_pos (by decide),
          List.append_assoc, List.dropWhile_append_of_pos hgap,
          List.cons_append, List.dropWhile_cons_of_neg (by simp [hhead x rfl])]
  | case2 text h =>
      rw [if_neg htext]
      exact pastComments_none (pastComment_append h hlast htext htail)

/-- The statement of a trimmed text is what stands after its comment lines. -/
theorem splitComments_of_trimmed (h : Text.strip text = text) :
    splitComments text = (if (pastComment? text).isSome then
        some (Text.strip (text.take (text.length - (pastComments text).length))) else none,
      pastComments text) := by
  rw [splitComments_eq]
  cases hline : pastComment? text with
  | none => rw [pastComments_none hline, Option.isSome_none, if_neg Bool.false_ne_true]
  | some rest =>
      have hlast := (Text.strip_eq_self_iff.1 h).2
      have hrest : Text.strip (pastComments rest) = pastComments rest := by
        refine Text.strip_eq_self_iff.2 ⟨head_pastComments (head_pastComment hline), ?_⟩
        by_cases hnil : pastComments rest = []
        · simp [hnil]
        · rwa [getLast?_of_suffix ((pastComments_suffix rest).trans (pastComment_suffix hline))
            hnil]
      simp only [pastComments_some hline, hrest, Option.isSome_some, if_true]

variable (htext : Text.strip text = text) (hwhole : Text.strip (text ++ tail) = text ++ tail)
  (hne : text ≠ []) (htail : '-' ∉ tail)

include htext hwhole hne htail

/-- What follows a statement is read after it, and its comment lines are the same. -/
theorem splitComments_append (hrest : (splitComments text).2 ≠ []) :
    splitComments (text ++ tail) = ((splitComments text).1, (splitComments text).2 ++ tail) := by
  have hlast := (Text.strip_eq_self_iff.1 htext).2
  rw [splitComments_of_trimmed htext] at hrest ⊢
  have hpast := pastComments_append hlast hne htail
  rw [if_neg hrest] at hpast
  have hoffset : (text ++ tail).take ((text ++ tail).length - (pastComments text ++ tail).length) =
      text.take (text.length - (pastComments text).length) := by
    rw [List.length_append, List.length_append, Nat.add_sub_add_right,
      List.take_append_of_le_length (Nat.sub_le _ _)]
  rw [splitComments_of_trimmed hwhole, hpast, hoffset, isSome_pastComment_append hlast hne htail]

/-- When nothing but comment lines stands before, what follows them is taken for the statement. -/
theorem splitComments_append_open (hrest : (splitComments text).2 = []) :
    let back := (tail.dropWhile (· != '\n')).dropWhile Text.isBlank
    splitComments (text ++ tail) =
        (some (Text.strip (text ++ tail.take (tail.length - back.length))), back) ∧
      modeAfter .code text = .line := by
  have hlast := (Text.strip_eq_self_iff.1 htext).2
  rw [splitComments_of_trimmed htext] at hrest
  have hpast := pastComments_append hlast hne htail
  have hmode := modeAfter_pastComments hlast hne
  rw [if_pos hrest] at hpast hmode
  have hline : (pastComment? text).isSome = true := by
    rw [Option.isSome_iff_ne_none]
    intro hnone
    exact hne ((pastComments_none hnone).symm.trans hrest)
  have hback : ((tail.dropWhile (· != '\n')).dropWhile Text.isBlank).length ≤ tail.length :=
    ((List.dropWhile_suffix _).trans (List.dropWhile_suffix _)).length_le
  refine ⟨?_, hmode⟩
  rw [splitComments_of_trimmed hwhole, hpast, isSome_pastComment_append hlast hne htail, hline,
    if_pos rfl, List.length_append, Nat.add_sub_assoc hback, List.take_length_add_append]

end

end SqlLayout.Document
