import SqlLayout.Proofs.Pattern.Reads

/-!
# What the matcher does

Beside what a match reads stands which of the possible matches is found.  Repeating a character
class takes all of its characters when what comes next goes on from there, or can go on from nowhere
before.

## Implementation notes

A repetition has as many rounds as there are characters left.  More rounds change nothing, because
every round has to read something.
-/

namespace SqlLayout.Pattern

section

variable {text : List Char}

theorem before_iff {i j : Nat} : (placeAt text i).pos < (placeAt text j).pos ↔ i < j :=
  Iff.rfl

theorem drop_takeWhile_length (p : Char → Bool) (rest : List Char) :
    rest.drop (rest.takeWhile p).length = rest.dropWhile p := by
  conv => enter [1, 2]; rw [← List.takeWhile_append_dropWhile (p := p) (l := rest)]
  exact List.drop_left

/-- The offset after the characters of a class from an offset on. -/
def spanEnd (text : List Char) (p : Char → Bool) (i : Nat) : Nat :=
  i + ((text.drop i).takeWhile p).length

theorem drop_spanEnd (p : Char → Bool) (i : Nat) :
    text.drop (spanEnd text p i) = (text.drop i).dropWhile p := by
  rw [spanEnd, ← List.drop_drop, drop_takeWhile_length]

theorem head_spanEnd (p : Char → Bool) (i : Nat) :
    ∀ y ∈ (text.drop (spanEnd text p i)).head?, p y = false := by
  intro y hy
  have hnot := List.head?_dropWhile_not p (text.drop i)
  rw [← drop_spanEnd, hy] at hnot
  simpa using hnot

theorem spanEnd_eq {p : Char → Bool} {i : Nat} {part rest : List Char}
    (hdrop : text.drop i = part ++ rest) (hpart : ∀ x ∈ part, p x = true)
    (hrest : ∀ y ∈ rest.head?, p y = false) :
    spanEnd text p i = i + part.length := by
  rw [spanEnd, hdrop, List.takeWhile_append_of_pos hpart]
  cases rest with
  | nil => simp
  | cons y rest => simp [hrest y rfl]

theorem spanEnd_le (p : Char → Bool) {i : Nat} (hi : i ≤ text.length) :
    spanEnd text p i ≤ text.length := by
  have hlength := (List.takeWhile_prefix (l := text.drop i) p).length_le
  rw [List.length_drop] at hlength
  rw [spanEnd]
  omega

theorem exists_of_lt_spanEnd {p : Char → Bool} {i j : Nat} (hi : i ≤ j)
    (hj : j < spanEnd text p i) :
    ∃ x, text[j]? = some x ∧ p x = true := by
  have hlt : j - i < ((text.drop i).takeWhile p).length := by
    rw [spanEnd] at hj
    omega
  obtain ⟨x, hx⟩ : ∃ x, ((text.drop i).takeWhile p)[j - i]? = some x :=
    ⟨_, List.getElem?_eq_getElem hlt⟩
  refine ⟨x, ?_, List.all_eq_true.1 List.all_takeWhile x (List.mem_of_getElem? hx)⟩
  obtain ⟨back, hback⟩ := List.takeWhile_prefix (l := text.drop i) p
  have hdrop : (text.drop i)[j - i]? = some x := by
    rw [← hback, List.getElem?_append_left hlt, hx]
  rwa [List.getElem?_drop, Nat.add_sub_cancel' hi] at hdrop

theorem run_one_nil {p : Char → Bool} {size i : Nat} (hrest : text.drop i = []) (c : Captures)
    (next : Place → Captures → Option (Nat × Captures)) :
    run size (.one p) (placeAt text i) c next = none := by
  simp [run, placeAt, hrest]

theorem run_one_cons {p : Char → Bool} {size i : Nat} {x : Char} {rest : List Char}
    (hrest : text.drop i = x :: rest) (c : Captures)
    (next : Place → Captures → Option (Nat × Captures)) :
    run size (.one p) (placeAt text i) c next = if p x then next (placeAt text (i + 1)) c
      else none := by
  rw [placeAt_succ hrest, run]
  simp only [placeAt, hrest]

/-- A class is repeated to its last character, if what comes next goes on there or nowhere
before. -/
theorem repeatMany_one {p : Char → Bool} {size rounds i : Nat} (hrounds : text.length - i ≤ rounds)
    {c : Captures} {next : Place → Captures → Option (Nat × Captures)}
    (hnext : (next (placeAt text (spanEnd text p i)) c).isSome = true ∨
      ∀ j, i ≤ j → j < spanEnd text p i → next (placeAt text j) c = none) :
    repeatMany (run size (.one p)) rounds (placeAt text i) c next =
      next (placeAt text (spanEnd text p i)) c := by
  induction rounds generalizing i with
  | zero =>
      have hnil : text.drop i = [] := List.drop_eq_nil_of_le (by omega)
      simp [repeatMany, spanEnd, hnil]
  | succ rounds ih =>
      rw [repeatMany]
      cases hrest : text.drop i with
      | nil =>
          rw [run_one_nil hrest]
          simp [spanEnd, hrest]
      | cons x rest =>
          rw [run_one_cons hrest]
          split
          · next hpx =>
              have hend : spanEnd text p i = spanEnd text p (i + 1) := by
                simp only [spanEnd, hrest, List.takeWhile_cons_of_pos hpx, List.length_cons,
                  (drop_eq_cons hrest).2]
                omega
              have hround : (placeAt text i).pos < (placeAt text (i + 1)).pos := Nat.lt_succ_self i
              rw [hend] at hnext ⊢
              rw [if_pos hround, ih (by omega) (hnext.imp_right fun h j hj => h j (by omega))]
              obtain hsome | hnone := hnext
              · obtain ⟨found, hfound⟩ := Option.isSome_iff_exists.1 hsome
                simp [hfound]
              · have hstart : i < spanEnd text p (i + 1) :=
                  Nat.lt_of_lt_of_le (Nat.lt_succ_self i) (Nat.le_add_right _ _)
                simp [hnone i (Nat.le_refl i) hstart]
          · next hpx =>
              have hend : spanEnd text p i = i := by
                simp [spanEnd, hrest, List.takeWhile_cons_of_neg hpx]
              rw [hend]
              rfl

theorem run_many_one {p : Char → Bool} {i : Nat} {c : Captures}
    {next : Place → Captures → Option (Nat × Captures)}
    (h : (next (placeAt text (spanEnd text p i)) c).isSome = true ∨
      ∀ j, i ≤ j → j < spanEnd text p i → next (placeAt text j) c = none) :
    run text.length (.many (.one p)) (placeAt text i) c next =
      next (placeAt text (spanEnd text p i)) c :=
  repeatMany_one (Nat.le_refl _) h

/-! ## What follows a text -/

/-- Whether a pattern that is matched in a text cannot see whether one of some characters follows
it. -/
def steady (marks : List Char) : Pattern → Bool
  | .seq a b | .alt a b => a.steady marks && b.steady marks
  | .many a | .few a | .capture _ a => a.steady marks
  | .notAhead a => a.steady marks && a.avoidsLast marks
  | .wordEdge => marks.all fun x => !Text.isWord x
  | .atEnd => false
  | _ => true

/-- Whether a pattern that is matched in a text cannot see that some other text follows it. -/
def Unseen (text tail : List Char) : Pattern → Prop
  | .seq a b | .alt a b => a.Unseen text tail ∧ b.Unseen text tail
  | .many a | .few a | .capture _ a => a.Unseen text tail
  | .notAhead a => a.Unseen text tail ∧
    ∀ {i j : Nat} {c d : Captures}, i ≤ text.length → Reads (text ++ tail) a i c j d →
      j ≤ text.length
  | .wordEdge => ∀ x ∈ tail.head?, Text.isWord x = false
  | .atEnd => False
  | _ => True

variable {tail : List Char} {marks : List Char}

/-- Two steps go on alike in a text and in a longer one, as long as nothing goes on after the
text. -/
def Extends (text tail : List Char) (p : Pattern) (step longer : Step) : Prop :=
  ∀ {i : Nat} {c : Captures} {next next' : Place → Captures → Option (Nat × Captures)},
    i ≤ text.length →
    (∀ j d, j ≤ text.length → Reads text p i c j d → Reads (text ++ tail) p i c j d →
      next' (placeAt (text ++ tail) j) d = next (placeAt text j) d) →
    (∀ j d, text.length < j → Reads (text ++ tail) p i c j d →
      next' (placeAt (text ++ tail) j) d = none) →
    longer (placeAt (text ++ tail) i) c next' = step (placeAt text i) c next

/-- Repeats a step; `choose` takes a further round or ends the repetition. -/
def repeatWith (choose : Option (Nat × Captures) → Option (Nat × Captures) →
    Option (Nat × Captures))
    (step : Step) : Nat → Step
  | 0, place, captures, next => next place captures
  | rounds + 1, place, captures, next =>
    choose
      (step place captures fun place' captures' =>
        if place.pos < place'.pos then repeatWith choose step rounds place' captures' next
        else none)
      (next place captures)

theorem repeatMany_eq (step : Step) (rounds : Nat) :
    repeatMany step rounds = repeatWith (fun round done => round <|> done) step rounds := by
  induction rounds with
  | zero => rfl
  | succ rounds ih =>
      funext place captures next
      rw [repeatMany, repeatWith, ih]

theorem repeatFew_eq (step : Step) (rounds : Nat) :
    repeatFew step rounds = repeatWith (fun round done => done <|> round) step rounds := by
  induction rounds with
  | zero => rfl
  | succ rounds ih =>
      funext place captures next
      rw [repeatFew, repeatWith, ih]

section

variable {choose : Option (Nat × Captures) → Option (Nat × Captures) → Option (Nat × Captures)}
  {step longer : Step} {a p : Pattern}

/-- When nothing goes on after a text, no repetition does. -/
theorem repeatWith_beyond (hmore : ∀ {i j k : Nat} {c d e : Captures},
      Reads (text ++ tail) a i c j d → Reads (text ++ tail) p j d k e →
        Reads (text ++ tail) p i c k e)
    {rounds : Nat} (hrepeat : Follows (text ++ tail) (repeatWith choose longer rounds) p)
    {i j : Nat} {c d : Captures} {next : Place → Captures → Option (Nat × Captures)}
    (hj : text.length < j)
    (hread : Reads (text ++ tail) a i c j d)
    (hend : ∀ j d, text.length < j → Reads (text ++ tail) p i c j d →
      next (placeAt (text ++ tail) j) d = none) :
    repeatWith choose longer rounds (placeAt (text ++ tail) j) d next = none := by
  refine Option.eq_none_iff_forall_ne_some.2 fun found hfound => ?_
  obtain ⟨k, e, hmany, hgone⟩ := hrepeat hfound
  have hle := hmany.le
  rw [hend k e (by omega) (hmore hread hmany)] at hgone
  cases hgone

/-- Repetitions go on alike, with any two numbers of rounds that reach the end of the text. -/
theorem extends_repeatWith (hround : ∀ done, choose none done = done)
    (hdone : ∀ {text : List Char} {i : Nat} {c : Captures}, Reads text p i c i c)
    (hmore : ∀ {text : List Char} {i j k : Nat} {c d e : Captures},
      Reads text a i c j d → Reads text p j d k e → Reads text p i c k e)
    (hstep : Follows text step a) (hlonger : Follows (text ++ tail) longer a)
    (hrepeat : ∀ rounds, Follows (text ++ tail) (repeatWith choose longer rounds) p)
    (h : Extends text tail a step longer) {rounds rounds' i : Nat}
    (hrounds : text.length - i ≤ rounds) (hrounds' : text.length - i ≤ rounds') {c : Captures}
    {next next' : Place → Captures → Option (Nat × Captures)} (hi : i ≤ text.length)
    (hnext : ∀ j d, j ≤ text.length → Reads text p i c j d → Reads (text ++ tail) p i c j d →
      next' (placeAt (text ++ tail) j) d = next (placeAt text j) d)
    (hend : ∀ j d, text.length < j → Reads (text ++ tail) p i c j d →
      next' (placeAt (text ++ tail) j) d = none) :
    repeatWith choose longer rounds' (placeAt (text ++ tail) i) c next' =
      repeatWith choose step rounds (placeAt text i) c next := by
  induction rounds generalizing rounds' i c with
  | zero =>
      have hlast := hnext i c hi hdone hdone
      obtain rfl : i = text.length := by omega
      cases rounds' with
      | zero => exact hlast
      | succ rounds' =>
          rw [repeatWith, repeatWith, hlast]
          refine (congrArg (choose · _) ?_).trans (hround _)
          refine Option.eq_none_iff_forall_ne_some.2 fun found hfound => ?_
          obtain ⟨j, d, hread, hgone⟩ := hlonger hfound
          split at hgone
          · next hj =>
              rw [repeatWith_beyond hmore (hrepeat rounds') (before_iff.1 hj) hread hend] at hgone
              cases hgone
          · cases hgone
  | succ rounds ih =>
      have hlast := hnext i c hi hdone hdone
      cases rounds' with
      | zero =>
          rw [repeatWith, repeatWith, hlast]
          refine ((congrArg (choose · _) ?_).trans (hround _)).symm
          refine Option.eq_none_iff_forall_ne_some.2 fun found hfound => ?_
          obtain ⟨j, d, hread, hgone⟩ := hstep hfound
          have hj := hread.le_length hi
          rw [if_neg (mt before_iff.1 (by omega))] at hgone
          cases hgone
      | succ rounds' =>
          rw [repeatWith, repeatWith, hlast]
          refine congrArg (choose · _) (h hi (fun j d hj hread hread' => ?_) fun j d hj hread => ?_)
          · by_cases hij : i < j
            · rw [if_pos (before_iff.2 hij), if_pos (before_iff.2 hij)]
              exact ih (by omega) (by omega) hj
                (fun k e hk hmany hmany' => hnext k e hk (hmore hread hmany) (hmore hread' hmany'))
                (fun k e hk hmany => hend k e hk (hmore hread' hmany))
            · rw [if_neg (mt before_iff.1 hij), if_neg (mt before_iff.1 hij)]
          · rw [if_pos (before_iff.2 (by omega))]
            exact repeatWith_beyond hmore (hrepeat rounds') hj hread hend

end

/-- What a pattern reads in a longer text ends in the text, if it cannot end with what follows. -/
theorem Reads.le_of_avoidsLast (htail : ∀ x ∈ tail, x ∈ marks) {p : Pattern} {i j : Nat}
    {c d : Captures} (h : Reads (text ++ tail) p i c j d) (hp : p.avoidsLast marks = true) :
    i = j ∨ j ≤ text.length := by
  refine (h.last hp).imp_right fun ⟨x, hx, hmark⟩ => ?_
  by_contra hj
  rw [List.getElem?_append_right (by omega)] at hx
  exact hmark (htail x (List.mem_of_getElem? hx))

theorem drop_append {i : Nat} (hi : i ≤ text.length) :
    (text ++ tail).drop i = text.drop i ++ tail :=
  List.drop_append_of_le_length hi

theorem getLast?_take_append {i : Nat} (hi : i ≤ text.length) :
    ((text ++ tail).take i).getLast? = (text.take i).getLast? := by
  rw [List.take_append_of_le_length hi]

/-- A pattern cannot see a text of such characters. -/
theorem unseen_of_steady (htail : ∀ x ∈ tail, x ∈ marks) {p : Pattern}
    (hp : p.steady marks = true) :
    p.Unseen text tail := by
  induction p with
  | seq a b iha ihb => exact (Bool.and_eq_true_iff.1 hp).imp iha ihb
  | alt a b iha ihb => exact (Bool.and_eq_true_iff.1 hp).imp iha ihb
  | many a ih => exact ih hp
  | few a ih => exact ih hp
  | capture group a ih => exact ih hp
  | notAhead a ih =>
      obtain ⟨ha, hlast⟩ := Bool.and_eq_true_iff.1 hp
      refine ⟨ih ha, fun hi h => ?_⟩
      obtain rfl | hj := h.le_of_avoidsLast htail hlast
      · exact hi
      · exact hj
  | wordEdge =>
      intro x hx
      simpa using List.all_eq_true.1 hp x (htail x (List.mem_of_mem_head? hx))
  | atEnd => cases hp
  | _ => trivial

/-- Whether a place is a word edge cannot be seen from what follows the text. -/
theorem isWordEdge_append (hmarks : ∀ x ∈ tail.head?, Text.isWord x = false) {i : Nat}
    (hi : i ≤ text.length) :
    isWordEdge (placeAt (text ++ tail) i) = isWordEdge (placeAt text i) := by
  have hhead : ((text.drop i ++ tail).head?.any Text.isWord) =
      (text.drop i).head?.any Text.isWord := by
    cases text.drop i with
    | cons x rest => rfl
    | nil =>
        cases tail with
        | nil => rfl
        | cons x rest => simp [hmarks x rfl]
  simp only [isWordEdge, placeAt, getLast?_take_append hi, drop_append hi, hhead]

theorem extends_one (p : Char → Bool) :
    Extends text tail (.one p) (run text.length (.one p)) (run (text ++ tail).length (.one p)) := by
  intro i c next next' hi hnext hend
  cases hrest : text.drop i with
  | nil =>
      obtain rfl : i = text.length := by
        have hlength := List.drop_eq_nil_iff.1 hrest
        omega
      have hdrop : (text ++ tail).drop text.length = tail := List.drop_left
      rw [run_one_nil hrest]
      cases htail : (text ++ tail).drop text.length with
      | nil => rw [run_one_nil htail]
      | cons x rest =>
          rw [run_one_cons htail]
          split
          · next hpx => exact hend _ _ (Nat.lt_succ_self _) (.one (drop_eq_cons htail).1 hpx)
          · rfl
  | cons x rest =>
      have hrest' : (text ++ tail).drop i = x :: (rest ++ tail) := by
        rw [drop_append hi, hrest, List.cons_append]
      rw [run_one_cons hrest, run_one_cons hrest']
      split
      · next hpx =>
          have hx := (drop_eq_cons hrest).1
          have hlt := (List.getElem?_eq_some_iff.1 hx).1
          exact hnext _ _ hlt (.one hx hpx) (.one (drop_eq_cons hrest').1 hpx)
      · rfl

theorem length_sub_le_append (i : Nat) : text.length - i ≤ (text ++ tail).length - i := by
  rw [List.length_append]
  omega

/-- The matcher of a pattern goes on alike in a text and in a longer one. -/
structure RunsAlike (text tail : List Char) (p : Pattern) : Prop where
  steps : Extends text tail p (run text.length p) (run (text ++ tail).length p)

namespace RunsAlike

variable {a b p : Pattern}

theorem seq (ha : RunsAlike text tail a) (hb : RunsAlike text tail b) :
    RunsAlike text tail (.seq a b) := by
  refine ⟨fun {i c next next'} hi hnext hend => ?_⟩
  rw [run, run]
  refine ha.steps hi (fun j d hj hread hread' => ?_) fun j d hj hread => ?_
  · exact hb.steps hj
      (fun k e hk hmore hmore' => hnext k e hk (.seq hread hmore) (.seq hread' hmore'))
      (fun k e hk hmore => hend k e hk (.seq hread' hmore))
  -- what the first pattern reads beyond the text leaves the second one beyond it too
  · refine Option.eq_none_iff_forall_ne_some.2 fun found hfound => ?_
    obtain ⟨k, e, hmore, hgone⟩ := follows_run b hfound
    have hle := hmore.le
    rw [hend k e (by omega) (.seq hread hmore)] at hgone
    cases hgone

theorem alt (ha : RunsAlike text tail a) (hb : RunsAlike text tail b) :
    RunsAlike text tail (.alt a b) := by
  refine ⟨fun {i c next next'} hi hnext hend => ?_⟩
  have hfirst := ha.steps hi (fun j d hj h h' => hnext j d hj (.left h) (.left h'))
    fun j d hj h => hend j d hj (.left h)
  have hsecond := hb.steps hi (fun j d hj h h' => hnext j d hj (.right h) (.right h'))
    fun j d hj h => hend j d hj (.right h)
  rw [run, run, hfirst, hsecond]

theorem many (ha : RunsAlike text tail a) : RunsAlike text tail (.many a) := by
  refine ⟨fun {i c next next'} hi hnext hend => ?_⟩
  rw [run, run, repeatMany_eq, repeatMany_eq]
  refine extends_repeatWith (a := a) (by simp) .manyDone .manyMore (follows_run a) (follows_run a)
    (fun rounds => ?_) ha.steps (Nat.le_refl _) (length_sub_le_append i) hi hnext hend
  rw [← repeatMany_eq]
  exact follows_repeatMany (follows_run a) rounds

theorem few (ha : RunsAlike text tail a) : RunsAlike text tail (.few a) := by
  refine ⟨fun {i c next next'} hi hnext hend => ?_⟩
  rw [run, run, repeatFew_eq, repeatFew_eq]
  refine extends_repeatWith (a := a) (by simp) .fewDone .fewMore (follows_run a) (follows_run a)
    (fun rounds => ?_) ha.steps (Nat.le_refl _) (length_sub_le_append i) hi hnext hend
  rw [← repeatFew_eq]
  exact follows_repeatFew (follows_run a) rounds

theorem capture (group : Nat) (ha : RunsAlike text tail a) :
    RunsAlike text tail (.capture group a) := by
  refine ⟨fun {i c next next'} hi hnext hend => ?_⟩
  rw [run, run]
  exact ha.steps hi (fun j d hj h h' => hnext j _ hj (.capture h) (.capture h'))
    fun j d hj h => hend j _ hj (.capture h)

/-- A pattern that only looks at the place goes on alike when it sees the same in both texts. -/
theorem of_test (test : Place → Bool)
    (hrun : ∀ size place c next, run size p place c next =
      if test place then next place c else none)
    (hread : ∀ text i c, test (placeAt text i) = true → Reads text p i c i c)
    (hsame : ∀ i ≤ text.length, test (placeAt (text ++ tail) i) = test (placeAt text i)) :
    RunsAlike text tail p := by
  refine ⟨fun {i c next next'} hi hnext hend => ?_⟩
  rw [hrun, hrun, hsame i hi]
  split
  next h => exact hnext i c hi (hread text i c h) (hread _ i c ((hsame i hi).trans h))
  next => rfl

theorem notAhead (ha : RunsAlike text tail a)
    (hstop : ∀ {i j : Nat} {c d : Captures}, i ≤ text.length → Reads (text ++ tail) a i c j d →
      j ≤ text.length) : RunsAlike text tail (.notAhead a) := by
  refine ⟨fun {i c next next'} hi hnext hend => ?_⟩
  have hsame : run (text ++ tail).length a (placeAt (text ++ tail) i) c
        (fun place captures => some (place.pos, captures)) =
      run text.length a (placeAt text i) c fun place captures => some (place.pos, captures) :=
    ha.steps hi (fun j d _ _ _ => rfl) fun j d hj h => absurd (hstop hi h) (by omega)
  rw [run, run, hsame]
  split
  · rfl
  · exact hnext _ _ hi .notAhead .notAhead

end RunsAlike

/-- The matcher goes on alike in a text and in a longer one. -/
theorem runsAlike_of_unseen {p : Pattern} (hp : p.Unseen text tail) : RunsAlike text tail p := by
  have hbefore : ∀ i ≤ text.length,
      (placeAt (text ++ tail) i).before = (placeAt text i).before :=
    fun i hi => getLast?_take_append hi
  induction p with
  | empty =>
      exact .of_test (fun _ => true) (fun _ _ _ _ => rfl) (fun _ _ _ _ => .empty) fun _ _ => rfl
  | one p => exact ⟨extends_one p⟩
  | seq a b iha ihb => exact .seq (iha hp.1) (ihb hp.2)
  | alt a b iha ihb => exact .alt (iha hp.1) (ihb hp.2)
  | many a ih => exact .many (ih hp)
  | few a ih => exact .few (ih hp)
  | capture group a ih => exact .capture group (ih hp)
  | atStart =>
      refine .of_test (·.pos == 0) (fun _ _ _ _ => rfl) (fun text i c h => ?_) fun _ _ => rfl
      obtain rfl : i = 0 := eq_of_beq h
      exact .atStart
  | atEnd => exact hp.elim
  | wordEdge =>
      exact .of_test isWordEdge (fun _ _ _ _ => rfl) (fun _ _ _ => .wordEdge)
        fun i => isWordEdge_append hp
  | after p =>
      exact .of_test (·.before.any p) (fun _ _ _ _ => rfl) (fun _ _ _ => .after)
        fun i hi => by rw [hbefore i hi]
  | notAfter p =>
      refine .of_test (!·.before.any p) (fun size place c next => ?_)
        (fun text i c h => .notAfter ((Bool.not_eq_true' _).mp h)) fun i hi => by rw [hbefore i hi]
      rw [run]
      cases place.before.any p <;> rfl
  | notAhead a ih => exact .notAhead (ih hp.1) hp.2

/-- A match in a text is one in every longer text, if nothing longer can be read there. -/
theorem matchAt_append {p : Pattern} (hp : p.Unseen text tail) {i : Nat} (hi : i ≤ text.length)
    (hstop : ∀ j d, Reads (text ++ tail) p i [] j d → j ≤ text.length) :
    matchAt p (text ++ tail).length (placeAt (text ++ tail) i) =
      matchAt p text.length (placeAt text i) := by
  have hsame : run (text ++ tail).length p (placeAt (text ++ tail) i) []
        (fun place captures => some (place.pos, captures)) =
      run text.length p (placeAt text i) [] fun place captures => some (place.pos, captures) :=
    (runsAlike_of_unseen hp).steps hi (fun j d _ _ _ => rfl) fun j d hj h =>
      absurd (hstop j d h) (by omega)
  rw [matchAt, matchAt, hsame]
  rfl

theorem matchesFrom_eq_nil {p : Pattern} {size pos : Nat} {rest : List Char}
    (hrest : text.drop pos = rest) (hnone : ∀ i, pos ≤ i → matchAt p size (placeAt text i) = none)
    (least : Nat) : matchesFrom p size (text.take pos).getLast? pos least rest = [] := by
  induction rest generalizing pos with
  | nil =>
      rw [matchesFrom_end hrest, hnone pos (Nat.le_refl pos)]
      split <;> rfl
  | cons x rest ih =>
      rw [matchesFrom_step hrest, hnone pos (Nat.le_refl pos),
        ih (drop_eq_cons hrest).2 fun i hi => hnone i (by omega)]
      split <;> rfl

/-- The matches in a text are the ones in every longer text, if nothing longer can be read. -/
theorem findAll_append {p : Pattern} (hp : p.Unseen text tail)
    (hmoves : p.moves = true) (hstop : ∀ i j d, Reads (text ++ tail) p i [] j d → j ≤ text.length) :
    findAll p (text ++ tail) = findAll p text := by
  have hbeyond (i : Nat) (hi : text.length ≤ i) :
      matchAt p (text ++ tail).length (placeAt (text ++ tail) i) = none := by
    refine Option.eq_none_iff_forall_ne_some.2 fun m hm => ?_
    obtain ⟨-, hread⟩ := of_matchAt hm
    have hlt := hread.lt hmoves
    have hle := hstop _ _ _ hread
    omega
  suffices h : ∀ rest pos least, text.drop pos = rest → pos ≤ text.length →
      matchesFrom p (text ++ tail).length ((text ++ tail).take pos).getLast? pos least
        (rest ++ tail) =
        matchesFrom p text.length (text.take pos).getLast? pos least rest from
    h text 0 0 List.drop_zero (Nat.zero_le _)
  intro rest
  induction rest with
  | nil =>
      intro pos least hrest hpos
      have hend : text.length ≤ pos := List.drop_eq_nil_iff.1 hrest
      have hnone := (matchAt_append hp hpos (hstop pos)).symm.trans (hbeyond pos hend)
      rw [matchesFrom_end hrest, hnone,
        matchesFrom_eq_nil (by rw [drop_append hpos, hrest]) fun i hi => hbeyond i (by omega)]
      split <;> rfl
  | cons x rest ih =>
      intro pos least hrest hpos
      obtain ⟨hx, hnext⟩ := drop_eq_cons hrest
      have hlt := (List.getElem?_eq_some_iff.1 hx).1
      have hrest' : (text ++ tail).drop pos = x :: (rest ++ tail) := by
        rw [drop_append hpos, hrest, List.cons_append]
      rw [matchesFrom_step hrest, List.cons_append, matchesFrom_step hrest',
        matchAt_append hp hpos (hstop pos)]
      simp only [ih _ _ hnext hlt]

end

end SqlLayout.Pattern
