import SqlLayout.Proofs.Pattern.Runs

/-!
# What is found

Where a pattern can read a text and what comes next goes on from there, the matcher finds a match.
It need not be the same one: the matcher may take another way before it.

## Implementation notes

A pattern that refuses what follows is left out, since the relation does not say what it refuses; so
is the end of a text, which is put behind the rest of a pattern.
-/

namespace SqlLayout.Pattern

/-- Whether the relation says all that the matcher asks of a pattern, and repetitions read something
in every round. -/
def decided : Pattern → Bool
  | .seq a b | .alt a b => a.decided && b.decided
  | .many a | .few a => a.decided && a.moves
  | .capture _ a => a.decided
  | .atEnd | .notAhead _ => false
  | _ => true

section

variable {text : List Char}

/-- Whether a match is found wherever a pattern can read and what comes next goes on. -/
def Finds (text : List Char) (a : Pattern) : Prop :=
  ∀ {i j : Nat} {c d : Captures} {next : Place → Captures → Option (Nat × Captures)},
    Reads text a i c j d → i ≤ text.length → (next (placeAt text j) d).isSome = true →
      (run text.length a (placeAt text i) c next).isSome = true

theorem isSome_orElse {α : Type} {a b : Option α} :
    (a <|> b).isSome = true ↔ a.isSome = true ∨ b.isSome = true := by
  cases a <;> simp

/-- Repeating as rarely as possible reads what repeating as often as possible does. -/
theorem reads_few {a : Pattern} {i j : Nat} {c d : Captures} (h : Reads text (.few a) i c j d) :
    Reads text (.many a) i c j d := by
  generalize hfew : Pattern.few a = repetition at h
  induction h with
  | fewDone => exact .manyDone
  | fewMore hround _ _ ih =>
      cases hfew
      exact .manyMore hround (ih rfl)
  | _ => cases hfew

/-- A repetition is found when it has as many rounds as there are characters left. -/
theorem finds_repeatWith
    {choose : Option (Nat × Captures) → Option (Nat × Captures) → Option (Nat × Captures)}
    (hchoose : ∀ round done, (choose round done).isSome = true ↔
      round.isSome = true ∨ done.isSome = true)
    {a : Pattern} (ha : Finds text a) (hmoves : a.moves = true) {i j : Nat} {c d : Captures}
    (h : Reads text (.many a) i c j d) {rounds : Nat} (hrounds : text.length - i ≤ rounds)
    (hi : i ≤ text.length) {next : Place → Captures → Option (Nat × Captures)}
    (hnext : (next (placeAt text j) d).isSome = true) :
    (repeatWith choose (run text.length a) rounds (placeAt text i) c next).isSome = true := by
  generalize hmany : Pattern.many a = repetition at h
  induction h generalizing rounds with
  | manyDone =>
      cases rounds with
      | zero => exact hnext
      | succ rounds => exact (hchoose _ _).2 (.inr hnext)
  | @manyMore b i j k c d e hround hrest _ ih =>
      cases hmany
      have hlt := hround.lt hmoves
      have hj := hround.le_length hi
      obtain ⟨rounds, rfl⟩ : ∃ more, rounds = more + 1 := ⟨rounds - 1, by omega⟩
      refine (hchoose _ _).2 (.inl (ha hround hi ?_))
      rw [if_pos (show (placeAt text i).pos < (placeAt text j).pos from hlt)]
      exact ih (by omega) hj hnext rfl
  | _ => cases hmany

theorem finds_run {a : Pattern} (ha : a.decided = true) : Finds text a := by
  intro i j c d next h hi hnext
  induction a generalizing i j c d next with
  | empty => cases h with
    | empty => exact hnext
  | one p => cases h with
    | one hx hpx =>
        obtain ⟨hlt, rfl⟩ := List.getElem?_eq_some_iff.1 hx
        rw [run_one_cons (List.drop_eq_getElem_cons hlt), if_pos hpx]
        exact hnext
  | seq a b iha ihb =>
      obtain ⟨hda, hdb⟩ := Bool.and_eq_true_iff.1 ha
      cases h with
      | seq hreada hreadb => exact iha hda hreada hi (ihb hdb hreadb (hreada.le_length hi) hnext)
  | alt a b iha ihb =>
      obtain ⟨hda, hdb⟩ := Bool.and_eq_true_iff.1 ha
      cases h with
      | left hread => exact isSome_orElse.2 (.inl (iha hda hread hi hnext))
      | right hread => exact isSome_orElse.2 (.inr (ihb hdb hread hi hnext))
  | many a ih =>
      obtain ⟨hda, hmoves⟩ := Bool.and_eq_true_iff.1 ha
      rw [run, repeatMany_eq]
      exact finds_repeatWith (fun _ _ => isSome_orElse) (ih hda) hmoves h (Nat.le_refl _) hi hnext
  | few a ih =>
      obtain ⟨hda, hmoves⟩ := Bool.and_eq_true_iff.1 ha
      rw [run, repeatFew_eq]
      exact finds_repeatWith (fun _ _ => isSome_orElse.trans or_comm) (ih hda) hmoves (reads_few h)
        (Nat.le_refl _) hi
        hnext
  | capture group a ih => cases h with
    | capture hread => exact ih ha hread hi hnext
  | atStart => cases h with
    | atStart => exact hnext
  | wordEdge => cases h with
    | wordEdge hedge => exact (congrArg Option.isSome (if_pos hedge)).trans hnext
  | after p => cases h with
    | after hbefore => exact (congrArg Option.isSome (if_pos hbefore)).trans hnext
  | notAfter p => cases h with
    | notAfter hbefore =>
        exact (congrArg Option.isSome (if_neg (Bool.eq_false_iff.1 hbefore))).trans hnext
  | atEnd => cases ha
  | notAhead a ih => cases ha

/-- A match is found wherever such a pattern can read. -/
theorem isSome_matchAt_of_reads {p : Pattern} (hp : p.decided = true) {i j : Nat} {d : Captures}
    (h : Reads text p i [] j d) (hi : i ≤ text.length) :
    (matchAt p text.length (placeAt text i)).isSome = true := by
  rw [matchAt, Option.isSome_map]
  exact finds_run hp h hi rfl

/-- A sequence goes on with its second part. -/
theorem run_all_append (size : Nat) (front back : List Pattern) (place : Place) (c : Captures)
    (next : Place → Captures → Option (Nat × Captures)) :
    run size (.all (front ++ back)) place c next =
      run size (.all front) place c fun place' c' => run size (.all back) place' c' next := by
  induction front generalizing place c with
  | nil => rfl
  | cons a front ih =>
      have hcons (parts : List Pattern) (place : Place) (c : Captures)
          (next : Place → Captures → Option (Nat × Captures)) :
            run size (.all (a :: parts)) place c next =
            run size a place c fun place' c' => run size (.all parts) place' c' next := rfl
      rw [List.cons_append, hcons, hcons]
      simp only [ih]

/-- A pattern that reaches to the end of a text is found at its start. -/
theorem isSome_matchStart {parts : List Pattern} (hparts : (Pattern.all parts).decided = true)
    {d : Captures} (h : Reads text (.all parts) 0 [] text.length d) :
    ((Pattern.all (parts ++ [Pattern.atEnd])).matchStart text).isSome = true := by
  have hend (c : Captures) : (run text.length (.all [.atEnd]) (placeAt text text.length) c
      fun place captures => some (place.pos, captures)).isSome = true := by
    simp [all, run, placeAt]
  rw [matchStart, matchAt, Option.isSome_map, run_all_append]
  exact finds_run hparts h (Nat.zero_le _) (hend d)

/-- A match at the start of a text that must reach to its end does so, but for a last line feed. -/
theorem exists_of_matchStart {parts : List Pattern} {m : Match}
    (h : (Pattern.all (parts ++ [Pattern.atEnd])).matchStart text = some m) :
    Reads text (.all parts) 0 [] m.stop m.captures ∧
      (text.drop m.stop = [] ∨ text.drop m.stop = ['\n']) := by
  obtain ⟨found, hfound, rfl⟩ := Option.map_eq_some_iff.1 h
  rw [run_all_append] at hfound
  change run text.length (.all parts) (placeAt text 0) [] _ = some found at hfound
  obtain ⟨j, d, hread, hnext⟩ := follows_run _ hfound
  simp only [all, List.foldr, run] at hnext
  split at hnext
  · next hend =>
      obtain rfl := Option.some.inj hnext
      exact ⟨hread, by simpa [placeAt] using hend⟩
  · cases hnext

/-! ## Matches one by one -/

/-- A pattern without groups captures nothing. -/
theorem Reads.captures_eq {p : Pattern} {i j : Nat} {c d : Captures} (h : Reads text p i c j d)
    (hp : p.groups = []) : d = c := by
  induction h with
  | seq _ _ iha ihb =>
      obtain ⟨ha, hb⟩ := List.append_eq_nil_iff.1 hp
      exact (ihb hb).trans (iha ha)
  | left _ ih => exact ih (List.append_eq_nil_iff.1 hp).1
  | right _ ih => exact ih (List.append_eq_nil_iff.1 hp).2
  | manyMore _ _ iha ihb => exact (ihb hp).trans (iha hp)
  | fewMore _ _ iha ihb => exact (ihb hp).trans (iha hp)
  | capture => cases hp
  | _ => rfl

/-- The match at an offset is known from the one way to read its first parts, and from what the
matcher finds behind them. -/
theorem matchAt_append_eq {front back : List Pattern} {i j : Nat} {d : Captures}
    {found : Nat × Captures} (hdecided : (Pattern.all front).decided = true) (hi : i ≤ text.length)
    (hfront : Reads text (.all front) i [] j d)
    (honly : ∀ {k e}, Reads text (.all front) i [] k e → k = j ∧ e = d)
    (hback : run text.length (.all back) (placeAt text j) d
      (fun place captures => some (place.pos, captures)) =
        some found) :
    matchAt (.all (front ++ back)) text.length (placeAt text i) =
      some { start := i, stop := found.1, captures := found.2 } := by
  have hsome : (run text.length (.all front) (placeAt text i) [] fun place captures =>
      run text.length (.all back) place captures fun place captures =>
        some (place.pos, captures)).isSome = true :=
    finds_run hdecided hfront hi (by rw [hback]; rfl)
  obtain ⟨other, hother⟩ := Option.isSome_iff_exists.1 hsome
  obtain ⟨k, e, hread, hnext⟩ := follows_run _ hother
  obtain ⟨rfl, rfl⟩ := honly hread
  obtain rfl := Option.some.inj (hback.symm.trans hnext)
  rw [matchAt, run_all_append, hother]
  rfl

/-- The matches of a text from an offset on. -/
def foundFrom (p : Pattern) (text : List Char) (i : Nat) : List Match :=
  matchesFrom p text.length (text.take i).getLast? i i (text.drop i)

theorem findAll_eq (p : Pattern) (text : List Char) : findAll p text = foundFrom p text 0 :=
  rfl

theorem inOrder_foundFrom {p : Pattern} {i : Nat} (hi : i ≤ text.length) :
    InOrder p text i (foundFrom p text i) :=
  inOrder_matchesFrom rfl hi i

/-- Where a match may start anyway, it does not matter what was matched before. -/
theorem matchesFrom_least {p : Pattern} {size pos least : Nat} {before : Option Char}
    {rest : List Char} (h : least ≤ pos) :
    matchesFrom p size before pos least rest = matchesFrom p size before pos pos rest := by
  induction rest generalizing before pos least with
  | nil => rw [matchesFrom, matchesFrom, if_neg (Nat.not_lt.2 h), if_neg (Nat.lt_irrefl pos)]
  | cons c rest ih =>
      rw [matchesFrom, matchesFrom, if_neg (Nat.not_lt.2 h), if_neg (Nat.lt_irrefl pos)]
      split
      · rfl
      · rw [ih (Nat.le_succ_of_le h), ih (Nat.le_succ pos)]

/-- From an offset inside of a match on, the search goes on behind the match. -/
theorem matchesFrom_stop {p : Pattern} {i j : Nat} (hij : i ≤ j) (hj : j ≤ text.length) :
    matchesFrom p text.length (text.take i).getLast? i j (text.drop i) = foundFrom p text j := by
  induction hd : j - i generalizing i with
  | zero =>
      obtain rfl : i = j := by omega
      rfl
  | succ distance ih =>
      obtain ⟨x, rest, hrest⟩ : ∃ x rest, text.drop i = x :: rest :=
        ⟨_, _, List.drop_eq_getElem_cons (by omega)⟩
      rw [hrest, matchesFrom_step hrest, if_pos (by omega), ← (drop_eq_cons hrest).2]
      exact ih (by omega) (by omega)

/-- A match is followed by the ones behind it. -/
theorem foundFrom_match {p : Pattern} {i : Nat} {m : Match} (hi : i < m.stop)
    (hstop : m.stop ≤ text.length) (hmatch : matchAt p text.length (placeAt text i) = some m) :
    foundFrom p text i = m :: foundFrom p text m.stop := by
  obtain ⟨x, rest, hrest⟩ : ∃ x rest, text.drop i = x :: rest :=
    ⟨_, _, List.drop_eq_getElem_cons (by omega)⟩
  rw [foundFrom, hrest, matchesFrom_step hrest, if_neg (Nat.lt_irrefl i),
    hmatch, ← matchesFrom_stop hi hstop, (drop_eq_cons hrest).2]
  dsimp only
  rw [Nat.max_eq_left (show i + 1 ≤ m.stop from hi)]

/-- An offset without a match is passed over. -/
theorem foundFrom_succ {p : Pattern} {i : Nat} (hi : i < text.length)
    (hnone : matchAt p text.length (placeAt text i) = none) :
    foundFrom p text i = foundFrom p text (i + 1) := by
  obtain ⟨x, rest, hrest⟩ : ∃ x rest, text.drop i = x :: rest :=
    ⟨_, _, List.drop_eq_getElem_cons hi⟩
  rw [foundFrom, hrest, matchesFrom_step hrest, if_neg (Nat.lt_irrefl i), hnone, foundFrom,
    (drop_eq_cons hrest).2]
  exact matchesFrom_least (Nat.le_succ i)

theorem foundFrom_end (p : Pattern) {i : Nat} (hi : i = text.length) :
    foundFrom p text i = (matchAt p text.length (placeAt text i)).toList := by
  subst hi
  rw [foundFrom, List.drop_length, matchesFrom_end (List.drop_length), if_neg (Nat.lt_irrefl _)]

/-- The first match is one at an offset, or the first one behind the offset. -/
theorem head?_foundFrom (p : Pattern) {i : Nat} (hi : i < text.length) :
    (foundFrom p text i).head? =
    (matchAt p text.length (placeAt text i)).or (foundFrom p text (i + 1)).head? := by
  cases hmatch : matchAt p text.length (placeAt text i) with
  | none => rw [foundFrom_succ hi hmatch, Option.none_or]
  | some m =>
      obtain ⟨x, rest, hrest⟩ : ∃ x rest, text.drop i = x :: rest :=
        ⟨_, _, List.drop_eq_getElem_cons hi⟩
      rw [foundFrom, hrest, matchesFrom_step hrest, if_neg (Nat.lt_irrefl i), hmatch,
        List.head?_cons, Option.some_or]

/-- What is taken from the first match of a text depends on what is taken from the matches at its
offsets. -/
theorem map_find?_congr {α : Type} {p : Pattern} {other : List Char} {f g : Match → α}
    (hlength : text.length = other.length)
    (h : ∀ i ≤ text.length, (matchAt p text.length (placeAt text i)).map f =
      (matchAt p other.length (placeAt other i)).map g) : (find? p text).map f =
        (find? p other).map g := by
  suffices hfrom : ∀ i ≤ text.length, (foundFrom p text i).head?.map f =
    (foundFrom p other i).head?.map g from
    hfrom 0 (Nat.zero_le _)
  intro i hi
  induction hd : text.length - i generalizing i with
  | zero =>
      have hend : i = text.length := by omega
      rw [foundFrom_end p hend, foundFrom_end p (hend.trans hlength), Option.head?_toList,
        Option.head?_toList, h i hi]
  | succ distance ih =>
      have hlt : i < text.length := by omega
      have hlt' : i < other.length := by omega
      rw [head?_foundFrom p hlt, head?_foundFrom p hlt', Option.map_or, Option.map_or, h i hi,
        ih (i + 1) hlt (by omega)]

theorem foundFrom_eq_nil {p : Pattern} {i : Nat}
    (hnone : ∀ k, i ≤ k → matchAt p text.length (placeAt text k) = none) :
    foundFrom p text i = [] :=
  matchesFrom_eq_nil rfl hnone i

/-- When nothing is found from an offset on, nothing matches there. -/
theorem matchAt_of_foundFrom_eq_nil {p : Pattern} {i k : Nat} (h : foundFrom p text i = [])
    (hik : i ≤ k) (hk : k ≤ text.length) : matchAt p text.length (placeAt text k) = none := by
  induction hd : k - i generalizing i with
  | zero =>
      obtain rfl : i = k := by omega
      obtain hlt | hend := Nat.lt_or_eq_of_le hk
      · have hhead := head?_foundFrom p hlt
        rw [h, List.head?_nil] at hhead
        exact (Option.or_eq_none_iff.1 hhead.symm).1
      · rwa [foundFrom_end p hend, Option.toList_eq_nil_iff] at h
  | succ distance ih =>
      have hhead := head?_foundFrom p (show i < text.length by omega)
      rw [h, List.head?_nil] at hhead
      exact ih (List.head?_eq_none_iff.1 (Option.or_eq_none_iff.1 hhead.symm).2) (by omega)
        (by omega)

/-- What is found in a text in front of another one is found in both, if each offset has the same
match. -/
theorem foundFrom_append {p : Pattern} {tail : List Char} (hmoves : p.moves = true)
    (hsame : ∀ i < text.length, matchAt p (text ++ tail).length (placeAt (text ++ tail) i) =
      matchAt p text.length (placeAt text i))
    (hend : foundFrom p text text.length = []) {i : Nat} (hi : i ≤ text.length) :
    foundFrom p (text ++ tail) i =
      foundFrom p text i ++ foundFrom p (text ++ tail) text.length := by
  induction hd : text.length - i using Nat.strongRecOn generalizing i with
  | ind distance ih =>
      obtain hlt | rfl := Nat.lt_or_eq_of_le hi
      · have hlonger : i < (text ++ tail).length := by
          rw [List.length_append]
          omega
        cases hmatch : matchAt p text.length (placeAt text i) with
        | none =>
            rw [foundFrom_succ hlt hmatch, foundFrom_succ hlonger ((hsame i hlt).trans hmatch)]
            exact ih _ (by omega) hlt rfl
        | some m =>
            obtain ⟨-, hread⟩ := of_matchAt hmatch
            have hstart := hread.lt hmoves
            have hstop := hread.le_length hi
            have hstop' : m.stop ≤ (text ++ tail).length := by
              rw [List.length_append]
              omega
            rw [foundFrom_match hstart hstop hmatch,
              foundFrom_match hstart hstop' ((hsame i hlt).trans hmatch), List.cons_append,
              ih _ (by omega) hstop rfl]
      · rw [hend, List.nil_append]

/-- A match that nothing before it reaches into is found. -/
theorem mem_foundFrom {p : Pattern} {i k : Nat} {m : Match} (hik : i ≤ k)
    (hmatch : matchAt p text.length (placeAt text k) = some m) (hm : k < m.stop)
    (hk : k ≤ text.length)
    (hbefore : ∀ {l j : Nat} {d : Captures}, Reads text p l [] j d → l < k → l < j ∧ j ≤ k) :
    m ∈ foundFrom p text i := by
  have hstop := (of_matchAt hmatch).2.le_length hk
  induction hd : k - i using Nat.strongRecOn generalizing i with
  | ind distance ih =>
      obtain rfl | hlt := Nat.eq_or_lt_of_le hik
      · rw [foundFrom_match hm hstop hmatch]
        exact List.mem_cons_self
      · cases hhere : matchAt p text.length (placeAt text i) with
        | none =>
            rw [foundFrom_succ (by omega) hhere]
            exact ih _ (by omega) hlt rfl
        | some other =>
            obtain ⟨hreads, hstops⟩ := hbefore (of_matchAt hhere).2 hlt
            rw [foundFrom_match hreads (by omega) hhere]
            exact List.mem_cons_of_mem other (ih _ (by omega) hstops rfl)

/-- What is found is what the matcher finds at its start. -/
theorem matchAt_of_mem_matchesFrom {p : Pattern} {size pos least : Nat} {rest : List Char}
    {m : Match} (hrest : text.drop pos = rest)
    (h : m ∈ matchesFrom p size (text.take pos).getLast? pos least rest) :
    matchAt p size (placeAt text m.start) = some m := by
  have hhere {pos : Nat} {other : Match} (hother : matchAt p size (placeAt text pos) = some other) :
      matchAt p size (placeAt text other.start) = some other := by
    rwa [(of_matchAt hother).1]
  induction rest generalizing pos least with
  | nil =>
      rw [matchesFrom_end hrest] at h
      split at h
      · cases h
      · exact hhere (Option.mem_toList.1 h)
  | cons x rest ih =>
      have hnext := (drop_eq_cons hrest).2
      rw [matchesFrom_step hrest] at h
      split at h
      · exact ih hnext h
      · cases hmatch : matchAt p size (placeAt text pos) with
        | none =>
            rw [hmatch] at h
            exact ih hnext h
        | some other =>
            rw [hmatch] at h
            obtain rfl | hm := List.mem_cons.1 h
            · exact hhere hmatch
            · exact ih hnext hm

theorem matchAt_of_mem {p : Pattern} {m : Match} (h : m ∈ findAll p text) :
    matchAt p text.length (placeAt text m.start) = some m :=
  matchAt_of_mem_matchesFrom (List.drop_zero (l := text)) h

end

end SqlLayout.Pattern
