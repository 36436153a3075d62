import SqlLayout.Proofs.Placeholder.Casts

/-!
# Levels of parentheses

What a cast applies to closes its parentheses where it ends and not before, and opens at most three
of them inside of one another.  A string is the exception, since its parentheses mean nothing.

## Implementation notes

The level after a part of a text is counted from the part alone, so that the levels of two parts add
up.
-/

namespace SqlLayout.Placeholder

open Pattern (Reads Captures slice)

/-- How many parentheses a text leaves open, or closes if negative. -/
def level (part : List Char) : Int :=
  part.count '(' - part.count ')'

theorem level_append (front back : List Char) :
    level (front ++ back) = level front + level back := by
  simp only [level, List.count_append]
  omega

section

variable {text : List Char} {i j k : Nat} {c d : Captures}

theorem level_slice (hij : i ≤ j) (hjk : j ≤ k) :
    level (slice text i k) = level (slice text i j) + level (slice text j k) := by
  rw [← Pattern.slice_append_slice hij hjk, level_append]

theorem level_slice_char {x : Char} (h : text[i]? = some x) :
    level (slice text i (i + 1)) = level [x] := by
  obtain ⟨hlt, hget⟩ := List.getElem?_eq_some_iff.1 h
  rw [slice, Nat.add_sub_cancel_left, List.drop_eq_getElem_cons hlt, hget]
  rfl

/-- A part of a text has no parentheses. -/
def Flat (text : List Char) (i j : Nat) : Prop :=
  ∀ x ∈ slice text i j, x ∉ ['(', ')']

theorem Flat.take (h : Flat text i j) (hkj : k ≤ j) : Flat text i k := by
  intro x hx
  obtain ⟨offset, hle, hlt, hget⟩ := Pattern.mem_slice_iff.1 hx
  exact h x (Pattern.mem_slice hle (Nat.lt_of_lt_of_le hlt hkj) hget)

theorem Flat.level (h : Flat text i j) : level (slice text i j) = 0 := by
  have hopen : '(' ∉ slice text i j := fun hmem => h _ hmem (by simp)
  have hclose : ')' ∉ slice text i j := fun hmem => h _ hmem (by simp)
  rw [Placeholder.level, List.count_eq_zero.2 hopen, List.count_eq_zero.2 hclose]
  rfl

/-- The parentheses of a part of a text are closed in it, and at most so many are open at a time. -/
structure Nested (text : List Char) (depth i j : Nat) : Prop where
  le : i ≤ j
  closed : level (slice text i j) = 0
  bounded : ∀ k, i ≤ k → k ≤ j → 0 ≤ level (slice text i k) ∧ level (slice text i k) ≤ depth

theorem Flat.nested (h : Flat text i j) (hij : i ≤ j) (depth : Nat) : Nested text depth i j where
  le := hij
  closed := h.level
  bounded := fun _ _ hkj => by
    rw [(h.take hkj).level]
    omega

namespace Nested

variable {depth : Nat}

theorem mono {more : Nat} (h : Nested text depth i j) (hdepth : depth ≤ more) :
    Nested text more i j where
  le := h.le
  closed := h.closed
  bounded := fun k hik hkj => by
    obtain ⟨hlow, hhigh⟩ := h.bounded k hik hkj
    omega

theorem append (hfront : Nested text depth i j) (hback : Nested text depth j k) :
    Nested text depth i k where
  le := hfront.le.trans hback.le
  closed := by rw [level_slice hfront.le hback.le, hfront.closed, hback.closed, Int.add_zero]
  bounded := fun offset hi hk => by
    by_cases hj : offset ≤ j
    · exact hfront.bounded offset hi hj
    · have hj := Nat.le_of_not_le hj
      rw [level_slice hfront.le hj, hfront.closed, Int.zero_add]
      exact hback.bounded offset hj hk

/-- Inside of a pair of parentheses one more is open. -/
theorem level_inside (h : Nested text depth (i + 1) j) (hopen : text[i]? = some '(') (hik : i < k)
    (hkj : k ≤ j) :
    1 ≤ level (slice text i k) ∧ level (slice text i k) ≤ depth + 1 := by
  have hchar : level (slice text i (i + 1)) = 1 := level_slice_char hopen
  have hinside := h.bounded k hik hkj
  rw [level_slice (Nat.le_add_right i 1) hik, hchar]
  omega

theorem group (h : Nested text depth (i + 1) j) (hopen : text[i]? = some '(')
    (hclose : text[j]? = some ')') :
    Nested text (depth + 1) i (j + 1) := by
  have hle := h.le
  have hfirst : level (slice text i (i + 1)) = 1 := level_slice_char hopen
  have hlast : level (slice text j (j + 1)) = -1 := level_slice_char hclose
  have hclosed : level (slice text i (j + 1)) = 0 := by
    rw [level_slice (Nat.le_add_right i 1) (by omega), level_slice hle (Nat.le_add_right j 1),
      hfirst, h.closed, hlast]
    rfl
  refine ⟨by omega, hclosed, fun k hik hkj => ?_⟩
  obtain rfl | hik := Nat.eq_or_lt_of_le hik
  · simp [Pattern.slice_self, level]
    omega
  obtain rfl | hkj := Nat.eq_or_lt_of_le hkj
  · omega
  · have hinside := h.level_inside hopen hik (by omega)
    omega

end Nested

/-! ## What is cast -/

theorem flat_of_avoids {p : Pattern} (h : Reads text p i c j d) (hp : p.avoids ['(', ')'] = true) :
    Flat text i j :=
  h.avoids hp

theorem flat_plainChar (h : Reads text plainChar i c j d) : Flat text i j :=
  flat_of_avoids h (by cbv)

/-- Nested text is nested. -/
theorem nested_of_reads {depth : Nat} (h : Reads text (nestedText depth) i c j d) :
    Nested text depth i j := by
  induction depth generalizing i j c d with
  | zero => exact (flat_of_avoids h (by cbv)).nested h.le 0
  | succ depth ih =>
      rw [nestedText] at h
      generalize hmany : Pattern.many
        (.alt plainChar (.all [.char '(', nestedText depth, .char ')'])) = repetition at h
      induction h with
      | @manyDone _ i _ =>
          have hflat : Flat text i i := by simp [Flat, Pattern.slice_self]
          exact hflat.nested (Nat.le_refl i) (depth + 1)
      | manyMore hround _ _ ihlater =>
          cases hmany
          refine Nested.append ?_ (ihlater rfl)
          obtain _ | _ | _ | hplain | hgroup := hround
          · exact (flat_plainChar hplain).nested hplain.le (depth + 1)
          · obtain ⟨_, _, hopen, hrest⟩ := Pattern.reads_all_cons.1 hgroup
            obtain ⟨_, _, hinside, hrest⟩ := Pattern.reads_all_cons.1 hrest
            obtain ⟨_, _, hclose, hend⟩ := Pattern.reads_all_cons.1 hrest
            obtain ⟨rfl, -⟩ := Pattern.reads_all_nil.1 hend
            cases hopen with
            | one hopen hmark =>
                cases hclose with
                | one hclose hmark' =>
                    obtain rfl := eq_of_beq hmark
                    obtain rfl := eq_of_beq hmark'
                    exact (ih hinside).group hopen hclose
      | _ => cases hmany

/-- A name without parentheses and a group behind it. -/
theorem nested_group (names : List Pattern) (depth : Nat) (h : Reads text (.all (names ++
      [.char '(', nestedText depth, .char ')'])) i c j d)
      (hnames : (Pattern.all names).avoids ['(', ')'] = true) :
    Nested text (depth + 1) i j ∧ ∀ k, i ≤ k → k < j → level (slice text i k) = 0 →
      Flat text i k := by
  obtain ⟨start, _, hname, hgroup⟩ := Pattern.reads_all_append.1 h
  obtain ⟨_, _, hopen, hrest⟩ := Pattern.reads_all_cons.1 hgroup
  obtain ⟨last, _, hinside, hrest⟩ := Pattern.reads_all_cons.1 hrest
  obtain ⟨_, _, hclose, hend⟩ := Pattern.reads_all_cons.1 hrest
  obtain ⟨rfl, -⟩ := Pattern.reads_all_nil.1 hend
  have hflat := flat_of_avoids hname hnames
  have hle := hname.le
  have hnested := nested_of_reads hinside
  cases hopen with
  | one hopen hmark =>
      cases hclose with
      | one hclose hmark' =>
          obtain rfl := eq_of_beq hmark
          obtain rfl := eq_of_beq hmark'
          refine ⟨(hflat.nested hle (depth + 1)).append (hnested.group hopen hclose),
            fun k hik hkj hlevel => ?_⟩
          by_cases hk : k ≤ start
          · exact hflat.take hk
          · have hinside := hnested.level_inside hopen (Nat.lt_of_not_le hk) (Nat.le_of_lt_succ hkj)
            rw [level_slice hle (by omega), hflat.level] at hlevel
            omega

/-- What is cast is nested, and is closed only where it ends, unless it is a string. -/
theorem nested_operand (h : Reads text castOperand i c j d) (hquote : text[i]? ≠ some '\x27') :
    Nested text 3 i j ∧ ∀ k, i ≤ k → k < j → level (slice text i k) = 0 → Flat text i k := by
  have hflat {p : Pattern} (hread : Reads text p i c j d) (hp : p.avoids ['(', ')'] = true) :
      Nested text 3 i j ∧ ∀ k, i ≤ k → k < j → level (slice text i k) = 0 → Flat text i k :=
    ⟨(flat_of_avoids hread hp).nested hread.le 3,
      fun k _ hkj _ => (flat_of_avoids hread hp).take hkj.le⟩
  obtain hcall | hgroup | hstring | hnumber | hname := reads_castOperand.1 h
  · have havoids : (Pattern.all (castableCall.take 2)).avoids ['(', ')'] = true := by cbv
    exact nested_group (castableCall.take 2) 2 hcall havoids
  · have havoids : (Pattern.all []).avoids ['(', ')'] = true := by cbv
    obtain ⟨hnested, hinside⟩ := nested_group [] 1 hgroup havoids
    exact ⟨hnested.mono (by omega), hinside⟩
  · obtain ⟨_, _, hopen, -⟩ := Pattern.reads_all_cons.1 hstring
    cases hopen with
    | one hopen hmark => exact absurd (eq_of_beq hmark ▸ hopen) hquote
  · exact hflat hnumber (by cbv)
  · exact hflat hname (by cbv)

end

end SqlLayout.Placeholder
