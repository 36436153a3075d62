import SqlLayout.Proofs.Pattern.Slice
import Mathlib.Data.Option.Basic

/-!
# What patterns read

A relation beside the matcher says what a pattern can read between two offsets of a text, and which
spans it captures.  Every match that the search finds is one of the relation, the matches come in
order, and they do not overlap.

## Implementation notes

The relation leaves open which of several ways the matcher takes, and what a pattern refuses to
stand before.  Three functions on patterns say with which characters anything that is read starts,
ends, and is made of; they are judged once, by induction on the relation.
-/

namespace SqlLayout.Pattern

/-- The place of a text at an offset. -/
def placeAt (text : List Char) (i : Nat) : Place :=
  { before := (text.take i).getLast?, rest := text.drop i, pos := i }

/-- What a pattern can read of a text between two offsets, with the captures before and after. -/
inductive Reads (text : List Char) : Pattern → Nat → Captures → Nat → Captures → Prop where
  | empty {i : Nat} {c : Captures} : Reads text .empty i c i c
  | one {p : Char → Bool} {i : Nat} {c : Captures} {x : Char} :
      text[i]? = some x → p x = true → Reads text (.one p) i c (i + 1) c
  | seq {a b : Pattern} {i j k : Nat} {c d e : Captures} :
      Reads text a i c j d → Reads text b j d k e → Reads text (.seq a b) i c k e
  | left {a b : Pattern} {i j : Nat} {c d : Captures} :
      Reads text a i c j d → Reads text (.alt a b) i c j d
  | right {a b : Pattern} {i j : Nat} {c d : Captures} :
      Reads text b i c j d → Reads text (.alt a b) i c j d
  | manyDone {a : Pattern} {i : Nat} {c : Captures} : Reads text (.many a) i c i c
  | manyMore {a : Pattern} {i j k : Nat} {c d e : Captures} :
      Reads text a i c j d → Reads text (.many a) j d k e → Reads text (.many a) i c k e
  | fewDone {a : Pattern} {i : Nat} {c : Captures} : Reads text (.few a) i c i c
  | fewMore {a : Pattern} {i j k : Nat} {c d e : Captures} :
      Reads text a i c j d → Reads text (.few a) j d k e → Reads text (.few a) i c k e
  | capture {group : Nat} {a : Pattern} {i j : Nat} {c d : Captures} :
      Reads text a i c j d → Reads text (.capture group a) i c j ((group, i, j) :: d)
  | atStart {c : Captures} : Reads text .atStart 0 c 0 c
  | atEnd {i : Nat} {c : Captures} : Reads text .atEnd i c i c
  | wordEdge {i : Nat} {c : Captures} :
      isWordEdge (placeAt text i) = true → Reads text .wordEdge i c i c
  | after {p : Char → Bool} {i : Nat} {c : Captures} :
      (text.take i).getLast?.any p = true → Reads text (.after p) i c i c
  | notAfter {p : Char → Bool} {i : Nat} {c : Captures} :
      (text.take i).getLast?.any p = false → Reads text (.notAfter p) i c i c
  | notAhead {a : Pattern} {i : Nat} {c : Captures} : Reads text (.notAhead a) i c i c

/-! ## The matcher -/

theorem drop_eq_cons {text rest : List Char} {i : Nat} {x : Char} (h : text.drop i = x :: rest) :
    text[i]? = some x ∧ text.drop (i + 1) = rest := by
  refine ⟨?_, ?_⟩
  · rw [← List.head?_drop, h, List.head?_cons]
  · rw [← List.tail_drop, h, List.tail_cons]

theorem placeAt_succ {text rest : List Char} {i : Nat} {x : Char} (h : text.drop i = x :: rest) :
    placeAt text (i + 1) = { before := some x, rest := rest, pos := i + 1 } := by
  obtain ⟨hx, hrest⟩ := drop_eq_cons h
  simp [placeAt, hrest, List.take_add_one, hx]

section

variable {text : List Char} {size : Nat}

/-- A step of the matcher that only goes where a pattern reads. -/
def Follows (text : List Char) (step : Step) (p : Pattern) : Prop :=
  ∀ {i : Nat} {c : Captures} {next : Place → Captures → Option (Nat × Captures)}
    {found : Nat × Captures},
    step (placeAt text i) c next = some found →
      ∃ j d, Reads text p i c j d ∧ next (placeAt text j) d = some found

theorem follows_repeatMany {step : Step} {a : Pattern} (h : Follows text step a) (rounds : Nat) :
    Follows text (repeatMany step rounds) (.many a) := by
  induction rounds with
  | zero => exact fun hfound => ⟨_, _, .manyDone, hfound⟩
  | succ rounds ih =>
      intro i c next found hfound
      rw [repeatMany, Option.orElse_eq_some] at hfound
      obtain hround | ⟨-, hdone⟩ := hfound
      · obtain ⟨j, d, hread, hnext⟩ := h hround
        split at hnext
        · obtain ⟨k, e, hmore, hlast⟩ := ih hnext
          exact ⟨k, e, .manyMore hread hmore, hlast⟩
        · cases hnext
      · exact ⟨_, _, .manyDone, hdone⟩

theorem follows_repeatFew {step : Step} {a : Pattern} (h : Follows text step a) (rounds : Nat) :
    Follows text (repeatFew step rounds) (.few a) := by
  induction rounds with
  | zero => exact fun hfound => ⟨_, _, .fewDone, hfound⟩
  | succ rounds ih =>
      intro i c next found hfound
      rw [repeatFew, Option.orElse_eq_some] at hfound
      obtain hdone | ⟨-, hround⟩ := hfound
      · exact ⟨_, _, .fewDone, hdone⟩
      · obtain ⟨j, d, hread, hnext⟩ := h hround
        split at hnext
        · obtain ⟨k, e, hmore, hlast⟩ := ih hnext
          exact ⟨k, e, .fewMore hread hmore, hlast⟩
        · cases hnext

theorem follows_one (p : Char → Bool) : Follows text (run size (.one p)) (.one p) := by
  intro i c next found hfound
  rw [run] at hfound
  cases hrest : text.drop i with
  | nil => simp [placeAt, hrest] at hfound
  | cons x rest =>
      simp only [placeAt, hrest] at hfound
      split at hfound
      · next hx => exact ⟨i + 1, c, .one (drop_eq_cons hrest).1 hx, by rwa [placeAt_succ hrest]⟩
      · cases hfound

/-- The matcher only goes where the pattern reads. -/
theorem follows_run (p : Pattern) : Follows text (run size p) p := by
  induction p with
  | empty => exact fun hfound => ⟨_, _, .empty, hfound⟩
  | one p => exact follows_one p
  | seq a b iha ihb =>
      intro i c next found hfound
      rw [run] at hfound
      obtain ⟨j, d, hread, hnext⟩ := iha hfound
      obtain ⟨k, e, hmore, hlast⟩ := ihb hnext
      exact ⟨k, e, .seq hread hmore, hlast⟩
  | alt a b iha ihb =>
      intro i c next found hfound
      rw [run, Option.orElse_eq_some] at hfound
      obtain hleft | ⟨-, hright⟩ := hfound
      · obtain ⟨j, d, hread, hnext⟩ := iha hleft
        exact ⟨j, d, .left hread, hnext⟩
      · obtain ⟨j, d, hread, hnext⟩ := ihb hright
        exact ⟨j, d, .right hread, hnext⟩
  | many a ih => exact fun hfound => follows_repeatMany ih _ hfound
  | few a ih => exact fun hfound => follows_repeatFew ih _ hfound
  | capture group a ih =>
      intro i c next found hfound
      rw [run] at hfound
      obtain ⟨j, d, hread, hnext⟩ := ih hfound
      exact ⟨j, _, .capture hread, hnext⟩
  | atStart =>
      intro i c next found hfound
      rw [run] at hfound
      split at hfound
      · next hstart =>
          obtain rfl : i = 0 := by simpa [placeAt] using hstart
          exact ⟨0, c, .atStart, hfound⟩
      · cases hfound
  | atEnd =>
      intro i c next found hfound
      rw [run] at hfound
      split at hfound
      · exact ⟨i, c, .atEnd, hfound⟩
      · cases hfound
  | wordEdge =>
      intro i c next found hfound
      rw [run] at hfound
      split at hfound
      · next hedge => exact ⟨i, c, .wordEdge hedge, hfound⟩
      · cases hfound
  | after p =>
      intro i c next found hfound
      rw [run] at hfound
      split at hfound
      · next hbefore => exact ⟨i, c, .after hbefore, hfound⟩
      · cases hfound
  | notAfter p =>
      intro i c next found hfound
      rw [run] at hfound
      split at hfound
      · cases hfound
      · next hbefore => exact ⟨i, c, .notAfter (Bool.eq_false_iff.2 hbefore), hfound⟩
  | notAhead a ih =>
      intro i c next found hfound
      rw [run] at hfound
      split at hfound
      · cases hfound
      · exact ⟨i, c, .notAhead, hfound⟩

/-! ## The search -/

/-- A match that a pattern reads in a text. -/
structure Match.Of (m : Match) (p : Pattern) (text : List Char) : Prop where
  reads : Reads text p m.start [] m.stop m.captures
  start_le : m.start ≤ text.length

theorem of_matchAt {p : Pattern} {i : Nat} {m : Match}
    (h : matchAt p size (placeAt text i) = some m) :
    m.start = i ∧ Reads text p i [] m.stop m.captures := by
  obtain ⟨found, hfound, rfl⟩ := Option.map_eq_some_iff.1 h
  obtain ⟨j, d, hread, hnext⟩ := follows_run p hfound
  obtain rfl := Option.some.inj hnext
  exact ⟨rfl, hread⟩

/-- Matches of a pattern in order from an offset on, each after the one before. -/
structure InOrder (p : Pattern) (text : List Char) (least : Nat) (found : List Match) : Prop where
  each : ∀ m ∈ found, m.Of p text ∧ least ≤ m.start
  apart : found.Pairwise fun a b => a.stop ≤ b.start

theorem InOrder.cons {p : Pattern} {m : Match} {found : List Match} {least : Nat} (hm : m.Of p text)
    (hleast : least ≤ m.start) (h : InOrder p text (max m.stop (m.start + 1)) found) :
    InOrder p text least (m :: found) where
  each := by
    refine List.forall_mem_cons.2 ⟨⟨hm, hleast⟩, fun other hother => ?_⟩
    obtain ⟨hof, hafter⟩ := h.each other hother
    exact ⟨hof, by omega⟩
  apart := by
    refine List.pairwise_cons.2 ⟨fun other hother => ?_, h.apart⟩
    exact Nat.le_trans (Nat.le_max_left _ _) (h.each other hother).2

theorem inOrder_nil (p : Pattern) (least : Nat) : InOrder p text least [] :=
  ⟨by simp, .nil⟩

theorem matchesFrom_end {p : Pattern} {pos least : Nat} (hrest : text.drop pos = []) :
    matchesFrom p size (text.take pos).getLast? pos least [] =
      if pos < least then [] else (matchAt p size (placeAt text pos)).toList := by
  rw [matchesFrom, placeAt, hrest]

theorem matchesFrom_step {p : Pattern} {pos least : Nat} {x : Char} {rest : List Char}
    (hrest : text.drop pos = x :: rest) :
    matchesFrom p size (text.take pos).getLast? pos least (x :: rest) =
      if pos < least then matchesFrom p size (text.take (pos + 1)).getLast? (pos + 1) least rest
      else match matchAt p size (placeAt text pos) with
        | some m => m :: matchesFrom p size (text.take (pos + 1)).getLast? (pos + 1)
            (max m.stop (pos + 1)) rest
        | none => matchesFrom p size (text.take (pos + 1)).getLast? (pos + 1) least rest := by
  have hbefore : (text.take (pos + 1)).getLast? = some x := by
    simp [List.take_add_one, (drop_eq_cons hrest).1]
  rewrite [matchesFrom, hbefore, placeAt, hrest]
  rfl

theorem inOrder_matchesFrom {p : Pattern} {rest : List Char} {pos : Nat}
    (hrest : text.drop pos = rest) (hpos : pos ≤ text.length) (least : Nat) :
    InOrder p text least (matchesFrom p size (text.take pos).getLast? pos least rest) := by
  induction rest generalizing pos least with
  | nil =>
      rw [matchesFrom_end hrest]
      split
      · exact inOrder_nil p least
      · next hleast =>
          cases hmatch : matchAt p size (placeAt text pos) with
          | none => exact inOrder_nil p least
          | some m =>
              obtain ⟨rfl, hread⟩ := of_matchAt hmatch
              exact .cons ⟨hread, hpos⟩ (by omega) (inOrder_nil p _)
  | cons x rest ih =>
      obtain ⟨hx, hnext⟩ := drop_eq_cons hrest
      have hlt : pos < text.length := (List.getElem?_eq_some_iff.1 hx).1
      rw [matchesFrom_step hrest]
      split
      · exact ih hnext hlt least
      · next hleast =>
          cases hmatch : matchAt p size (placeAt text pos) with
          | none => exact ih hnext hlt least
          | some m =>
              obtain ⟨rfl, hread⟩ := of_matchAt hmatch
              exact .cons ⟨hread, hpos⟩ (by omega) (ih hnext hlt _)

/-- The matches of a text are matches of the pattern, in order and apart. -/
theorem inOrder_findAll (p : Pattern) (text : List Char) : InOrder p text 0 (findAll p text) :=
  inOrder_matchesFrom (List.drop_zero) (Nat.zero_le _) 0

/-! ## The characters that are read -/

theorem Reads.le {p : Pattern} {i j : Nat} {c d : Captures} (h : Reads text p i c j d) : i ≤ j := by
  induction h with
  | one => omega
  | seq _ _ iha ihb => omega
  | manyMore _ _ iha ihb => omega
  | fewMore _ _ iha ihb => omega
  | left _ ih => exact ih
  | right _ ih => exact ih
  | capture _ ih => exact ih
  | _ => exact Nat.le_refl _

theorem Reads.le_length {p : Pattern} {i j : Nat} {c d : Captures} (h : Reads text p i c j d)
    (hi : i ≤ text.length) : j ≤ text.length := by
  induction h with
  | one hx => exact (List.getElem?_eq_some_iff.1 hx).1
  | seq _ _ iha ihb => exact ihb (iha hi)
  | manyMore _ _ iha ihb => exact ihb (iha hi)
  | fewMore _ _ iha ihb => exact ihb (iha hi)
  | left _ ih => exact ih hi
  | right _ ih => exact ih hi
  | capture _ ih => exact ih hi
  | _ => exact hi

/-- Whether a pattern always reads something. -/
def moves : Pattern → Bool
  | .one _ => true
  | .seq a b => a.moves || b.moves
  | .alt a b => a.moves && b.moves
  | .capture _ a => a.moves
  | _ => false

section

variable (marks : List Char)

/-- Whether nothing that a pattern reads starts with one of some characters. -/
def avoidsFirst : Pattern → Bool
  | .one p => marks.all fun x => !p x
  | .seq a b => avoidsFirst a && (a.moves || avoidsFirst b)
  | .alt a b => avoidsFirst a && avoidsFirst b
  | .many a | .few a | .capture _ a => avoidsFirst a
  | _ => true

/-- Whether nothing that a pattern reads ends with one of some characters. -/
def avoidsLast : Pattern → Bool
  | .one p => marks.all fun x => !p x
  | .seq a b => avoidsLast b && (b.moves || avoidsLast a)
  | .alt a b => avoidsLast a && avoidsLast b
  | .many a | .few a | .capture _ a => avoidsLast a
  | _ => true

/-- Whether a pattern reads none of some characters. -/
def avoids : Pattern → Bool
  | .one p => marks.all fun x => !p x
  | .seq a b | .alt a b => avoids a && avoids b
  | .many a | .few a | .capture _ a => avoids a
  | _ => true

end

theorem not_mem_of_avoids {marks : List Char} {p : Char → Bool}
    (h : (marks.all fun x => !p x) = true) {x : Char} (hx : p x = true) : x ∉ marks := by
  intro hmem
  have hnot := List.all_eq_true.1 h x hmem
  simp [hx] at hnot

theorem Reads.lt {p : Pattern} {i j : Nat} {c d : Captures} (h : Reads text p i c j d)
    (hmoves : p.moves = true) : i < j := by
  induction h with
  | one => omega
  | @seq a b i j k c d e hreada hreadb iha ihb =>
      have hlea := hreada.le
      have hleb := hreadb.le
      obtain hmoves | hmoves : a.moves = true ∨ b.moves = true := by simpa [moves] using hmoves
      · exact Nat.lt_of_lt_of_le (iha hmoves) hleb
      · exact Nat.lt_of_le_of_lt hlea (ihb hmoves)
  | @left a b i j c d _ ih =>
      obtain ⟨hmoves, -⟩ : a.moves = true ∧ b.moves = true := by simpa [moves] using hmoves
      exact ih hmoves
  | @right a b i j c d _ ih =>
      obtain ⟨-, hmoves⟩ : a.moves = true ∧ b.moves = true := by simpa [moves] using hmoves
      exact ih hmoves
  | capture _ ih => exact ih hmoves
  | _ => cases hmoves

section

variable {marks : List Char} {p : Pattern} {i j : Nat} {c d : Captures}

theorem Reads.first (h : Reads text p i c j d) (hp : p.avoidsFirst marks = true) :
    i = j ∨ ∃ x, text[i]? = some x ∧ x ∉ marks := by
  induction h with
  | one hx hpx => exact .inr ⟨_, hx, not_mem_of_avoids hp hpx⟩
  | @seq a b i j k c d e hreada _ iha ihb =>
      obtain ⟨ha, hb⟩ : a.avoidsFirst marks = true ∧
          (a.moves = true ∨ b.avoidsFirst marks = true) := by
        simpa [avoidsFirst] using hp
      obtain rfl | hfirst := iha ha
      · refine ihb (hb.resolve_left fun hmoves => ?_)
        exact absurd (hreada.lt hmoves) (Nat.lt_irrefl _)
      · exact .inr hfirst
  | left _ ih => exact ih (Bool.and_eq_true_iff.1 hp).1
  | right _ ih => exact ih (Bool.and_eq_true_iff.1 hp).2
  | manyMore _ _ iha ihb =>
      obtain rfl | hfirst := iha hp
      · exact ihb hp
      · exact .inr hfirst
  | fewMore _ _ iha ihb =>
      obtain rfl | hfirst := iha hp
      · exact ihb hp
      · exact .inr hfirst
  | capture _ ih => exact ih hp
  | _ => exact .inl rfl

theorem Reads.last (h : Reads text p i c j d) (hp : p.avoidsLast marks = true) :
    i = j ∨ ∃ x, text[j - 1]? = some x ∧ x ∉ marks := by
  induction h with
  | one hx hpx => exact .inr ⟨_, hx, not_mem_of_avoids hp hpx⟩
  | @seq a b i j k c d e _ hreadb iha ihb =>
      obtain ⟨hb, ha⟩ : b.avoidsLast marks = true ∧
          (b.moves = true ∨ a.avoidsLast marks = true) := by
        simpa [avoidsLast] using hp
      obtain rfl | hlast := ihb hb
      · refine iha (ha.resolve_left fun hmoves => ?_)
        exact absurd (hreadb.lt hmoves) (Nat.lt_irrefl _)
      · exact .inr hlast
  | left _ ih => exact ih (Bool.and_eq_true_iff.1 hp).1
  | right _ ih => exact ih (Bool.and_eq_true_iff.1 hp).2
  | manyMore _ _ iha ihb =>
      obtain rfl | hlast := ihb hp
      · exact iha hp
      · exact .inr hlast
  | fewMore _ _ iha ihb =>
      obtain rfl | hlast := ihb hp
      · exact iha hp
      · exact .inr hlast
  | capture _ ih => exact ih hp
  | _ => exact .inl rfl

theorem Reads.avoids (h : Reads text p i c j d) (hp : p.avoids marks = true) :
    ∀ x ∈ slice text i j, x ∉ marks := by
  have hboth {i j k : Nat} (hij : i ≤ j) (hjk : j ≤ k) (hfront : ∀ x ∈ slice text i j, x ∉ marks)
      (hback : ∀ x ∈ slice text j k, x ∉ marks) : ∀ x ∈ slice text i k, x ∉ marks := by
    rw [← slice_append_slice hij hjk]
    exact List.forall_mem_append.2 ⟨hfront, hback⟩
  induction h with
  | @one p i c x hx hpx =>
      intro y hy
      obtain ⟨offset, hle, hlt, hget⟩ := mem_slice_iff.1 hy
      obtain rfl : offset = i := by omega
      obtain rfl : x = y := Option.some.inj (hx.symm.trans hget)
      exact not_mem_of_avoids hp hpx
  | seq hreada hreadb iha ihb =>
      obtain ⟨ha, hb⟩ := Bool.and_eq_true_iff.1 hp
      exact hboth hreada.le hreadb.le (iha ha) (ihb hb)
  | manyMore hreada hreadb iha ihb => exact hboth hreada.le hreadb.le (iha hp) (ihb hp)
  | fewMore hreada hreadb iha ihb => exact hboth hreada.le hreadb.le (iha hp) (ihb hp)
  | left _ ih => exact ih (Bool.and_eq_true_iff.1 hp).1
  | right _ ih => exact ih (Bool.and_eq_true_iff.1 hp).2
  | capture _ ih => exact ih hp
  | _ => simp [slice_self]

end

/-! ## Groups -/

/-- The groups of a pattern with what they capture. -/
def groups : Pattern → List (Nat × Pattern)
  | .seq a b | .alt a b => a.groups ++ b.groups
  | .many a | .few a => a.groups
  | .capture group a => (group, a) :: a.groups
  | _ => []

section

variable {p : Pattern} {i j : Nat} {c d : Captures}

/-- A span that is captured is read by what its group captures. -/
theorem Reads.captured (h : Reads text p i c j d) {group s t : Nat} (hmem : (group, s, t) ∈ d) :
    (group, s, t) ∈ c ∨ ∃ a before after, (group, a) ∈ p.groups ∧ Reads text a s before t after ∧
      i ≤ s ∧ t ≤ j := by
  induction h with
  | @seq a b i j k c d e hreada hreadb iha ihb =>
      have hlea := hreada.le
      have hleb := hreadb.le
      obtain hearlier | ⟨a', before, after, hgroup, hread, hs, ht⟩ := ihb hmem
      · obtain hearlier | ⟨a', before, after, hgroup, hread, hs, ht⟩ := iha hearlier
        · exact .inl hearlier
        · exact .inr ⟨a', before, after, List.mem_append_left _ hgroup, hread, hs, by omega⟩
      · exact .inr ⟨a', before, after, List.mem_append_right _ hgroup, hread, by omega, ht⟩
  | left _ ih =>
      obtain hearlier | ⟨a', before, after, hgroup, hread⟩ := ih hmem
      · exact .inl hearlier
      · exact .inr ⟨a', before, after, List.mem_append_left _ hgroup, hread⟩
  | right _ ih =>
      obtain hearlier | ⟨a', before, after, hgroup, hread⟩ := ih hmem
      · exact .inl hearlier
      · exact .inr ⟨a', before, after, List.mem_append_right _ hgroup, hread⟩
  | manyMore hreada hreadb iha ihb =>
      have hlea := hreada.le
      have hleb := hreadb.le
      obtain hearlier | ⟨a', before, after, hgroup, hread, hs, ht⟩ := ihb hmem
      · obtain hearlier | ⟨a', before, after, hgroup, hread, hs, ht⟩ := iha hearlier
        · exact .inl hearlier
        · exact .inr ⟨a', before, after, hgroup, hread, hs, by omega⟩
      · exact .inr ⟨a', before, after, hgroup, hread, by omega, ht⟩
  | fewMore hreada hreadb iha ihb =>
      have hlea := hreada.le
      have hleb := hreadb.le
      obtain hearlier | ⟨a', before, after, hgroup, hread, hs, ht⟩ := ihb hmem
      · obtain hearlier | ⟨a', before, after, hgroup, hread, hs, ht⟩ := iha hearlier
        · exact .inl hearlier
        · exact .inr ⟨a', before, after, hgroup, hread, hs, by omega⟩
      · exact .inr ⟨a', before, after, hgroup, hread, by omega, ht⟩
  | capture hread ih =>
      obtain heq | hmem := List.mem_cons.1 hmem
      · cases heq
        exact .inr ⟨_, _, _, List.mem_cons_self, hread, Nat.le_refl _, Nat.le_refl _⟩
      · obtain hearlier | ⟨a', before, after, hgroup, hread⟩ := ih hmem
        · exact .inl hearlier
        · exact .inr ⟨a', before, after, List.mem_cons_of_mem _ hgroup, hread⟩
  | _ => exact .inl hmem

/-- The span of a group of a match is read by what the group captures. -/
theorem Match.Of.span {m : Match} (h : m.Of p text) {group s t : Nat}
    (hspan : m.span? group = some (s, t)) :
    ∃ a before after, (group, a) ∈ p.groups ∧ Reads text a s before t after ∧
      m.start ≤ s ∧ t ≤ m.stop := by
  obtain ⟨front, back, hcaptures, -⟩ := List.lookup_eq_some_iff.1 hspan
  have hmem : (group, s, t) ∈ m.captures := by simp [hcaptures]
  exact (h.reads.captured hmem).resolve_left List.not_mem_nil

/-- Reading a pattern without a group keeps the span of the group. -/
theorem Reads.lookup_eq (h : Reads text p i c j d) {group : Nat}
    (hgroup : group ∉ p.groups.map Prod.fst) :
    d.lookup group = c.lookup group := by
  induction h with
  | seq _ _ iha ihb =>
      simp only [groups, List.map_append, List.mem_append, not_or] at hgroup
      exact (ihb hgroup.2).trans (iha hgroup.1)
  | left _ ih =>
      simp only [groups, List.map_append, List.mem_append, not_or] at hgroup
      exact ih hgroup.1
  | right _ ih =>
      simp only [groups, List.map_append, List.mem_append, not_or] at hgroup
      exact ih hgroup.2
  | manyMore _ _ iha ihb => exact (ihb hgroup).trans (iha hgroup)
  | fewMore _ _ iha ihb => exact (ihb hgroup).trans (iha hgroup)
  | @capture number a i j c d _ ih =>
      simp only [groups, List.map_cons, List.mem_cons, not_or] at hgroup
      rw [List.lookup_cons, beq_eq_false_iff_ne.2 hgroup.1]
      exact ih hgroup.2
  | _ => rfl

/-- Whether a pattern captures something under a group whenever it reads. -/
def alwaysCaptures (group : Nat) : Pattern → Bool
  | .seq a b => alwaysCaptures group a || alwaysCaptures group b
  | .alt a b => alwaysCaptures group a && alwaysCaptures group b
  | .capture number a => number == group || alwaysCaptures group a
  | _ => false

/-- A group that is captured stays captured. -/
theorem Reads.isSome_lookup (h : Reads text p i c j d) {group : Nat}
    (hc : (c.lookup group).isSome = true) :
    (d.lookup group).isSome = true := by
  induction h with
  | seq _ _ iha ihb => exact ihb (iha hc)
  | manyMore _ _ iha ihb => exact ihb (iha hc)
  | fewMore _ _ iha ihb => exact ihb (iha hc)
  | left _ ih => exact ih hc
  | right _ ih => exact ih hc
  | capture _ ih =>
      rw [List.lookup_cons]
      split
      · rfl
      · exact ih hc
  | _ => exact hc

theorem Reads.isSome_of_captures (h : Reads text p i c j d) {group : Nat}
    (hp : p.alwaysCaptures group = true) :
    (d.lookup group).isSome = true := by
  induction h with
  | seq _ hb iha ihb =>
      obtain ha | hcaptures := Bool.or_eq_true_iff.1 hp
      · exact hb.isSome_lookup (iha ha)
      · exact ihb hcaptures
  | left _ ih => exact ih (Bool.and_eq_true_iff.1 hp).1
  | right _ ih => exact ih (Bool.and_eq_true_iff.1 hp).2
  | capture _ ih =>
      rw [List.lookup_cons]
      split
      · rfl
      · next hne =>
          refine ih ((Bool.or_eq_true_iff.1 hp).resolve_left fun heq => ?_)
          rw [eq_of_beq heq, beq_self_eq_true] at hne
          cases hne
  | _ => cases hp

end

/-! ## Sequences -/

theorem reads_all_nil {i j : Nat} {c d : Captures} :
    Reads text (.all []) i c j d ↔ i = j ∧ c = d := by
  constructor
  · rintro ⟨⟩
    exact ⟨rfl, rfl⟩
  · rintro ⟨rfl, rfl⟩
    exact .empty

theorem reads_all_cons {a : Pattern} {parts : List Pattern} {i k : Nat} {c e : Captures} :
    Reads text (.all (a :: parts)) i c k e ↔
      ∃ j d, Reads text a i c j d ∧ Reads text (.all parts) j d k e := by
  constructor
  · rintro ⟨⟩
    exact ⟨_, _, ‹_›, ‹_›⟩
  · rintro ⟨j, d, ha, hparts⟩
    exact .seq ha hparts

/-- A sequence is read in two parts. -/
theorem reads_all_append {front back : List Pattern} {i k : Nat} {c e : Captures} :
    Reads text (.all (front ++ back)) i c k e ↔
      ∃ j d, Reads text (.all front) i c j d ∧ Reads text (.all back) j d k e := by
  induction front generalizing i c with
  | nil =>
      constructor
      · exact fun h => ⟨i, c, .empty, h⟩
      · rintro ⟨j, d, ⟨⟩, h⟩
        exact h
  | cons a front ih =>
      simp only [List.cons_append, reads_all_cons, ih]
      constructor
      · rintro ⟨j, d, ha, l, f, hfront, hback⟩
        exact ⟨l, f, ⟨j, d, ha, hfront⟩, hback⟩
      · rintro ⟨l, f, ⟨j, d, ha, hfront⟩, hback⟩
        exact ⟨j, d, ha, l, f, hfront, hback⟩

end

end SqlLayout.Pattern
