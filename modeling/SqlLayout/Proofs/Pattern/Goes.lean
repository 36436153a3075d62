import SqlLayout.Proofs.Pattern.Takes

/-!
# The way the matcher goes

Where the characters behind a part of a text leave a pattern one way to read the part first, the
matcher goes this way, and captures what it passes.  The rules follow the forms of patterns.

## Implementation notes

What a pattern refuses to stand before is told by the matcher and not by the relation, so a pattern
with a refusal is followed here step by step.  A way is only gone when what comes next goes on
behind it: else the matcher turns back.
-/

namespace SqlLayout.Pattern

/-- Whether the matcher goes from one offset to another first, if what comes next goes on from
there. -/
def Goes (text : List Char) (p : Pattern) (i : Nat) (c : Captures) (j : Nat) (d : Captures) :
    Prop :=
  ∀ next : Place → Captures → Option (Nat × Captures), (next (placeAt text j) d).isSome = true →
    run text.length p (placeAt text i) c next = next (placeAt text j) d

/-- Whether the matcher goes nowhere from an offset. -/
def Fails (text : List Char) (p : Pattern) (i : Nat) (c : Captures) : Prop :=
  ∀ next : Place → Captures → Option (Nat × Captures),
    run text.length p (placeAt text i) c next = none

section

variable {text part : List Char} {a b : Pattern} {parts : List Pattern} {p : Char → Bool}
  {i j k : Nat}
  {c d e : Captures}

theorem fails_of_not_reads (h : ∀ j d, ¬ Reads text a i c j d) : Fails text a i c := by
  refine fun next => Option.eq_none_iff_forall_ne_some.2 fun found hfound => ?_
  obtain ⟨j, d, hread, -⟩ := follows_run a hfound
  exact h j d hread

theorem Goes.empty : Goes text .empty i c i c :=
  fun _ _ => rfl

theorem Goes.seq (ha : Goes text a i c j d) (hb : Goes text b j d k e) :
    Goes text (.seq a b) i c k e := by
  intro next hnext
  have hrest := hb next hnext
  exact (ha _ (by rw [hrest]; exact hnext)).trans hrest

theorem Goes.left (ha : Goes text a i c j d) : Goes text (.alt a b) i c j d := by
  intro next hnext
  obtain ⟨found, hfound⟩ := Option.isSome_iff_exists.1 hnext
  rw [run, ha next hnext, hfound]
  rfl

theorem Goes.right (ha : Fails text a i c) (hb : Goes text b i c j d) :
    Goes text (.alt a b) i c j d := by
  intro next hnext
  rw [run, ha next, hb next hnext]
  rfl

theorem Goes.capture {group : Nat} (ha : Goes text a i c j d) :
    Goes text (.capture group a) i c j ((group, i, j) :: d) :=
  fun _ hnext => ha _ hnext

theorem Goes.wordEdge (h : isWordEdge (placeAt text i) = true) : Goes text .wordEdge i c i c :=
  fun _ _ => if_pos h

theorem Goes.notAhead (h : Fails text a i c) : Goes text (.notAhead a) i c i c := by
  intro next _
  rw [run, h]
  rfl

theorem Goes.one {x : Char} (h : Takes text [x] i j) (hx : p x = true) :
    Goes text (.one p) i c j c := by
  obtain ⟨hstarts, rfl⟩ := h
  exact fun next _ => (run_one_cons hstarts c next).trans (if_pos hx)

theorem Goes.many_one (h : Takes text part i j) (hpart : ∀ x ∈ part, p x = true)
    (hend : ∀ y ∈ (text.drop j).head?, p y = false) : Goes text (.many (.one p)) i c j c := by
  obtain rfl : spanEnd text p i = j := (spanEnd_eq h.starts hpart hend).trans h.ends.symm
  exact fun next hnext => run_many_one (.inl hnext)

theorem Goes.many1_one (h : Takes text part i j) (hne : part ≠ []) (hpart : ∀ x ∈ part, p x = true)
    (hend : ∀ y ∈ (text.drop j).head?, p y = false) : Goes text (.many1 (.one p)) i c j c := by
  obtain ⟨x, part, rfl⟩ := List.exists_cons_of_ne_nil hne
  obtain ⟨hx, hpart⟩ := List.forall_mem_cons.1 hpart
  obtain ⟨hfirst, hrest⟩ := h.uncons
  exact .seq (.one hfirst hx) (.many_one hrest hpart hend)

theorem fails_one (h : ∀ y ∈ (text.drop i).head?, p y = false) :
    Fails text (.seq (.one p) a) i c := by
  refine fails_of_not_reads fun j d hread => ?_
  cases hread with
  | seq hone _ =>
      cases hone with
      | one hx hpx => cases hpx.symm.trans (h _ (by rw [List.head?_drop, hx]; exact rfl))

/-! ## Sequences -/

theorem Goes.nil : Goes text (.all []) i c i c :=
  .empty

theorem Goes.cons (ha : Goes text a i c j d) (hparts : Goes text (.all parts) j d k e) :
    Goes text (.all (a :: parts)) i c k e :=
  .seq ha hparts

theorem Goes.append {front back : List Pattern} (hfront : Goes text (.all front) i c j d)
    (hback : Goes text (.all back) j d k e) : Goes text (.all (front ++ back)) i c k e := by
  intro next hnext
  rw [run_all_append]
  exact hfront.seq hback next hnext

theorem Goes.word {letters : String} (h : Takes text part i j) (hpart : Spells letters part) :
    Goes text (.word letters) i c j c := by
  rw [Spells] at hpart
  rw [Pattern.word]
  generalize letters.toList = letters at hpart
  induction hpart generalizing i with
  | nil =>
      obtain rfl := takes_nil.1 h
      exact .nil
  | @cons letter x letters part hx _ ih =>
      obtain ⟨hfirst, hrest⟩ := h.uncons
      exact .cons (.one hfirst hx) (ih hrest)

/-- Of several patterns the first one that goes on is taken. -/
theorem Goes.any {front back : List Pattern} (hfront : ∀ b ∈ front, Fails text b i c)
    (ha : Goes text a i c j d) :
    Goes text (.any (front ++ a :: back)) i c j d := by
  have htail : ∀ {a : Pattern} {rest : List Pattern}, rest ≠ [] →
      Pattern.any (a :: rest) = .alt a (.any rest) := by
    intro a rest hrest
    obtain ⟨b, rest, rfl⟩ := List.exists_cons_of_ne_nil hrest
    rfl
  induction front with
  | nil =>
      cases back with
      | nil => exact ha
      | cons b back => exact .left ha
  | cons b front ih =>
      obtain ⟨hb, hrest⟩ := List.forall_mem_cons.1 hfront
      rw [List.cons_append, htail (by simp)]
      exact .right hb (ih hrest)

theorem Goes.some (ha : Goes text a i c j d) : Goes text (.optional a) i c j d :=
  .left ha

theorem Goes.none (ha : Fails text a i c) : Goes text (.optional a) i c i c :=
  .right ha .empty

theorem matchAt_of_goes (h : Goes text a i [] j d) :
    matchAt a text.length (placeAt text i) = some { start := i, stop := j, captures := d } := by
  rw [matchAt, h _ rfl]
  rfl

end

end SqlLayout.Pattern
