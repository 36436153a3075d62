import SqlLayout.Proofs.Source.Projection
import SqlLayout.Proofs.Source.Regions
import SqlLayout.Proofs.Source.Split

/-!
# Cuts at any separator

A text is cut where its mask shows the separator.  Joining the pieces gives the text back, and no
cut is made inside of a literal or a comment, for every separator that is neither a fill nor a line
feed.  The fills are shown inside of literals and comments, so they cut there, and take the
character away that they stand for; a line feed cuts there too.
-/

namespace SqlLayout.Source

/-- A separator is taken out at an offset: the pieces before it, joined again, are as long. -/
def CutAt (separator : Char) (pieces : List (List Char)) (offset : Nat) : Prop :=
  ∃ front back, front ≠ [] ∧ back ≠ [] ∧ pieces = front ++ back ∧
    offset = ([separator].intercalate front).length

section

variable {separator : Char} {text view piece : List Char} {pieces : List (List Char)} {offset : Nat}

theorem cutAt_cons : CutAt separator (piece :: pieces) offset ↔ pieces ≠ [] ∧
    (offset = piece.length ∨ ∃ later, offset = piece.length + 1 + later ∧
      CutAt separator pieces later) := by
  constructor
  · rintro ⟨front, back, hfront, hback, hpieces, rfl⟩
    obtain ⟨first, front, rfl⟩ := List.exists_cons_of_ne_nil hfront
    obtain ⟨rfl, rfl⟩ := List.cons.inj hpieces
    refine ⟨by simp [hback], ?_⟩
    by_cases hnil : front = []
    · subst hnil
      exact .inl (by rw [List.intercalate_singleton])
    · refine .inr ⟨_, ?_, front, back, hnil, hback, rfl, rfl⟩
      rw [List.intercalate_cons_of_ne_nil hnil, List.length_append, List.length_append,
        List.length_singleton]
  · rintro ⟨hne, rfl | ⟨later, rfl, front, back, hfront, hback, rfl, rfl⟩⟩
    · exact ⟨[piece], pieces, by simp, hne, rfl, by rw [List.intercalate_singleton]⟩
    · refine ⟨piece :: front, back, by simp, hback, rfl, ?_⟩
      rw [List.intercalate_cons_of_ne_nil hfront, List.length_append, List.length_append,
        List.length_singleton]

/-- A character more in the first piece moves every cut by one. -/
theorem cutAt_push (c : Char) : CutAt separator ((c :: piece) :: pieces) offset ↔
    ∃ before, offset = before + 1 ∧ CutAt separator (piece :: pieces) before := by
  simp only [cutAt_cons, List.length_cons]
  constructor
  · rintro ⟨hne, rfl | ⟨later, rfl, hlater⟩⟩
    · exact ⟨_, rfl, hne, .inl rfl⟩
    · exact ⟨piece.length + 1 + later, by omega, hne, .inr ⟨later, rfl, hlater⟩⟩
  · rintro ⟨before, rfl, hne, rfl | ⟨later, rfl, hlater⟩⟩
    · exact ⟨hne, .inl rfl⟩
    · exact ⟨hne, .inr ⟨later, by omega, hlater⟩⟩

theorem cut_ne_nil (separator : Char) (text view : List Char) : cut separator text view ≠ [] := by
  fun_cases cut separator text view <;> simp

/-- At the last piece the view is at its end. -/
theorem view_eq_nil (hlen : text.length = view.length)
    (h : ∀ c more v rest, text = c :: more → view = v :: rest → False) : view = [] := by
  cases view with
  | nil => rfl
  | cons v rest =>
      obtain ⟨c, more, rfl⟩ := List.exists_cons_of_length_eq_add_one hlen
      exact (h c more v rest rfl rfl).elim

/-- The cuts are where the view shows the separator. -/
theorem cutAt_cut_iff (hlen : text.length = view.length) :
    CutAt separator (cut separator text view) offset ↔ view[offset]? = some separator := by
  fun_induction cut separator text view generalizing offset with
  | case1 c text v view hv ih =>
      obtain rfl := eq_of_beq hv
      have hne := cut_ne_nil v text view
      cases offset with
      | zero => simp [cutAt_cons, hne]
      | succ offset =>
          rw [List.getElem?_cons_succ, ← ih (by simpa using hlen), cutAt_cons]
          simp [hne, Nat.add_comm 1]
  | case2 c text v view hv hnil ih => exact absurd hnil (cut_ne_nil _ _ _)
  | case3 c text v view hv first pieces hcut ih =>
      rw [cutAt_push, ← hcut]
      cases offset with
      | zero =>
          have hne : v ≠ separator := by simpa using hv
          simp [hne]
      | succ offset =>
          rw [List.getElem?_cons_succ, ← ih (by simpa using hlen)]
          simp
  | case4 text view hcons =>
      obtain rfl := view_eq_nil hlen hcons
      simp [cutAt_cons]

/-- Joining the pieces gives the text back exactly when the view shows the separator at separators
only. -/
theorem intercalate_cut_eq_iff (hlen : text.length = view.length) :
    [separator].intercalate (cut separator text view) = text ↔
      ∀ offset : Nat, view[offset]? = some separator → text[offset]? = some separator := by
  fun_induction cut separator text view with
  | case1 c text v view hv ih =>
      obtain rfl := eq_of_beq hv
      rw [List.intercalate_cons_of_ne_nil (cut_ne_nil v text view), List.nil_append,
        List.singleton_append, List.cons.injEq, ← Nat.and_forall_add_one, ih (by simpa using hlen)]
      simp [@eq_comm _ v c]
  | case2 c text v view hv hnil ih => exact absurd hnil (cut_ne_nil _ _ _)
  | case3 c text v view hv first pieces hcut ih =>
      have hne : v ≠ separator := by simpa using hv
      have hpush : [separator].intercalate ((c :: first) :: pieces) =
          c :: [separator].intercalate (first :: pieces) := by
        cases pieces with
        | nil => simp
        | cons second pieces => simp
      rw [hpush, ← hcut, ← Nat.and_forall_add_one]
      simp [ih (by simpa using hlen), hne]
  | case4 text view hcons =>
      obtain rfl := view_eq_nil hlen hcons
      simp

/-- What the mask fills is shown as the fill, or as a line feed. -/
theorem Inside.eq_fill {cover : Cover} {shown : Char} (h : Inside text cover offset)
    (hshown : (mask text)[offset]? = some shown) : shown = cover.fill ∨ shown = '\n' := by
  rw [h.shown, Option.map_eq_some_iff] at hshown
  obtain ⟨c, -, rfl⟩ := hshown
  rw [blankOut]
  split
  · next hfeed => exact .inr (eq_of_beq hfeed)
  · exact .inl rfl

/-- What is shown is what the text has there, unless it is a fill. -/
theorem getElem?_of_shown (hfill : separator ≠ '_') (hblank : separator ≠ ' ')
    (h : (mask text)[offset]? = some separator) : text[offset]? = some separator := by
  obtain ⟨c, hc⟩ := exists_shown_iff.1 ⟨separator, h⟩
  obtain rfl | ⟨-, rfl | rfl⟩ := covers_of_getElem? h hc
  · exact hc
  · exact absurd rfl hfill
  · exact absurd rfl hblank

theorem cutAt_splitOutside_iff :
    CutAt separator (splitOutside separator text) offset ↔ (mask text)[offset]? = some separator :=
  cutAt_cut_iff (length_mask text).symm

theorem intercalate_splitOutside_eq_iff :
    [separator].intercalate (splitOutside separator text) = text ↔
    ∀ offset : Nat, (mask text)[offset]? = some separator → text[offset]? = some separator :=
  intercalate_cut_eq_iff (length_mask text).symm

/-- No cut is made inside of a literal or a comment at any other character. -/
theorem not_inside_of_cutAt (hfill : separator ≠ '_') (hblank : separator ≠ ' ')
    (hfeed : separator ≠ '\n') (h : CutAt separator (splitOutside separator text) offset)
    (cover : Cover) : ¬ Inside text cover offset := by
  intro hinside
  obtain rfl | rfl := hinside.eq_fill (cutAt_splitOutside_iff.1 h)
  · cases cover with
    | comment => exact hblank rfl
    | literal => exact hfill rfl
  · exact hfeed rfl

/-- The cuts at any other character are those of its occurrences that stand outside. -/
theorem cutAt_iff_outside (hfill : separator ≠ '_') (hblank : separator ≠ ' ')
    (hfeed : separator ≠ '\n') :
    CutAt separator (splitOutside separator text) offset ↔
      text[offset]? = some separator ∧ ∀ cover, ¬ Inside text cover offset := by
  constructor
  · intro hcut
    exact ⟨getElem?_of_shown hfill hblank (cutAt_splitOutside_iff.1 hcut),
      not_inside_of_cutAt hfill hblank hfeed hcut⟩
  · rintro ⟨htext, houtside⟩
    rw [cutAt_splitOutside_iff, shown_of_not_inside houtside, htext]

end

/-- A fill and a line feed are shown inside of a literal or a comment of some text. -/
theorem exists_cut_inside {separator : Char}
    (h : separator = '_' ∨ separator = ' ' ∨ separator = '\n') :
    ∃ text cover offset, CutAt separator (splitOutside separator text) offset ∧
      Inside text cover offset := by
  obtain rfl | rfl | rfl := h
  · have hregion : firstRegion "'a'".toList = .literal 1 := by decide
    exact ⟨"'a'".toList, .literal, 1, cutAt_splitOutside_iff.2 (by decide),
      .literal .zero hregion Nat.one_pos Nat.le.refl⟩
  · have hregion : firstRegion "--".toList = .comment 2 := by decide
    exact ⟨"--".toList, .comment, 0, cutAt_splitOutside_iff.2 (by decide),
      .comment .zero hregion Nat.le.refl Nat.two_pos⟩
  · have hregion : firstRegion "'\n'".toList = .literal 1 := by decide
    exact ⟨"'\n'".toList, .literal, 1, cutAt_splitOutside_iff.2 (by decide),
      .literal .zero hregion Nat.one_pos Nat.le.refl⟩

/-- Splitting is faithful for a separator exactly when it is neither a fill nor a line feed.
Joining the pieces gives every text back exactly when the separator is no fill; no text is cut
inside of a literal or a comment exactly when it is no line feed either; and then the cuts are the
separators that stand outside of literals and comments. -/
theorem splitOutside_faithful_iff (separator : Char) :
    ((∀ text, [separator].intercalate (splitOutside separator text) = text) ↔
      separator ≠ '_' ∧ separator ≠ ' ') ∧
    ((∀ text cover offset, CutAt separator (splitOutside separator text) offset →
      ¬ Inside text cover offset) ↔ separator ≠ '_' ∧ separator ≠ ' ' ∧ separator ≠ '\n') ∧
    (separator ≠ '_' → separator ≠ ' ' → separator ≠ '\n' → ∀ (text : List Char) (offset : Nat),
      CutAt separator (splitOutside separator text) offset ↔
        text[offset]? = some separator ∧ ∀ cover, ¬ Inside text cover offset) := by
  refine ⟨⟨fun hjoin => ⟨?_, ?_⟩, fun ⟨hfill, hblank⟩ text => ?_⟩,
    ⟨fun houtside => ?_, fun ⟨hfill, hblank, hfeed⟩ => ?_⟩,
    fun hfill hblank hfeed text offset => cutAt_iff_outside hfill hblank hfeed⟩
  · rintro rfl
    exact absurd (hjoin "'a'".toList) (by decide)
  · rintro rfl
    exact absurd (hjoin "--".toList) (by decide)
  · exact intercalate_splitOutside_eq_iff.2 fun offset => getElem?_of_shown hfill hblank
  · by_contra hnot
    have hbad : separator = '_' ∨ separator = ' ' ∨ separator = '\n' := by tauto
    obtain ⟨text, cover, offset, hcut, hinside⟩ := exists_cut_inside hbad
    exact houtside text cover offset hcut hinside
  · exact fun text cover offset hcut => not_inside_of_cutAt hfill hblank hfeed hcut cover

/-- The underscores that fill a literal cut it, and what stood there is lost. -/
theorem splitOutside_loses_filled :
    let text := "'a'".toList
    splitOutside '_' text = ["'".toList, "'".toList] ∧
      ['_'].intercalate (splitOutside '_' text) ≠ text ∧
      CutAt '_' (splitOutside '_' text) 1 ∧ Inside text .literal 1 := by
  have hregion : firstRegion "'a'".toList = .literal 1 := by decide
  exact ⟨by decide, by decide,
    ⟨["'".toList], ["'".toList], by simp, by simp, by decide, rfl⟩,
    .literal .zero hregion Nat.one_pos Nat.le.refl⟩

end SqlLayout.Source
