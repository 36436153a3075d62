import SqlLayout.Source.Split
import SqlLayout.Proofs.Source.Mask

/-!
# Exact splitting

The pieces of a text are cut at the semicolons that its mask shows.  The cut loses nothing, the mask
of a piece alone is the part of the whole mask that belongs to it, and the cuts are exactly the
semicolons outside literals and comments.

## Implementation notes

`Pieces` is the splitting as a relation: a text without a visible semicolon is its only piece, and
otherwise the first visible semicolon ends the first piece.  Everything about the pieces is proved
by induction on it.
-/

namespace SqlLayout.Source

/-- A text with its pieces, cut at one visible semicolon after the other. -/
inductive Pieces : List Char → List (List Char) → Prop
  /-- No semicolon is visible. -/
  | last {text : List Char} (hidden : ';' ∉ mask text) : Pieces text [text]
  /-- The first visible semicolon ends the first piece, in statement text. -/
  | cons {piece rest : List Char} {pieces : List (List Char)} (hidden : ';' ∉ mask piece)
      (outside : modeAfter .code piece = .code) (tail : Pieces rest pieces) :
      Pieces (piece ++ ';' :: rest) (piece :: pieces)

theorem cut_of_not_mem {separator : Char} {text view : List Char} (hlen : text.length = view.length)
    (h : separator ∉ view) : cut separator text view = [text] := by
  fun_induction cut separator text view with
  | case1 c text v view hv => simp_all
  | case2 c text v view hv hnil ih => simp_all
  | case3 c text v view hv piece pieces hcons ih => simp_all
  | case4 text view hcons => rfl

theorem cut_append {separator : Char} {front view : List Char} (hlen : front.length = view.length)
    (h : separator ∉ view) (c : Char) (text view' : List Char) :
    cut separator (front ++ c :: text) (view ++ separator :: view') =
      front :: cut separator text view' := by
  induction front generalizing view with
  | nil =>
      obtain rfl := List.eq_nil_of_length_eq_zero hlen.symm
      simp [cut]
  | cons d front ih =>
      cases view with
      | nil => simp at hlen
      | cons v view =>
          rw [List.mem_cons, not_or] at h
          have hrest := ih (by simpa using hlen) h.2
          simp [cut, hrest, Ne.symm h.1]

theorem splitOutside_of_hidden {text : List Char} (h : ';' ∉ mask text) :
    splitOutside ';' text = [text] :=
  cut_of_not_mem (length_mask text).symm h

theorem splitOutside_append {piece : List Char} (hidden : ';' ∉ mask piece)
    (outside : modeAfter .code piece = .code) (rest : List Char) :
    splitOutside ';' (piece ++ ';' :: rest) = piece :: splitOutside ';' rest := by
  unfold splitOutside
  rw [mask_append_semicolon outside]
  exact cut_append (length_mask piece).symm hidden ';' rest (mask rest)

/-- The first visible semicolon of a text. -/
theorem exists_first_semicolon {text : List Char} (h : ';' ∈ mask text) :
    ∃ piece rest, text = piece ++ ';' :: rest ∧ ';' ∉ mask piece ∧
      modeAfter .code piece = .code := by
  obtain ⟨shown, rest, hmask, hfirst⟩ := List.eq_append_cons_of_mem h
  have hvisible : (mask text)[shown.length]? = some ';' := by simp [hmask]
  obtain ⟨htext, houtside⟩ := visible_semicolon_iff.mp hvisible
  obtain ⟨hsplit, hlen⟩ := split_at_offset htext
  refine ⟨text.take shown.length, text.drop (shown.length + 1), hsplit, ?_, houtside⟩
  have hshown : mask (text.take shown.length) = shown := by
    have hboth := mask_append_semicolon houtside (text.drop (shown.length + 1))
    rw [← hsplit, hmask] at hboth
    exact (List.append_inj hboth (by rw [length_mask, hlen])).1.symm
  rwa [hshown]

/-- Splitting follows the relation. -/
theorem pieces_splitOutside (text : List Char) : Pieces text (splitOutside ';' text) := by
  by_cases h : ';' ∈ mask text
  · obtain ⟨piece, rest, rfl, hidden, outside⟩ := exists_first_semicolon h
    rw [splitOutside_append hidden outside]
    exact .cons hidden outside (pieces_splitOutside rest)
  · rw [splitOutside_of_hidden h]
    exact .last h
termination_by text.length
decreasing_by
  subst_vars
  simp
  omega

namespace Pieces

variable {text : List Char} {pieces : List (List Char)}

theorem ne_nil (h : Pieces text pieces) : pieces ≠ [] := by
  cases h <;> simp

/-- The pieces with semicolons between them are the text. -/
theorem join (h : Pieces text pieces) : [';'].intercalate pieces = text := by
  induction h with
  | last hidden => exact List.intercalate_singleton
  | cons hidden outside tail ih =>
      rw [List.intercalate_cons_of_ne_nil tail.ne_nil, ih, List.append_assoc, List.singleton_append]

/-- The masks of the pieces with semicolons between them are the mask of the text. -/
theorem join_mask (h : Pieces text pieces) : [';'].intercalate (pieces.map mask) = mask text := by
  induction h with
  | last hidden => exact List.intercalate_singleton
  | @cons piece rest pieces hidden outside tail ih =>
      have hne : pieces.map mask ≠ [] := by simpa using tail.ne_nil
      rw [List.map_cons, List.intercalate_cons_of_ne_nil hne, ih, List.append_assoc,
        List.singleton_append, mask_append_semicolon outside]

theorem not_mem_mask (h : Pieces text pieces) {piece : List Char} (hpiece : piece ∈ pieces) :
    ';' ∉ mask piece := by
  induction h with
  | last hidden =>
      rw [List.mem_singleton] at hpiece
      rwa [hpiece]
  | cons hidden outside tail ih =>
      rcases List.mem_cons.mp hpiece with rfl | htail
      · exact hidden
      · exact ih htail

theorem isInfix (h : Pieces text pieces) {piece : List Char} (hpiece : piece ∈ pieces) :
    piece <:+: text := by
  induction h with
  | last hidden => exact List.mem_singleton.1 hpiece ▸ List.infix_refl _
  | @cons first rest pieces hidden outside tail ih =>
      rcases List.mem_cons.1 hpiece with rfl | htail
      · exact (List.prefix_append piece _).isInfix
      · exact (ih htail).trans ⟨first ++ [';'], [], by simp⟩

/-- Every piece but the last ends outside literals and comments. -/
theorem modeAfter_eq_code (h : Pieces text pieces) {piece : List Char}
    (hpiece : piece ∈ pieces.dropLast) : modeAfter .code piece = .code := by
  induction h with
  | last hidden => simp at hpiece
  | cons hidden outside tail ih =>
      rw [List.dropLast_cons_of_ne_nil tail.ne_nil] at hpiece
      rcases List.mem_cons.mp hpiece with rfl | htail
      · exact outside
      · exact ih htail

/-- Every piece starts outside literals and comments: there the text before it leaves the
scanner. -/
theorem modeAfter_front (h : Pieces text pieces) {front back : List (List Char)}
    (hpieces : pieces = front ++ back) (hfront : front ≠ []) (hback : back ≠ []) :
    modeAfter .code ([';'].intercalate front ++ [';']) = .code := by
  induction h generalizing front with
  | last hidden =>
      rcases List.append_eq_singleton_iff.mp hpieces.symm with ⟨hnil, -⟩ | ⟨-, hnil⟩
      · exact absurd hnil hfront
      · exact absurd hnil hback
  | @cons piece rest pieces hidden outside tail ih =>
      cases front with
      | nil => exact absurd rfl hfront
      | cons first front =>
          obtain ⟨rfl, htail⟩ := List.cons.inj hpieces
          by_cases hnil : front = []
          · subst hnil
            rw [List.intercalate_singleton, modeAfter_append_semicolon outside]
            rfl
          · rw [List.intercalate_cons_of_ne_nil hnil, List.append_assoc, List.append_assoc,
              List.singleton_append, modeAfter_append_semicolon outside]
            exact ih htail hnil

/-- The cuts are the visible semicolons. -/
theorem visible_iff (h : Pieces text pieces) (offset : Nat) :
    (mask text)[offset]? = some ';' ↔
      ∃ front back, front ≠ [] ∧ back ≠ [] ∧ pieces = front ++ back ∧
        offset = ([';'].intercalate front).length := by
  induction h generalizing offset with
  | last hidden =>
      constructor
      · intro hvisible
        exact absurd (List.mem_of_getElem? hvisible) hidden
      · rintro ⟨front, back, hfront, hback, hpieces, -⟩
        rcases List.append_eq_singleton_iff.mp hpieces.symm with ⟨hnil, -⟩ | ⟨-, hnil⟩
        · exact absurd hnil hfront
        · exact absurd hnil hback
  | @cons piece rest pieces hidden outside tail ih =>
      rw [mask_append_semicolon outside]
      rcases Nat.lt_trichotomy offset piece.length with hlt | rfl | hgt
      · rw [List.getElem?_append_left (by simpa using hlt)]
        constructor
        · intro hvisible
          exact absurd (List.mem_of_getElem? hvisible) hidden
        · rintro ⟨front, back, hfront, -, hpieces, hoffset⟩
          obtain ⟨first, front, rfl⟩ := List.exists_cons_of_ne_nil hfront
          obtain ⟨rfl, -⟩ := List.cons.inj hpieces
          by_cases hnil : front = []
          · subst hnil
            simp at hoffset
            omega
          · rw [List.intercalate_cons_of_ne_nil hnil] at hoffset
            simp at hoffset
            omega
      · refine iff_of_true (by simp) ⟨[piece], pieces, by simp, tail.ne_nil, rfl, by simp⟩
      · obtain ⟨k, rfl⟩ := Nat.exists_eq_add_of_lt hgt
        have hskip : (mask piece ++ ';' :: mask rest)[piece.length + k + 1]? = (mask rest)[k]? := by
          rw [List.getElem?_append_right (by simp; omega), length_mask,
            show piece.length + k + 1 - piece.length = k + 1 by omega, List.getElem?_cons_succ]
        rw [hskip, ih]
        constructor
        · rintro ⟨front, back, hfront, hback, rfl, rfl⟩
          refine ⟨piece :: front, back, by simp, hback, rfl, ?_⟩
          rw [List.intercalate_cons_of_ne_nil hfront]
          simp
          omega
        · rintro ⟨front, back, hfront, hback, hpieces, hoffset⟩
          obtain ⟨first, front, rfl⟩ := List.exists_cons_of_ne_nil hfront
          obtain ⟨rfl, htail⟩ := List.cons.inj hpieces
          by_cases hnil : front = []
          · subst hnil
            simp at hoffset
            omega
          · rw [List.intercalate_cons_of_ne_nil hnil] at hoffset
            simp at hoffset
            exact ⟨front, back, hnil, hback, htail, by omega⟩

end Pieces

/-- Splitting at semicolons is exact: nothing is lost, masking commutes with it, the cuts are the
semicolons outside literals and comments, and every piece starts there, as does the end of every
piece but the last. -/
theorem splitOutside_semicolon_exact (text : List Char) :
    [';'].intercalate (splitOutside ';' text) = text ∧
    mask text = [';'].intercalate ((splitOutside ';' text).map mask) ∧
    (∀ piece ∈ splitOutside ';' text, ';' ∉ mask piece) ∧
    (∀ offset, text[offset]? = some ';' ∧ modeAfter .code (text.take offset) = .code ↔
      ∃ front back, front ≠ [] ∧ back ≠ [] ∧ splitOutside ';' text = front ++ back ∧
        offset = ([';'].intercalate front).length) ∧
    (∀ front back, splitOutside ';' text = front ++ back → front ≠ [] → back ≠ [] →
      modeAfter .code ([';'].intercalate front ++ [';']) = .code) ∧
    ∀ piece ∈ (splitOutside ';' text).dropLast, modeAfter .code piece = .code := by
  have h := pieces_splitOutside text
  refine ⟨h.join, h.join_mask.symm, fun piece => h.not_mem_mask, fun offset => ?_,
    fun front back => h.modeAfter_front, fun piece => h.modeAfter_eq_code⟩
  rw [← visible_semicolon_iff]
  exact h.visible_iff offset

end SqlLayout.Source
