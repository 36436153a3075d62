import SqlLayout.Proofs.Pattern.Takes
import SqlLayout.Proofs.Source.Alike
import SqlLayout.Proofs.Source.Outside

/-!
# Characters next to statement text

From an offset outside of literals and comments the text is followed character by character, in both
directions.  An inert character behind the offset is statement text and shown, and so is an ordinary
one in front of it.
-/

namespace SqlLayout.Source

open Pattern (Takes takes_cons takes_nil)

section

variable {text part : List Char} {i j : Nat} {x : Char}

theorem ordinary_of_isWord (h : Text.isWord x = true) : isOrdinary x = true := by
  by_contra hspecial
  obtain rfl | rfl | rfl | rfl | rfl | rfl | rfl | rfl | rfl := special_of_not_ordinary hspecial <;>
    exact absurd h (by decide)

theorem solid_of_isWord (h : Text.isWord x = true) : isSolid x = true := by
  have hinert : isInert x = true :=
    (startsInert_cons.1 (startsInert_of_ordinary (ordinary_of_isWord h) [])).1
  rw [isSolid, hinert, Bool.true_and, Bool.and_eq_true, bne_iff_ne, bne_iff_ne]
  constructor <;> (rintro rfl; exact absurd h (by decide))

theorem getElem?_of_last (hj : j ≤ text.length) (h : x ∈ (text.take j).getLast?) :
    ∃ i, j = i + 1 ∧ text[i]? = some x := by
  cases j with
  | zero => simp at h
  | succ i =>
      rw [List.take_add_one, List.getElem?_eq_getElem hj, Option.toList_some,
        List.getLast?_concat] at h
      exact ⟨i, rfl, (List.getElem?_eq_getElem hj).trans h⟩

theorem last_of_getElem? (h : text[i]? = some x) : x ∈ (text.take (i + 1)).getLast? := by
  rw [List.take_add_one, h]
  simp

/-- An inert character of statement text is shown, and statement text follows it. -/
theorem Outside.shown (h : Outside text i) (hx : text[i]? = some x) (hinert : isInert x = true) :
    (mask text)[i]? = some x ∧ Outside text (i + 1) := by
  obtain ⟨hlt, rfl⟩ := List.getElem?_eq_some_iff.1 hx
  have hdrop := List.drop_eq_getElem_cons hlt
  have hone : inert [text[i]] = true := inert_cons.2 ⟨hinert, rfl⟩
  have hapart : ∀ a ∈ [text[i]].getLast?, ∀ b ∈ (text.drop (i + 1)).head?, joins a b = false :=
    apart_of_last rfl hinert
  constructor
  · have hmask : mask (text.drop i) = text[i] :: mask (text.drop (i + 1)) := by
      rw [hdrop, ← List.singleton_append, mask_append (modeAfter_of_inert hone) hapart]
      simp [mask, maskFrom, isQuote_of_inert hinert]
    rw [← List.head?_drop, ← h.mask_drop, hmask, List.head?_cons]
  · refine h.of_drop ⟨?_, ?_, ?_⟩
    · rw [List.length_drop]
      omega
    · rw [hdrop]
      exact modeAfter_of_inert hone
    · rw [hdrop]
      exact hapart

/-- What is shown for statement text and is no blank is the text. -/
theorem Outside.of_shown (h : Outside text i) (hx : (mask text)[i]? = some x)
    (hblank : Text.isBlank x = false) :
    text[i]? = some x := by
  rw [← List.head?_drop, ← h.mask_drop] at hx
  rw [← List.head?_drop]
  cases hrest : text.drop i with
  | nil => simp [hrest, mask, maskFrom] at hx
  | cons y rest =>
      rw [hrest] at hx
      obtain ⟨-, rfl⟩ := @shown_first .code _ _ _ hx rfl (by rintro rfl; cases hblank)
        (by rintro rfl; cases hblank)
      rfl

/-- An ordinary character in front of statement text is statement text. -/
theorem Outside.before (h : Outside text (i + 1)) (hx : text[i]? = some x)
    (hordinary : isOrdinary x = true) :
    Outside text i := by
  have hstarts := startsInert_of_ordinary hordinary []
  have hinert := (startsInert_cons.1 hstarts).1
  have hlt := (List.getElem?_eq_some_iff.1 hx).1
  have hapart : ∀ a ∈ (text.take i).getLast?, ∀ b ∈ [x].head?, joins a b = false := by
    rintro a - b ⟨⟩
    exact joins_inert_right a hinert
  have hscan := (scan_append Mode.opened_code (.inr hstarts) hapart).mode
  rw [modeAfter_ordinary (modeAfter_opened Mode.opened_code) hordinary] at hscan
  refine ⟨Nat.le_of_lt hlt, hscan.symm.trans ?_, fun a ha b hb => ?_⟩
  · have hcode := h.code
    rwa [List.take_add_one, hx] at hcode
  · rw [List.head?_drop, hx] at hb
    exact hapart a ha b hb

/-! ## Parts -/

/-- Inert characters behind statement text are shown, and statement text follows them. -/
theorem Outside.takes_shown (h : Outside text i) (htakes : Takes text part i j)
    (hinert : inert part = true) :
    Takes (mask text) part i j ∧ Outside text j := by
  induction part generalizing i with
  | nil =>
      obtain rfl := takes_nil.1 htakes
      exact ⟨takes_nil.2 rfl, h⟩
  | cons x part ih =>
      obtain ⟨hx, hpart⟩ := inert_cons.1 hinert
      obtain ⟨hget, hrest⟩ := takes_cons.1 htakes
      obtain ⟨hshown, hnext⟩ := h.shown hget hx
      obtain ⟨hmore, hend⟩ := ih hnext hrest hpart
      exact ⟨takes_cons.2 ⟨hshown, hmore⟩, hend⟩

/-- Inert characters that are shown behind statement text and are no blanks are the text. -/
theorem Outside.takes_of_shown (h : Outside text i) (htakes : Takes (mask text) part i j)
    (hinert : inert part = true) (hblank : ∀ x ∈ part, Text.isBlank x = false) :
    Takes text part i j ∧ Outside text j := by
  induction part generalizing i with
  | nil =>
      obtain rfl := takes_nil.1 htakes
      exact ⟨takes_nil.2 rfl, h⟩
  | cons x part ih =>
      obtain ⟨hx, hpart⟩ := inert_cons.1 hinert
      obtain ⟨hsolid, hrestblank⟩ := List.forall_mem_cons.1 hblank
      obtain ⟨hget, hrest⟩ := takes_cons.1 htakes
      have htext := h.of_shown hget hsolid
      obtain ⟨hmore, hend⟩ := ih (h.shown htext hx).2 hrest hpart hrestblank
      exact ⟨takes_cons.2 ⟨htext, hmore⟩, hend⟩

/-- Ordinary characters in front of statement text are statement text. -/
theorem Outside.takes_before (h : Outside text j) (htakes : Takes text part i j)
    (hordinary : ∀ x ∈ part, isOrdinary x = true) : Outside text i := by
  induction part generalizing i with
  | nil =>
      obtain rfl := takes_nil.1 htakes
      exact h
  | cons x part ih =>
      obtain ⟨hx, hpart⟩ := List.forall_mem_cons.1 hordinary
      obtain ⟨hget, hrest⟩ := takes_cons.1 htakes
      exact (ih hrest hpart).before hget hx

end

end SqlLayout.Source
