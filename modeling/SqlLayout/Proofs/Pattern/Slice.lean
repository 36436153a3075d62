import SqlLayout.Pattern.Search

/-!
# Slices of texts

The characters between two offsets, one by one and put together again.
-/

namespace SqlLayout.Pattern

section

variable {text : List Char} {i j k : Nat}

theorem getElem?_slice (offset : Nat) :
    (slice text i j)[offset]? = if offset < j - i then text[i + offset]? else none := by
  rw [slice, List.getElem?_take, List.getElem?_drop]

theorem mem_slice {c : Char} (hik : i ≤ k) (hkj : k < j) (h : text[k]? = some c) :
    c ∈ slice text i j := by
  refine List.mem_of_getElem? (i := k - i) ?_
  rw [getElem?_slice, if_pos (by omega), Nat.add_sub_cancel' hik, h]

theorem mem_slice_iff {c : Char} :
    c ∈ slice text i j ↔ ∃ offset, i ≤ offset ∧ offset < j ∧ text[offset]? = some c := by
  constructor
  · intro h
    obtain ⟨offset, hoffset⟩ := List.mem_iff_getElem?.1 h
    rw [getElem?_slice] at hoffset
    split at hoffset
    · exact ⟨i + offset, by omega, by omega, hoffset⟩
    · cases hoffset
  · rintro ⟨offset, hi, hj, hc⟩
    exact mem_slice hi hj hc

theorem slice_self : slice text i i = [] := by
  simp [slice]

theorem length_slice (hij : i ≤ j) (hj : j ≤ text.length) : (slice text i j).length = j - i := by
  rw [slice, List.length_take, List.length_drop]
  omega

theorem take_append_slice (hij : i ≤ j) : text.take i ++ slice text i j = text.take j := by
  rw [slice, ← List.take_add, Nat.add_sub_cancel' hij]

theorem slice_append_drop (hij : i ≤ j) : slice text i j ++ text.drop j = text.drop i := by
  have hdrop : text.drop j = (text.drop i).drop (j - i) := by
    rw [List.drop_drop, Nat.add_sub_cancel' hij]
  rw [slice, hdrop, List.take_append_drop]

theorem slice_append_slice (hij : i ≤ j) (hjk : j ≤ k) :
    slice text i j ++ slice text j k = slice text i k := by
  have hrest : slice text i j ++ slice text j k ++ text.drop k = slice text i k ++ text.drop k := by
    rw [List.append_assoc, slice_append_drop hjk, slice_append_drop hij,
      slice_append_drop (Nat.le_trans hij hjk)]
  exact List.append_cancel_right hrest

theorem slice_append (tail : List Char) (hj : j ≤ text.length) :
    slice (text ++ tail) i j = slice text i j := by
  rw [slice, slice]
  by_cases hi : i ≤ text.length
  · rw [List.drop_append_of_le_length hi,
      List.take_append_of_le_length (by rw [List.length_drop]; omega)]
  · rw [Nat.sub_eq_zero_of_le (by omega), List.take_zero, List.take_zero]

/-- Replacing spans of a text leaves what follows the text where it is. -/
theorem splice_append (tail : List Char) {last : Nat} {edits : List (Match × List Char)}
    (hlast : last ≤ text.length)
    (h : ∀ edit ∈ edits, edit.1.start ≤ text.length ∧ edit.1.stop ≤ text.length) :
    splice (text ++ tail) last edits = splice text last edits ++ tail := by
  induction edits generalizing last with
  | nil => exact List.drop_append_of_le_length hlast
  | cons edit rest ih =>
      obtain ⟨hedit, hrest⟩ := List.forall_mem_cons.1 h
      rw [splice, splice, slice_append tail hedit.1, ih hedit.2 hrest, ← List.append_assoc]

end

end SqlLayout.Pattern
