import Mathlib.Data.List.Forall2
import SqlLayout.Proofs.Pattern.Finds

/-!
# Parts that simple patterns take

What a class of characters, a repetition of one and a word can read, told as the part of the text
that stands between two offsets.
-/

namespace SqlLayout.Pattern

/-- Whether a part of a text stands between two offsets. -/
structure Takes (text part : List Char) (i j : Nat) : Prop where
  starts : text.drop i = part ++ text.drop j
  ends : j = i + part.length

section

variable {text part rest a b : List Char} {i j k : Nat} {c d : Captures}

theorem takes_of_drop (h : text.drop i = part ++ rest) :
    Takes text part i (i + part.length) ∧ text.drop (i + part.length) = rest := by
  have hrest : text.drop (i + part.length) = rest := by rw [← List.drop_drop, h, List.drop_left]
  exact ⟨⟨by rw [hrest, h], rfl⟩, hrest⟩

theorem takes_nil : Takes text [] i j ↔ j = i := by
  constructor
  · exact fun h => h.ends
  · rintro rfl
    exact ⟨rfl, rfl⟩

theorem takes_append : Takes text (a ++ b) i k ↔ ∃ j, Takes text a i j ∧ Takes text b j k := by
  constructor
  · rintro ⟨hstarts, rfl⟩
    rw [List.append_assoc] at hstarts
    obtain ⟨ha, hrest⟩ := takes_of_drop hstarts
    refine ⟨_, ha, hrest, ?_⟩
    rw [List.length_append, Nat.add_assoc]
  · rintro ⟨j, ⟨hstarts, rfl⟩, ⟨hstarts', rfl⟩⟩
    refine ⟨?_, ?_⟩
    · rw [hstarts, hstarts', List.append_assoc]
    · rw [List.length_append, Nat.add_assoc]

theorem takes_single {x : Char} : Takes text [x] i j ↔ text[i]? = some x ∧ j = i + 1 := by
  constructor
  · rintro ⟨hstarts, hends⟩
    exact ⟨(drop_eq_cons hstarts).1, hends⟩
  · rintro ⟨hx, rfl⟩
    obtain ⟨hlt, rfl⟩ := List.getElem?_eq_some_iff.1 hx
    exact ⟨List.drop_eq_getElem_cons hlt, rfl⟩

theorem takes_cons {x : Char} : Takes text (x :: part) i j ↔
    text[i]? = some x ∧ Takes text part (i + 1) j := by
  rw [← List.singleton_append, takes_append]
  constructor
  · rintro ⟨k, hfirst, hrest⟩
    obtain ⟨hx, rfl⟩ := takes_single.1 hfirst
    exact ⟨hx, hrest⟩
  · rintro ⟨hx, hrest⟩
    exact ⟨i + 1, takes_single.2 ⟨hx, rfl⟩, hrest⟩

theorem Takes.uncons {x : Char} (h : Takes text (x :: part) i j) :
    Takes text [x] i (i + 1) ∧ Takes text part (i + 1) j := by
  obtain ⟨hx, hpart⟩ := takes_cons.1 h
  exact ⟨takes_single.2 ⟨hx, rfl⟩, hpart⟩

theorem takes_spanEnd (p : Char → Bool) (i : Nat) :
    Takes text ((text.drop i).takeWhile p) i (spanEnd text p i) :=
  ⟨by rw [drop_spanEnd, List.takeWhile_append_dropWhile], rfl⟩

theorem Takes.slice_eq (h : Takes text part i j) : slice text i j = part := by
  have hlength : j - i = part.length := by
    have hends := h.ends
    omega
  rw [slice, h.starts, hlength, List.take_left]

theorem reads_one {p : Char → Bool} :
    Reads text (.one p) i c j d ↔ d = c ∧ ∃ x, Takes text [x] i j ∧ p x = true := by
  constructor
  · rintro (_ | ⟨hx, hpx⟩)
    obtain ⟨hlt, rfl⟩ := List.getElem?_eq_some_iff.1 hx
    exact ⟨rfl, _, ⟨List.drop_eq_getElem_cons hlt, rfl⟩, hpx⟩
  · rintro ⟨rfl, x, ⟨hstarts, rfl⟩, hpx⟩
    exact .one (drop_eq_cons hstarts).1 hpx

theorem reads_many_one {p : Char → Bool} :
    Reads text (.many (.one p)) i c j d ↔ d = c ∧ ∃ part, Takes text part i j ∧ ∀ x ∈ part,
      p x = true := by
  constructor
  · intro h
    generalize hmany : Pattern.many (.one p) = repetition at h
    induction h with
    | manyDone => exact ⟨rfl, [], takes_nil.2 rfl, by simp⟩
    | manyMore hround _ _ ih =>
        cases hmany
        obtain ⟨rfl, x, hx, hpx⟩ := reads_one.1 hround
        obtain ⟨rfl, part, hpart, hp⟩ := ih rfl
        exact ⟨rfl, [x] ++ part, takes_append.2 ⟨_, hx, hpart⟩, List.forall_mem_cons.2 ⟨hpx, hp⟩⟩
    | _ => cases hmany
  · rintro ⟨rfl, part, hpart, hp⟩
    induction part generalizing i with
    | nil =>
        obtain rfl := takes_nil.1 hpart
        exact .manyDone
    | cons x part ih =>
        obtain ⟨hpx, hp⟩ := List.forall_mem_cons.1 hp
        obtain ⟨hx, hpart⟩ := hpart.uncons
        exact .manyMore (reads_one.2 ⟨rfl, x, hx, hpx⟩) (ih hpart hp)

theorem reads_many1_one {p : Char → Bool} : Reads text (.many1 (.one p)) i c j d ↔
    d = c ∧ ∃ part, Takes text part i j ∧ part ≠ [] ∧ ∀ x ∈ part, p x = true := by
  constructor
  · rintro (_ | _ | ⟨hone, hmany⟩)
    obtain ⟨rfl, x, hx, hpx⟩ := reads_one.1 hone
    obtain ⟨rfl, part, hpart, hp⟩ := reads_many_one.1 hmany
    exact ⟨rfl, [x] ++ part, takes_append.2 ⟨_, hx, hpart⟩, by simp,
      List.forall_mem_cons.2 ⟨hpx, hp⟩⟩
  · rintro ⟨rfl, part, hpart, hne, hp⟩
    obtain ⟨x, part, rfl⟩ := List.exists_cons_of_ne_nil hne
    obtain ⟨hpx, hp⟩ := List.forall_mem_cons.1 hp
    obtain ⟨hx, hpart⟩ := hpart.uncons
    exact .seq (reads_one.2 ⟨rfl, x, hx, hpx⟩) (reads_many_one.2 ⟨rfl, part, hpart, hp⟩)

/-- Whether a text is a word, its letters in either case. -/
def Spells (letters : String) (text : List Char) : Prop :=
  List.Forall₂ (fun letter c => Text.sameLetter letter c = true) letters.toList text

instance (letters : String) (text : List Char) : Decidable (Spells letters text) :=
  inferInstanceAs (Decidable (List.Forall₂ _ _ _))

theorem reads_word {letters : String} :
    Reads text (.word letters) i c j d ↔
      d = c ∧ ∃ part, Takes text part i j ∧ Spells letters part := by
  simp only [word, Spells]
  generalize letters.toList = letters
  induction letters generalizing i c with
  | nil =>
      rw [List.map_nil, reads_all_nil]
      constructor
      · rintro ⟨rfl, rfl⟩
        exact ⟨rfl, [], takes_nil.2 rfl, .nil⟩
      · rintro ⟨rfl, part, hpart, hspells⟩
        cases hspells
        exact ⟨(takes_nil.1 hpart).symm ▸ rfl, rfl⟩
  | cons letter letters ih =>
      rw [List.map_cons, reads_all_cons]
      constructor
      · rintro ⟨k, e, hone, hrest⟩
        obtain ⟨rfl, x, hx, hpx⟩ := reads_one.1 hone
        obtain ⟨rfl, part, hpart, hspells⟩ := ih.1 hrest
        exact ⟨rfl, [x] ++ part, takes_append.2 ⟨_, hx, hpart⟩, .cons hpx hspells⟩
      · rintro ⟨rfl, part, hpart, hspells⟩
        obtain ⟨x, rest, hpx, hmore, rfl⟩ := List.forall₂_cons_left_iff.1 hspells
        obtain ⟨hx, hpart⟩ := hpart.uncons
        exact ⟨_, _, reads_one.2 ⟨rfl, x, hx, hpx⟩, ih.2 ⟨rfl, rest, hpart, hmore⟩⟩

theorem reads_capture {group : Nat} {p : Pattern} :
    Reads text (.capture group p) i c j d ↔ ∃ e, d = (group, i, j) :: e ∧ Reads text p i c j e := by
  constructor
  · rintro (_ | _ | _ | _ | _ | _ | _ | _ | _ | hread)
    exact ⟨_, rfl, hread⟩
  · rintro ⟨e, rfl, hread⟩
    exact .capture hread

theorem reads_notAhead {p : Pattern} : Reads text (.notAhead p) i c j d ↔ i = j ∧ c = d := by
  constructor
  · rintro ⟨⟩
    exact ⟨rfl, rfl⟩
  · rintro ⟨rfl, rfl⟩
    exact .notAhead

theorem reads_optional {p : Pattern} :
    Reads text (.optional p) i c j d ↔ Reads text p i c j d ∨ j = i ∧ d = c := by
  constructor
  · rintro (_ | _ | _ | hread | ⟨⟨⟩⟩)
    · exact .inl hread
    · exact .inr ⟨rfl, rfl⟩
  · rintro (hread | ⟨rfl, rfl⟩)
    · exact .left hread
    · exact .right .empty

/-- One of several patterns is read when they all are. -/
theorem reads_any {parts : List Pattern} (hparts : parts ≠ []) :
    Reads text (.any parts) i c j d ↔ ∃ p ∈ parts, Reads text p i c j d := by
  induction parts with
  | nil => exact absurd rfl hparts
  | cons p parts ih =>
      cases parts with
      | nil => simp [any]
      | cons q parts =>
          have hrest := ih (List.cons_ne_nil q parts)
          constructor
          · rintro (_ | _ | _ | h | h)
            · exact ⟨p, List.mem_cons_self, h⟩
            · obtain ⟨r, hr, h⟩ := hrest.1 h
              exact ⟨r, List.mem_cons_of_mem p hr, h⟩
          · rintro ⟨r, hr, h⟩
            obtain rfl | hr := List.mem_cons.1 hr
            · exact .left h
            · exact .right (hrest.2 ⟨r, hr, h⟩)

/-! ## Word edges -/

theorem reads_wordEdge : Reads text .wordEdge i c j d ↔
    i = j ∧ c = d ∧ isWordEdge (placeAt text i) = true := by
  constructor
  · rintro ⟨⟩
    exact ⟨rfl, rfl, ‹_›⟩
  · rintro ⟨rfl, rfl, hedge⟩
    exact .wordEdge hedge

theorem Takes.take_eq (h : Takes text part i j) : text.take j = text.take i ++ part := by
  rw [h.ends, List.take_add, h.starts, List.take_left]

/-- Before a word a word edge is a place that no word goes on from. -/
theorem Takes.isWordEdge_start (h : Takes text part i j) (hne : part ≠ [])
    (hpart : ∀ x ∈ part, Text.isWord x = true) : isWordEdge (placeAt text i) = true ↔
      ∀ y ∈ (text.take i).getLast?, Text.isWord y = false := by
  obtain ⟨x, part, rfl⟩ := List.exists_cons_of_ne_nil hne
  rw [isWordEdge, placeAt]
  simp only [h.starts, List.cons_append, List.head?_cons, Option.any_some,
    hpart x List.mem_cons_self]
  cases (text.take i).getLast? with
  | none => simp
  | some y => simp

/-- Behind a word a word edge is a place where the word does not go on. -/
theorem Takes.isWordEdge_end (h : Takes text part i j) (hne : part ≠ [])
    (hpart : ∀ x ∈ part, Text.isWord x = true) : isWordEdge (placeAt text j) = true ↔
      ∀ y ∈ (text.drop j).head?, Text.isWord y = false := by
  have hlast : (text.take j).getLast? = some (part.getLast hne) := by
    rw [h.take_eq, List.getLast?_append, List.getLast?_eq_some_getLast hne, Option.some_or]
  rw [isWordEdge, placeAt]
  simp only [hlast, Option.any_some, hpart _ (List.getLast_mem hne)]
  cases (text.drop j).head? with
  | none => simp
  | some y => simp

end

end SqlLayout.Pattern
