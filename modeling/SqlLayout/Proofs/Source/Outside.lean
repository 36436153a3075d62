import SqlLayout.Proofs.Pattern.Slice
import SqlLayout.Proofs.Source.Mask

/-!
# Offsets outside of literals and comments

An offset is outside when the scanner has left the text before it in statement text and nothing of
two characters stands across it.  The mask of a text is the mask of its parts between such offsets,
so replacing spans between them keeps the mask of everything else, as long as each replacement can
stand between any two parts of statement text.
-/

namespace SqlLayout.Source

open Pattern

/-- An offset outside of literals and comments, where no mark and no doubled quote is cut in two. -/
structure Outside (text : List Char) (offset : Nat) : Prop where
  le : offset ≤ text.length
  code : modeAfter .code (text.take offset) = .code
  apart : ∀ x ∈ (text.take offset).getLast?, ∀ y ∈ (text.drop offset).head?, joins x y = false

/-- Two parts of statement text that do not join are masked one by one. -/
theorem mask_append {front back : List Char} (h : modeAfter .code front = .code)
    (hapart : ∀ x ∈ front.getLast?, ∀ y ∈ back.head?, joins x y = false) :
    mask (front ++ back) = mask front ++ mask back := by
  have hscan := (scan_append Mode.opened_code (.inl h) hapart).mask
  rwa [h] at hscan

theorem modeAfter_append {front back : List Char} (h : modeAfter .code front = .code)
    (hapart : ∀ x ∈ front.getLast?, ∀ y ∈ back.head?, joins x y = false) :
    modeAfter .code (front ++ back) = modeAfter .code back := by
  have hscan := (scan_append Mode.opened_code (.inl h) hapart).mode
  rwa [h] at hscan

theorem outside_zero (text : List Char) : Outside text 0 :=
  ⟨Nat.zero_le _, rfl, by simp⟩

section

variable {text : List Char} {i j : Nat}

/-- An offset outside cuts the mask of a text into the masks of its two sides. -/
theorem Outside.mask_eq (h : Outside text i) :
    mask text = mask (text.take i) ++ mask (text.drop i) := by
  have hscan := mask_append h.code h.apart
  rwa [List.take_append_drop] at hscan

theorem Outside.modeAfter_eq (h : Outside text i) :
    modeAfter .code text = modeAfter .code (text.drop i) := by
  have hscan := modeAfter_append h.code h.apart
  rwa [List.take_append_drop] at hscan

theorem Outside.mask_take (h : Outside text i) : mask (text.take i) = (mask text).take i := by
  rw [h.mask_eq, List.take_left' (by simp [h.le])]

theorem Outside.mask_drop (h : Outside text i) : mask (text.drop i) = (mask text).drop i := by
  rw [h.mask_eq, List.drop_left' (by simp [h.le])]

theorem Outside.apart_slice (h : Outside text i) (j : Nat) :
    ∀ x ∈ (text.take i).getLast?, ∀ y ∈ (slice text i j).head?, joins x y = false := by
  intro x hx y hy
  refine h.apart x hx y ?_
  rw [slice, List.head?_take] at hy
  split at hy
  · simp at hy
  · exact hy

/-- The text between two offsets outside is read like a text of its own. -/
theorem Outside.scan_slice (hi : Outside text i) (hj : Outside text j) (hij : i ≤ j) :
    modeAfter .code (slice text i j) = .code ∧ mask (slice text i j) = slice (mask text) i j := by
  have hapart := hi.apart_slice j
  have hmask := mask_append hi.code hapart
  have hafter := modeAfter_append hi.code hapart
  rw [take_append_slice hij] at hmask hafter
  refine ⟨hafter.symm.trans hj.code, ?_⟩
  have hparts := hmask.symm.trans (hj.mask_take.trans (take_append_slice hij).symm)
  rw [hi.mask_take] at hparts
  exact List.append_cancel_left hparts

/-- An offset that is outside behind one outside. -/
theorem Outside.of_drop (hi : Outside text i) (hj : Outside (text.drop i) j) :
    Outside text (i + j) := by
  have hparts : text.take (i + j) = text.take i ++ (text.drop i).take j := List.take_add
  have hapart : ∀ x ∈ (text.take i).getLast?, ∀ y ∈ ((text.drop i).take j).head?, joins x y =
      false := by
    have hslice := hi.apart_slice (i + j)
    rwa [slice, Nat.add_sub_cancel_left] at hslice
  constructor
  · have hle := hj.le
    have hlei := hi.le
    rw [List.length_drop] at hle
    omega
  · rw [hparts, modeAfter_append hi.code hapart, hj.code]
  · rw [hparts, ← List.drop_drop]
    cases hlast : ((text.drop i).take j).getLast? with
    | some x =>
        rw [List.getLast?_append, hlast, Option.some_or, ← hlast]
        exact hj.apart
    | none =>
        -- nothing is left between the two offsets, or nothing follows them
        have hnil := List.getLast?_eq_none_iff.1 hlast
        obtain rfl | hrest := List.take_eq_nil_iff.1 hnil
        · simpa using hi.apart
        · simp [hrest]

/-! ## Shown characters -/

/-- A solid character that is shown outside of literals is one of statement text. -/
theorem outside_of_shown {s : Char} (h : (mask text)[i]? = some s) (hsolid : isSolid s = true)
    (hliteral : ¬ InLiteral .code (mask text) i) :
    text[i]? = some s ∧ Outside text i ∧ Outside text (i + 1) := by
  obtain ⟨hinert, hblank, hline⟩ : isInert s = true ∧ s ≠ ' ' ∧ s ≠ '\n' := by
    simpa [isSolid, and_assoc] using hsolid
  have hi : i < text.length := by
    have hlt := (List.getElem?_eq_some_iff.1 h).1
    rwa [length_mask] at hlt
  obtain ⟨hsplit, hlen⟩ := split_at_offset (List.getElem?_eq_getElem hi)
  have hvisible : (maskFrom .code (text.take i ++ text[i] :: text.drop (i + 1)))[
      (text.take i).length]? = some s := by
    rw [← hsplit, hlen]
    exact h
  have hcase := shown_cases Mode.opened_code hvisible hblank hline
  rw [← hsplit, hlen] at hcase
  obtain ⟨hcode, rfl⟩ := hcase.resolve_right hliteral
  have hstart : Outside text i := by
    refine ⟨Nat.le_of_lt hi, hcode, fun x _ y hy => ?_⟩
    rw [List.head?_drop, List.getElem?_eq_getElem hi] at hy
    obtain rfl := Option.some.inj hy
    exact joins_inert_right x hinert
  refine ⟨List.getElem?_eq_getElem hi, hstart, hi, ?_, fun x hx y _ => ?_⟩
  · have hone : modeAfter .code [text[i]] = .code := by
      simp [modeAfter, isQuote_of_inert hinert]
    rw [List.take_add_one, List.getElem?_eq_getElem hi]
    refine (modeAfter_append hcode fun x _ y hy => ?_).trans hone
    obtain rfl := Option.some.inj hy
    exact joins_inert_right x hinert
  · rw [List.take_add_one, List.getElem?_eq_getElem hi, Option.toList_some, List.getLast?_append,
      List.getLast?_singleton, Option.some_or] at hx
    obtain rfl := Option.some.inj hx
    exact joins_inert_left hinert y

theorem buried_append_plain {front back : List Char} {p : Char}
    (hfront : ∀ x ∈ front, isQuote x = false) (hplain : isPlain p = true) :
    buried (front ++ p :: back) = false := by
  have hquote := isQuote_of_inert (isInert_of_solid (isSolid_of_plain hplain))
  induction front with
  | nil => simp [buried, hplain, hquote]
  | cons x rest ih =>
      rw [List.forall_mem_cons] at hfront
      simp [buried, hfront.1, ih hfront.2]

/-- Before a plain character, up to the last quote, no literal is shown. -/
theorem not_inLiteral_of_plain_after {p : Char} (hplain : (mask text)[j]? = some p)
    (hp : isPlain p = true) (hij : i ≤ j)
    (hquotes : ∀ x ∈ slice (mask text) i j, isQuote x = false) :
    ¬ InLiteral .code (mask text) i := by
  rintro ⟨hburied, -⟩
  obtain ⟨hj, hget⟩ := List.getElem?_eq_some_iff.1 hplain
  rw [← slice_append_drop hij, List.drop_eq_getElem_cons hj, hget,
    buried_append_plain hquotes hp] at hburied
  cases hburied

/-- Before the first quote no literal is shown. -/
theorem not_inLiteral_of_no_quote (hquotes : ∀ x ∈ (mask text).take i, isQuote x = false) :
    ¬ InLiteral .code (mask text) i := by
  rintro ⟨-, hmode | ⟨x, hx, hquote⟩⟩
  · cases hmode
  · simp [hquotes x hx] at hquote

/-! ## Edits -/

/-- A replacement that is read alike between any two parts of statement text. -/
structure Standalone (replacement : List Char) : Prop where
  code : modeAfter .code replacement = .code
  first : ∃ y, replacement.head? = some y ∧ isInert y = true
  last : ∃ x, replacement.getLast? = some x ∧ isInert x = true

/-- Whether a text is made of inert characters. -/
def inert (text : List Char) : Bool :=
  text.all isInert

theorem inert_append {front back : List Char} :
    inert (front ++ back) = true ↔ inert front = true ∧ inert back = true := by
  simp only [inert, List.all_append, Bool.and_eq_true]

theorem inert_cons {c : Char} {rest : List Char} :
    inert (c :: rest) = true ↔ isInert c = true ∧ inert rest = true := by
  simp only [inert, List.all_cons, Bool.and_eq_true]

theorem modeAfter_of_inert {replacement : List Char} (h : inert replacement = true) :
    modeAfter .code replacement = .code := by
  induction replacement with
  | nil => rfl
  | cons x rest ih =>
      obtain ⟨hx, hrest⟩ := inert_cons.1 h
      have hquote := isQuote_of_inert hx
      cases rest with
      | nil => simp [modeAfter, hquote]
      | cons y rest => simpa [modeAfter_code_cons (joins_inert_left hx y), hquote] using ih hrest

theorem standalone_of_inert {replacement : List Char} (hne : replacement ≠ [])
    (h : inert replacement = true) : Standalone replacement where
  code := modeAfter_of_inert h
  first := ⟨_, List.head?_eq_some_head hne, List.all_eq_true.1 h _ (List.head_mem hne)⟩
  last := ⟨_, List.getLast?_eq_some_getLast hne, List.all_eq_true.1 h _ (List.getLast_mem hne)⟩

/-- An edit of a span between offsets outside of literals and comments. -/
structure SafeEdit (text : List Char) (edit : Match × List Char) : Prop where
  le : edit.1.start ≤ edit.1.stop
  start : Outside text edit.1.start
  stop : Outside text edit.1.stop
  standalone : Standalone edit.2

/-- Edits in order from an offset on, each after the one before. -/
structure EditsFrom (text : List Char) (last : Nat) (edits : List (Match × List Char)) : Prop where
  each : ∀ edit ∈ edits, SafeEdit text edit ∧ last ≤ edit.1.start
  apart : edits.Pairwise fun a b => a.1.stop ≤ b.1.start

theorem EditsFrom.head {last : Nat} {edit : Match × List Char} {rest : List (Match × List Char)}
    (h : EditsFrom text last (edit :: rest)) : SafeEdit text edit ∧ last ≤ edit.1.start :=
  h.each edit List.mem_cons_self

theorem EditsFrom.tail {last : Nat} {edit : Match × List Char} {rest : List (Match × List Char)}
    (h : EditsFrom text last (edit :: rest)) : EditsFrom text edit.1.stop rest where
  each := fun next hnext =>
    ⟨(h.each next (List.mem_cons_of_mem edit hnext)).1, (List.pairwise_cons.1 h.apart).1 next hnext⟩
  apart := (List.pairwise_cons.1 h.apart).2

/-- Spans in order that are replaced by what they hold give the text back. -/
theorem splice_slices {last : Nat} {found : List Match}
    (heach : ∀ m ∈ found, m.start ≤ m.stop ∧ last ≤ m.start)
    (hapart : found.Pairwise fun a b => a.stop ≤ b.start) :
    splice text last (found.map fun m => (m, slice text m.start m.stop)) = text.drop last := by
  induction found generalizing last with
  | nil => rfl
  | cons m rest ih =>
      obtain ⟨⟨hm, hle⟩, hrest⟩ := List.forall_mem_cons.1 heach
      obtain ⟨hfirst, hlater⟩ := List.pairwise_cons.1 hapart
      rw [List.map_cons, splice,
        ih (fun next hnext => ⟨(hrest next hnext).1, hfirst next hnext⟩) hlater, List.append_assoc,
        slice_append_drop hm, slice_append_drop hle]

/-- Matches replaced by what they matched give the text back. -/
theorem splice_self {last : Nat} {edits : List (Match × List Char)}
    (h : EditsFrom text last edits) :
    splice text last (edits.map fun edit => (edit.1, slice text edit.1.start edit.1.stop)) =
      text.drop last := by
  have hfound : splice text last ((edits.map Prod.fst).map fun m =>
    (m, slice text m.start m.stop)) =
      text.drop last :=
    splice_slices (List.forall_mem_map.2 fun edit hedit => (h.each edit hedit).imp_left SafeEdit.le)
      (List.pairwise_map.2 h.apart)
  rwa [List.map_map] at hfound

theorem apart_of_last {front back : List Char} {x : Char} (h : front.getLast? = some x)
    (hx : isInert x = true) : ∀ a ∈ front.getLast?, ∀ b ∈ back.head?, joins a b = false := by
  rintro a ha b -
  obtain rfl : x = a := Option.some.inj (h.symm.trans ha)
  exact joins_inert_left hx b

/-- What is kept before an edit and the replacement are read one after the other, and nothing joins
what comes after. -/
theorem scan_edit {last : Nat} {edit : Match × List Char} (hlast : Outside text last)
    (hsafe : SafeEdit text edit) (hle : last ≤ edit.1.start) (back : List Char) :
    mask (slice text last edit.1.start ++ edit.2 ++ back) =
        slice (mask text) last edit.1.start ++ mask edit.2 ++ mask back ∧
      modeAfter .code (slice text last edit.1.start ++ edit.2 ++ back) = modeAfter .code back := by
  obtain ⟨hcode, hslice⟩ := hlast.scan_slice hsafe.start hle
  obtain ⟨y, hy, hfirst⟩ := hsafe.standalone.first
  obtain ⟨x, hx, hend⟩ := hsafe.standalone.last
  have hkept : ∀ a ∈ (slice text last edit.1.start).getLast?, ∀ b ∈ edit.2.head?,
      joins a b = false := by
    rintro a - b hb
    obtain rfl : y = b := Option.some.inj (hy.symm.trans hb)
    exact joins_inert_right a hfirst
  have hfront : modeAfter .code (slice text last edit.1.start ++ edit.2) = .code :=
    (modeAfter_append hcode hkept).trans hsafe.standalone.code
  have hlastChar : (slice text last edit.1.start ++ edit.2).getLast? = some x := by
    rw [List.getLast?_append, hx, Option.some_or]
  refine ⟨?_, modeAfter_append hfront (apart_of_last hlastChar hend)⟩
  rw [mask_append hfront (apart_of_last hlastChar hend), mask_append hcode hkept, hslice]

/-- Replacing spans keeps the mask of the text between them. -/
theorem mask_splice {last : Nat} {edits : List (Match × List Char)} (hlast : Outside text last)
    (h : EditsFrom text last edits) :
    mask (splice text last edits) =
      splice (mask text) last (edits.map fun edit => (edit.1, mask edit.2)) := by
  induction edits generalizing last with
  | nil => exact hlast.mask_drop
  | cons edit rest ih =>
      obtain ⟨hsafe, hle⟩ := h.head
      calc mask (splice text last (edit :: rest))
          = slice (mask text) last edit.1.start ++ mask edit.2 ++
            mask (splice text edit.1.stop rest) :=
            (scan_edit hlast hsafe hle _).1
        _ = _ := by
            rw [ih hsafe.stop h.tail]
            rfl

/-- A text that is cut at an offset keeps the slices before it. -/
theorem slice_take {k : Nat} (hj : j ≤ k) : slice (text.take k) i j = slice text i j := by
  rw [slice, slice, List.drop_take, List.take_take, Nat.min_eq_left (by omega)]

/-- Up to an offset between two edits, the text with its edits is a part of the text with all of
them, and the scanner is inside of the same thing there. -/
theorem modeAfter_splice {last k : Nat} {done next : List (Match × List Char)}
    (hlast : Outside text last) (h : EditsFrom text last (done ++ next)) (hlastk : last ≤ k)
    (hdone : ∀ edit ∈ done, edit.1.stop ≤ k) (hnext : ∀ edit ∈ next, k ≤ edit.1.start) :
    splice (text.take k) last done <+: splice text last (done ++ next) ∧
      modeAfter .code (splice (text.take k) last done) = modeAfter .code (text.take k) := by
  induction done generalizing last with
  | nil =>
      have hcut : splice (text.take k) last [] = slice text last k := by
        rw [splice, List.drop_take, slice]
      rw [hcut]
      constructor
      · cases next with
        | nil => exact ⟨text.drop k, slice_append_drop hlastk⟩
        | cons edit rest =>
            obtain ⟨-, hle⟩ := h.head
            have hstart := hnext edit List.mem_cons_self
            refine ⟨slice text k edit.1.start ++ edit.2 ++ splice text edit.1.stop rest, ?_⟩
            rw [List.nil_append, splice, ← slice_append_slice hlastk hstart]
            simp only [List.append_assoc]
      · rw [← take_append_slice hlastk, modeAfter_append hlast.code (hlast.apart_slice k)]
  | cons edit done ih =>
      rw [List.cons_append] at h ⊢
      obtain ⟨hsafe, hle⟩ := h.head
      rw [List.forall_mem_cons] at hdone
      obtain ⟨hpart, hmode⟩ := ih hsafe.stop h.tail hdone.1 hdone.2
      rw [splice, splice, slice_take (Nat.le_trans hsafe.le hdone.1)]
      exact ⟨(List.prefix_append_right_inj _).2 hpart, (scan_edit hlast hsafe hle _).2.trans hmode⟩

end

end SqlLayout.Source
