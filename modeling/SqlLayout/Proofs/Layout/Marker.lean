import Mathlib.Data.List.Infix
import SqlLayout.Layout.Doc
import SqlLayout.Placeholder.Record

/-!
# Markers in laid out texts

Every placeholder holds one of four markers.  A marker is a word of letters and underscores, so it
never reaches over a blank, a bracket or another sign: a text made of parts with such signs between
them has a marker exactly when one of the parts has one.

## Implementation notes

`Spells` says so of a text and the parts that it is made of.  What stands between two parts is a
fence, a text that begins and ends with a sign; `lead` and `trail` are fences with one open end.
-/

namespace SqlLayout.Layout

/-- The markers of placeholders. -/
def markers : List String :=
  [Placeholder.arrayAccessMark, Placeholder.pivotMark, Placeholder.groupByAllMark,
    Placeholder.castToken]

/-- The letters of the markers, written out so that deciding on a text does not read the strings. -/
def markerLetters : List (List Char) :=
  [['_', '_', 'A', 'R', 'R', 'A', 'Y', 'A', 'C', 'C', 'E', 'S', 'S', '_', '_'],
    ['_', '_', 'P', 'I', 'V', 'O', 'T', '_'],
    ['_', '_', 'G', 'R', 'O', 'U', 'P', '_', 'B', 'Y', '_', 'A', 'L', 'L', '_'],
    ['_', '_', 'C', 'A', 'S', 'T', '_', 'S', 'H', 'O', 'R', 'T', 'H', 'A', 'N', 'D', '_', '_']]

theorem map_toList_markers : markers.map String.toList = markerLetters := by decide

/-- Whether a text has a marker, in any letter case. -/
def HasMarker (text : List Char) : Prop :=
  ∃ marker ∈ markers, marker.toList <:+: text.map Char.toUpper

instance (text : List Char) : Decidable (HasMarker text) :=
  decidable_of_iff (∃ letters ∈ markerLetters, letters <:+: text.map Char.toUpper)
    (by simp [HasMarker, ← map_toList_markers])

/-- Whether a character is in no marker. -/
def IsGap (c : Char) : Prop :=
  ∀ marker ∈ markers, c.toUpper ∉ marker.toList

instance (c : Char) : Decidable (IsGap c) :=
  decidable_of_iff (∀ letters ∈ markerLetters, c.toUpper ∉ letters)
    (by simp [IsGap, ← map_toList_markers])

/-- Whether nothing of a marker can stand at the start of a text. -/
def GapFirst (text : List Char) : Prop :=
  ∀ c ∈ text.head?, IsGap c

/-- Whether nothing of a marker can stand at the end of a text. -/
def GapLast (text : List Char) : Prop :=
  ∀ c ∈ text.getLast?, IsGap c

theorem not_hasMarker_nil : ¬ HasMarker [] := by decide

theorem hasMarker_of_isInfix {part text : List Char} (hpart : part <:+: text) (h : HasMarker part) :
    HasMarker text := by
  obtain ⟨marker, hmarker, hin⟩ := h
  exact ⟨marker, hmarker, hin.trans (hpart.map _)⟩

theorem getLast?_of_isSuffix {α : Type} {s l : List α} (hs : s ≠ []) (h : s <:+ l) :
    l.getLast? = some (s.getLast hs) := by
  obtain ⟨front, rfl⟩ := h
  rw [List.getLast?_append_of_ne_nil _ hs, List.getLast?_eq_some_getLast hs]

theorem head?_of_isPrefix {α : Type} {s l : List α} (hs : s ≠ []) (h : s <+: l) :
    l.head? = some (s.head hs) := by
  obtain ⟨back, rfl⟩ := h
  rw [List.head?_append_of_ne_nil _ hs, List.head?_eq_some_head hs]

/-- Where two texts meet at a gap, no marker reaches over. -/
theorem hasMarker_append {front back : List Char} (h : GapLast front ∨ GapFirst back) :
    HasMarker (front ++ back) ↔ HasMarker front ∨ HasMarker back := by
  have hinside {marker : String} (hmarker : marker ∈ markers) :
      marker.toList <:+: (front ++ back).map Char.toUpper ↔
        marker.toList <:+: front.map Char.toUpper ∨ marker.toList <:+: back.map Char.toUpper := by
    rw [List.map_append, List.infix_append_iff_ne_nil]
    refine or_congr_right (or_iff_left ?_)
    rintro ⟨left, right, hleft, hright, hsplit, hsuffix, hprefix⟩
    rcases h with h | h
    · have hlast := getLast?_of_isSuffix hleft hsuffix
      rw [List.getLast?_map, Option.map_eq_some_iff] at hlast
      obtain ⟨c, hc, hupper⟩ := hlast
      refine h c hc marker hmarker ?_
      rw [hsplit, hupper]
      exact List.mem_append_left _ (List.getLast_mem hleft)
    · have hfirst := head?_of_isPrefix hright hprefix
      rw [List.head?_map, Option.map_eq_some_iff] at hfirst
      obtain ⟨c, hc, hupper⟩ := hfirst
      refine h c hc marker hmarker ?_
      rw [hsplit, hupper]
      exact List.mem_append_right _ (List.head_mem hright)
  constructor
  · rintro ⟨marker, hmarker, hin⟩
    exact ((hinside hmarker).1 hin).imp (⟨marker, hmarker, ·⟩) (⟨marker, hmarker, ·⟩)
  · rintro (⟨marker, hmarker, hin⟩ | ⟨marker, hmarker, hin⟩)
    · exact ⟨marker, hmarker, (hinside hmarker).2 (.inl hin)⟩
    · exact ⟨marker, hmarker, (hinside hmarker).2 (.inr hin)⟩

theorem hasMarker_cons_gap {c : Char} (hc : IsGap c) (back : List Char) :
    HasMarker (c :: back) ↔ HasMarker back := by
  have hsingle : ¬ HasMarker [c] := by
    rintro ⟨marker, hmarker, hin⟩
    have hne : ∀ marker ∈ markers, marker.toList ≠ [] := by decide
    rcases (List.infix_singleton_iff _ _).1 hin with hempty | hsame
    · exact hne marker hmarker hempty
    · exact hc marker hmarker (hsame ▸ List.mem_singleton_self _)
  rw [← List.singleton_append, hasMarker_append (.inl (by simpa [GapLast] using hc))]
  exact or_iff_right hsingle

theorem hasMarker_gap {c : Char} (hc : IsGap c) (front back : List Char) :
    HasMarker (front ++ c :: back) ↔ HasMarker front ∨ HasMarker back := by
  rw [hasMarker_append (.inr (by simpa [GapFirst] using hc)), hasMarker_cons_gap hc]

theorem isGap_of_toNat {c : Char} (hc : c.toNat < 65 ∨ 122 < c.toNat) : IsGap c := by
  have hword : ∀ marker ∈ markers,
      (marker.toList.all fun d => 65 ≤ d.toNat && d.toNat ≤ 122) = true := by decide
  have hupper : c.toUpper = c := by
    unfold Char.toUpper
    rw [dif_neg]
    rintro ⟨hlow, hhigh⟩
    simp only [UInt32.le_iff_toNat_le] at hlow hhigh
    change 97 ≤ c.toNat at hlow
    change c.toNat ≤ 122 at hhigh
    omega
  intro marker hmarker hin
  have hrange := List.all_eq_true.1 (hword marker hmarker) c (hupper ▸ hin)
  simp only [Bool.and_eq_true, decide_eq_true_eq] at hrange
  omega

theorem not_hasMarker_of_isGap {text : List Char} (h : ∀ c ∈ text, IsGap c) : ¬ HasMarker text := by
  induction text with
  | nil => exact not_hasMarker_nil
  | cons c rest ih =>
      rw [hasMarker_cons_gap (h c List.mem_cons_self)]
      exact ih fun d hd => h d (List.mem_cons_of_mem _ hd)

/-! ## Texts made of parts -/

/-- Whether a text has a marker exactly when one of the parts it is made of has one. -/
def Spells (text : List Char) (parts : List String) : Prop :=
  HasMarker text ↔ ∃ part ∈ parts, HasMarker part.toList

/-- A text without markers that begins with a gap. -/
def Trail (text : List Char) : Prop :=
  GapFirst text ∧ ¬ HasMarker text

/-- A text without markers that ends with a gap. -/
def Lead (text : List Char) : Prop :=
  GapLast text ∧ ¬ HasMarker text

/-- A text without markers that begins and ends with a gap. -/
def Fence (text : List Char) : Prop :=
  text ≠ [] ∧ GapFirst text ∧ GapLast text ∧ ¬ HasMarker text

instance (text : List Char) : Decidable (GapFirst text) :=
  Option.decidableForallMem (p := IsGap) text.head?

instance (text : List Char) : Decidable (GapLast text) :=
  Option.decidableForallMem (p := IsGap) text.getLast?

instance (text : List Char) : Decidable (Lead text) :=
  inferInstanceAs (Decidable (GapLast text ∧ ¬ HasMarker text))

instance (text : List Char) : Decidable (Trail text) :=
  inferInstanceAs (Decidable (GapFirst text ∧ ¬ HasMarker text))

instance (text : List Char) : Decidable (Fence text) :=
  inferInstanceAs (Decidable (text ≠ [] ∧ GapFirst text ∧ GapLast text ∧ ¬ HasMarker text))

theorem hasMarker_fence {front middle back : List Char} (h : Fence middle) :
    HasMarker (front ++ (middle ++ back)) ↔ HasMarker front ∨ HasMarker back := by
  obtain ⟨hne, hfirst, hlast, hmarker⟩ := h
  have hgap : GapFirst (middle ++ back) := by
    rwa [GapFirst, List.head?_append_of_ne_nil _ hne]
  rw [hasMarker_append (.inr hgap), hasMarker_append (.inl hlast), or_iff_right hmarker]

theorem spells_text (s : String) : Spells s.toList [s] := by
  simp [Spells]

theorem spells_nil : Spells [] [] := by
  simp [Spells, not_hasMarker_nil]

theorem spells_of_not_hasMarker {text : List Char} (h : ¬ HasMarker text) : Spells text [] := by
  simp [Spells, h]

namespace Spells

variable {front back middle : List Char} {parts left right : List String}

theorem append (hfront : Spells front left) (hback : Spells back right)
    (hgap : GapLast front ∨ GapFirst back) : Spells (front ++ back) (left ++ right) := by
  unfold Spells at *
  rw [hasMarker_append hgap, hfront, hback]
  simp [or_and_right, exists_or]

theorem lead (hfront : Lead front) (hback : Spells back right) : Spells (front ++ back) right :=
  (spells_of_not_hasMarker hfront.2).append hback (.inl hfront.1)

theorem trail (hfront : Spells front left) (hback : Trail back) : Spells (front ++ back) left := by
  simpa using hfront.append (spells_of_not_hasMarker hback.2) (.inr hback.1)

theorem enclose (hfront : Lead front) (hmiddle : Spells middle parts) (hback : Trail back) :
    Spells (front ++ (middle ++ back)) parts :=
  (hmiddle.trail hback).lead hfront

theorem fence (hfront : Spells front left) (hmiddle : Fence middle) (hback : Spells back right) :
    Spells (front ++ (middle ++ back)) (left ++ right) := by
  unfold Spells at *
  rw [hasMarker_fence hmiddle, hfront, hback]
  simp [or_and_right, exists_or]

end Spells

/-! ## Rendered documents -/

mutual

/-- The text of a document on one line level, with a line feed for every line break. -/
def Doc.flat : Doc → List Char
  | .text s => s.toList
  | .hardline => ['\n']
  | .indent contents => contents.flat
  | .join separator parts => joinFlat separator.flat parts
  | .concat parts => concatFlat parts

/-- The texts of parts one after the other. -/
def concatFlat : List Doc → List Char
  | [] => []
  | part :: rest => part.flat ++ concatFlat rest

/-- The texts of parts with the text of a separator between them. -/
def joinFlat (separator : List Char) : List Doc → List Char
  | [] => []
  | part :: rest =>
    part.flat ++
      match rest with
      | [] => []
      | _ => separator ++ joinFlat separator rest

end

/-- The text of items, with a line feed for every line break. -/
def itemsFlat (items : List Item) : List Char :=
  items.flatMap fun
    | .text s => s.toList
    | .newline _ => ['\n']

theorem itemsFlat_append (front back : List Item) :
    itemsFlat (front ++ back) = itemsFlat front ++ itemsFlat back :=
  List.flatMap_append

mutual

theorem itemsFlat_items (doc : Doc) (level : Nat) : itemsFlat (doc.items level) = doc.flat := by
  cases doc with
  | text s => simp [Doc.items, Doc.flat, itemsFlat]
  | hardline => simp [Doc.items, Doc.flat, itemsFlat]
  | indent contents => rw [Doc.items, Doc.flat, itemsFlat_items contents]
  | join separator parts =>
      rw [Doc.items, Doc.flat, itemsFlat_joinItems parts, itemsFlat_items separator]
  | concat parts => rw [Doc.items, Doc.flat, itemsFlat_concatItems parts]

theorem itemsFlat_concatItems (parts : List Doc) (level : Nat) :
    itemsFlat (concatItems level parts) = concatFlat parts := by
  cases parts with
  | nil => rfl
  | cons part rest =>
      rw [concatItems, concatFlat, itemsFlat_append, itemsFlat_items part,
        itemsFlat_concatItems rest]

theorem itemsFlat_joinItems (parts : List Doc) (level : Nat) (separator : List Item) :
    itemsFlat (joinItems level separator parts) = joinFlat (itemsFlat separator) parts := by
  match parts with
  | [] => simp [joinItems, joinFlat, itemsFlat]
  | [part] => simp [joinItems, joinFlat, itemsFlat_items part]
  | part :: next :: rest =>
      rw [joinItems, joinFlat, itemsFlat_append, itemsFlat_items part, itemsFlat_append,
        itemsFlat_joinItems (next :: rest)]
      all_goals simp

end

theorem hasMarker_spaces (count : Nat) (back : List Char) :
    HasMarker (List.replicate count ' ' ++ back) ↔ HasMarker back := by
  induction count with
  | zero => rfl
  | succ count ih => rw [List.replicate_succ, List.cons_append, hasMarker_cons_gap (by decide), ih]

theorem hasMarker_reverse_dropWhile {p : Char → Bool} (hp : ∀ c, p c = true → IsGap c)
    (text : List Char) :
    HasMarker (text.dropWhile p).reverse ↔ HasMarker text.reverse := by
  induction text with
  | nil => rfl
  | cons c rest ih =>
      by_cases hc : p c = true
      · have hgap := hasMarker_gap (hp c hc) rest.reverse []
        rw [or_iff_left not_hasMarker_nil] at hgap
        rw [List.dropWhile_cons_of_pos hc, ih, List.reverse_cons, hgap]
      · rw [List.dropWhile_cons_of_neg hc]

theorem hasMarker_trimSpaces (out : List Char) :
    HasMarker (trimSpaces out).reverse ↔ HasMarker out.reverse := by
  refine hasMarker_reverse_dropWhile (fun c hc => ?_) out
  rw [beq_iff_eq.1 hc]
  decide

theorem hasMarker_writeItems (tabWidth : Nat) (items : List Item) (out : List Char) :
    HasMarker (writeItems tabWidth out items).reverse ↔
      HasMarker (out.reverse ++ itemsFlat items) := by
  induction items generalizing out with
  | nil => simpa [writeItems, itemsFlat] using hasMarker_trimSpaces out
  | cons item rest ih =>
      cases item with
      | text s => simp [writeItems, ih, itemsFlat]
      | newline level =>
          have hbreak (front : List Char) : HasMarker (front ++ '\n' :: itemsFlat rest) ↔
              HasMarker front ∨ HasMarker (itemsFlat rest) :=
            hasMarker_gap (by decide) front _
          have hflat : out.reverse ++ itemsFlat (.newline level :: rest) =
              out.reverse ++ '\n' :: itemsFlat rest := rfl
          rw [writeItems, ih, hflat, hbreak, ← hasMarker_trimSpaces]
          simp only [List.reverse_append, List.reverse_cons, List.reverse_replicate,
            List.append_assoc, List.cons_append, List.nil_append]
          rw [hasMarker_gap (c := '\n') (by decide), hasMarker_spaces]

/-- A rendered document has a marker exactly when its text has one. -/
theorem hasMarker_render (doc : Doc) (tabWidth : Nat) :
    HasMarker (doc.render tabWidth).toList ↔ HasMarker doc.flat := by
  rw [Doc.render, String.toList_ofList, hasMarker_writeItems, itemsFlat_items]
  rfl

/-! ## Documents made of parts -/

theorem concatFlat_append (front back : List Doc) :
    concatFlat (front ++ back) = concatFlat front ++ concatFlat back := by
  induction front with
  | nil => rfl
  | cons part rest ih => rw [List.cons_append, concatFlat, ih, concatFlat, List.append_assoc]

theorem gapFirst_append {front back : List Char} (hfront : GapFirst front) (hback : GapFirst back) :
    GapFirst (front ++ back) := by
  cases front with
  | nil => exact hback
  | cons c rest => exact hfront

/-- Documents that begin with a gap, so that they can follow any text, and are made of the given
parts. -/
structure Attaches (docs : List Doc) (parts : List String) : Prop where
  first : GapFirst (concatFlat docs)
  spells : Spells (concatFlat docs) parts

namespace Attaches

variable {docs front back : List Doc} {parts left right : List String}

theorem nil : Attaches [] [] :=
  ⟨by decide, spells_nil⟩

theorem append (hfront : Attaches front left) (hback : Attaches back right) :
    Attaches (front ++ back) (left ++ right) := by
  constructor
  · rw [concatFlat_append]
    exact gapFirst_append hfront.first hback.first
  · rw [concatFlat_append]
    exact hfront.spells.append hback.spells (.inr hback.first)

theorem of_trail (h : Trail (concatFlat docs)) : Attaches docs [] :=
  ⟨h.1, spells_of_not_hasMarker h.2⟩

/-- Documents whose text is a fence and what follows it. -/
theorem of_fence {fence text : List Char} (hdocs : concatFlat docs = fence ++ text)
    (hfence : Fence fence) (htext : Spells text parts) : Attaches docs parts := by
  obtain ⟨hne, hfirst, hlast, hmarker⟩ := hfence
  constructor
  · rwa [hdocs, GapFirst, List.head?_append_of_ne_nil _ hne]
  · rw [hdocs]
    exact htext.lead ⟨hlast, hmarker⟩

theorem text {s : String} (hs : Fence s.toList) (hdocs : Spells (concatFlat docs) parts) :
    Attaches (.text s :: docs) parts :=
  of_fence rfl hs hdocs

theorem line (hdocs : Spells (concatFlat docs) parts) : Attaches (.hardline :: docs) parts :=
  of_fence rfl (show Fence ['\n'] by decide) hdocs

theorem flatMap {α : Type} {f : α → List Doc} {texts : α → List String} {xs : List α}
    (h : ∀ x ∈ xs, Attaches (f x) (texts x)) : Attaches (xs.flatMap f) (xs.flatMap texts) := by
  induction xs with
  | nil => exact nil
  | cons x rest ih =>
      rw [List.flatMap_cons, List.flatMap_cons]
      exact (h x List.mem_cons_self).append (ih fun y hy => h y (List.mem_cons_of_mem _ hy))

end Attaches

theorem Attaches.congr {docs : List Doc} {parts other : List String} (h : Attaches docs parts)
    (hparts : (∃ part ∈ parts, HasMarker part.toList) ↔ ∃ part ∈ other, HasMarker part.toList) :
    Attaches docs other :=
  ⟨h.first, h.spells.trans hparts⟩

theorem spells_self (doc : Doc) : Spells doc.flat [String.ofList doc.flat] := by
  simpa using spells_text (String.ofList doc.flat)

theorem Spells.attach {front back : List Doc} {left right : List String}
    (hfront : Spells (concatFlat front) left) (hback : Attaches back right) :
    Spells (concatFlat (front ++ back)) (left ++ right) := by
  rw [concatFlat_append]
  exact hfront.append hback.spells (.inr hback.first)

theorem Spells.attach_plain {front back : List Doc} {parts : List String}
    (hfront : Spells (concatFlat front) parts) (hback : Attaches back []) :
    Spells (concatFlat (front ++ back)) parts := by
  simpa using hfront.attach hback

theorem Spells.between {front middle back : List Doc} {left right : List String}
    (hfront : Spells (concatFlat front) left) (hmiddle : Fence (concatFlat middle))
    (hback : Spells (concatFlat back) right) :
    Spells (concatFlat (front ++ middle ++ back)) (left ++ right) := by
  rw [concatFlat_append, concatFlat_append, List.append_assoc]
  exact hfront.fence hmiddle hback

theorem Spells.attach_cons {doc : Doc} {docs : List Doc} {left right : List String}
    (hdoc : Spells doc.flat left) (hdocs : Attaches docs right) :
    Spells (concatFlat (doc :: docs)) (left ++ right) :=
  hdoc.append hdocs.spells (.inr hdocs.first)

/-- Whether one of several documents has a marker exactly when one of the parts has one. -/
def SpellEach (docs : List Doc) (parts : List String) : Prop :=
  (∃ doc ∈ docs, HasMarker doc.flat) ↔ ∃ part ∈ parts, HasMarker part.toList

theorem hasMarker_joinFlat {separator : List Char} (h : Fence separator) (docs : List Doc) :
    HasMarker (joinFlat separator docs) ↔ ∃ doc ∈ docs, HasMarker doc.flat := by
  induction docs with
  | nil => simp [joinFlat, not_hasMarker_nil]
  | cons doc rest ih =>
      cases rest with
      | nil => simp [joinFlat]
      | cons next rest =>
          rw [joinFlat, hasMarker_fence h, ih]
          · simp
          · simp

namespace SpellEach

variable {docs front back : List Doc} {parts left right : List String}

theorem nil : SpellEach [] [] := by
  simp [SpellEach]

theorem cons {doc : Doc} (hdoc : Spells doc.flat left) (hdocs : SpellEach docs right) :
    SpellEach (doc :: docs) (left ++ right) := by
  simp only [SpellEach, Spells] at *
  simp [hdoc, hdocs, or_and_right, exists_or]

theorem append (hfront : SpellEach front left) (hback : SpellEach back right) :
    SpellEach (front ++ back) (left ++ right) := by
  simp only [SpellEach] at *
  simp [hfront, hback, or_and_right, exists_or]

theorem singleton {doc : Doc} : SpellEach [doc] parts ↔ Spells doc.flat parts := by
  simp [SpellEach, Spells]

theorem attaches_nil (h : SpellEach [] parts) : Attaches [] parts :=
  Attaches.nil.congr (by simpa [SpellEach] using h)

theorem optional {doc : Option Doc} (h : SpellEach doc.toList parts) :
    Spells (concatFlat doc.toList) parts := by
  cases doc with
  | none => exact h.attaches_nil.spells
  | some doc => simpa [concatFlat] using singleton.1 h

theorem join (hdocs : SpellEach docs parts) {separator : Doc} (hfence : Fence separator.flat) :
    Spells (Doc.join separator docs).flat parts := by
  rw [Doc.flat]
  exact (hasMarker_joinFlat hfence docs).trans hdocs

theorem commas (hdocs : SpellEach docs parts) : Spells (Doc.commas docs).flat parts :=
  hdocs.join (by decide)

/-- Documents that are put on the page one by one, each behind a gap. -/
theorem flatMap (hdocs : SpellEach docs parts) {f : Doc → List Doc}
    (hf : ∀ doc parts, Spells doc.flat parts → Attaches (f doc) parts) :
    Attaches (docs.flatMap f) parts := by
  have heach : ∀ doc ∈ docs, Attaches (f doc) [String.ofList doc.flat] :=
    fun doc _ => hf doc _ (spells_self doc)
  exact (Attaches.flatMap heach).congr (by simpa using (show _ ↔ _ from hdocs))

/-- Documents on lines of their own, but for the first one. -/
theorem lines {first : Doc} {rest : List Doc} (hdocs : SpellEach (first :: rest) parts)
    {lead : String} (hlead : Fence lead.toList) {f : Doc → List Doc}
    (hf : ∀ doc parts, Spells doc.flat parts → Attaches (f doc) parts) :
    Attaches ([.text lead, first] ++ rest.flatMap f) parts := by
  have hfirst : Attaches [.text lead, first] [String.ofList first.flat] := by
    refine .text hlead ?_
    simpa [concatFlat] using spells_self first
  have hrest : ∀ doc ∈ rest, Attaches (f doc) [String.ofList doc.flat] :=
    fun doc _ => hf doc _ (spells_self doc)
  exact (hfirst.append (.flatMap hrest)).congr (by simpa using (show _ ↔ _ from hdocs))

end SpellEach

end SqlLayout.Layout
