import SqlLayout.Proofs.Source.Literals

/-!
# The regions of a text

From a place of statement text on, the scanner reads one character, a whole comment or a whole
literal, and is in statement text again.  What it reads in one go is a region.  The regions cover
the text, and the mask fills exactly what stands inside of them: all of a comment, and what stands
between the quotes of a literal.

## Implementation notes

A region is found in the text alone.  A literal that is left open is counted with the quote it
lacks, so the next region would start behind the end of the text.
-/

namespace SqlLayout.Source

/-- What the scanner reads in one go from a place of statement text on. -/
inductive Region where
  /-- One character of statement text. -/
  | single
  /-- A comment with its marks; the line feed behind a comment is none of it. -/
  | comment (size : Nat)
  /-- A literal, by the number of characters between its quotes. -/
  | literal (inside : Nat)
  deriving DecidableEq, Repr

/-- How many characters a region takes. -/
def Region.size : Region → Nat
  | .single => 1
  | .comment size => size
  | .literal inside => inside + 2

/-- What the mask shows for a character of a region, by its place in the region. -/
def Region.shows : Region → Nat → Char → Char
  | .single, _ => id
  | .comment _, _ => blankOut ' '
  | .literal inside, place => if 0 < place ∧ place ≤ inside then blankOut '_' else id

/-- How far a comment that ends with the line goes on. -/
def lineLength : List Char → Nat
  | [] => 0
  | c :: rest => if c == '\n' then 0 else lineLength rest + 1

/-- How far a block comment goes on behind the mark that opens it. -/
def blockLength : List Char → Nat
  | [] => 0
  | '*' :: '/' :: _ => 2
  | _ :: rest => blockLength rest + 1

/-- The region at the start of a text. -/
def firstRegion : List Char → Region
  | [] => .single
  | c :: rest =>
    match c, rest with
    | '-', '-' :: rest' => .comment (lineLength rest' + 2)
    | '/', '*' :: rest' => .comment (blockLength rest' + 2)
    | c, rest => if isQuote c then .literal (insideLength c rest) else .single

/-! ## The mask of a region -/

/-- A comment that ends with the line is blanked up to the line feed. -/
theorem maskFrom_line (text : List Char) :
    maskFrom .line text =
      (text.take (lineLength text)).map (blankOut ' ') ++ mask (text.drop (lineLength text)) := by
  fun_induction lineLength text with
  | case1 => rfl
  | case2 c rest hfeed =>
      obtain rfl := eq_of_beq hfeed
      exact (maskFrom_code_inert (by decide) rest).symm
  | case3 c rest hfeed ih =>
      have hblank : blankOut ' ' c = ' ' := if_neg hfeed
      rw [maskFrom, if_neg hfeed, ih, List.take_succ_cons, List.map_cons, hblank]
      rfl

/-- A block comment is blanked up to the mark that closes it, that mark included. -/
theorem maskFrom_block (text : List Char) :
    maskFrom .block text =
      (text.take (blockLength text)).map (blankOut ' ') ++ mask (text.drop (blockLength text)) := by
  fun_induction blockLength text with
  | case1 => rfl
  | case2 rest => rfl
  | case3 c rest hclose ih =>
      have hstep : maskFrom .block (c :: rest) = blankOut ' ' c :: maskFrom .block rest := by
        rw [maskFrom]
        exact hclose
      rw [hstep, ih]
      rfl

/-- What a region shows, character by character, and that the mask goes on behind it in statement
text. -/
def ShowsAs (region : Region) (text : List Char) : Prop :=
  (∀ place < region.size, (mask text)[place]? = text[place]?.map (region.shows place)) ∧
    (mask text).drop region.size = mask (text.drop region.size)

section

variable {text rest : List Char}

theorem showsAs_single {c : Char} (h : mask (c :: rest) = c :: mask rest) :
    ShowsAs .single (c :: rest) := by
  constructor
  · intro place hplace
    obtain rfl : place = 0 := Nat.lt_one_iff.1 hplace
    rw [h]
    rfl
  · rw [h]
    rfl

theorem showsAs_comment {size : Nat} (hsize : size ≤ text.length)
    (h : mask text = (text.take size).map (blankOut ' ') ++ mask (text.drop size)) :
    ShowsAs (.comment size) text := by
  have hlength : ((text.take size).map (blankOut ' ')).length = size := by simp [hsize]
  constructor
  · intro place (hplace : place < size)
    rw [h, List.getElem?_append_left (hlength.symm ▸ hplace), List.getElem?_map,
      List.getElem?_take_of_lt hplace]
    rfl
  · rw [h]
    exact List.drop_left' hlength

theorem showsAs_literal {quote : Char} (hquote : isQuote quote = true) :
    ShowsAs (.literal (insideLength quote rest)) (quote :: rest) := by
  have hle := insideLength_le quote rest
  have hmask : mask (quote :: rest) = quote :: maskFrom (.literal quote) rest :=
    maskFrom_code_quote hquote rest
  have hliteral := maskFrom_literal hquote rest
  generalize insideLength quote rest = inside at hle hliteral ⊢
  have hlength : ((rest.take inside).map (blankOut '_')).length = inside := by simp [hle]
  have hbehind : (maskFrom (.literal quote) rest).drop (inside + 1) =
      mask (rest.drop (inside + 1)) := by
    rw [hliteral, ← List.drop_drop, List.drop_left' hlength, ← List.drop_drop]
    cases rest.drop inside <;> rfl
  constructor
  · rintro (_ | place) (hplace : _ < inside + 2)
    · rw [hmask]
      rfl
    · rw [hmask, List.getElem?_cons_succ, List.getElem?_cons_succ, hliteral, Region.shows]
      obtain hinside | hclose := Nat.lt_or_ge place inside
      · rw [List.getElem?_append_left (hlength.symm ▸ hinside), List.getElem?_map,
          List.getElem?_take_of_lt hinside, if_pos ⟨Nat.succ_pos place, hinside⟩]
      · obtain rfl : place = inside := by omega
        rw [List.getElem?_append_right (by omega), hlength, Nat.sub_self, if_neg (by omega),
          Option.map_id, ← Nat.add_zero place, ← List.getElem?_drop, Nat.add_zero]
        cases rest.drop place <;> rfl
  · rw [hmask]
    exact hbehind

theorem lineLength_le (text : List Char) : lineLength text ≤ text.length := by
  fun_induction lineLength text <;> simp_all

theorem blockLength_le (text : List Char) : blockLength text ≤ text.length := by
  fun_induction blockLength text <;> simp_all

/-- A text shows its first region, and then the mask of what follows. -/
theorem showsAs_firstRegion (hne : text ≠ []) : ShowsAs (firstRegion text) text := by
  fun_cases firstRegion text with
  | case1 => exact absurd rfl hne
  | case2 rest =>
      refine showsAs_comment (by simpa using lineLength_le rest) ?_
      have hmask : mask ('-' :: '-' :: rest) = ' ' :: ' ' :: maskFrom .line rest := rfl
      rw [hmask, maskFrom_line]
      rfl
  | case3 rest =>
      refine showsAs_comment (by simpa using blockLength_le rest) ?_
      have hmask : mask ('/' :: '*' :: rest) = ' ' :: ' ' :: maskFrom .block rest := rfl
      rw [hmask, maskFrom_block]
      rfl
  | case4 c rest hdash hslash hquote => exact showsAs_literal hquote
  | case5 c rest hdash hslash hquote =>
      refine showsAs_single ?_
      rw [mask, maskFrom, if_neg hquote]
      · rfl
      · exact hdash
      · exact hslash

theorem size_pos (text : List Char) : 0 < (firstRegion text).size := by
  fun_cases firstRegion text <;> simp [Region.size]

/-! ## Where the regions start -/

/-- The offsets at which the scanner starts to read a region. -/
inductive Starts (text : List Char) : Nat → Prop
  | zero : Starts text 0
  | next {start : Nat} (h : Starts text start) (hlt : start < text.length) :
      Starts text (start + (firstRegion (text.drop start)).size)

/-- From the start of a region on the mask is the mask of what is left of the text. -/
theorem Starts.drop_mask {start : Nat} (h : Starts text start) :
    (mask text).drop start = mask (text.drop start) := by
  induction h with
  | zero => rfl
  | @next start h hlt ih =>
      have hne : text.drop start ≠ [] := by simpa using hlt
      rw [← List.drop_drop, ih, (showsAs_firstRegion hne).2, List.drop_drop]

/-- A character shows what its region does. -/
theorem Starts.shows {start : Nat} (h : Starts text start) {place : Nat}
    (hplace : place < (firstRegion (text.drop start)).size) :
    (mask text)[start + place]? =
      text[start + place]?.map ((firstRegion (text.drop start)).shows place) := by
  rw [← List.getElem?_drop, ← List.getElem?_drop, h.drop_mask]
  cases hrest : text.drop start with
  | nil => rfl
  | cons c rest =>
      rw [hrest] at hplace
      exact (showsAs_firstRegion (List.cons_ne_nil c rest)).1 place hplace

/-- Each offset of a text lies in a region. -/
theorem exists_starts {offset : Nat} (hlt : offset < text.length) :
    ∃ start place, Starts text start ∧ place < (firstRegion (text.drop start)).size ∧
      start + place = offset := by
  induction offset with
  | zero => exact ⟨0, 0, .zero, size_pos _, rfl⟩
  | succ offset ih =>
      obtain ⟨start, place, hstart, hplace, rfl⟩ := ih (by omega)
      obtain hsame | hnext := Nat.lt_or_ge (place + 1) (firstRegion (text.drop start)).size
      · exact ⟨start, place + 1, hstart, hsame, rfl⟩
      · refine ⟨start + (firstRegion (text.drop start)).size, 0, hstart.next (by omega),
          size_pos _, by omega⟩

/-! ## What stands inside -/

/-- What hides the text inside of it. -/
inductive Cover where
  | comment
  | literal
  deriving DecidableEq, Repr

/-- The fill that the mask shows. -/
def Cover.fill : Cover → Char
  | .comment => ' '
  | .literal => '_'

/-- An offset inside of a comment, its marks included, or between the quotes of a literal. -/
inductive Inside (text : List Char) : Cover → Nat → Prop
  | comment {start size offset : Nat} (hstart : Starts text start)
      (hregion : firstRegion (text.drop start) = .comment size) (hfrom : start ≤ offset)
        (hto : offset < start + size) :
      Inside text .comment offset
  | literal {start inside offset : Nat} (hstart : Starts text start)
      (hregion : firstRegion (text.drop start) = .literal inside) (hfrom : start < offset)
      (hto : offset ≤ start + inside) : Inside text .literal offset

/-- The mask fills what stands inside of a comment or a literal. -/
theorem Inside.shown {cover : Cover} {offset : Nat} (h : Inside text cover offset) :
    (mask text)[offset]? = text[offset]?.map (blankOut cover.fill) := by
  cases h with
  | @comment start size _ hstart hregion hfrom hto =>
      obtain ⟨place, rfl⟩ := Nat.exists_eq_add_of_le hfrom
      have hplace : place < (firstRegion (text.drop start)).size := by
        rw [hregion, Region.size]
        omega
      rw [hstart.shows hplace, hregion]
      rfl
  | @literal start inside _ hstart hregion hfrom hto =>
      obtain ⟨place, rfl⟩ := Nat.exists_eq_add_of_le (Nat.le_of_lt hfrom)
      have hplace : place < (firstRegion (text.drop start)).size := by
        rw [hregion, Region.size]
        omega
      rw [hstart.shows hplace, hregion, Region.shows, if_pos (by omega)]
      rfl

/-- The mask shows everything else as it is. -/
theorem shown_of_not_inside {offset : Nat} (h : ∀ cover, ¬ Inside text cover offset) :
    (mask text)[offset]? = text[offset]? := by
  obtain hlt | hge := Nat.lt_or_ge offset text.length
  · obtain ⟨start, place, hstart, hplace, rfl⟩ := exists_starts hlt
    rw [hstart.shows hplace]
    cases hregion : firstRegion (text.drop start) with
    | single => exact congrFun Option.map_id _
    | comment size =>
        rw [hregion, Region.size] at hplace
        exact absurd (.comment hstart hregion (Nat.le_add_right _ _) (by omega)) (h .comment)
    | literal inside =>
        rw [hregion, Region.size] at hplace
        by_cases hinside : 0 < place ∧ place ≤ inside
        · exact absurd (.literal hstart hregion (by omega) (by omega)) (h .literal)
        · rw [Region.shows, if_neg hinside, Option.map_id]
          rfl
  · rw [List.getElem?_eq_none hge, List.getElem?_eq_none (by rwa [length_mask])]

end

end SqlLayout.Source
