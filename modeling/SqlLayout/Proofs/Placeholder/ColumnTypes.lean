import SqlLayout.Proofs.Placeholder.IndexedCalls
import SqlLayout.Proofs.Placeholder.TypeWords

/-!
# Column types

A statement that creates a table lists its columns in parentheses.  The types of the list that the
grammar does not know are replaced, each with a record under the name of its column, and restoring
the records gives every column its type back.

## Implementation notes

The text of such a statement is built from its parts, each with the conditions on its characters.
The parts are those that are shown: comments between them are blanks.
-/

namespace SqlLayout.Placeholder

open Pattern (Captures Fails Goes Match Reads Spells Takes foundFrom matchAt placeAt slice splice)
open Source
open SqlLayout.Tree

/-! ## The text of a table -/

/-- Decimal digits with blanks around them. -/
structure PaddedDigits where
  lead : List Char
  digits : List Char
  trail : List Char
  lead_blank : ∀ x ∈ lead, Text.isBlank x = true
  digits_ne : digits ≠ []
  isDigit : ∀ x ∈ digits, Text.isDigit x = true
  trail_blank : ∀ x ∈ trail, Text.isBlank x = true

/-- The text of digits with their blanks. -/
def PaddedDigits.source (number : PaddedDigits) : List Char :=
  number.lead ++ (number.digits ++ number.trail)

/-- The parameters of a column type that is replaced: a length and perhaps a scale. -/
structure TypeSize where
  gap : List Char
  length : PaddedDigits
  scale : Option PaddedDigits
  gap_blank : ∀ x ∈ gap, Text.isBlank x = true

/-- The text of the parameters of a type that is replaced. -/
def TypeSize.source (size : TypeSize) : List Char :=
  size.gap ++ ('(' :: (size.length.source ++ (match size.scale with
    | none => [')']
    | some scale => ',' :: (scale.source ++ [')']))))

/-- The parameters of another column type, which name no type that is replaced. -/
structure TypeArguments where
  gap : List Char
  inner : List Char
  gap_blank : ∀ x ∈ gap, Text.isBlank x = true
  free : namesType none inner = false

/-- The text of the parameters of another type. -/
def TypeArguments.source (arguments : TypeArguments) : List Char :=
  arguments.gap ++ ('(' :: (arguments.inner ++ [')']))

/-- A column type of one word: one that is replaced, its letters in either case, or another one. -/
inductive TypeText where
  | replaced (word : List Char) (keyword standIn : String) (listed : (keyword, standIn) ∈ standIns)
      (spelled : word.map Text.asciiUpper = keyword.toList) (size : Option TypeSize)
  | other (word : List Char) (ne : word ≠ []) (letters : ∀ x ∈ word, Text.isWord x = true)
      (free : isOneOf typeKeywords word = false) (arguments : Option TypeArguments)

/-- The text of a column type. -/
def TypeText.source : TypeText → List Char
  | .replaced word _ _ _ _ size => word ++ size.elim [] TypeSize.source
  | .other word _ _ _ arguments => word ++ arguments.elim [] TypeArguments.source

/-- Whether a column type is replaced. -/
def TypeText.isReplaced : TypeText → Bool
  | .replaced .. => true
  | .other .. => false

/-- A column definition: an unquoted name that is not reserved, and a type. -/
structure ColumnText where
  lead : List Char
  name : List Char
  gap : List Char
  type : TypeText
  trail : List Char
  lead_blank : ∀ x ∈ lead, Text.isBlank x = true
  name_ne : name ≠ []
  name_part : ∀ x ∈ name, isNamePart x = true
  name_free : isOneOf reservedNames name = false
  gap_ne : gap ≠ []
  gap_blank : ∀ x ∈ gap, Text.isBlank x = true
  trail_blank : ∀ x ∈ trail, Text.isBlank x = true

namespace ColumnText

/-- The name of a column. -/
def nameText (column : ColumnText) : String :=
  String.ofList column.name

/-- The text of a column definition. -/
def source (column : ColumnText) : List Char :=
  column.lead ++ (column.name ++ (column.gap ++ column.type.source)) ++ column.trail

/-- The record of a column whose type is replaced. -/
def record? (column : ColumnText) : Option CustomType :=
  match column.type with
  | .replaced _ keyword standIn _ _ size =>
    some
      { column := column.nameText
        standIn := standIn
        keyword := keyword
        length := size.map fun size => String.ofList size.length.digits
        scale := (size.bind TypeSize.scale).map fun scale => String.ofList scale.digits }
  | .other .. => none

/-- The text of a column definition after its type was replaced. -/
def encoded (column : ColumnText) : List Char :=
  match column.record? with
  | some record => column.lead ++ record.standInText ++ column.trail
  | none => column.source

end ColumnText

/-- The head of a statement that creates a table, up to the list of its columns. -/
structure TableHead where
  lead : List Char
  create : List Char
  gap : List Char
  modifiers : List (List Char × List Char)
  table : List Char
  rest : List Char
  lead_blank : ∀ x ∈ lead, Text.isBlank x = true
  create_spelled : Spells "CREATE" create
  gap_ne : gap ≠ []
  gap_blank : ∀ x ∈ gap, Text.isBlank x = true
  modifier : ∀ part ∈ modifiers, part.1 ≠ [] ∧ (∀ x ∈ part.1, Text.isWord x = true) ∧
    part.2 ≠ [] ∧ ∀ x ∈ part.2, Text.isBlank x = true
  table_spelled : Spells "TABLE" table
  edge : ∀ x ∈ rest.head?, Text.isWord x = false

/-- The text of the head of a table. -/
def TableHead.source (head : TableHead) : List Char :=
  head.lead ++ (head.create ++
    (head.gap ++ (head.modifiers.flatMap (fun part => part.1 ++ part.2) ++
      (head.table ++ head.rest))))

/-- A statement that creates a table from column definitions.  Outside of its list it names no type
that is replaced. -/
structure TableText where
  head : TableHead
  columns : List ColumnText
  tail : List Char
  head_free : namesType none head.source = false
  tail_free : namesType none tail = false

/-- Texts in parentheses with commas between them, and what follows. -/
def listText (items : List (List Char)) (tail : List Char) : List Char :=
  '(' :: ([','].intercalate items ++ ')' :: tail)

namespace TableText

/-- The text of a table. -/
def source (table : TableText) : List Char :=
  table.head.source ++ listText (table.columns.map ColumnText.source) table.tail

/-- The text of a table after the types of its columns were replaced. -/
def encoded (table : TableText) : List Char :=
  table.head.source ++ listText (table.columns.map ColumnText.encoded) table.tail

/-- The records of the columns of a table. -/
def records (table : TableText) : List CustomType :=
  table.columns.filterMap ColumnText.record?

end TableText

/-! ## Finding a column type -/

/-- The parameters of a column type that is replaced. -/
def sizeParameters : List Pattern :=
  [.blanks, .char '(', .blanks, .capture 3 .digits, .blanks,
    .optional (.all [.char ',', .blanks, .capture 4 .digits, .blanks]), .char ')']

/-- Digits and the blanks around them. -/
def paddedDigits (group : Nat) : List Pattern :=
  [.blanks, .capture group .digits, .blanks]

section

variable {shown blanks rest : List Char} {i j k : Nat} {c d : Captures}

theorem head_of_blanks {p : Char → Bool} (hblanks : ∀ x ∈ blanks, Text.isBlank x = true)
    (hp : ∀ x, Text.isBlank x = true → p x = false) (hrest : ∀ y ∈ rest.head?, p y = false) :
    ∀ y ∈ (blanks ++ rest).head?, p y = false := by
  cases blanks with
  | nil => exact hrest
  | cons x blanks =>
      rintro _ ⟨⟩
      exact hp x (hblanks x List.mem_cons_self)

theorem head_of_part {p q : Char → Bool} {part : List Char} (hne : part ≠ [])
    (hpart : ∀ x ∈ part, p x = true) (hp : ∀ x, p x = true → q x = false) :
    ∀ y ∈ (part ++ rest).head?, q y = false := by
  obtain ⟨x, part, rfl⟩ := List.exists_cons_of_ne_nil hne
  rintro _ ⟨⟩
  exact hp x (hpart x List.mem_cons_self)

theorem head_of_drop {x : Char} {q : Char → Prop} (hdrop : shown.drop i = x :: rest) (hx : q x) :
    ∀ y ∈ (shown.drop i).head?, q y := by
  rw [hdrop]
  rintro _ ⟨⟩
  exact hx

theorem goes_char {x : Char} (h : Takes shown [x] i j) : Goes shown (.char x) i c j c :=
  .one h (beq_self_eq_true x)

theorem goes_paddedDigits {number : PaddedDigits} (group : Nat) (h : Takes shown number.source i j)
    (hrest : ∀ y ∈ (shown.drop j).head?, Text.isBlank y = false ∧ Text.isDigit y = false) :
    ∃ s t, slice shown s t = number.digits ∧
      Goes shown (.all (paddedDigits group)) i c j ((group, s, t) :: c) := by
  obtain ⟨s, hlead, hmore⟩ := Pattern.takes_append.1 h
  obtain ⟨t, hdigits, htrail⟩ := Pattern.takes_append.1 hmore
  have hbefore : ∀ y ∈ (shown.drop s).head?, Text.isBlank y = false := by
    rw [hdigits.starts]
    exact head_of_part number.digits_ne number.isDigit fun _ => not_isBlank_of_isDigit
  have hbehind : ∀ y ∈ (shown.drop t).head?, Text.isDigit y = false := by
    rw [htrail.starts]
    refine head_of_blanks number.trail_blank (fun x hblank => ?_) fun y hy => (hrest y hy).2
    exact Bool.eq_false_iff.2 fun hdigit => by
      cases hblank.symm.trans (not_isBlank_of_isDigit hdigit)
  exact ⟨s, t, hdigits.slice_eq, .cons (.many_one hlead number.lead_blank hbefore)
    (.cons (.capture (.many1_one hdigits number.digits_ne number.isDigit hbehind))
      (.cons (.many_one htrail number.trail_blank fun y hy => (hrest y hy).1) .nil))⟩

/-- What stands between two offsets that were captured. -/
def capturedText (shown : List Char) (captures : Captures) (group : Nat) : List Char :=
  match captures.lookup group with
  | some (start, stop) => slice shown start stop
  | none => []

theorem lookup_cons_of_ne {group other s t : Nat} (h : group ≠ other) (c : Captures) :
    List.lookup group ((other, s, t) :: c) = c.lookup group := by
  rw [List.lookup_cons, beq_eq_false_iff_ne.2 h]

/-- The parameters of a type are passed, and their digits are captured. -/
theorem goes_size {size : TypeSize} (h : Takes shown size.source i j) (hc : c.lookup 4 = none) :
    ∃ d, Goes shown (.all sizeParameters) i c j d ∧ (∀ group < 3, d.lookup group = c.lookup group) ∧
      capturedText shown d 3 = size.length.digits ∧
      capturedText shown d 4 = size.scale.elim [] PaddedDigits.digits := by
  obtain ⟨a, hgap, h⟩ := Pattern.takes_append.1 h
  obtain ⟨hopen, h⟩ := h.uncons
  obtain ⟨e, hlength, h⟩ := Pattern.takes_append.1 h
  have hfirst : Goes shown (.all [.blanks, .char '(']) i c (a + 1) c :=
    .cons (.many_one hgap size.gap_blank (head_of_drop hopen.starts (by decide)))
      (.cons (goes_char hopen) .nil)
  cases hscale : size.scale with
  | none =>
      rw [hscale] at h
      obtain ⟨s, t, hdigits, hgoes⟩ :=
        goes_paddedDigits (c := c) 3 hlength (head_of_drop h.starts (by decide))
      have hnone := Pattern.fails_one (a := .all (paddedDigits 4)) (p := (· == ','))
        (c := (3, s, t) :: c)
        (head_of_drop h.starts (by decide))
      refine ⟨(3, s, t) :: c, hfirst.append
        (hgoes.append (.cons (.none hnone) (.cons (goes_char h) .nil))),
        fun group hgroup => lookup_cons_of_ne (by omega) c, hdigits, ?_⟩
      rw [capturedText, lookup_cons_of_ne (by decide), hc]
      rfl
  | some scale =>
      rw [hscale] at h
      obtain ⟨hcomma, h⟩ := h.uncons
      obtain ⟨g, hnumber, h⟩ := Pattern.takes_append.1 h
      obtain ⟨s, t, hdigits, hgoes⟩ :=
        goes_paddedDigits (c := c) 3 hlength (head_of_drop hcomma.starts (by decide))
      obtain ⟨s', t', hdigits', hgoes'⟩ := goes_paddedDigits (c := (3, s, t) :: c) 4 hnumber
        (head_of_drop h.starts (by decide))
      refine ⟨(4, s', t') :: (3, s, t) :: c, hfirst.append (hgoes.append
        (.cons (.some (.cons (goes_char hcomma) hgoes')) (.cons (goes_char h) .nil))),
        fun group hgroup => ?_, ?_, hdigits'⟩
      · rw [lookup_cons_of_ne (by omega), lookup_cons_of_ne (by omega)]
      · rw [capturedText, lookup_cons_of_ne (by decide)]
        exact hdigits

/-- Where a column definition goes on behind its type or its parameters, no parameters stand. -/
theorem fails_size {x : Char} (hdrop : shown.drop i = blanks ++ x :: rest)
    (hblanks : ∀ y ∈ blanks, Text.isBlank y = true) (hx : Text.isBlank x = false)
    (hopen : x ≠ '(') :
    Fails shown (.all sizeParameters) i c := by
  refine Pattern.fails_of_not_reads fun j d hread => ?_
  obtain ⟨a, _, hmany, hrest⟩ := Pattern.reads_all_cons.1 hread
  obtain ⟨rfl, gap, hgap, hblank⟩ := Pattern.reads_many_one.1 hmany
  obtain ⟨b, _, hchar, -⟩ := Pattern.reads_all_cons.1 hrest
  obtain ⟨rfl, y, hy, hparen⟩ := Pattern.reads_one.1 hchar
  obtain rfl : y = '(' := eq_of_beq hparen
  have hsplit : gap ++ '(' :: shown.drop b = blanks ++ x :: rest := by
    rw [← hdrop, hgap.starts, hy.starts, List.singleton_append]
  have hleft := (@span_append gap ('(' :: shown.drop b) Text.isBlank hblank
    (by rintro _ ⟨⟩; decide)).2
  rw [hsplit, (span_append hblanks (by rintro _ ⟨⟩; exact hx)).2] at hleft
  exact hopen (List.cons.inj hleft).1

/-! ## Keywords -/

theorem lookup_standIns : ∀ entry ∈ standIns, standIns.lookup entry.1 = some entry.2 := by
  decide

theorem ascii_keywords : (typeKeywords.all fun keyword =>
    keyword.toList.all fun letter => decide (letter.toNat < 128)) = true := by
  decide

/-- No two keywords start alike. -/
theorem apart_keywords : (typeKeywords.all fun a => typeKeywords.all fun b => a == b ||
    (a.toList.head?.all fun x => b.toList.head?.all fun y =>
      !Text.sameLetter y x && !Text.sameLetter y (Text.asciiLower x))) = true := by
  decide

theorem spells_of_upper {word : List Char} {keyword : String}
    (h : word.map Text.asciiUpper = keyword.toList) :
    Spells keyword word := by
  rw [Spells, ← h, List.forall₂_map_left_iff]
  exact List.forall₂_same.2 fun c _ => Text.sameLetter_of_asciiUpper rfl

theorem upper_of_keyword {word : List Char} {keyword : String} (hmem : keyword ∈ typeKeywords)
    (h : word.map Text.asciiUpper = keyword.toList) :
    String.ofList (Text.upper word) = keyword := by
  rw [Text.upper_eq_map, h, String.ofList_toList]
  intro c hc
  have hcode : (Text.asciiUpper c).toNat < 128 :=
    of_decide_eq_true (List.all_eq_true.1 (List.all_eq_true.1 ascii_keywords keyword hmem) _
      (h ▸ List.mem_map_of_mem hc))
  obtain heq | heq := Text.eq_of_asciiUpper (c := c) rfl
  · rwa [← heq] at hcode
  · rw [heq, Text.toNat_asciiLower]
    split <;> omega

theorem not_spells_other {word rest : List Char} {keyword other : String}
    (hmem : keyword ∈ typeKeywords) (hother : other ∈ typeKeywords) (hne : keyword ≠ other)
    (hword : word.map Text.asciiUpper = keyword.toList)
    {part more : List Char} (hspells : Spells other part) : word ++ rest ≠ part ++ more := by
  have hapart := List.all_eq_true.1 (List.all_eq_true.1 apart_keywords keyword hmem) other hother
  obtain ⟨hpart, -⟩ := isWord_of_spells (List.mem_append_right _ hother) hspells
  obtain ⟨hwordne, -⟩ := isWord_of_spells (List.mem_append_right _ hmem) (spells_of_upper hword)
  obtain ⟨x, word, rfl⟩ := List.exists_cons_of_ne_nil hwordne
  obtain ⟨y, part, rfl⟩ := List.exists_cons_of_ne_nil hpart
  obtain ⟨letter, letters, hsame, -, hletters⟩ := List.forall₂_cons_right_iff.1 hspells
  intro heq
  obtain rfl : x = y := (List.cons.inj heq).1
  have hfirst : ¬ (Text.sameLetter letter (Text.asciiUpper x) = true ∨
      Text.sameLetter letter (Text.asciiLower (Text.asciiUpper x)) = true) := by
    simpa [hne, ← hword, hletters] using hapart
  obtain hx | hx := Text.eq_of_asciiUpper (c := x) rfl
  · exact hfirst (.inl (hx ▸ hsame))
  · exact hfirst (.inr (hx ▸ hsame))

/-- A keyword is taken for no other one. -/
theorem goes_keyword {word : List Char} {keyword : String} (hmem : keyword ∈ typeKeywords)
    (hword : word.map Text.asciiUpper = keyword.toList) (h : Takes shown word i j) :
    Goes shown (.any (typeKeywords.map .word)) i c j c := by
  obtain ⟨front, back, hsplit, hfront⟩ := List.eq_append_cons_of_mem hmem
  rw [hsplit, List.map_append, List.map_cons]
  refine .any (fun p hp => ?_) (.word h (spells_of_upper hword))
  obtain ⟨other, hother, rfl⟩ := List.mem_map.1 hp
  refine Pattern.fails_of_not_reads fun k d hread => ?_
  obtain ⟨-, part, hpart, hspells⟩ := Pattern.reads_word.1 hread
  have hothermem : other ∈ typeKeywords := hsplit ▸ List.mem_append_left _ hother
  have hne : keyword ≠ other := fun heq => hfront (heq ▸ hother)
  exact not_spells_other hmem hothermem hne hword hspells (h.starts.symm.trans hpart.starts)

/-! ## Columns -/

theorem fails_reserved {name : List Char} (h : Takes shown name i j)
    (hletters : ∀ x ∈ name, Text.isWord x = true) (hfree : isOneOf reservedNames name = false)
    (hrest : ∀ y ∈ (shown.drop j).head?, Text.isWord y = false) :
    Fails shown reservedName i c := by
  refine Pattern.fails_of_not_reads fun k d hread => ?_
  cases hread with
  | seq hword hedge =>
      obtain ⟨rfl, part, hpart, letters, hmem, hspells⟩ :=
        (reads_oneOf reservedNames (by decide)).1 hword
      obtain ⟨rfl, rfl, hplace⟩ := Pattern.reads_wordEdge.1 hedge
      obtain ⟨hne, hpartletters⟩ := isWord_of_spells (List.mem_append_left _ hmem) hspells
      have hsame := (span_append hletters hrest).1
      rw [← h.starts, hpart.starts,
        (span_append hpartletters ((hpart.isWordEdge_end hne hpartletters).1 hplace)).1] at hsame
      rw [← hsame, isOneOf_iff.2 ⟨letters, hmem, hspells⟩] at hfree
      cases hfree

/-- The definition of a column whose type is replaced is matched from its name to the end of its
type. -/
theorem matchAt_replaced {column : ColumnText} {word : List Char} {keyword standIn : String}
    {listed : (keyword, standIn) ∈ standIns} {spelled : word.map Text.asciiUpper = keyword.toList}
    {size : Option TypeSize}
    (htype : column.type = .replaced word keyword standIn listed spelled size)
    (hplain : ∀ x ∈ column.name, Text.isWord x = true)
    (h : Takes shown (column.name ++ (column.gap ++ column.type.source)) i j)
    (hbefore : ∀ y ∈ (shown.take i).getLast?, Text.isWord y = false) {x : Char}
    (hdrop : shown.drop j = blanks ++ x :: rest) (hblanks : ∀ y ∈ blanks, Text.isBlank y = true)
    (hx : x = ',' ∨ x = ')') :
    ∃ d, matchAt customTypeColumn shown.length (placeAt shown i) =
      some { start := i, stop := j, captures := d } ∧
      capturedText shown d 1 = column.name ∧ capturedText shown d 2 = word ∧
      capturedText shown d 3 = size.elim [] (fun size => size.length.digits) ∧
      capturedText shown d 4 = (size.bind TypeSize.scale).elim [] PaddedDigits.digits := by
  have hkeyword : keyword ∈ typeKeywords := List.mem_map_of_mem listed
  obtain ⟨hwordne, hletters⟩ :=
    isWord_of_spells (List.mem_append_right _ hkeyword) (spells_of_upper spelled)
  rw [htype] at h
  obtain ⟨a, hname, h⟩ := Pattern.takes_append.1 h
  obtain ⟨b, hgap, h⟩ := Pattern.takes_append.1 h
  obtain ⟨e, hword, hsize⟩ := Pattern.takes_append.1 h
  have hbehind : ∀ y ∈ (shown.drop a).head?, Text.isWord y = false := by
    rw [hgap.starts]
    exact head_of_part column.gap_ne column.gap_blank fun _ => not_isWord_of_isBlank
  have hbefore' : ∀ y ∈ (shown.drop b).head?, Text.isBlank y = false := by
    rw [hword.starts]
    exact head_of_part hwordne hletters fun _ => not_isBlank_of_isWord
  have hends : ∀ {q : Char → Bool}, (∀ y, Text.isBlank y = true → q y = false) → q x = false →
      ∀ y ∈ (shown.drop j).head?, q y = false := by
    intro q hq hqx
    rw [hdrop]
    exact head_of_blanks hblanks hq (by rintro _ ⟨⟩; exact hqx)
  have hmatch {d : Captures} (hedge : ∀ y ∈ (shown.drop e).head?, Text.isWord y = false)
      (hback : Goes shown (.optional (.all sizeParameters)) e [(2, b, e), (1, i, a)] j d) :
      matchAt customTypeColumn shown.length (placeAt shown i) =
        some { start := i, stop := j, captures := d } :=
    Pattern.matchAt_of_goes
      (.cons (.wordEdge ((hname.isWordEdge_start column.name_ne hplain).2 hbefore))
        (.cons (.notAhead (fails_reserved hname hplain column.name_free hbehind))
          (.cons (.capture (.many1_one hname column.name_ne hplain hbehind))
            (.cons (.many1_one hgap column.gap_ne column.gap_blank hbefore')
              (.cons (.capture (goes_keyword hkeyword spelled hword))
                (.cons (.wordEdge ((hword.isWordEdge_end hwordne hletters).2 hedge))
                  (.cons hback .nil)))))))
  cases size with
  | none =>
      obtain rfl := Pattern.takes_nil.1 hsize
      refine ⟨_, hmatch (hends (fun _ => not_isWord_of_isBlank) ?_)
        (.none (fails_size hdrop hblanks ?_ ?_)), hname.slice_eq, hword.slice_eq, rfl, rfl⟩
      all_goals obtain rfl | rfl := hx <;> decide
  | some size =>
      obtain ⟨d, hgoes, hsame, hlength, hscale⟩ := goes_size (c := [(2, b, e), (1, i, a)]) hsize rfl
      have hcaptured (group : Nat) (hgroup : group < 3) :
          capturedText shown d group = capturedText shown [(2, b, e), (1, i, a)] group := by
        rw [capturedText, capturedText, hsame group hgroup]
      refine ⟨d, hmatch ?_ (.some hgoes), (hcaptured 1 (by decide)).trans hname.slice_eq,
        (hcaptured 2 (by decide)).trans hword.slice_eq, hlength, hscale⟩
      rw [hsize.starts, Option.elim_some, TypeSize.source, List.append_assoc]
      exact head_of_blanks size.gap_blank (fun _ => not_isWord_of_isBlank) (by rintro _ ⟨⟩; decide)

theorem foundFrom_skip {part : List Char} (h : Takes shown part i j) (hj : j ≤ shown.length)
    (hpart : ∀ x ∈ part, Text.isWord x = false) :
    foundFrom customTypeColumn shown i = foundFrom customTypeColumn shown j := by
  induction part generalizing i with
  | nil => rw [Pattern.takes_nil.1 h]
  | cons x part ih =>
      obtain ⟨hx, hrest⟩ := List.forall_mem_cons.1 hpart
      obtain ⟨hfirst, hmore⟩ := h.uncons
      have hle := hmore.ends
      have hnone : matchAt customTypeColumn shown.length (placeAt shown i) = none := by
        refine Option.eq_none_iff_forall_ne_some.2 fun m hm => ?_
        obtain ⟨-, htyped⟩ := startsTyped_of_matchAt (by omega) hm
        rw [startsTyped_of_head (head_of_drop hfirst.starts hx)] at htyped
        cases htyped
      rw [Pattern.foundFrom_succ (by omega) hnone, ih hmore hrest]

/-- Text that is kept stands before what follows from its end on. -/
theorem splice_takes {part : List Char} (h : Takes shown part i j)
    {edits : List (Match × List Char)} (hedits : ∀ edit ∈ edits, j ≤ edit.1.start) :
    splice shown i edits = part ++ splice shown j edits := by
  have hle := h.ends
  rw [splice_from (by omega) hedits, h.slice_eq]

theorem foundFrom_length : foundFrom customTypeColumn shown shown.length = [] := by
  rw [Pattern.foundFrom_end _ rfl]
  cases hm : matchAt customTypeColumn shown.length (placeAt shown shown.length) with
  | none => rfl
  | some m =>
      obtain ⟨-, htyped⟩ := startsTyped_of_matchAt (Nat.le_refl _) hm
      rw [List.drop_length] at htyped
      cases htyped

end

section

variable {text rest : List Char} {i j : Nat} {column : ColumnText}

theorem foundFrom_start {m : Match} (hi : i ≤ text.length)
    (h : m ∈ foundFrom customTypeColumn (mask text) i) :
    m.Of customTypeColumn (mask text) ∧ i ≤ m.start :=
  (Pattern.inOrder_foundFrom (length_mask text ▸ hi)).each m h

theorem readCustomType_shown {m : Match} (h : m.Of customTypeColumn (mask text)) :
    readCustomType text m = readCustomType (mask text) m := by
  have hgroup (group : Nat) : m.group text group = m.group (mask text) group :=
    group_shown h standsOutside_customTypeColumn group (solidGroup_customTypeColumn group)
  rw [readCustomType, readCustomType, groupText?, groupText?, groupText?, groupText?, hgroup 1,
    hgroup 2, hgroup 3, hgroup 4]

/-- What the search for column types makes of a column definition: at most one match, with the
record of the column. -/
structure ColumnFound (text : List Char) (column : ColumnText) (i j : Nat) (found : List Match) :
    Prop where
  from_eq : foundFrom customTypeColumn (mask text) i =
    found ++ foundFrom customTypeColumn (mask text) j
  read : found.mapM (readCustomType text) = .ok column.record?.toList
  length_eq : found.length = column.record?.toList.length
  spliced : ∀ edits : List (Match × List Char), (∀ edit ∈ edits, j ≤ edit.1.start) →
    splice (mask text) i (found.zip (column.record?.toList.map CustomType.standInText) ++ edits) =
      column.encoded ++ splice (mask text) j edits

/-- A column definition with another type names no type that is replaced. -/
theorem untyped_other {word : List Char} {ne : word ≠ []}
    {letters : ∀ x ∈ word, Text.isWord x = true} {free : isOneOf typeKeywords word = false}
    {arguments : Option TypeArguments}
    (htype : column.type = .other word ne letters free arguments) : Untyped column.source := by
  have hword {blanks : List Char} (hblanks : ∀ x ∈ blanks, Text.isBlank x = true) :
      Untyped (column.lead ++ (column.name ++ (column.gap ++ (word ++ (blanks ++ []))))) := by
    have hbehind : Untyped (word ++ (blanks ++ [])) :=
      untyped_nil.name_append (fun x hx => isNamePart_of_isWord (letters x hx)) hblanks
        (by simp [StartsApart])
        (by simp) (by decide)
    have hspan := (@span_append word (blanks ++ []) Text.isWord letters
      (head_of_blanks hblanks (fun _ => not_isWord_of_isBlank) (by simp))).1
    refine Untyped.blanks_append column.lead_blank
      (hbehind.name_append column.name_part column.gap_blank ?_ ?_ ?_)
    · exact fun hgap => absurd hgap column.gap_ne
    · exact head_of_part ne letters fun _ => not_isBlank_of_isWord
    · rw [hspan, free]
  intro before
  cases arguments with
  | none =>
      have hsource : column.source =
          column.lead ++ (column.name ++ (column.gap ++ (word ++ (column.trail ++ [])))) := by
        simp [ColumnText.source, htype, TypeText.source]
      rw [hsource, hword column.trail_blank]
  | some arguments =>
      have hsource : column.source =
          (column.lead ++ (column.name ++ (column.gap ++ (word ++ (arguments.gap ++ []))))) ++
            '(' :: (arguments.inner ++ ')' :: column.trail) := by
        simp [ColumnText.source, htype, TypeText.source, TypeArguments.source]
      rw [hsource, namesType_append _ (by decide), namesType_append _ (by decide),
        hword arguments.gap_blank, arguments.free, untyped_blanks column.trail_blank]
      rfl

theorem columnFound_other {word : List Char} {ne : word ≠ []}
    {letters : ∀ x ∈ word, Text.isWord x = true} {free : isOneOf typeKeywords word = false}
    {arguments : Option TypeArguments}
    (htype : column.type = .other word ne letters free arguments)
    (h : Takes (mask text) column.source i j) (hj : j ≤ text.length)
    (hrest : StartsApart ((mask text).drop j)) : ColumnFound text column i j [] := by
  have hrecord : column.record? = none := by rw [ColumnText.record?, htype]
  have hencoded : column.encoded = column.source := by rw [ColumnText.encoded, hrecord]
  refine ⟨foundFrom_pass h (length_mask text ▸ hj) (untyped_other htype _)
    hrest, by rw [hrecord]; rfl, by rw [hrecord]; rfl, fun edits hedits => ?_⟩
  rw [hencoded]
  exact splice_takes h hedits

theorem readCustomType_replaced {word : List Char} {keyword standIn : String}
    {listed : (keyword, standIn) ∈ standIns} {spelled : word.map Text.asciiUpper = keyword.toList}
    {size : Option TypeSize}
    (htype : column.type = .replaced word keyword standIn listed spelled size) {shown : List Char}
    {m : Match} (hname : m.group shown 1 = column.name) (hword : m.group shown 2 = word)
    (hlength : m.group shown 3 = size.elim [] (fun size => size.length.digits))
    (hscale : m.group shown 4 = (size.bind TypeSize.scale).elim [] PaddedDigits.digits) :
    ∃ record, column.record? = some record ∧ readCustomType shown m = .ok record := by
  have hdigits (number : PaddedDigits) : number.digits.isEmpty = false :=
    List.isEmpty_eq_false_iff.2 number.digits_ne
  rw [ColumnText.record?, htype]
  refine ⟨_, rfl, ?_⟩
  rw [readCustomType, hname, hword, upper_of_keyword (List.mem_map_of_mem listed) spelled,
    lookup_standIns _ listed, groupText?, groupText?, hlength, hscale]
  cases size with
  | none => rfl
  | some size =>
      cases hscaled : size.scale <;> simp [hscaled, hdigits, ColumnText.nameText]

theorem columnFound_replaced {word : List Char} {keyword standIn : String}
    {listed : (keyword, standIn) ∈ standIns} {spelled : word.map Text.asciiUpper = keyword.toList}
    {size : Option TypeSize}
    (htype : column.type = .replaced word keyword standIn listed spelled size)
    (hplain : ∀ x ∈ column.name, Text.isWord x = true) (h : Takes (mask text) column.source i j)
    (hj : j ≤ text.length) (hbefore : ∀ y ∈ ((mask text).take i).getLast?, Text.isWord y = false)
    {x : Char} (hdrop : (mask text).drop j = x :: rest) (hx : x = ',' ∨ x = ')') :
    ∃ m, ColumnFound text column i j [m] := by
  obtain ⟨b, hfront, htrail⟩ := Pattern.takes_append.1 h
  obtain ⟨a, hlead, hcore⟩ := Pattern.takes_append.1 hfront
  have hlength := length_mask text
  have hab : a < b := by
    have hends := hcore.ends
    have hpos := List.length_pos_of_ne_nil column.name_ne
    rw [List.length_append] at hends
    omega
  have hbj := htrail.ends
  have hstart : ∀ y ∈ ((mask text).take a).getLast?, Text.isWord y = false := by
    rw [hlead.take_eq, List.getLast?_append]
    intro y hy
    cases hlast : column.lead.getLast? with
    | none =>
        rw [hlast, Option.none_or] at hy
        exact hbefore y hy
    | some z =>
        rw [hlast, Option.some_or] at hy
        obtain rfl := Option.some.inj hy
        exact not_isWord_of_isBlank (column.lead_blank z (List.mem_of_getLast? hlast))
  obtain ⟨d, hmatch, hname, hword, hlengths, hscale⟩ := matchAt_replaced htype hplain hcore hstart
    (htrail.starts.trans (by rw [hdrop])) column.trail_blank hx
  have hof : Match.Of { start := a, stop := b, captures := d } customTypeColumn (mask text) :=
    ⟨(Pattern.of_matchAt hmatch).2, show a ≤ _ by omega⟩
  obtain ⟨record, hrecord, hread⟩ := readCustomType_replaced htype hname hword hlengths hscale
    (m := { start := a, stop := b, captures := d })
  have hencoded : column.encoded = column.lead ++ record.standInText ++ column.trail := by
    rw [ColumnText.encoded, hrecord]
  refine ⟨{ start := a, stop := b, captures := d }, ?_, ?_, by rw [hrecord]; rfl,
    fun edits hedits => ?_⟩
  · rw [foundFrom_skip hlead (by omega) fun x hx => not_isWord_of_isBlank (column.lead_blank x hx),
      Pattern.foundFrom_match hab (show b ≤ _ by omega) hmatch,
      foundFrom_skip htrail (by omega) fun x hx => not_isWord_of_isBlank (column.trail_blank x hx)]
    rfl
  · simp [hrecord, readCustomType_shown hof, hread]
  · rw [hrecord, hencoded]
    change slice (mask text) i a ++ record.standInText ++ splice (mask text) b edits = _
    rw [hlead.slice_eq, splice_takes htrail hedits, List.append_assoc _ column.trail]

theorem exists_columnFound
    (hplain : column.type.isReplaced = true → ∀ x ∈ column.name, Text.isWord x = true)
    (h : Takes (mask text) column.source i j) (hj : j ≤ text.length)
    (hbefore : ∀ y ∈ ((mask text).take i).getLast?, Text.isWord y = false) {x : Char}
    (hdrop : (mask text).drop j = x :: rest) (hx : x = ',' ∨ x = ')') :
    ∃ found, ColumnFound text column i j found := by
  cases htype : column.type with
  | replaced =>
      obtain ⟨m, hm⟩ := columnFound_replaced htype (hplain (by rw [htype]; rfl)) h hj
        hbefore hdrop hx
      exact ⟨[m], hm⟩
  | other =>
      refine ⟨[], columnFound_other htype h hj ?_⟩
      refine head_of_drop hdrop ?_
      obtain rfl | rfl := hx <;> decide

/-! ## Lists of columns -/

/-- The matches of a column and those behind it are those of both. -/
theorem ColumnFound.cons {found : List Match} (h : ColumnFound text column i j found)
    (hj : j ≤ text.length) {columns : List ColumnText} {behind : List Char} :
    let later := foundFrom customTypeColumn (mask text) j
    let texts := fun columns : List ColumnText => (columns.filterMap ColumnText.record?).map
      CustomType.standInText
    later.mapM (readCustomType text) = .ok (columns.filterMap ColumnText.record?) →
    splice (mask text) j (later.zip (texts columns)) = behind →
    (found ++ later).mapM (readCustomType text) =
      .ok ((column :: columns).filterMap ColumnText.record?) ∧
      splice (mask text) i ((found ++ later).zip (texts (column :: columns))) =
        column.encoded ++ behind := by
  intro later texts hread hsplice
  have hrecords : (column :: columns).filterMap ColumnText.record? =
      column.record?.toList ++ columns.filterMap ColumnText.record? := by
    cases hrecord : column.record? <;> simp [hrecord]
  refine ⟨?_, ?_⟩
  · rw [hrecords, List.mapM_append, h.read, hread]
    rfl
  · have hstart : ∀ edit ∈ later.zip (texts columns), j ≤ edit.1.start := fun edit hedit =>
      (foundFrom_start hj (List.of_mem_zip hedit).1).2
    rw [← hsplice, ← h.spliced _ hstart]
    simp only [texts, hrecords, List.map_append]
    rw [List.zip_append (by rw [h.length_eq, List.length_map])]

theorem foundFrom_close {tail : List Char} (hdrop : (mask text).drop i = ')' :: tail)
    (htail : namesType none tail = false) : foundFrom customTypeColumn (mask text) i = [] := by
  have hlt := (List.getElem?_eq_some_iff.1 (Pattern.drop_eq_cons hdrop).1).1
  have htakes : Takes (mask text) (')' :: tail) i (mask text).length := by
    refine ⟨by rw [List.drop_length, hdrop, List.append_nil], ?_⟩
    have hlength := congrArg List.length hdrop
    rw [List.length_drop] at hlength
    omega
  rw [foundFrom_pass htakes (Nat.le_refl _) ?_ (by simp [StartsApart]), foundFrom_length]
  exact (namesType_append [] (by decide) _).trans htail

/-- The search goes through a list of columns one by one. -/
theorem columns_found {columns : List ColumnText} {tail : List Char}
    (hplain : ∀ column ∈ columns, column.type.isReplaced = true → ∀ x ∈ column.name,
      Text.isWord x = true)
    (htail : namesType none tail = false) (hi : i ≤ text.length)
    (hbefore : ∀ y ∈ ((mask text).take i).getLast?, Text.isWord y = false)
    (hdrop : (mask text).drop i = [','].intercalate (columns.map ColumnText.source) ++
      ')' :: tail) :
    let found := foundFrom customTypeColumn (mask text) i
    let records := columns.filterMap ColumnText.record?
    found.mapM (readCustomType text) = .ok records ∧
      splice (mask text) i (found.zip (records.map CustomType.standInText)) =
        [','].intercalate (columns.map ColumnText.encoded) ++ ')' :: tail := by
  induction columns generalizing i with
  | nil =>
      rw [foundFrom_close hdrop htail]
      exact ⟨rfl, hdrop⟩
  | cons column rest ih =>
      obtain ⟨hcolumn, hrest⟩ := List.forall_mem_cons.1 hplain
      have hinside {j : Nat} {x : Char} {more : List Char}
        (hdrop : (mask text).drop j = x :: more) :
          j < text.length :=
        length_mask text ▸ (List.getElem?_eq_some_iff.1 (Pattern.drop_eq_cons hdrop).1).1
      cases rest with
      | nil =>
          rw [List.map_singleton, List.intercalate_singleton] at hdrop
          obtain ⟨htakes, hbehind⟩ := Pattern.takes_of_drop hdrop
          have hj := Nat.le_of_lt (hinside hbehind)
          obtain ⟨found, hfound⟩ := exists_columnFound hcolumn htakes hj hbefore hbehind (.inr rfl)
          have hclose := foundFrom_close hbehind htail
          rw [hfound.from_eq, List.map_singleton, List.intercalate_singleton]
          refine hfound.cons hj ?_ ?_
          · rw [hclose]
            rfl
          · rw [hclose]
            exact hbehind
      | cons next rest =>
          rw [List.map_cons, List.map_cons, List.intercalate_cons_cons, ← List.map_cons,
            List.append_assoc, List.append_assoc] at hdrop
          obtain ⟨htakes, hbehind⟩ := Pattern.takes_of_drop hdrop
          obtain ⟨hcomma, hlist⟩ := Pattern.takes_of_drop hbehind
          have hj := hinside hbehind
          obtain ⟨found, hfound⟩ :=
            exists_columnFound hcolumn htakes (Nat.le_of_lt hj) hbefore hbehind (.inl rfl)
          have hskip := foundFrom_skip hcomma (length_mask text ▸ hj) (by simp; decide)
          have hafter : ∀ y ∈ ((mask text).take (i + column.source.length + 1)).getLast?,
              Text.isWord y = false := by
            rw [show i + column.source.length + 1 =
              i + column.source.length + [','].length from rfl, hcomma.take_eq,
              List.getLast?_concat]
            rintro _ ⟨⟩
            decide
          obtain ⟨hread, hsplice⟩ := ih hrest hj hafter hlist
          rw [hfound.from_eq, List.map_cons, List.map_cons, List.intercalate_cons_cons,
            List.append_assoc, List.append_assoc, ← List.map_cons]
          refine hfound.cons (Nat.le_of_lt hj) ?_ ?_
          · rw [hskip]
            exact hread
          · rw [hskip]
            refine (splice_takes hcomma fun edit hedit => ?_).trans (congrArg ([','] ++ ·) hsplice)
            exact (foundFrom_start hj (List.of_mem_zip hedit).1).2

/-! ## Whole tables -/

theorem reads_modifiers {shown : List Char} {modifiers : List (List Char × List Char)}
    {c : Captures}
    (hmodifiers : ∀ part ∈ modifiers, part.1 ≠ [] ∧ (∀ x ∈ part.1, Text.isWord x = true) ∧
      part.2 ≠ [] ∧ ∀ x ∈ part.2, Text.isBlank x = true)
    (h : Takes shown (modifiers.flatMap fun part => part.1 ++ part.2) i j) :
    Reads shown (.few (.seq .name .blanks1)) i c j c := by
  induction modifiers generalizing i with
  | nil =>
      obtain rfl := Pattern.takes_nil.1 h
      exact .fewDone
  | cons part modifiers ih =>
      obtain ⟨⟨hword, hletters, hgap, hblank⟩, hrest⟩ := List.forall_mem_cons.1 hmodifiers
      obtain ⟨k, hpart, hmore⟩ := Pattern.takes_append.1 h
      obtain ⟨a, hfirst, hsecond⟩ := Pattern.takes_append.1 hpart
      exact .fewMore (.seq (Pattern.reads_many1_one.2 ⟨rfl, part.1, hfirst, hword, hletters⟩)
        (Pattern.reads_many1_one.2 ⟨rfl, part.2, hsecond, hgap, hblank⟩)) (ih hrest hmore)

/-- The head of a table is found, if no word goes on behind its keyword. -/
theorem isSome_tableHead {shown : List Char} (head : TableHead) (h : shown = head.source ++ rest)
    (hrestEdge : head.rest = [] → ∀ x ∈ rest.head?, Text.isWord x = false) :
    (createTableHead.matchStart shown).isSome = true := by
  have hdrop : shown.drop 0 = head.source ++ rest := by rw [List.drop_zero, h]
  obtain ⟨hsource, hbehind⟩ := Pattern.takes_of_drop hdrop
  obtain ⟨a, hlead, hsource⟩ := Pattern.takes_append.1 hsource
  obtain ⟨b, hcreate, hsource⟩ := Pattern.takes_append.1 hsource
  obtain ⟨e, hgap, hsource⟩ := Pattern.takes_append.1 hsource
  obtain ⟨f, hmodifiers, hsource⟩ := Pattern.takes_append.1 hsource
  obtain ⟨g, htable, hrest⟩ := Pattern.takes_append.1 hsource
  have hedge : Pattern.isWordEdge (placeAt shown g) = true := by
    obtain ⟨hne, hletters⟩ := isWord_of_spells (by decide) head.table_spelled
    refine (htable.isWordEdge_end hne hletters).2 ?_
    rw [hrest.starts, hbehind]
    cases hhead : head.rest with
    | nil => exact hrestEdge hhead
    | cons x more =>
        rintro _ ⟨⟩
        exact head.edge x (by rw [hhead]; rfl)
  have hread : Reads shown createTableHead 0 [] g [] :=
    .seq .atStart (.seq (Pattern.reads_many_one.2 ⟨rfl, _, hlead, head.lead_blank⟩)
      (.seq (Pattern.reads_word.2 ⟨rfl, _, hcreate, head.create_spelled⟩)
        (.seq (Pattern.reads_many1_one.2 ⟨rfl, _, hgap, head.gap_ne, head.gap_blank⟩)
          (.seq (reads_modifiers head.modifier hmodifiers)
            (.seq (Pattern.reads_word.2 ⟨rfl, _, htable, head.table_spelled⟩)
              (.seq (.wordEdge hedge) .empty))))))
  exact Pattern.isSome_matchAt_of_reads (by cbv) hread (Nat.zero_le _)

/-- What takes the place of a column definition is shown as it is. -/
theorem mask_customTypes_edits (text : List Char) :
    (Stage.customTypes.edits text).map (fun edit => (edit.1, mask edit.2)) =
      Stage.customTypes.edits text := by
  refine (List.map_congr_left fun edit hedit => ?_).trans (List.map_id _)
  rw [Stage.edits] at hedit
  split at hedit
  · cases hedit
  · obtain ⟨m, hm, hsome⟩ := List.mem_filterMap.1 hedit
    obtain ⟨record, hrecord, rfl⟩ := Option.map_eq_some_iff.1 hsome
    have hof := ((Pattern.inOrder_findAll customTypeColumn (mask text)).each m hm).1
    cases hread : readCustomType text m with
    | error fault => simp [hread, Except.toOption] at hrecord
    | ok other =>
        obtain rfl : other = record := by simpa [hread, Except.toOption] using hrecord
        rw [mask_of_inert (inert_standInText hof hread)]
        rfl

/-- The types of a table are replaced column by column, each with its record. -/
theorem encodeCustomTypes_table {table : TableText} (hshown : mask text = table.source)
    (hplain : ∀ column ∈ table.columns, column.type.isReplaced = true → ∀ x ∈ column.name,
      Text.isWord x = true) :
    ∃ encoded, encodeCustomTypes text = .ok encoded ∧
      encoded.records = table.records.map .customType ∧
      mask encoded.text = table.encoded := by
  have hdrop : (mask text).drop 0 = table.head.source ++
      (['('] ++ ([','].intercalate (table.columns.map ColumnText.source) ++ ')' :: table.tail)) :=
        hshown
  obtain ⟨hhead, hbehind⟩ := Pattern.takes_of_drop hdrop
  obtain ⟨hopen, hitems⟩ := Pattern.takes_of_drop hbehind
  have hlength : 0 + table.head.source.length + [('(' : Char)].length ≤ text.length := by
    rw [← length_mask text, hshown, TableText.source, listText, List.length_append,
      List.length_cons]
    simp only [List.length_cons, List.length_nil]
    omega
  have hopens : StartsApart ((mask text).drop (0 + table.head.source.length)) :=
    head_of_drop hbehind (by decide)
  have hskip : foundFrom customTypeColumn (mask text) 0 =
      foundFrom customTypeColumn (mask text)
        (0 + table.head.source.length + [('(' : Char)].length) := by
    rw [foundFrom_pass hhead (by rw [length_mask]; exact Nat.le_of_lt hlength)
      table.head_free hopens]
    exact foundFrom_skip hopen (length_mask text ▸ hlength) (by simp; decide)
  obtain ⟨hread, hsplice⟩ := columns_found hplain table.tail_free hlength (by
    rw [hopen.take_eq, List.getLast?_concat]
    rintro _ ⟨⟩
    decide) hitems
  rw [← hskip] at hread hsplice
  have hhead' : (createTableHead.matchStart (mask text)).isNone = false := by
    rw [← Option.not_isSome, isSome_tableHead table.head hshown (by rintro - _ ⟨⟩; decide)]
    rfl
  have hfound : customTypeColumn.findOutside text = foundFrom customTypeColumn (mask text) 0 := rfl
  have hencoded : encodeCustomTypes text = .ok
      { text := splice text 0 ((customTypeColumn.findOutside text).zip
          (table.records.map CustomType.standInText))
        records := table.records.map .customType } := by
    simp only [encodeCustomTypes, hhead', hfound, hread]
    rfl
  refine ⟨_, hencoded, rfl, ?_⟩
  have hedits : Stage.customTypes.edits text =
      (foundFrom customTypeColumn (mask text) 0).zip
        (table.records.map CustomType.standInText) := by
    rw [Stage.edits, hhead', hfound]
    exact zip_of_mapM hread
  rw [@Stage.text_of_apply .customTypes text _ (by decide) hencoded,
    mask_splice (outside_zero text) (editsFrom_customTypes text), mask_customTypes_edits, hedits]
  have hstart : ∀ edit ∈ (foundFrom customTypeColumn (mask text) 0).zip
    (table.records.map CustomType.standInText),
      0 + table.head.source.length + [('(' : Char)].length ≤ edit.1.start := fun edit hedit => by
    have hmem := (List.of_mem_zip hedit).1
    rw [hskip] at hmem
    exact (foundFrom_start hlength hmem).2
  rw [splice_takes hhead fun edit hedit => Nat.le_of_lt (hstart edit hedit),
    splice_takes hopen hstart]
  exact congrArg (fun list => table.head.source ++ '(' :: list) hsplice

end

/-! ## Restoring the types -/

namespace ColumnText

/-- Whether a column of the tree is the one built from the rewritten definition: it has the name as
written and, where the type was replaced, the type that stands in, with its parameters. -/
structure Built (column : ColumnText) (built : ColumnDef) : Prop where
  name_eq : built.name = column.nameText
  type_eq : ∀ record ∈ column.record?,
    built.type = some { name := record.standIn, length := record.length, scale := record.scale }

/-- A column of the tree with the type of its definition. -/
def restored (column : ColumnText) (built : ColumnDef) : ColumnDef :=
  match column.record? with
  | some record => record.typed built
  | none => built

end ColumnText

section

variable {columns : List ColumnText} {column : ColumnText} {built : ColumnDef}

theorem column_of_record? {record : CustomType} (h : column.record? = some record) :
    record.column = column.nameText := by
  rw [ColumnText.record?] at h
  split at h
  · obtain rfl := Option.some.inj h
    rfl
  · cases h

/-- Of all records exactly the one of a column fits the column. -/
theorem fits_iff (hdistinct : (columns.map fun column => column.nameText.lowerCase).Nodup)
    (hcolumn : column ∈ columns) (hbuilt : column.Built built) {record : CustomType}
    (hrecord : record ∈ columns.filterMap ColumnText.record?) :
    customTypeFits record built = true ↔ column.record? = some record := by
  obtain ⟨other, hother, hsome⟩ := List.mem_filterMap.1 hrecord
  constructor
  · intro hfits
    have hname := (Bool.and_eq_true_iff.1 hfits).1
    rw [hbuilt.name_eq, column_of_record? hsome, beq_iff_eq] at hname
    rw [List.inj_on_of_nodup_map hdistinct hcolumn hother hname, hsome]
  · intro hsame
    rw [customTypeFits, hbuilt.name_eq, column_of_record? hsame, hbuilt.type_eq record hsame]
    simp

theorem restoreColumn_built
    (hdistinct : (columns.map fun column => column.nameText.lowerCase).Nodup)
    (hcolumn : column ∈ columns) (hbuilt : column.Built built) :
    (restoreColumn (columns.filterMap ColumnText.record?).zipIdx built).1 =
      column.restored built := by
  cases hfind : (columns.filterMap ColumnText.record?).zipIdx.find? fun entry =>
    customTypeFits entry.1 built with
  | some entry =>
      have hfits := List.find?_some hfind
      have hmem := List.fst_mem_of_mem_zipIdx (List.mem_of_find?_eq_some hfind)
      rw [restoreColumn_of_find? hfind, ColumnText.restored,
        (fits_iff hdistinct hcolumn hbuilt hmem).1 hfits]
  | none =>
      have hnone : column.record? = none := by
        refine Option.eq_none_iff_forall_ne_some.2 fun record hrecord => ?_
        have hmem : record ∈ columns.filterMap ColumnText.record? :=
          List.mem_filterMap.2 ⟨column, hcolumn, hrecord⟩
        obtain ⟨entry, hentry, rfl⟩ : ∃ entry ∈ (columns.filterMap ColumnText.record?).zipIdx,
            entry.1 = record := by
          rwa [← List.zipIdx_map_fst 0 (columns.filterMap ColumnText.record?), List.mem_map] at hmem
        exact List.find?_eq_none.1 hfind entry hentry
          ((fits_iff hdistinct hcolumn hbuilt hmem).2 hrecord)
      rw [restoreColumn, hfind, ColumnText.restored, hnone]

theorem restoreCustomTypes_columns (records : Numbered CustomType) {node : Create}
    (hkind : node.kind = .table) :
    (restoreCustomTypes records node).1.columns =
      node.columns.map fun built => (restoreColumn records built).1 := by
  rw [restoreCustomTypes]
  cases records with
  | nil => exact (List.map_id _).symm
  | cons record records => simp [hkind]

/-- Restoring custom types alone gives a created table the columns with their types back. -/
theorem restoreStatement_customTypes (records : List CustomType) (node : Create) :
    (restoreStatement (records.map .customType) (.create node)).statement =
      .create (restoreCustomTypes records.zipIdx node).1 := by
  have htypes : customTypes (records.map .customType) = records.zipIdx := by
    rw [customTypes, pick, List.zipIdx_map, List.filterMap_map]
    exact List.filterMap_some
  have hmarkers : replaceMarkers (records.map .customType) = [] := pick_map_eq_nil (fun _ => rfl) _
  have htables : dynamicTables (records.map .customType) = [] := pick_map_eq_nil (fun _ => rfl) _
  have haccesses : arrayAccesses (records.map .customType) = [] := pick_map_eq_nil (fun _ => rfl) _
  rw [restoreStatement_early (pick_map_eq_nil (fun _ => rfl) _) (pick_map_eq_nil (fun _ => rfl) _)
    (pick_map_eq_nil (fun _ => rfl) _), haccesses, restoreHead, restoreCreate, hmarkers,
    htables, htypes]
  rfl

theorem map_eq_zipWith {α β γ : Type} {r : α → β → Prop} {f : α → β → γ} {g : β → γ} {xs : List α}
    {ys : List β} (h : List.Forall₂ r xs ys) (hg : ∀ x ∈ xs, ∀ y, r x y → g y = f x y) :
    ys.map g = List.zipWith f xs ys := by
  induction h with
  | nil => rfl
  | cons hr _ ih =>
      obtain ⟨hx, hxs⟩ := List.forall_mem_cons.1 hg
      rw [List.map_cons, List.zipWith_cons_cons, hx _ hr, ih hxs]

/-- Column types are replaced and restored column by column.  In a table whose columns have distinct
names, those with a type that is replaced being named without a dollar sign, every such type is
replaced by its stand-in with its parameters, and has a record with the name of its column, in the
order of the columns; the rest of the text is shown as before.  On the table built from the
rewritten columns the records give every column with a replaced type its keyword in upper case with
its own parameters back, and leave the other columns as they are. -/
theorem column_types_round_trip {text : List Char} {table : TableText}
    (hshown : mask text = table.source)
    (hdistinct : (table.columns.map fun column => column.nameText.lowerCase).Nodup)
    (hplain : ∀ column ∈ table.columns, column.type.isReplaced = true → '$' ∉ column.name) :
    ∃ encoded, encodeCustomTypes text = .ok encoded ∧
      encoded.records = table.records.map .customType ∧
      mask encoded.text = table.encoded ∧
      ∀ node : Create, node.kind = .table →
        List.Forall₂ ColumnText.Built table.columns node.columns →
        ∃ restored : Create, (restoreStatement encoded.records (.create node)).statement =
          .create restored ∧
          restored.columns = List.zipWith ColumnText.restored table.columns node.columns := by
  have hletters : ∀ column ∈ table.columns, column.type.isReplaced = true → ∀ x ∈ column.name,
      Text.isWord x = true := by
    intro column hcolumn hreplaced x hx
    have hpart := column.name_part x hx
    have hdollar : x ≠ '$' := fun h => hplain column hcolumn hreplaced (h ▸ hx)
    simpa [isNamePart, hdollar] using hpart
  obtain ⟨encoded, hencoded, hrecords, hmask⟩ := encodeCustomTypes_table hshown hletters
  refine ⟨encoded, hencoded, hrecords, hmask, fun node hkind hbuilt =>
    ⟨(restoreCustomTypes table.records.zipIdx node).1, ?_, ?_⟩⟩
  · rw [hrecords, restoreStatement_customTypes]
  · rw [restoreCustomTypes_columns _ hkind]
    exact map_eq_zipWith hbuilt fun column hcolumn built => restoreColumn_built hdistinct hcolumn

end

/-- A table with another type, a replaced one and a replaced one with parameters. -/
def itemsText : List Char :=
  "create table t (id int, tags array, price number(10, 2))".toList

/-- The parts of the table. -/
def itemsTable : TableText where
  head :=
    { lead := [], create := "create".toList, gap := [' '], modifiers := []
      table := "table".toList, rest := " t ".toList
      lead_blank := by simp, create_spelled := by decide, gap_ne := by simp
      gap_blank := List.all_eq_true.1 (by decide)
      modifier := by simp, table_spelled := by decide, edge := by rintro _ ⟨⟩; decide }
  columns :=
    [{ lead := [], name := "id".toList, gap := [' '], trail := []
       type := .other "int".toList (by simp) (List.all_eq_true.1 (by decide)) (by decide) none
       lead_blank := by simp, name_ne := by simp
       name_part := List.all_eq_true.1 (by decide), name_free := by decide
       gap_ne := by simp, gap_blank := List.all_eq_true.1 (by decide), trail_blank := by simp },
     { lead := [' '], name := "tags".toList, gap := [' '], trail := []
       type := .replaced "array".toList "ARRAY" "VARCHAR" (by decide) (by decide) none
       lead_blank := List.all_eq_true.1 (by decide), name_ne := by simp
       name_part := List.all_eq_true.1 (by decide), name_free := by decide
       gap_ne := by simp, gap_blank := List.all_eq_true.1 (by decide), trail_blank := by simp },
     { lead := [' '], name := "price".toList, gap := [' '], trail := []
       type := .replaced "number".toList "NUMBER" "DECIMAL" (by decide) (by decide) <| some
         { gap := [], gap_blank := by simp
           length :=
             { lead := [], digits := "10".toList, trail := []
               lead_blank := by simp, digits_ne := by simp
               isDigit := List.all_eq_true.1 (by decide), trail_blank := by simp }
           scale := some
             { lead := [' '], digits := "2".toList, trail := []
               lead_blank := List.all_eq_true.1 (by decide), digits_ne := by simp
               isDigit := List.all_eq_true.1 (by decide), trail_blank := by simp } }
       lead_blank := List.all_eq_true.1 (by decide), name_ne := by simp
       name_part := List.all_eq_true.1 (by decide), name_free := by decide
       gap_ne := by simp, gap_blank := List.all_eq_true.1 (by decide), trail_blank := by simp }]
  tail := []
  head_free := by decide
  tail_free := by decide

/-- The table built from the rewritten columns. -/
def itemsNode : Create :=
  { kind := .table
    target := { name := "t" }
    columns :=
      [{ name := "id", type := some { name := "INT" } },
        { name := "tags", type := some { name := "VARCHAR" } },
       { name := "price", type := some { name := "DECIMAL", length := some "10", scale := some "2" }
           }] }

theorem itemsNode_built : List.Forall₂ ColumnText.Built itemsTable.columns itemsNode.columns := by
  refine .cons ⟨by decide, by rintro _ ⟨⟩⟩ (.cons ⟨by decide, ?_⟩ (.cons ⟨by decide, ?_⟩ .nil))
  all_goals
    rintro record hrecord
    obtain rfl := Option.some.inj hrecord
    decide

/-- Both replaced types of the table come back, the second one with its parameters. -/
theorem column_types_round_trip_items :
    (mask itemsText = itemsTable.source ∧
      (itemsTable.columns.map fun column => column.nameText.lowerCase).Nodup ∧
      ∀ column ∈ itemsTable.columns, column.type.isReplaced = true → '$' ∉ column.name) ∧
    itemsNode.kind = .table ∧ List.Forall₂ ColumnText.Built itemsTable.columns itemsNode.columns ∧
    ∃ encoded, encodeCustomTypes itemsText = .ok encoded ∧
      mask encoded.text = "create table t (id int, tags VARCHAR, price DECIMAL(10,2))".toList ∧
      ∃ restored : Create,
        (restoreStatement encoded.records (.create itemsNode)).statement = .create restored ∧
        restored.columns.map ColumnDef.type =
          [some { name := "INT" }, some { name := "ARRAY" },
           some { name := "NUMBER", length := some "10", scale := some "2" }] := by
  have hshown : mask itemsText = itemsTable.source := by decide +kernel
  have hdistinct : (itemsTable.columns.map fun column => column.nameText.lowerCase).Nodup := by
    decide +kernel
  have hplain : ∀ column ∈ itemsTable.columns, column.type.isReplaced = true →
      '$' ∉ column.name := by decide +kernel
  refine ⟨⟨hshown, hdistinct, hplain⟩, rfl, itemsNode_built, ?_⟩
  obtain ⟨encoded, hencoded, -, hmask, hrestored⟩ := column_types_round_trip hshown hdistinct hplain
  obtain ⟨restored, hstatement, hcolumns⟩ := hrestored itemsNode rfl itemsNode_built
  refine ⟨encoded, hencoded, hmask.trans (by decide +kernel), restored, hstatement, ?_⟩
  rw [hcolumns]
  rfl

/-- A table with a replaced type under a name with a dollar sign. -/
def dollarText : List Char :=
  "create table t (a$b number, c int)".toList

/-- The table built from the rewritten columns. -/
def dollarNode : Create :=
  { kind := .table
    target := { name := "t" }
    columns :=
      [{ name := "a$b", type := some { name := "DECIMAL" } },
        { name := "c", type := some { name := "INT" } }] }

/-- The columns of a statement with their types. -/
def columnTypes : Statement → List (String × Option DataType)
  | .create node => node.columns.map fun column => (column.name, column.type)
  | _ => []

/-- The record has the part of the name behind the dollar sign only, so the column keeps the type
that stands in. -/
theorem dollar_name_keeps_standIn :
    (encodeCustomTypes dollarText).toOption.map
      (fun encoded => (String.ofList encoded.text, encoded.records,
      columnTypes (restoreStatement encoded.records (.create dollarNode)).statement)) =
    some ("create table t (a$b DECIMAL, c int)",
      [.customType { column := "b", standIn := "DECIMAL", keyword := "NUMBER" }],
      [("a$b", some { name := "DECIMAL" }), ("c", some { name := "INT" })]) := by
  decide +kernel

end SqlLayout.Placeholder
