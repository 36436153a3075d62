import SqlLayout.Proofs.Placeholder.ColumnTypes
import SqlLayout.Proofs.Source.Neighbours

/-!
# Tables created from queries

A statement can create a table from the query behind its `AS`.  Column types are looked for in all
of the statement, so the query is kept exactly when it has no name with a word for a type behind it,
be they an expression with its alias or a source with one.

## Implementation notes

The statement is cut behind `AS`.  No match reaches over the cut, because `AS` is reserved and the
start of no type.  So what is found in the statement is what is found in front of the cut, and then
what is found in the query.
-/

namespace SqlLayout.Placeholder

open Pattern (Captures Fails Goes Match Reads Spells Takes Unseen foundFrom matchAt placeAt spanEnd
  takes_append takes_cons)
open Source

/-- The text in front of the query of a statement that creates a table, with the `AS` it ends
with. -/
structure QueryFront where
  text : List Char
  head : TableHead
  keyword : List Char
  shown : mask text = head.source ++ keyword
  spelled : Spells "AS" keyword
  apart : ∀ x ∈ head.source.getLast?, Text.isWord x = false

section

variable {text tail part name : List Char} {i j k : Nat} {c d : Captures} {x : Char}

/-! ## Words at a cut -/

/-- A part of one class of characters ends before a character that is not of the class. -/
theorem le_of_class {p : Char → Bool} (h : Takes text part i j) (hpart : ∀ x ∈ part, p x = true)
    (hk : ∀ x ∈ (text.drop k).head?, p x = false) (hik : i ≤ k) (hj : j ≤ text.length) : j ≤ k := by
  by_contra hlt
  have hget := List.getElem?_eq_getElem (show k < text.length by omega)
  have hmem : text[k] ∈ part := by
    rw [← h.slice_eq]
    exact Pattern.mem_slice hik (by omega) hget
  rw [List.head?_drop, hget] at hk
  cases (hpart _ hmem).symm.trans (hk _ rfl)

/-- A pattern without refusals cannot see a text that no word goes on with. -/
theorem unseen_of_decided (htail : ∀ x ∈ tail.head?, Text.isWord x = false) {p : Pattern}
    (hp : p.decided = true) :
    p.Unseen text tail := by
  induction p with
  | seq a b iha ihb => exact (Bool.and_eq_true_iff.1 hp).imp iha ihb
  | alt a b iha ihb => exact (Bool.and_eq_true_iff.1 hp).imp iha ihb
  | many a ih => exact ih (Bool.and_eq_true_iff.1 hp).1
  | few a ih => exact ih (Bool.and_eq_true_iff.1 hp).1
  | capture group a ih => exact ih hp
  | wordEdge => exact htail
  | atEnd => cases hp
  | notAhead a ih => cases hp
  | _ => trivial

/-- A column type with what stands in front of it, but for the reserved names. -/
def typedName : List Pattern :=
  [.capture 1 .name, .blanks1, .capture 2 (.any (typeKeywords.map .word)), .wordEdge,
    .optional (.all sizeParameters)]

theorem unseen_customTypeColumn (htail : ∀ x ∈ tail.head?, Text.isWord x = false) :
    customTypeColumn.Unseen text tail := by
  refine ⟨htail, ⟨unseen_of_decided htail (by cbv), fun {i j c d} hi h => ?_⟩,
    @unseen_of_decided text tail htail (.all typedName) (by cbv)⟩
  change Reads (text ++ tail) reservedName i c j d at h
  cases h with
  | seq hword hedge =>
      obtain ⟨rfl, part, hpart, letters, hmem, hspells⟩ :=
        (reads_oneOf reservedNames (by decide)).1 hword
      obtain ⟨rfl, rfl, -⟩ := Pattern.reads_wordEdge.1 hedge
      obtain ⟨-, hletters⟩ := isWord_of_spells (List.mem_append_left _ hmem) hspells
      refine le_of_class hpart hletters (by rwa [List.drop_left]) hi (hword.le_length ?_)
      rw [List.length_append]
      omega

/-- Whether a word that spells `AS` stands in a text, with no word going on before or behind it. -/
structure AsAt (text keyword : List Char) (i j : Nat) : Prop where
  takes : Takes text keyword i j
  spelled : Spells "AS" keyword
  before : ∀ x ∈ (text.take i).getLast?, Text.isWord x = false
  behind : ∀ x ∈ (text.drop j).head?, Text.isWord x = false

namespace AsAt

variable {keyword : List Char} {cut stop : Nat} (h : AsAt text keyword cut stop)

include h

theorem letters : keyword ≠ [] ∧ ∀ x ∈ keyword, Text.isWord x = true :=
  isWord_of_spells (by decide) h.spelled

theorem stop_le (hcut : cut ≤ text.length) : stop ≤ text.length := by
  have hlength := congrArg List.length h.takes.starts
  have hends := h.takes.ends
  simp only [List.length_append, List.length_drop] at hlength
  omega

/-- The first letter is an `A`. -/
theorem first : ∃ x, text[cut]? = some x ∧ (x = 'a' ∨ x = 'A') := by
  obtain ⟨x, rest, hx, -, rfl⟩ :=
    List.forall₂_cons_left_iff.1 (show List.Forall₂ _ ('A' :: ['S']) _ from h.spelled)
  refine ⟨x, (takes_cons.1 h.takes).1, ?_⟩
  have hcode := @Text.toNat_asciiLower x
  have hlower : Text.asciiLower x = 'a' := by
    simpa [Text.sameLetter, Text.caseVariants, show Text.asciiLower 'A' = 'a' by decide] using hx
  rw [hlower, show ('a' : Char).toNat = 97 by decide] at hcode
  rw [← Char.toNat_inj, ← Char.toNat_inj, show ('a' : Char).toNat = 97 by decide,
    show ('A' : Char).toNat = 65 by decide]
  split at hcode <;> omega

/-- No column type is found at the word itself. -/
theorem matchAt_eq_none (hcut : cut ≤ text.length) {i : Nat} (hi : cut ≤ i) (hlt : i < stop) :
    matchAt customTypeColumn text.length (placeAt text i) = none := by
  obtain ⟨hne, hletters⟩ := h.letters
  obtain rfl | hinside := Nat.eq_or_lt_of_le hi
  · have hword : Reads text (.any (reservedNames.map .word)) cut [] stop [] :=
      (reads_oneOf reservedNames (by decide)).2 ⟨rfl, keyword, h.takes, "AS", by decide, h.spelled⟩
    exact matchAt_reserved (.seq hword
      (.wordEdge ((h.takes.isWordEdge_end hne hletters).2 h.behind))) hcut
  · refine Option.eq_none_iff_forall_ne_some.2 fun m hm => ?_
    obtain ⟨hbefore, -⟩ := startsTyped_of_matchAt (by have := h.stop_le hcut; omega) hm
    obtain ⟨k, rfl⟩ : ∃ k, i = k + 1 := ⟨i - 1, by omega⟩
    have hk : k < text.length := by
      have hstop := h.stop_le hcut
      omega
    have hget := List.getElem?_eq_getElem hk
    have hmem : text[k] ∈ keyword := by
      rw [← h.takes.slice_eq]
      exact Pattern.mem_slice (by omega) (by omega) hget
    cases (hletters _ hmem).symm.trans (hbefore _ (last_of_getElem? hget))

/-- No column type that starts before the word goes on behind its start. -/
theorem reads_le (hcut : cut ≤ text.length) (hi : i < cut)
    (hread : Reads text customTypeColumn i [] j d) :
    j ≤ cut := by
  obtain ⟨hne, hletters⟩ := h.letters
  have hlength : i ≤ text.length := by omega
  have hedge : ∀ x ∈ (text.drop (cut - 1)).head?, Text.isWord x = false := by
    intro x hx
    rw [List.head?_drop] at hx
    have hlast := last_of_getElem? hx
    rw [Nat.sub_add_cancel (by omega)] at hlast
    exact h.before x hlast
  obtain ⟨first, hfirst, hcase⟩ := h.first
  have hblankfirst : ∀ x ∈ (text.drop cut).head?, Text.isBlank x = false := by
    rw [List.head?_drop, hfirst]
    rintro _ ⟨⟩
    obtain rfl | rfl := hcase <;> decide
  obtain ⟨_, _, hstart, hread⟩ := Pattern.reads_all_cons.1 hread
  obtain ⟨rfl, rfl, -⟩ := Pattern.reads_wordEdge.1 hstart
  obtain ⟨_, _, hahead, hread⟩ := Pattern.reads_all_cons.1 hread
  obtain ⟨rfl, rfl⟩ := Pattern.reads_notAhead.1 hahead
  obtain ⟨a, _, hcapture, hread⟩ := Pattern.reads_all_cons.1 hread
  obtain ⟨_, rfl, hcolumn⟩ := Pattern.reads_capture.1 hcapture
  obtain ⟨rfl, name, hname, -, hnameletters⟩ := Pattern.reads_many1_one.1 hcolumn
  have ha : a ≤ cut - 1 :=
    le_of_class hname hnameletters hedge (by omega) (hcolumn.le_length hlength)
  obtain ⟨b, _, hblanks, hread⟩ := Pattern.reads_all_cons.1 hread
  have hblength := hblanks.le_length (show a ≤ text.length by omega)
  obtain ⟨rfl, gap, hgap, -, hblank⟩ := Pattern.reads_many1_one.1 hblanks
  have hb : b ≤ cut := le_of_class hgap hblank hblankfirst (by omega) hblength
  obtain ⟨e, _, hcapture', hread⟩ := Pattern.reads_all_cons.1 hread
  obtain ⟨_, rfl, hkeyword⟩ := Pattern.reads_capture.1 hcapture'
  have helength := hkeyword.le_length hblength
  obtain ⟨rfl, type, htype, letters, hmem, hspells⟩ :=
    (reads_oneOf typeKeywords (by decide)).1 hkeyword
  obtain ⟨htypene, htypeletters⟩ := isWord_of_spells (List.mem_append_right _ hmem) hspells
  obtain ⟨_, _, hend, hread⟩ := Pattern.reads_all_cons.1 hread
  obtain ⟨rfl, rfl, hbehind⟩ := Pattern.reads_wordEdge.1 hend
  -- the word itself is shorter than every type
  have hbcut : b ≠ cut := by
    rintro rfl
    have hrest := (htype.isWordEdge_end htypene htypeletters).1 hbehind
    have hsame := (span_append htypeletters hrest).1
    rw [← htype.starts, h.takes.starts, (span_append hletters h.behind).1] at hsame
    have hlengths : (typeKeywords.all fun letters => letters.toList.length != "AS".toList.length) =
        true := by decide
    have hdiffers := List.all_eq_true.1 hlengths letters hmem
    rw [List.Forall₂.length_eq hspells, ← hsame, List.Forall₂.length_eq h.spelled] at hdiffers
    simp at hdiffers
  have he : e ≤ cut - 1 := le_of_class htype htypeletters hedge (by omega) helength
  obtain ⟨stop, _, hsize, hnil⟩ := Pattern.reads_all_cons.1 hread
  obtain ⟨rfl, rfl⟩ := Pattern.reads_all_nil.1 hnil
  by_contra hlt
  have hmem : first ∈ Pattern.slice text e stop := Pattern.mem_slice (by omega) (by omega) hfirst
  have havoids : (Pattern.optional (.all sizeParameters)).avoids ['a', 'A'] = true := by cbv
  exact hsize.avoids havoids first hmem (by simpa using hcase)

end AsAt

/-! ## Types in a part of a text -/

/-- Where a text starts with a name and a word for a type, a column type is found. -/
theorem isSome_matchAt (hi : i ≤ text.length)
    (hbefore : ∀ y ∈ (text.take i).getLast?, Text.isWord y = false)
    (h : startsTyped (text.drop i) = true) :
    (matchAt customTypeColumn text.length (placeAt text i)).isSome = true := by
  simp only [startsTyped, Bool.and_eq_true, Bool.not_eq_true', List.isEmpty_eq_false_iff] at h
  obtain ⟨⟨⟨hne, hfree⟩, hgapne⟩, htyped⟩ := h
  rw [← Pattern.drop_spanEnd] at hgapne
  rw [← Pattern.drop_spanEnd, ← Pattern.drop_spanEnd] at htyped
  have hname := @Pattern.takes_spanEnd text Text.isWord i
  have hbehind := @Pattern.head_spanEnd text Text.isWord i
  have hletters : ∀ x ∈ (text.drop i).takeWhile Text.isWord, Text.isWord x = true :=
    List.all_eq_true.1 List.all_takeWhile
  generalize spanEnd text Text.isWord i = a at *
  have hgap := @Pattern.takes_spanEnd text Text.isBlank a
  have hblank : ∀ x ∈ (text.drop a).takeWhile Text.isBlank, Text.isBlank x = true :=
    List.all_eq_true.1 List.all_takeWhile
  generalize spanEnd text Text.isBlank a = b at *
  have htype := @Pattern.takes_spanEnd text Text.isWord b
  obtain ⟨letters, hmem, hspells⟩ := isOneOf_iff.1 htyped
  obtain ⟨htypene, htypeletters⟩ := isWord_of_spells (List.mem_append_right _ hmem) hspells
  have hend := (htype.isWordEdge_end htypene htypeletters).2 (Pattern.head_spanEnd Text.isWord b)
  have hkeyword : Reads text (.any (typeKeywords.map .word)) b [(1, i, a)] _ [(1, i, a)] :=
    (reads_oneOf typeKeywords (by decide)).2 ⟨rfl, _, htype, letters, hmem, hspells⟩
  have hread : Reads text (.all typedName) i [] _ _ :=
    .seq (Pattern.reads_capture.2 ⟨_, rfl,
      Pattern.reads_many1_one.2 ⟨rfl, _, hname, hne, hletters⟩⟩)
      (.seq (Pattern.reads_many1_one.2 ⟨rfl, _, hgap, hgapne, hblank⟩)
        (.seq (Pattern.reads_capture.2 ⟨_, rfl, hkeyword⟩)
          (.seq (.wordEdge hend) (.seq (.right .empty) .empty))))
  have hfront : Goes text (.all [.wordEdge, .notAhead reservedName]) i [] i [] :=
    .cons (.wordEdge ((hname.isWordEdge_start hne hletters).2 hbefore))
      (.cons (.notAhead (fails_reserved hname hletters hfree hbehind)) .nil)
  have hrest := @Pattern.finds_run text (.all typedName) (by cbv) _ _ _ _
    (fun place captures => some (place.pos, captures)) hread hi rfl
  have hrun : Pattern.run text.length
    (.all ([Pattern.wordEdge, .notAhead reservedName] ++ typedName))
      (placeAt text i) [] (fun place captures => some (place.pos, captures)) =
        Pattern.run text.length (.all typedName) (placeAt text i) []
          fun place captures => some (place.pos, captures) := by
    rw [Pattern.run_all_append]
    exact hfront _ hrest
  rw [matchAt, Option.isSome_map]
  exact (congrArg Option.isSome hrun).trans hrest

theorem exists_startsTyped (h : namesType (text.take i).getLast? (text.drop i) = true) :
    ∃ k, i ≤ k ∧ k ≤ text.length ∧ (∀ y ∈ (text.take k).getLast?, Text.isWord y = false) ∧
      startsTyped (text.drop k) = true := by
  induction hrest : text.drop i generalizing i with
  | nil => simp [hrest, namesType] at h
  | cons c rest ih =>
      obtain ⟨hget, hdrop⟩ := Pattern.drop_eq_cons hrest
      have hlt := (List.getElem?_eq_some_iff.1 hget).1
      rw [hrest] at h
      obtain hhere | hlater := Bool.or_eq_true_iff.1 h
      · obtain ⟨hbefore, htyped⟩ := Bool.and_eq_true_iff.1 hhere
        refine ⟨i, Nat.le_refl i, hlt.le, fun y hy => ?_, hrest ▸ htyped⟩
        rw [hy] at hbefore
        simpa using hbefore
      · have hlast : (text.take (i + 1)).getLast? = some c := last_of_getElem? hget
        obtain ⟨k, hk, hfound⟩ := ih (by rw [hlast, hdrop]; exact hlater) hdrop
        exact ⟨k, by omega, hfound⟩

/-- From an offset on no column type is found exactly when none is named there. -/
theorem foundFrom_eq_nil_iff (hi : i ≤ text.length) : foundFrom customTypeColumn text i = [] ↔
    namesType (text.take i).getLast? (text.drop i) = false := by
  constructor
  · refine fun h => Bool.eq_false_iff.2 fun hnames => ?_
    obtain ⟨k, hik, hk, hbefore, htyped⟩ := exists_startsTyped hnames
    have hsome := isSome_matchAt hk hbefore htyped
    rw [Pattern.matchAt_of_foundFrom_eq_nil h hik hk] at hsome
    cases hsome
  · intro h
    have htakes : Takes text (text.drop i) i text.length := by
      refine ⟨by rw [List.drop_length, List.append_nil], ?_⟩
      rw [List.length_drop]
      omega
    rw [foundFrom_pass htakes (Nat.le_refl _) h (by rw [List.drop_length]; rintro x ⟨⟩)]
    exact foundFrom_length

/-- What stands before a text does not matter when the text starts with no word. -/
theorem namesType_of_head (h : ∀ x ∈ text.head?, Text.isWord x = false) (before : Option Char) :
    namesType before text = namesType none text := by
  cases text with
  | nil => rfl
  | cons x rest => rw [namesType, namesType, startsTyped_of_head h, Bool.and_false, Bool.and_false]

end

/-! ## The query of a statement -/

theorem head_mask {text : List Char} (h : ∀ x ∈ text.head?, Text.isWord x = false) :
    ∀ x ∈ (mask text).head?, Text.isWord x = false := by
  intro x hx
  refine Bool.eq_false_iff.2 fun hword => ?_
  rw [List.head?_eq_getElem?] at hx
  have hshown := (outside_zero text).of_shown hx (not_isBlank_of_isWord hword)
  rw [← List.head?_eq_getElem?] at hshown
  cases hword.symm.trans (h x hshown)

namespace QueryFront

variable (front : QueryFront) {query : List Char}

/-- The front ends with a letter of statement text. -/
theorem exists_last : modeAfter .code front.text = .code ∧ ∃ x, front.text.getLast? = some x ∧
    isInert x = true := by
  obtain ⟨x, rest, -, hrest, hkeyword⟩ :=
    List.forall₂_cons_left_iff.1 (show List.Forall₂ _ ('A' :: ['S']) _ from front.spelled)
  obtain ⟨y, last, hy, hlast, rfl⟩ := List.forall₂_cons_left_iff.1 hrest
  obtain rfl := List.forall₂_nil_left_iff.1 hlast
  have hword : Text.isWord y = true := Text.isWord_of_sameLetter (by decide) hy
  have hplain : isPlain y = true := by
    rw [isPlain, solid_of_isWord hword, Bool.true_and, bne_iff_ne]
    rintro rfl
    exact absurd hy (by decide)
  have hshown := front.shown
  rw [hkeyword, show [x, y] = [x] ++ [y] by rfl, ← List.append_assoc] at hshown
  have hlength := congrArg List.length hshown
  simp only [length_mask, List.length_append, List.length_cons, List.length_nil] at hlength
  have hget : (mask front.text)[front.text.length - 1]? = some y := by
    rw [hshown, List.getElem?_append_right (by simp; omega)]
    simp [hlength]
  obtain ⟨htext, -, hbehind⟩ :=
    outside_of_shown hget (solid_of_isWord hword) (not_inLiteral_of_plain hget hplain)
  rw [Nat.sub_add_cancel (by omega)] at hbehind
  refine ⟨by simpa using hbehind.code, y, ?_, isInert_of_solid (solid_of_isWord hword)⟩
  rw [List.getLast?_eq_getElem?, htext]

theorem mask_append (query : List Char) :
    mask (front.text ++ query) = mask front.text ++ mask query := by
  obtain ⟨hcode, x, hx, hinert⟩ := front.exists_last
  exact Source.mask_append hcode (apart_of_last hx hinert)

theorem rest_ne_nil : front.head.rest ≠ [] := by
  intro hnil
  obtain ⟨hne, hletters⟩ := isWord_of_spells (by decide) front.head.table_spelled
  have hlast : front.head.source.getLast? = some (front.head.table.getLast hne) := by
    simp [TableHead.source, hnil, List.getLast?_append, List.getLast?_eq_some_getLast hne]
  cases (hletters _ (List.getLast_mem hne)).symm.trans (front.apart _ hlast)

/-- The head of the table is found with the query and without it. -/
theorem isSome_head (tail : List Char) :
    (createTableHead.matchStart (mask front.text ++ tail)).isSome = true := by
  refine isSome_tableHead front.head (by rw [front.shown, List.append_assoc]) fun hnil => ?_
  exact absurd hnil front.rest_ne_nil

theorem asAt {tail : List Char} (htail : ∀ x ∈ tail.head?, Text.isWord x = false) :
    AsAt (mask front.text ++ tail) front.keyword front.head.source.length front.text.length := by
  have hlength : front.text.length = front.head.source.length + front.keyword.length := by
    rw [← length_mask front.text, front.shown, List.length_append]
  have hdrop : (mask front.text ++ tail).drop front.head.source.length = front.keyword ++ tail := by
    rw [front.shown, List.append_assoc, List.drop_left]
  obtain ⟨htakes, hrest⟩ := Pattern.takes_of_drop hdrop
  rw [← hlength] at htakes hrest
  refine ⟨htakes, front.spelled, ?_, by rwa [hrest]⟩
  rw [front.shown, List.append_assoc, List.take_left]
  exact front.apart

/-- What is found in a statement is what is found in front of its query, and then what is found in
the query. -/
theorem found_append (hquery : ∀ x ∈ query.head?, Text.isWord x = false) :
    customTypeColumn.findOutside (front.text ++ query) = customTypeColumn.findOutside front.text ++
      foundFrom customTypeColumn (mask front.text ++ mask query) (mask front.text).length := by
  have hcut : front.head.source.length ≤ (mask front.text).length := by
    rw [front.shown, List.length_append]
    omega
  have hwhole := front.asAt (head_mask hquery)
  have hnothing : ∀ x ∈ ([] : List Char).head?, Text.isWord x = false := by simp
  have halone := front.asAt hnothing
  rw [List.append_nil] at halone
  have hlonger : front.head.source.length ≤ (mask front.text ++ mask query).length := by
    rw [List.length_append]
    omega
  rw [Pattern.findOutside, Pattern.findOutside, front.mask_append, Pattern.findAll_eq,
    Pattern.findAll_eq]
  refine Pattern.foundFrom_append (by cbv) (fun i hi => ?_) foundFrom_length (Nat.zero_le _)
  obtain hlt | hle := Nat.lt_or_ge i front.head.source.length
  · refine Pattern.matchAt_append (unseen_customTypeColumn (head_mask hquery)) hi.le
      fun j d hread => ?_
    exact (hwhole.reads_le hlonger hlt hread).trans hcut
  · rw [length_mask] at hi
    rw [hwhole.matchAt_eq_none hlonger hle hi, halone.matchAt_eq_none hcut hle hi]

/-- In the query nothing is found exactly when no type is named there. -/
theorem found_query_eq_nil_iff (hquery : ∀ x ∈ query.head?, Text.isWord x = false) :
    foundFrom customTypeColumn (mask front.text ++ mask query) (mask front.text).length = [] ↔
      namesType none (mask query) = false := by
  rw [foundFrom_eq_nil_iff (by simp), List.drop_left, namesType_of_head (head_mask hquery)]

end QueryFront

theorem ne_nil_of_mapM {ε α β : Type} {f : α → Except ε β} {xs : List α} {ys : List β}
    (hxs : xs ≠ []) (h : xs.mapM f = .ok ys) : ys ≠ [] := by
  obtain ⟨x, rest, rfl⟩ := List.exists_cons_of_ne_nil hxs
  rintro rfl
  rw [List.mapM_cons] at h
  cases hx : f x with
  | error fault => simp [hx, bind, Except.bind] at h
  | ok y =>
      cases hrest : rest.mapM f <;> simp [hx, hrest, bind, Except.bind, pure, Except.pure] at h

/-- The query of a statement that creates a table is kept, with no record for anything in it,
exactly when it has no name with a word for a type behind it; unless the front of the statement
cannot be encoded at all. -/
theorem created_query_kept_iff (front : QueryFront) {query : List Char}
    (hquery : ∀ x ∈ query.head?, Text.isWord x = false) :
    encodeCustomTypes (front.text ++ query) =
      (encodeCustomTypes front.text).map (·.followedBy query) ↔
      namesType none (mask query) = false ∨ ∃ fault,
        encodeCustomTypes front.text = .error fault := by
  have hhead : (createTableHead.matchStart (mask (front.text ++ query))).isNone = false := by
    rw [← Option.not_isSome, front.mask_append, front.isSome_head]
    rfl
  have hhead' : (createTableHead.matchStart (mask front.text)).isNone = false := by
    have hsome := front.isSome_head []
    rw [List.append_nil] at hsome
    rw [← Option.not_isSome, hsome]
    rfl
  have hread : (customTypeColumn.findOutside front.text).mapM
    (readCustomType (front.text ++ query)) =
      (customTypeColumn.findOutside front.text).mapM (readCustomType front.text) :=
    mapM_congr fun m hm => readCustomType_append hm
  rw [← front.found_query_eq_nil_iff hquery]
  simp only [encodeCustomTypes, hhead, hhead', front.found_append hquery, List.mapM_append, hread]
  generalize hmore : foundFrom customTypeColumn (mask front.text ++ mask query)
    (mask front.text).length = more
  cases hrecords : (customTypeColumn.findOutside front.text).mapM (readCustomType front.text) with
  | error fault =>
      simp only [bind, Except.bind, Except.map, Bool.false_eq_true, if_false, Except.error.injEq,
        exists_eq', or_true]
  | ok records =>
      simp only [bind, Except.bind, pure, Except.pure, Bool.false_eq_true, if_false, Except.map]
      constructor
      · refine fun h => .inl ?_
        by_contra hne
        cases hmoreRecords : more.mapM (readCustomType (front.text ++ query)) with
        | error fault => simp [hmoreRecords] at h
        | ok moreRecords =>
            -- the records of the query are too many
            simp [hmoreRecords, Encoded.followedBy] at h
            exact ne_nil_of_mapM hne hmoreRecords h.2
      · rintro (rfl | ⟨fault, ⟨⟩⟩)
        simp only [List.mapM_nil, pure, Except.pure, List.append_nil, Encoded.followedBy]
        rw [splice_found (p := customTypeColumn) fun edit hedit => (List.of_mem_zip hedit).1]

/-- The front of a statement that creates a table with a column of a replaced type from a query. -/
def typedFront : QueryFront where
  text := "create table t (a number) as".toList
  head := { itemsTable.head with rest := " t (a number) ".toList, edge := by rintro _ ⟨⟩; decide }
  keyword := "as".toList
  shown := by decide +kernel
  spelled := by decide
  apart := by rintro _ ⟨⟩; decide

theorem created_query_kept_literals :
    encodeCustomTypes (typedFront.text ++ " select 'a number' as number from u -- a date".toList) =
      (encodeCustomTypes typedFront.text).map
        (·.followedBy " select 'a number' as number from u -- a date".toList) :=
  (created_query_kept_iff typedFront (by rintro _ ⟨⟩; decide)).2 (.inl (by decide +kernel))

/-- An alias that is a word for a type is taken for a type, and the expression in front of it for a
column. -/
theorem alias_taken_for_type :
    (encodeCustomTypes "create table t as select a number from u".toList).toOption.map
        (fun encoded => (encoded.text, encoded.records)) =
      some ("create table t as select a DECIMAL from u".toList,
        [.customType { column := "a", standIn := "DECIMAL", keyword := "NUMBER" }]) := by
  decide +kernel

end SqlLayout.Placeholder
