import SqlLayout.Proofs.Placeholder.TypeWords
import SqlLayout.Proofs.Source.Neighbours

/-!
# Properties of dynamic tables

The refresh properties of a dynamic table are looked for in the text between its name and `AS` as it
is written, so the inside of literals and comments is searched as well.  Where the equals signs of
properties are statement text and no comment stands next to one, the values that are found are those
of the mask, and texts with one mask give one table.

## Implementation notes

A property is told by its equals sign: its keyword is the word in front of the sign and its value
the word behind it, with blanks between them.  So the text and its mask are compared sign by sign.
-/

namespace SqlLayout.Placeholder

open Pattern (Captures Goes Match Reads Spells Takes foundFrom matchAt placeAt slice spanEnd
  takes_append)
open Source

/-- The keywords of the properties whose values are names. -/
def propertyKeywords : List String := ["REFRESH_MODE", "INITIALIZE", "WAREHOUSE"]

/-- The blanks at the end of a text. -/
def endGap (text : List Char) : List Char :=
  text.rtakeWhile Text.isBlank

/-- The word in front of the blanks at the end of a text. -/
def endWord (text : List Char) : List Char :=
  (text.rdropWhile Text.isBlank).rtakeWhile Text.isWord

/-- The blanks at the start of a text. -/
def startGap (text : List Char) : List Char :=
  text.takeWhile Text.isBlank

/-- The word behind the blanks at the start of a text. -/
def startWord (text : List Char) : List Char :=
  (text.dropWhile Text.isBlank).takeWhile Text.isWord

/-- Whether a property with a name for its value starts at an offset of a text. -/
def NamedAt (keyword : String) (text : List Char) (i : Nat) (value : List Char) : Prop :=
  ∃ sign, text[sign]? = some '=' ∧ Spells keyword (endWord (text.take sign)) ∧
    i + (endWord (text.take sign) ++ endGap (text.take sign)).length = sign ∧
    startWord (text.drop (sign + 1)) = value ∧ value ≠ []

/-- Whether every equals sign with the keyword of a property in front of it, in the text or in its
mask, is statement text, with no comment between it and the words around it. -/
def Legible (text : List Char) : Prop :=
  ∀ sign < text.length, text[sign]? = some '=' →
    isOneOf propertyKeywords (endWord (text.take sign)) = true ∨
      isOneOf propertyKeywords (endWord ((mask text).take sign)) = true →
    (mask text)[sign]? = some '=' ∧ endGap (text.take sign) = endGap ((mask text).take sign) ∧
      startGap (text.drop (sign + 1)) = startGap ((mask text).drop (sign + 1))

instance (text : List Char) : Decidable (Legible text) :=
  inferInstanceAs (Decidable (∀ _ < _, _))

section

variable {text word gap front rest : List Char} {i j sign : Nat} {x : Char}

/-! ## The words around a sign -/

/-- What stands in front of a sign: a word and blanks, both as long as possible. -/
theorem exists_takes_end (hsign : sign ≤ text.length) : ∃ i j,
    Takes text (endWord (text.take sign)) i j ∧ Takes text (endGap (text.take sign)) j sign ∧
      (∀ y ∈ (text.take i).getLast?, Text.isWord y = false) ∧ ∀ y ∈ (text.take j).getLast?,
        Text.isBlank y = false := by
  have hlast {p : Char → Bool} {letters : List Char} : ∀ y ∈ (letters.rdropWhile p).getLast?, p y =
      false := by
    intro y hy
    obtain ⟨hne, rfl⟩ := List.mem_getLast?_eq_getLast hy
    exact Bool.eq_false_iff.2 (List.rdropWhile_last_not _ _ hne)
  have hfront := List.rdropWhile_append_rtakeWhile (p := Text.isBlank) (l := text.take sign)
  have hstart := List.rdropWhile_append_rtakeWhile (p := Text.isWord)
    (l := (text.take sign).rdropWhile Text.isBlank)
  have hedge := @hlast Text.isWord ((text.take sign).rdropWhile Text.isBlank)
  have hsolid := @hlast Text.isBlank (text.take sign)
  rw [← endGap] at hfront
  rw [← endWord] at hstart
  generalize ((text.take sign).rdropWhile Text.isBlank).rdropWhile Text.isWord =
    start at hstart hedge
  rw [← hstart] at hfront hsolid
  generalize endWord (text.take sign) = word at *
  generalize endGap (text.take sign) = gap at *
  have hlength := congrArg List.length hfront
  have hparts : text = start ++ (word ++ (gap ++ text.drop sign)) := by
    rw [← List.append_assoc, ← List.append_assoc, hfront, List.take_append_drop]
  have hdrop : text.drop start.length = word ++ (gap ++ text.drop sign) := by
    conv => enter [1, 2]; rw [hparts]
    exact List.drop_left
  obtain ⟨hword, hbehind⟩ := Pattern.takes_of_drop hdrop
  obtain ⟨hgap, -⟩ := Pattern.takes_of_drop hbehind
  simp only [List.length_append, List.length_take, Nat.min_eq_left hsign] at hlength
  rw [hlength] at hgap
  refine ⟨_, _, hword, hgap, ?_, ?_⟩
  · rw [hparts, List.take_left]
    exact hedge
  · rw [hparts, ← List.append_assoc, ← List.length_append, List.take_left]
    exact hsolid

theorem forall_mem_endWord : ∀ x ∈ endWord text, Text.isWord x = true :=
  fun _ hx => List.mem_rtakeWhile_imp hx

theorem forall_mem_endGap : ∀ x ∈ endGap text, Text.isBlank x = true :=
  fun _ hx => List.mem_rtakeWhile_imp hx

theorem end_eq (hne : word ≠ []) (hword : ∀ x ∈ word, Text.isWord x = true)
    (hgap : ∀ x ∈ gap, Text.isBlank x = true)
    (hfront : ∀ y ∈ front.getLast?, Text.isWord y = false) :
    endWord (front ++ (word ++ gap)) = word ∧ endGap (front ++ (word ++ gap)) = gap := by
  have hreverse : (front ++ (word ++ gap)).reverse =
      gap.reverse ++ (word.reverse ++ front.reverse) := by simp
  have hhead : ∀ y ∈ (word.reverse ++ front.reverse).head?, Text.isBlank y = false := by
    obtain ⟨y, letters, hletters⟩ := List.exists_cons_of_ne_nil (List.reverse_ne_nil_iff.2 hne)
    rw [hletters]
    rintro _ ⟨⟩
    exact not_isBlank_of_isWord (hword y (List.mem_reverse.1 (hletters ▸ List.mem_cons_self)))
  obtain ⟨hblank, hletters⟩ := @span_append gap.reverse _ Text.isBlank (by simpa using hgap) hhead
  have hedge : ∀ y ∈ front.reverse.head?, Text.isWord y = false := by simpa using hfront
  obtain ⟨hspan, -⟩ := @span_append word.reverse _ Text.isWord (by simpa using hword) hedge
  rw [endWord, endGap, List.rtakeWhile, List.rtakeWhile, List.rdropWhile, hreverse, hblank,
    hletters, List.reverse_reverse, hspan, List.reverse_reverse, List.reverse_reverse]
  exact ⟨rfl, rfl⟩

theorem end_of_takes (h : Takes text (word ++ gap) i sign) (hne : word ≠ [])
    (hword : ∀ x ∈ word, Text.isWord x = true) (hgap : ∀ x ∈ gap, Text.isBlank x = true)
    (hedge : ∀ y ∈ (text.take i).getLast?, Text.isWord y = false) :
    endWord (text.take sign) = word ∧ endGap (text.take sign) = gap := by
  rw [h.take_eq]
  exact end_eq hne hword hgap hedge

/-! ## Signs that are shown -/

theorem inert_of_blanks (h : ∀ x ∈ gap, Text.isBlank x = true) : inert gap = true := by
  refine List.all_eq_true.2 fun x hx => ?_
  have hblank := h x hx
  simp only [isInert, isQuote, Bool.and_eq_true, Bool.not_eq_true', Bool.or_eq_false_iff,
    bne_iff_ne, beq_eq_false_iff_ne]
  refine ⟨⟨⟨⟨⟨?_, ?_⟩, ?_⟩, ?_⟩, ?_⟩, ?_⟩ <;> rintro rfl <;> exact absurd hblank (by decide)

/-- In front of a shown sign, a word with nothing but blanks and words behind it is a word of the
text. -/
theorem text_of_shown (hsign : (mask text)[sign]? = some '=')
    (h : Takes (mask text) (x :: (word ++ gap)) i sign) (hx : Text.isWord x = true)
    (hword : ∀ y ∈ word, Text.isWord y = true) (hgap : ∀ y ∈ gap, Text.isBlank y = true) :
    text[i]? = some x ∧ Outside text i ∧ Outside text (i + 1) := by
  have hinert : inert (x :: (word ++ gap)) = true := by
    rw [inert_cons, inert_append]
    exact ⟨isInert_of_solid (solid_of_isWord hx), inert_of_isWord hword, inert_of_blanks hgap⟩
  have hends := h.ends
  refine outside_of_shown (Pattern.takes_cons.1 h).1 (solid_of_isWord hx) ?_
  refine not_inLiteral_of_plain_after hsign (by decide) (by omega) fun y hy => ?_
  rw [h.slice_eq] at hy
  exact isQuote_of_inert (List.all_eq_true.1 hinert y hy)

/-- A word of the text in front of a shown sign is shown, if the blanks between them are. -/
theorem endWord_of_text (hsign : (mask text)[sign]? = some '=')
    (hsame : endGap (text.take sign) = endGap ((mask text).take sign))
    (hne : endWord (text.take sign) ≠ []) :
    endWord ((mask text).take sign) = endWord (text.take sign) := by
  have hlt : sign < text.length := length_mask text ▸ (List.getElem?_eq_some_iff.1 hsign).1
  obtain ⟨i, j, hword, hgap, hedge, -⟩ := exists_takes_end hlt.le
  obtain ⟨-, j', -, hgap', -, hsolid⟩ :=
    @exists_takes_end (mask text) sign (by rw [length_mask]; exact hlt.le)
  rw [← hsame] at hgap'
  obtain rfl : j = j' := by
    have hends := hgap.ends
    have hends' := hgap'.ends
    omega
  have hletters : ∀ x ∈ endWord (text.take sign), Text.isWord x = true := forall_mem_endWord
  have hblanks : ∀ x ∈ endGap (text.take sign), Text.isBlank x = true := forall_mem_endGap
  generalize endWord (text.take sign) = word at hword hne hletters ⊢
  generalize endGap (text.take sign) = gap at hgap hgap' hblanks
  -- the last letter is shown, since it is neither blank nor inside of a literal
  obtain ⟨letters, x, rfl⟩ := (List.eq_nil_or_concat' word).resolve_left hne
  obtain ⟨k, hfirst, hlast⟩ := takes_append.1 hword
  obtain ⟨hx, rfl⟩ := Pattern.takes_single.1 hlast
  have hk : k < (mask text).length := by
    rw [length_mask]
    exact (List.getElem?_eq_some_iff.1 hx).1
  have hshown := List.getElem?_eq_getElem hk
  have hsolidLetter : Text.isWord (mask text)[k] = true := by
    have hblank := hsolid _ (last_of_getElem? hshown)
    obtain heq | ⟨-, heq | heq⟩ := covers_of_getElem? hshown hx
    · rw [heq]
      exact hletters x (by simp)
    · rw [heq]
      decide
    · rw [heq] at hblank
      cases hblank
  obtain ⟨-, -, hbehind⟩ :=
    @text_of_shown _ [] _ _ _ _ hsign (Pattern.takes_cons.2 ⟨hshown, hgap'⟩) hsolidLetter
      (by simp) hblanks
  have hbefore := hbehind.takes_before hword fun y hy => ordinary_of_isWord (hletters y hy)
  have hboth := takes_append.2 ⟨_, (hbefore.takes_shown hword (inert_of_isWord hletters)).1, hgap'⟩
  refine (end_of_takes hboth hne hletters hblanks fun y hy => ?_).1
  have hi : i ≤ (mask text).length := by
    rw [length_mask]
    exact hbefore.le
  obtain ⟨l, rfl, hget⟩ := getElem?_of_last hi hy
  refine Bool.eq_false_iff.2 fun hyword => ?_
  obtain ⟨htext, -⟩ := text_of_shown hsign (Pattern.takes_cons.2 ⟨hget, hboth⟩) hyword
    hletters hblanks
  cases hyword.symm.trans (hedge y (last_of_getElem? htext))

/-- A word that is shown in front of a sign is one of the text, if the blanks between them are. -/
theorem endWord_of_shown (hsign : (mask text)[sign]? = some '=')
    (hsame : endGap (text.take sign) = endGap ((mask text).take sign))
    (hne : endWord ((mask text).take sign) ≠ []) :
    endWord (text.take sign) = endWord ((mask text).take sign) := by
  have hlt : sign < text.length := length_mask text ▸ (List.getElem?_eq_some_iff.1 hsign).1
  obtain ⟨-, j', -, hgap', -, -⟩ := exists_takes_end hlt.le
  obtain ⟨i, j, hword, hgap, hedge, -⟩ :=
    @exists_takes_end (mask text) sign (by rw [length_mask]; exact hlt.le)
  rw [hsame] at hgap'
  obtain rfl : j = j' := by
    have hends := hgap.ends
    have hends' := hgap'.ends
    omega
  have hletters : ∀ x ∈ endWord ((mask text).take sign), Text.isWord x = true := forall_mem_endWord
  have hblanks : ∀ x ∈ endGap ((mask text).take sign), Text.isBlank x = true := forall_mem_endGap
  generalize endWord ((mask text).take sign) = word at hword hne hletters ⊢
  generalize endGap ((mask text).take sign) = gap at hgap hgap' hblanks
  have hbefore : Outside text i := by
    obtain ⟨x, letters, rfl⟩ := List.exists_cons_of_ne_nil hne
    obtain ⟨hx, hrest⟩ := List.forall_mem_cons.1 hletters
    exact (text_of_shown hsign (takes_append.2 ⟨_, hword, hgap⟩) hx hrest hblanks).2.1
  have hsolid : ∀ y ∈ word, Text.isBlank y = false :=
    fun y hy => not_isBlank_of_isWord (hletters y hy)
  have htext := (hbefore.takes_of_shown hword (inert_of_isWord hletters) hsolid).1
  refine (end_of_takes (takes_append.2 ⟨_, htext, hgap'⟩) hne hletters hblanks fun y hy => ?_).1
  obtain ⟨l, rfl, hget⟩ := getElem?_of_last hbefore.le hy
  refine Bool.eq_false_iff.2 fun hyword => ?_
  have hordinary := ordinary_of_isWord hyword
  obtain ⟨hshown, -⟩ := (hbefore.before hget hordinary).shown hget
    (isInert_of_solid (solid_of_isWord hyword))
  cases hyword.symm.trans (hedge y (last_of_getElem? hshown))

/-- Behind statement text the words are shown. -/
theorem takeWhile_shown (h : Outside text i) :
    ((mask text).drop i).takeWhile Text.isWord = (text.drop i).takeWhile Text.isWord := by
  have hletters : ∀ x ∈ (text.drop i).takeWhile Text.isWord, Text.isWord x = true :=
    List.all_eq_true.1 List.all_takeWhile
  obtain ⟨hshown, hbehind⟩ :=
    h.takes_shown (Pattern.takes_spanEnd Text.isWord i) (inert_of_isWord hletters)
  rw [hshown.starts]
  refine (span_append hletters fun y hy => ?_).1
  rw [List.head?_drop] at hy
  refine Bool.eq_false_iff.2 fun hyword => ?_
  have htext := hbehind.of_shown hy (not_isBlank_of_isWord hyword)
  rw [← List.head?_drop] at htext
  cases hyword.symm.trans (Pattern.head_spanEnd Text.isWord i y htext)

/-- The word behind a sign is shown, if the blanks between them are. -/
theorem startWord_shown (h : Outside text i)
    (hsame : startGap (text.drop i) = startGap ((mask text).drop i)) :
    startWord ((mask text).drop i) = startWord (text.drop i) := by
  have hblanks : ∀ x ∈ startGap (text.drop i), Text.isBlank x = true :=
    List.all_eq_true.1 List.all_takeWhile
  have hbehind := (h.takes_shown (Pattern.takes_spanEnd Text.isBlank i) (inert_of_blanks hblanks)).2
  have hend : spanEnd (mask text) Text.isBlank i = spanEnd text Text.isBlank i :=
    congrArg (i + List.length ·) hsame.symm
  rw [startWord, startWord, ← Pattern.drop_spanEnd, ← Pattern.drop_spanEnd, hend,
    takeWhile_shown hbehind]

/-! ## Properties -/

theorem isWord_of_property {keyword : String} (hmem : keyword ∈ propertyKeywords)
    (h : Spells keyword word) :
    word ≠ [] ∧ ∀ x ∈ word, Text.isWord x = true := by
  have hall : (propertyKeywords.all fun letters =>
      !letters.toList.isEmpty && letters.toList.all fun c => Text.isAsciiLetter c || c == '_') =
        true := by decide
  exact isWord_of_letters (List.all_eq_true.1 hall keyword hmem) h

/-- Where the signs of properties are statement text, the properties of a text are those of its
mask. -/
theorem namedAt_mask {keyword : String} (hmem : keyword ∈ propertyKeywords) (h : Legible text)
    {value : List Char} :
    NamedAt keyword (mask text) i value ↔ NamedAt keyword text i value := by
  constructor
  · rintro ⟨sign, hsign, hspells, hend, hvalue, hne⟩
    obtain ⟨hget, -, hbehind⟩ :=
      outside_of_shown hsign (by decide) (not_inLiteral_of_plain hsign (by decide))
    have hlisted : isOneOf propertyKeywords (endWord ((mask text).take sign)) = true :=
      isOneOf_iff.2 ⟨keyword, hmem, hspells⟩
    obtain ⟨-, hgap, hgap'⟩ := h sign (List.getElem?_eq_some_iff.1 hget).1 hget (.inr hlisted)
    have hword := endWord_of_shown hsign hgap (isWord_of_property hmem hspells).1
    rw [startWord_shown hbehind hgap'] at hvalue
    rw [← hgap, ← hword] at hend
    exact ⟨sign, hget, hword ▸ hspells, hend, hvalue, hne⟩
  · rintro ⟨sign, hget, hspells, hend, hvalue, hne⟩
    have hlisted : isOneOf propertyKeywords (endWord (text.take sign)) = true :=
      isOneOf_iff.2 ⟨keyword, hmem, hspells⟩
    obtain ⟨hsign, hgap, hgap'⟩ := h sign (List.getElem?_eq_some_iff.1 hget).1 hget (.inl hlisted)
    obtain ⟨-, -, hbehind⟩ :=
      outside_of_shown hsign (by decide) (not_inLiteral_of_plain hsign (by decide))
    have hword := endWord_of_text hsign hgap (isWord_of_property hmem hspells).1
    rw [← startWord_shown hbehind hgap'] at hvalue
    rw [hgap, ← hword] at hend
    exact ⟨sign, hsign, hword.symm ▸ hspells, hend, hvalue, hne⟩

/-- What the pattern of a property reads is one. -/
theorem namedAt_of_reads {keyword : String} (hmem : keyword ∈ propertyKeywords) {d : Captures}
    (h : Reads text (namedProperty keyword) i [] j d) : ∃ value, NamedAt keyword text i value := by
  obtain ⟨_, _, hstart, h⟩ := Pattern.reads_all_cons.1 h
  obtain ⟨rfl, rfl, hedge⟩ := Pattern.reads_wordEdge.1 hstart
  obtain ⟨a, _, hkeyword, h⟩ := Pattern.reads_all_cons.1 h
  obtain ⟨rfl, word, hword, hspells⟩ := Pattern.reads_word.1 hkeyword
  obtain ⟨hne, hletters⟩ := isWord_of_property hmem hspells
  obtain ⟨sign, _, hblanks, h⟩ := Pattern.reads_all_cons.1 h
  obtain ⟨rfl, gap, hgap, hblank⟩ := Pattern.reads_many_one.1 hblanks
  obtain ⟨b, _, hsign, h⟩ := Pattern.reads_all_cons.1 h
  obtain ⟨rfl, x, hx, hequals⟩ := Pattern.reads_one.1 hsign
  obtain ⟨hget, rfl⟩ := Pattern.takes_single.1 hx
  obtain rfl := eq_of_beq hequals
  obtain ⟨k, _, hblanks', h⟩ := Pattern.reads_all_cons.1 h
  obtain ⟨rfl, gap', hgap', hblank'⟩ := Pattern.reads_many_one.1 hblanks'
  obtain ⟨stop, _, hcapture, -⟩ := Pattern.reads_all_cons.1 h
  obtain ⟨_, rfl, hname⟩ := Pattern.reads_capture.1 hcapture
  obtain ⟨rfl, value, hvalue, hvaluene, hvalueletters⟩ := Pattern.reads_many1_one.1 hname
  have hbefore := (hword.isWordEdge_start hne hletters).1 hedge
  obtain ⟨hendword, hendgap⟩ :=
    end_of_takes (takes_append.2 ⟨_, hword, hgap⟩) hne hletters hblank hbefore
  refine ⟨_, sign, hget, ?_, ?_, rfl, ?_⟩
  · rwa [hendword]
  · rw [hendword, hendgap, (takes_append.2 ⟨_, hword, hgap⟩ : Takes text (word ++ gap) i sign).ends]
  · obtain ⟨y, letters, rfl⟩ := List.exists_cons_of_ne_nil hvaluene
    have hy := hvalueletters y List.mem_cons_self
    rw [startWord, hgap'.starts, hvalue.starts, List.cons_append,
      (span_append hblank' (by rintro _ ⟨⟩; exact not_isBlank_of_isWord hy)).2,
      List.takeWhile_cons_of_pos hy]
    exact List.cons_ne_nil _ _

/-- Where a property stands, its pattern is found with its value. -/
theorem matchAt_of_namedAt {keyword : String} (hmem : keyword ∈ propertyKeywords)
    {value : List Char} (h : NamedAt keyword text i value) :
    (matchAt (namedProperty keyword) text.length (placeAt text i)).map (·.group text 1) =
      some value := by
  obtain ⟨sign, hget, hspells, hend, hvalue, hne⟩ := h
  have hlt : sign < text.length := (List.getElem?_eq_some_iff.1 hget).1
  obtain ⟨k, a, hword, hgap, hedge, -⟩ := exists_takes_end hlt.le
  obtain rfl : i = k := by
    have hends := (takes_append.2 ⟨_, hword, hgap⟩ : Takes text _ k sign).ends
    omega
  have hletters : ∀ x ∈ endWord (text.take sign), Text.isWord x = true := forall_mem_endWord
  have hblank : ∀ x ∈ endGap (text.take sign), Text.isBlank x = true := forall_mem_endGap
  have hwordne := (isWord_of_property hmem hspells).1
  have hsign : Takes text ['='] sign (sign + 1) := Pattern.takes_single.2 ⟨hget, rfl⟩
  have hgap' := @Pattern.takes_spanEnd text Text.isBlank (sign + 1)
  have hrest' := @Pattern.head_spanEnd text Text.isBlank (sign + 1)
  have hblank' : ∀ x ∈ (text.drop (sign + 1)).takeWhile Text.isBlank, Text.isBlank x = true :=
    List.all_eq_true.1 List.all_takeWhile
  rw [startWord, ← Pattern.drop_spanEnd] at hvalue
  generalize spanEnd text Text.isBlank (sign + 1) = b at *
  have htakes := @Pattern.takes_spanEnd text Text.isWord b
  have hrest := @Pattern.head_spanEnd text Text.isWord b
  rw [hvalue] at htakes
  have hvalueletters : ∀ x ∈ value, Text.isWord x = true := by
    rw [← hvalue]
    exact List.all_eq_true.1 List.all_takeWhile
  generalize spanEnd text Text.isWord b = stop at *
  have hgoes : Goes text (namedProperty keyword) i [] stop [(1, b, stop)] := by
    refine .cons (.wordEdge ((hword.isWordEdge_start hwordne hletters).2 hedge)) ?_
    refine .cons (.word hword hspells) ?_
    refine .cons (.many_one hgap hblank ?_) ?_
    · rw [hsign.starts]
      rintro _ ⟨⟩
      decide
    refine .cons (.one hsign (by decide)) ?_
    refine .cons (.many_one hgap' hblank' hrest') ?_
    exact .cons (.capture (.many1_one htakes hne hvalueletters hrest)) .nil
  rw [Pattern.matchAt_of_goes hgoes, Option.map_some, Match.group, Match.span?]
  exact congrArg some htakes.slice_eq

theorem value_iff {keyword : String} (hmem : keyword ∈ propertyKeywords) {value : List Char} :
    (matchAt (namedProperty keyword) text.length (placeAt text i)).map (·.group text 1) =
      some value ↔
      NamedAt keyword text i value := by
  refine ⟨fun h => ?_, matchAt_of_namedAt hmem⟩
  obtain ⟨m, hm, -⟩ := Option.map_eq_some_iff.1 h
  obtain ⟨other, hother⟩ := namedAt_of_reads hmem (Pattern.of_matchAt hm).2
  obtain rfl := Option.some.inj (h.symm.trans (matchAt_of_namedAt hmem hother))
  exact hother

/-- Where the signs of properties are statement text, the values are those of the mask. -/
theorem propertyValue_mask {keyword : String} (hmem : keyword ∈ propertyKeywords)
    (h : Legible text) :
    propertyValue (namedProperty keyword) (mask text) =
      propertyValue (namedProperty keyword) text := by
  have hvalues : ((namedProperty keyword).find? (mask text)).map (·.group (mask text) 1) =
      ((namedProperty keyword).find? text).map (·.group text 1) := by
    refine Pattern.map_find?_congr (length_mask text) fun i _ => Option.ext fun value => ?_
    exact (value_iff hmem).trans ((namedAt_mask hmem h).trans (value_iff hmem).symm)
  have hstrings := congrArg (Option.map String.ofList) hvalues
  rwa [Option.map_map, Option.map_map] at hstrings

/-! ## The text of the properties -/

/-- The text between the name of a dynamic table and `AS`. -/
def tableSection (text : List Char) : List Char :=
  match dynamicTableHead.findOutside text with
  | [] => []
  | m :: _ => m.group text 3

/-- The name of a dynamic table is shown as it is, and its properties stand between two offsets
outside of literals. -/
theorem dynamicTableHead_spans {m : Match} (h : m.Of dynamicTableHead (mask text)) : ∃ k a b,
    m.span? 2 = some (k, a) ∧ m.span? 3 = some (a, b) ∧ slice text k a = slice (mask text) k a ∧
      a ≤ b ∧
      Outside text a ∧ Outside text b := by
  obtain ⟨a, e, hfront, hback⟩ :=
    (@Pattern.reads_all_append _ (dynamicTableStart ++ [Pattern.capture 2 dynamicTableName])
      dynamicTableEnd _ _ _ _).1 h.reads
  have hquotes := not_isQuote_of_avoids hfront (by cbv)
  rw [start_of_atStart hfront] at hquotes
  have hliteral {offset : Nat} (hoffset : offset < a) : ¬ InLiteral .code (mask text) offset := by
    refine not_inLiteral_of_no_quote fun x hx => hquotes x ?_
    rw [slice, List.drop_zero, Nat.sub_zero]
    exact (List.take_prefix_take_left hoffset.le).subset hx
  have hstop := hfront.le_length h.start_le
  rw [length_mask] at hstop
  obtain ⟨k, d, -, hrest⟩ := Pattern.reads_all_append.1 hfront
  obtain ⟨stop, _, hcapture, hnil⟩ := Pattern.reads_all_cons.1 hrest
  obtain ⟨rfl, rfl⟩ := Pattern.reads_all_nil.1 hnil
  obtain ⟨_, rfl, hname⟩ := Pattern.reads_capture.1 hcapture
  obtain ⟨b, _, hsection, has⟩ := Pattern.reads_all_cons.1 hback
  obtain ⟨_, rfl, hany⟩ := Pattern.reads_capture.1 hsection
  refine ⟨k, stop, b, ?_, ?_, ?_, hany.le, ?_, (outside_of_reads has (by cbv)).1⟩
  · rw [Match.span?, hback.lookup_eq (by decide)]
    rfl
  · rw [Match.span?, has.lookup_eq (by decide)]
    rfl
  · exact slice_of_reads hname (by cbv) (fun _ _ hoffset => hliteral hoffset) hstop
  · have hlt := hname.lt (by cbv)
    have havoids : dynamicTableName.avoidsLast unsolid = true := by cbv
    obtain ⟨x, hx, hsolid⟩ := (hname.last havoids).resolve_left (Nat.ne_of_lt hlt)
    obtain ⟨-, -, hbehind⟩ := outside_of_shown hx (isSolid_of_not_mem hsolid) (hliteral (by omega))
    rwa [Nat.sub_add_cancel (by omega)] at hbehind

end

/-! ## Texts with one mask -/

/-- Texts with the same mask give the same number of records, tables of the same name, and the same
properties where the signs of properties are statement text. -/
theorem same_mask_same_table {text other : List Char} (hmask : mask text = mask other) :
    (encodeDynamicTable text).records.length = (encodeDynamicTable other).records.length ∧
      ∀ table table' : DynamicTable, Record.dynamicTable table ∈ (encodeDynamicTable text).records →
        Record.dynamicTable table' ∈ (encodeDynamicTable other).records →
          table.name = table'.name ∧ (Legible (tableSection text) → Legible (tableSection other) →
            table.refreshMode = table'.refreshMode ∧ table.initialMode = table'.initialMode ∧
              table.warehouse = table'.warehouse) := by
  have hfound : dynamicTableHead.findOutside other = dynamicTableHead.findOutside text := by
    rw [Pattern.findOutside, Pattern.findOutside, hmask]
  cases htables : dynamicTableHead.findOutside text with
  | nil => simp [encodeDynamicTable, hfound, htables]
  | cons m rest =>
      have hmem : m ∈ dynamicTableHead.findOutside text := htables ▸ List.mem_cons_self
      have hof : m.Of dynamicTableHead (mask text) := ((Pattern.inOrder_findAll _ _).each m hmem).1
      obtain ⟨k, a, b, hnamespan, hspan, hname, hle, hstart, hend⟩ := dynamicTableHead_spans hof
      obtain ⟨k', a', b', hnamespan', hspan', hname', -, hstart', hend'⟩ :=
        dynamicTableHead_spans (hmask ▸ hof)
      obtain ⟨rfl, rfl⟩ := Prod.mk.inj (Option.some.inj (hnamespan.symm.trans hnamespan'))
      obtain ⟨-, rfl⟩ := Prod.mk.inj (Option.some.inj (hspan.symm.trans hspan'))
      have hsame : mask (slice text a b) = mask (slice other a b) := by
        rw [(hstart.scan_slice hend hle).2, (hstart'.scan_slice hend' hle).2, hmask]
      have hvalue {keyword : String} (hmem : keyword ∈ propertyKeywords)
        (h : Legible (slice text a b))
          (h' : Legible (slice other a b)) : propertyValue (namedProperty keyword)
            (slice text a b) =
            propertyValue (namedProperty keyword) (slice other a b) := by
        rw [← propertyValue_mask hmem h, ← propertyValue_mask hmem h', hsame]
      simp only [encodeDynamicTable, tableSection, hfound, htables, List.length_singleton,
        List.mem_singleton, Record.dynamicTable.injEq, true_and]
      rintro table table' rfl rfl
      simp only [readDynamicTable, Match.group, hnamespan, hspan]
      refine ⟨by rw [hname, hname', hmask], fun h h' => ⟨?_, ?_, ?_⟩⟩
      · exact hvalue (by decide) h h'
      · exact hvalue (by decide) h h'
      · exact hvalue (by decide) h h'

/-- The text of a dynamic table with its refresh lag in a literal and in a comment. -/
def laggingTable (lag : String) : List Char :=
  ("create dynamic table t target_lag='" ++ lag ++ "' --" ++ lag ++
    "\nwarehouse=a as select 1").toList

theorem same_mask_same_table_lagging :
    mask (laggingTable "1 h") = mask (laggingTable "5 d") ∧
      (encodeDynamicTable (laggingTable "1 h")).records =
        [.dynamicTable { name := "t", targetLag := some "1 h", warehouse := some "a" }] ∧
      (encodeDynamicTable (laggingTable "1 h")).records.length =
        (encodeDynamicTable (laggingTable "5 d")).records.length ∧
      Legible (tableSection (laggingTable "1 h")) ∧ Legible (tableSection (laggingTable "5 d")) ∧
      (readDynamicTable "t".toList (tableSection (laggingTable "5 d"))).warehouse = some "a" := by
  obtain ⟨hmask, hrecords, hother, hlegible, hlegible'⟩ :
      mask (laggingTable "1 h") = mask (laggingTable "5 d") ∧
        (encodeDynamicTable (laggingTable "1 h")).records =
          [.dynamicTable { name := "t", targetLag := some "1 h", warehouse := some "a" }] ∧
        (encodeDynamicTable (laggingTable "5 d")).records =
          [.dynamicTable (readDynamicTable "t".toList (tableSection (laggingTable "5 d")))] ∧
        Legible (tableSection (laggingTable "1 h")) ∧
          Legible (tableSection (laggingTable "5 d")) := by
    decide +kernel
  obtain ⟨hlength, htables⟩ := same_mask_same_table hmask
  obtain ⟨-, hproperties⟩ :=
    htables _ _ (hrecords ▸ List.mem_singleton_self _) (hother ▸ List.mem_singleton_self _)
  exact ⟨hmask, hrecords, hlength, hlegible, hlegible', (hproperties hlegible hlegible').2.2.symm⟩

/-- The inside of a comment can give a property of its own. -/
theorem comment_gives_property :
    mask "create dynamic table t /*warehouse=b*/ warehouse=a as select 1".toList =
        mask "create dynamic table t /*           */ warehouse=a as select 1".toList ∧
      (encodeDynamicTable
        "create dynamic table t /*warehouse=b*/ warehouse=a as select 1".toList).records =
        [.dynamicTable { name := "t", warehouse := some "b" }] ∧
      (encodeDynamicTable
        "create dynamic table t /*           */ warehouse=a as select 1".toList).records =
        [.dynamicTable { name := "t", warehouse := some "a" }] := by
  decide +kernel

end SqlLayout.Placeholder
