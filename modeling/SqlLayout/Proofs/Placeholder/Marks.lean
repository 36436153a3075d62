import SqlLayout.Proofs.Placeholder.Standing
import SqlLayout.Proofs.Placeholder.TypeWords
import SqlLayout.Proofs.Source.Neighbours

/-!
# Marks of placeholders

A mark is what the tokens of one kind start with.  A text without marks gets none before its indexed
calls are folded, and then its marks are in the tokens of the calls that were folded.  So a pivot
clause that holds a mark holds such a token.

## Implementation notes

A mark starts with an underscore and has only capital letters and underscores.  A mark of an edited
text is therefore in a replacement or in what is kept, as long as no replacement goes on from such a
character in the text before it, nor goes on behind itself after an underscore.
-/

namespace SqlLayout.Placeholder

open Pattern (Captures Match Reads Takes slice splice)
open Source

/-- What tokens start with. -/
def marks : List (List Char) :=
  [arrayAccessMark.toList, groupByAllMark.toList, pivotMark.toList, castToken.toList]

/-- The characters of marks. -/
def markChars : List Char :=
  "_ABCDEFGHIJKLMNOPQRSTUVWXYZ".toList

/-- A text without marks. -/
def Unmarked (text : List Char) : Prop :=
  ∀ mark ∈ marks, ¬ mark <:+: text

instance (text : List Char) : Decidable (Unmarked text) :=
  inferInstanceAs (Decidable (∀ mark ∈ marks, ¬ mark <:+: text))

section

variable {text mark front back part : List Char} {i j : Nat} {c : Char}

theorem mark_spec (h : mark ∈ marks) : mark.head? = some '_' ∧ ∀ c ∈ mark, c ∈ markChars := by
  have hall : (marks.all fun mark => mark.head? == some '_' && mark.all fun c =>
      markChars.contains c) = true := by
    decide
  obtain ⟨hfirst, hchars⟩ := Bool.and_eq_true_iff.1 (List.all_eq_true.1 hall mark h)
  exact ⟨eq_of_beq hfirst, fun c hc => List.contains_iff_mem.1 (List.all_eq_true.1 hchars c hc)⟩

theorem word_of_markChars (h : c ∈ markChars) : Text.isWord c = true ∧ c ≠ '\n' ∧ c ≠ '\\' := by
  have hall : (markChars.all fun c => Text.isWord c && c != '\n' && c != '\\') = true := by decide
  simpa [and_assoc] using List.all_eq_true.1 hall c h

theorem not_infix_of_not_mem (hmark : mark ∈ marks) (h : '_' ∉ text) : ¬ mark <:+: text :=
  fun hinside => h (hinside.subset (List.mem_of_mem_head? (mark_spec hmark).1))

/-- Where one of two texts meets the other with a character that is in no mark, a mark is in one of
them. -/
theorem infix_append (hmark : mark ∈ marks) (h : mark <:+: front ++ back)
    (hseam : (∀ x ∈ front.getLast?, x ∉ markChars) ∨ ∀ y ∈ back.head?, y ∉ markChars) :
    mark <:+: front ∨ mark <:+: back := by
  obtain hfront | hback | ⟨left, right, hleft, hright, rfl, hsuffix, hprefix⟩ :=
    List.infix_append_iff_ne_nil.1 h
  · exact .inl hfront
  · exact .inr hback
  · obtain ⟨-, hchars⟩ := mark_spec hmark
    obtain ⟨before, rfl⟩ := hsuffix
    obtain ⟨behind, rfl⟩ := hprefix
    obtain hlast | hfirst := hseam
    · refine absurd (hchars _ (List.mem_append_left _ (List.getLast_mem hleft))) (hlast _ ?_)
      rw [List.getLast?_append_of_ne_nil _ hleft, List.getLast?_eq_some_getLast hleft]
      rfl
    · refine absurd (hchars _ (List.mem_append_right _ (List.head_mem hright))) (hfirst _ ?_)
      rw [List.head?_append_of_ne_nil _ hright, List.head?_eq_some_head hright]
      rfl

theorem infix_of_takes (h : Takes text part i j) : part <:+: text :=
  ⟨text.take i, text.drop j, by rw [List.append_assoc, ← h.starts, List.take_append_drop]⟩

theorem exists_takes (h : part <:+: text) : ∃ i, Takes text part i (i + part.length) := by
  obtain ⟨front, back, rfl⟩ := h
  have hdrop : (front ++ part ++ back).drop front.length = part ++ back := by
    rw [List.append_assoc, List.drop_left]
  exact ⟨front.length, (Pattern.takes_of_drop hdrop).1⟩

theorem takes_left (h : Takes (front ++ back) part i j) (hj : j ≤ front.length) :
    Takes front part i j := by
  have hends := h.ends
  have hstarts := h.starts
  rw [List.drop_append_of_le_length (by omega),
    List.drop_append_of_le_length hj, ← List.append_assoc] at hstarts
  exact ⟨List.append_cancel_right hstarts, hends⟩

theorem takes_right (h : Takes (front ++ back) part i j) (hi : front.length ≤ i) :
    Takes back part (i - front.length) (j - front.length) := by
  have hends := h.ends
  have hstarts := h.starts
  rw [List.drop_append, List.drop_append, List.drop_eq_nil_of_le hi,
    List.drop_eq_nil_of_le (show front.length ≤ j by omega)] at hstarts
  exact ⟨hstarts, by omega⟩

theorem first_of_takes (hmark : mark ∈ marks) (h : Takes text mark i j) : text[i]? = some '_' := by
  rw [← List.head?_drop, h.starts, List.head?_append, (mark_spec hmark).1]
  rfl

/-- A mark ends before the next character that is in no mark. -/
theorem stop_le_of_takes (hmark : mark ∈ marks) (h : Takes text mark i j) {k : Nat} (hik : i ≤ k)
    (hget : text[k]? = some c) (hc : c ∉ markChars) : j ≤ k := by
  by_contra hlt
  have hends := h.ends
  have hmem : c ∈ mark := h.slice_eq ▸ Pattern.mem_slice hik (by omega) hget
  exact hc ((mark_spec hmark).2 c hmem)

/-! ## Seams -/

/-- A replacement at the two ends of which no mark can stand across. -/
structure Seamed (text : List Char) (edit : Match × List Char) : Prop where
  front : (∃ y, edit.2.head? = some y ∧ y ∉ markChars) ∨ ∀ x ∈ (text.take edit.1.start).getLast?,
    x ∉ markChars
  back : ∃ a b, edit.2 = a ++ b ∧ (∀ x ∈ a.getLast?, x ∉ markChars) ∧ '_' ∉ b

/-- A mark of a text that is cut around a replacement stands in one of the three parts. -/
theorem takes_of_seamed {last : Nat} {edit : Match × List Char} {rest : List Char}
    (hmark : mark ∈ marks) (hseamed : Seamed text edit) (hlast : last ≤ edit.1.start)
    (h : Takes (slice text last edit.1.start ++ (edit.2 ++ rest)) mark i j) :
    Takes (slice text last edit.1.start) mark i j ∨
      (∃ k, i = (slice text last edit.1.start).length + k ∧ Takes edit.2 mark k (k + mark.length)) ∨
      ∃ k, i = (slice text last edit.1.start).length + (edit.2.length + k) ∧
        Takes rest mark k (k + mark.length) := by
  have hends := h.ends
  obtain hi | hi := Nat.lt_or_ge i (slice text last edit.1.start).length
  · left
    refine takes_left h ?_
    obtain ⟨y, hy, hnot⟩ | hbefore := hseamed.front
    · refine stop_le_of_takes hmark h hi.le ?_ hnot
      rw [List.getElem?_append_right (Nat.le_refl _), Nat.sub_self, ← List.head?_eq_getElem?,
        List.head?_append, hy]
      rfl
    · -- the last character that is kept before the replacement is in no mark
      obtain ⟨x, hx⟩ : ∃ x, (slice text last edit.1.start).getLast? = some x :=
        ⟨_, List.getLast?_eq_some_getLast (List.ne_nil_of_length_pos (by omega))⟩
      have hnot : x ∉ markChars := by
        refine hbefore x ?_
        rw [← Pattern.take_append_slice hlast, List.getLast?_append, hx]
        rfl
      have hstop := stop_le_of_takes hmark h
        (show i ≤ (slice text last edit.1.start).length - 1 by omega)
        (by rw [List.getElem?_append_left (by omega), ← List.getLast?_eq_getElem?, hx]) hnot
      omega
  · right
    obtain ⟨k, rfl⟩ : ∃ k, i = (slice text last edit.1.start).length + k :=
      ⟨_, (Nat.add_sub_cancel' hi).symm⟩
    have hbehind := takes_right h hi
    rw [Nat.add_sub_cancel_left, show j - (slice text last edit.1.start).length =
      k + mark.length by omega] at hbehind
    obtain hk | hk := Nat.lt_or_ge k edit.2.length
    · left
      refine ⟨k, rfl, takes_left hbehind ?_⟩
      obtain ⟨a, b, hreplacement, ha, hb⟩ := hseamed.back
      have hfirst := first_of_takes hmark hbehind
      rw [List.getElem?_append_left hk, hreplacement] at hfirst
      rw [hreplacement, List.append_assoc] at hbehind
      rw [hreplacement, List.length_append] at hk ⊢
      -- a mark that starts behind the last character that is in no mark starts with an underscore
      -- there
      obtain hka | hka := Nat.lt_or_ge k a.length
      · obtain ⟨x, hx⟩ : ∃ x, a.getLast? = some x :=
          ⟨_, List.getLast?_eq_some_getLast (List.ne_nil_of_length_pos (by omega))⟩
        have hstop := stop_le_of_takes hmark hbehind (show k ≤ a.length - 1 by omega)
          (by rw [List.getElem?_append_left (by omega), ← List.getLast?_eq_getElem?, hx]) (ha x hx)
        omega
      · rw [List.getElem?_append_right hka] at hfirst
        exact absurd (List.mem_of_getElem? hfirst) hb
    · right
      refine ⟨k - edit.2.length, by omega, ?_⟩
      have hrest := takes_right hbehind hk
      rwa [show k + mark.length - edit.2.length = k - edit.2.length + mark.length by omega] at hrest

theorem isInfix_slice (text : List Char) (i j : Nat) : slice text i j <:+: text :=
  (List.take_prefix _ _).isInfix.trans (List.drop_suffix _ _).isInfix

theorem isInfix_group (m : Match) (text : List Char) (group : Nat) :
    m.group text group <:+: text := by
  rw [Match.group]
  split
  · exact isInfix_slice text _ _
  · exact List.nil_infix

/-- A mark of an edited text is one of the text, or it stands in a replacement. -/
theorem takes_splice {last : Nat} {edits : List (Match × List Char)} (hmark : mark ∈ marks)
    (hedits : EditsFrom text last edits) (hseamed : ∀ edit ∈ edits, Seamed text edit)
    (h : Takes (splice text last edits) mark i j) :
    mark <:+: text ∨ ∃ done edit next k, edits = done ++ edit :: next ∧
      i = (splice (text.take edit.1.start) last done).length + k ∧
        Takes edit.2 mark k (k + mark.length) := by
  induction edits generalizing last i j with
  | nil => exact .inl ((infix_of_takes h).trans (List.drop_suffix last text).isInfix)
  | cons edit rest ih =>
      obtain ⟨hedit, hrest⟩ := List.forall_mem_cons.1 hseamed
      obtain ⟨hsafe, hle⟩ := hedits.head
      rw [splice, List.append_assoc] at h
      obtain hkept | ⟨k, hi, hinside⟩ | ⟨k, hi, hlater⟩ := takes_of_seamed hmark hedit hle h
      · exact .inl ((infix_of_takes hkept).trans (isInfix_slice text _ _))
      · refine .inr ⟨[], edit, rest, k, rfl, ?_, hinside⟩
        rw [hi, splice, List.drop_take]
        rfl
      · obtain hinside | ⟨done, later, next, k', rfl, hk, htakes⟩ := ih hedits.tail hrest hlater
        · exact .inl hinside
        · refine .inr ⟨edit :: done, later, next, k', rfl, ?_, htakes⟩
          have hstart := hsafe.le.trans (hedits.tail.each later (by simp)).2
          rw [splice, slice_take hstart, List.length_append, List.length_append, hi, hk]
          omega

/-- A text stays without marks when no replacement has one of its own. -/
theorem unmarked_splice {edits : List (Match × List Char)} (h : Unmarked text)
    (hedits : EditsFrom text 0 edits) (hseamed : ∀ edit ∈ edits, Seamed text edit)
    (hown : ∀ edit ∈ edits, ∀ mark ∈ marks, mark <:+: edit.2 → mark <:+: text) :
    Unmarked (splice text 0 edits) := by
  intro mark hmark hinside
  obtain ⟨i, htakes⟩ := exists_takes hinside
  obtain hold | ⟨done, edit, next, k, rfl, -, hnew⟩ := takes_splice hmark hedits hseamed htakes
  · exact h mark hmark hold
  · exact h mark hmark (hown edit (by simp) mark hmark (infix_of_takes hnew))

/-! ## What stands before a replacement -/

/-- Where no word is shown to go on, the text has no character of a mark before it. -/
theorem last_of_shown (h : Outside text i)
    (hedge : ∀ y ∈ ((mask text).take i).getLast?, Text.isWord y = false) :
    ∀ x ∈ (text.take i).getLast?, x ∉ markChars := by
  intro x hx hmem
  obtain ⟨hword, -, -⟩ := word_of_markChars hmem
  obtain ⟨k, rfl, hget⟩ := getElem?_of_last h.le hx
  have hstart := h.before hget (ordinary_of_isWord hword)
  obtain ⟨hshown, -⟩ := hstart.shown hget (isInert_of_solid (solid_of_isWord hword))
  cases hword.symm.trans (hedge x (last_of_getElem? hshown))

/-! ## Steps -/

/-- What a group captures has no character that its pattern does not read. -/
theorem group_avoids {shown : List Char} {m : Match} {p : Pattern} (h : m.Of p shown) (group : Nat)
    (unread : List Char)
    (hgroup : (p.groups.all fun entry => entry.1 != group || entry.2.avoids unread) = true) :
    ∀ x ∈ m.group shown group, x ∉ unread := by
  rw [Match.group]
  cases hspan : m.span? group with
  | none => simp
  | some span =>
      obtain ⟨a, before, after, hmem, hread, -, -⟩ := h.span hspan
      have havoids : a.avoids unread = true := by simpa using List.all_eq_true.1 hgroup _ hmem
      exact hread.avoids havoids

/-- A group whose pattern reads no underscore captures none. -/
theorem not_mem_group {m : Match} {p : Pattern} (h : m.Of p (mask text))
    (hp : standsOutside p = true) (group : Nat) (hsolid : solidGroup p group = true)
    (hgroup : (p.groups.all fun entry => entry.1 != group || entry.2.avoids ['_']) = true) :
    '_' ∉ m.group text group := by
  rw [group_shown h hp group hsolid]
  exact fun hmem => group_avoids h group ['_'] hgroup '_' hmem List.mem_cons_self

/-- A replacement without an underscore is seamed when no word goes on to it. -/
theorem seamed_of_not_mem {edit : Match × List Char} (h : '_' ∉ edit.2)
    (hfront : (∃ y, edit.2.head? = some y ∧ y ∉ markChars) ∨
      ∀ x ∈ (text.take edit.1.start).getLast?, x ∉ markChars) : Seamed text edit :=
  ⟨hfront, [], edit.2, rfl, by simp, h⟩

theorem unmarked_decimals (h : Unmarked text) : Unmarked (normalizeDecimals text) := by
  have hdigits {edit : Match × List Char} (hedit : edit ∈ Stage.decimals.edits text) :
      ∃ digits, edit.2 = '0' :: '.' :: digits ∧ '_' ∉ edit.2 := by
    obtain ⟨m, hm, rfl⟩ := List.mem_map.1 hedit
    have hof := ((Pattern.inOrder_findAll leadingDotDecimal (mask text)).each m hm).1
    have hgroup := not_mem_group hof (by cbv) 1 (by cbv) (by cbv)
    exact ⟨_, rfl, by simpa using hgroup⟩
  refine unmarked_splice h (editsFrom_decimals text) (fun edit hedit => ?_)
    fun edit hedit mark hmark hinside => ?_
  · obtain ⟨digits, heq, hnot⟩ := hdigits hedit
    exact seamed_of_not_mem hnot (.inl ⟨'0', by rw [heq]; rfl, by decide⟩)
  · exact absurd hinside (not_infix_of_not_mem hmark (hdigits hedit).choose_spec.2)

theorem unmarked_dynamicTable (h : Unmarked text) : Unmarked (encodeDynamicTable text).text := by
  have htext : (encodeDynamicTable text).text = splice text 0 (Stage.dynamicTable.edits text) :=
    @Stage.text_of_apply .dynamicTable text _ (by decide) rfl
  have hparts {edit : Match × List Char} (hedit : edit ∈ Stage.dynamicTable.edits text) :
    edit.1.start = 0 ∧
      ∃ head : List Char, head.getLast? = some ' ' ∧ '_' ∉ head ∧
        edit.2 = head ++ edit.1.group text 2 ++ " AS".toList := by
    obtain ⟨m, hm, rfl⟩ := List.mem_map.1 hedit
    have hof := ((Pattern.inOrder_findAll dynamicTableHead (mask text)).each m
      (List.mem_of_mem_take hm)).1
    refine ⟨start_of_atStart hof.reads, _, ?_, ?_, rfl⟩
    · split <;> decide
    · split <;> decide
  rw [htext]
  refine unmarked_splice h (editsFrom_dynamicTable text) (fun edit hedit => ?_)
    fun edit hedit mark hmark hinside => ?_
  · obtain ⟨hstart, head, -, -, heq⟩ := hparts hedit
    refine ⟨.inr (by simp [hstart]), head ++ edit.1.group text 2 ++ [' '], "AS".toList, ?_,
      ?_, by decide⟩
    · rw [heq]
      simp
    · rw [List.getLast?_concat]
      rintro _ ⟨⟩
      decide
  · obtain ⟨-, head, hlast, hnot, heq⟩ := hparts hedit
    rw [heq] at hinside
    obtain hfront | hback := infix_append hmark hinside (.inr (by rintro _ ⟨⟩; decide))
    · obtain hhead | hname := infix_append hmark hfront (.inl (by rw [hlast]; rintro _ ⟨⟩; decide))
      · exact absurd hhead (not_infix_of_not_mem hmark hnot)
      · exact hname.trans (isInfix_group _ text 2)
    · exact absurd hback (not_infix_of_not_mem hmark (by decide))

theorem not_mem_upper_underscore (h : '_' ∉ part) : '_' ∉ Text.upper part := by
  rwa [← List.count_eq_zero, Text.count_upper (by decide), List.count_eq_zero]

theorem unmarked_replaceMarker {encoded : Encoded} (h : Unmarked text)
    (happly : Stage.replaceMarker.apply text = .ok encoded) : Unmarked encoded.text := by
  have hparts {edit : Match × List Char} (hedit : edit ∈ Stage.replaceMarker.edits text) :
      edit.1.Of createOrReplace (mask text) ∧ '_' ∉ edit.2 := by
    obtain ⟨m, hm, rfl⟩ := List.mem_map.1 hedit
    have hof := ((Pattern.inOrder_findAll createOrReplace (mask text)).each m
      (List.mem_of_mem_take hm)).1
    refine ⟨hof, fun hmem => ?_⟩
    obtain hmem | hmem := List.mem_append.1 hmem
    · exact absurd hmem (by decide)
    · exact not_mem_upper_underscore (not_mem_group hof (by cbv) 1 (by cbv) (by cbv)) hmem
  rw [Stage.text_of_apply (by decide) happly]
  refine unmarked_splice h (editsFrom_replaceMarker happly) (fun edit hedit => ?_)
    fun edit hedit mark hmark hinside => ?_
  · obtain ⟨hof, hnot⟩ := hparts hedit
    refine seamed_of_not_mem hnot (.inr (last_of_shown (outside_of_reads hof.reads (by cbv)).1 ?_))
    exact edge_of_word hof.reads (by decide) (by decide)
  · exact absurd hinside (not_infix_of_not_mem hmark (hparts hedit).2)

theorem not_mem_standIn {keyword standIn : String} (h : standIns.lookup keyword = some standIn) :
    '_' ∉ standIn.toList := by
  obtain ⟨before, behind, hentries, -⟩ := List.lookup_eq_some_iff.1 h
  have hall : (standIns.all fun entry => !entry.2.toList.contains '_') = true := by decide
  simpa using List.all_eq_true.1 hall (keyword, standIn) (by simp [hentries])

/-- A column definition is written from the name of its column and text without underscores. -/
theorem standInText_parts {m : Match} (hof : m.Of customTypeColumn (mask text))
    {record : CustomType} (h : readCustomType text m = .ok record) :
    ∃ rest, record.standInText = m.group text 1 ++ ' ' :: rest ∧ '_' ∉ rest := by
  unfold readCustomType at h
  dsimp only at h
  split at h
  · cases h
  · next standIn hlookup =>
      obtain rfl := Except.ok.inj h
      have hnumber (group : Nat)
          (hgroup : (customTypeColumn.groups.all fun entry => entry.1 != group ||
            entry.2.avoids ['_']) = true)
          {number : String} (hread : groupText? m text group = some number) :
            '_' ∉ number.toList := by
        unfold groupText? at hread
        dsimp only at hread
        split at hread
        · cases hread
        · obtain rfl := Option.some.inj hread
          rw [String.toList_ofList]
          exact not_mem_group hof standsOutside_customTypeColumn group
            (solidGroup_customTypeColumn group) hgroup
      have hlengths : (customTypeColumn.groups.all fun entry => entry.1 != 3 ||
          entry.2.avoids ['_']) = true := by cbv
      simp only [CustomType.standInText, String.toList_append, String.toList_ofList]
      rw [List.append_assoc, List.append_assoc]
      refine ⟨_, rfl, fun hmem => ?_⟩
      obtain hmem | hmem := List.mem_append.1 (show '_' ∈ standIn.toList ++ _ from hmem)
      · exact not_mem_standIn hlookup hmem
      · split at hmem
        · cases hmem
        · next length hlength hscale =>
            have hnot := hnumber 3 hlengths hlength
            simp [hnot] at hmem
        · next length scale hlength hscale =>
            have hnot := hnumber 3 hlengths hlength
            have hnot' := hnumber 4 (by cbv) hscale
            simp [hnot, hnot'] at hmem

theorem unmarked_customTypes {encoded : Encoded} (h : Unmarked text)
    (happly : Stage.customTypes.apply text = .ok encoded) : Unmarked encoded.text := by
  have hparts {edit : Match × List Char} (hedit : edit ∈ Stage.customTypes.edits text) :
      edit.1 ∈ customTypeColumn.findAll (mask text) ∧
        ∃ rest, edit.2 = edit.1.group text 1 ++ ' ' :: rest ∧ '_' ∉ rest := by
    rw [Stage.edits] at hedit
    split at hedit
    · cases hedit
    · obtain ⟨m, hm, hedit⟩ := List.mem_filterMap.1 hedit
      cases hrecord : readCustomType text m with
      | error fault => simp [hrecord, Except.toOption] at hedit
      | ok record =>
          obtain rfl : (m, record.standInText) = edit := by
            simpa [hrecord, Except.toOption] using hedit
          exact ⟨hm, standInText_parts ((Pattern.inOrder_findAll customTypeColumn (mask text)).each
            m hm).1 hrecord⟩
  rw [Stage.text_of_apply (by decide) happly]
  refine unmarked_splice h (editsFrom_customTypes text) (fun edit hedit => ?_)
    fun edit hedit mark hmark hinside => ?_
  · obtain ⟨hm, rest, heq, hnot⟩ := hparts hedit
    have hof := ((Pattern.inOrder_findAll customTypeColumn (mask text)).each edit.1 hm).1
    have hedge := (startsTyped_of_matchAt hof.start_le (Pattern.matchAt_of_mem hm)).1
    have houtside := (outside_of_reads hof.reads standsOutside_customTypeColumn).1
    refine ⟨.inr (last_of_shown houtside hedge), edit.1.group text 1 ++ [' '], rest, ?_, ?_, hnot⟩
    · rw [heq]
      simp
    · rw [List.getLast?_concat]
      rintro _ ⟨⟩
      decide
  · obtain ⟨-, rest, heq, hnot⟩ := hparts hedit
    rw [heq] at hinside
    obtain hname | hrest := infix_append hmark hinside (.inr (by rintro _ ⟨⟩; decide))
    · exact hname.trans (isInfix_group _ text 1)
    · exact absurd hrest (not_infix_of_not_mem hmark (by simpa using hnot))

/-! ## Folded calls -/

/-- The replacement of an indexed call. -/
theorem seamed_access {edit : Match × List Char} (hedit : edit ∈ Stage.arrayAccess.edits text) :
    Seamed text edit ∧ ∃ access args, .arrayAccess access ∈ (encodeArrayAccess text).records ∧
      IsToken access.token.toList ∧ edit.2 = access.token.toList ++ '(' :: args ++ [')'] ∧
        args <:+: text := by
  obtain ⟨m, hm, rfl⟩ := List.mem_map.1 hedit
  have hmem : .arrayAccess (readArrayAccess text m) ∈ (encodeArrayAccess text).records :=
    List.mem_map_of_mem hm
  have hof := ((Pattern.inOrder_findAll indexedCall (mask text)).each m hm).1
  obtain ⟨_, _, -, -, -, -, hstart, -⟩ := indexedCall_parts hof
  obtain ⟨_, _, hbefore, -⟩ := Pattern.reads_all_cons.1 hof.reads
  have hedge := edge_of_notAfter hbefore fun y hy => (Bool.or_eq_false_iff.1 hy).1
  refine ⟨⟨.inr (last_of_shown hstart hedge), _, [], (List.append_nil _).symm, ?_,
    List.not_mem_nil⟩, _, m.group text 2, hmem, (edit_of_access hmem).1, rfl,
    isInfix_group m text 2⟩
  rw [List.getLast?_concat]
  rintro _ ⟨⟩
  decide

/-- What is in a slice stands between its ends. -/
theorem takes_of_slice {a b : Nat} (h : part <:+: slice text a b) (hne : part ≠ []) :
    ∃ i j, a ≤ i ∧ j ≤ b ∧ Takes text part i j := by
  obtain ⟨front, back, hsplit⟩ := h
  have hlength := List.length_pos_of_ne_nil hne
  have hdrop : text.drop (a + front.length) = part ++ (back ++ (text.drop a).drop (b - a)) := by
    rw [← List.drop_drop]
    conv_lhs => rw [← List.take_append_drop (b - a) (text.drop a)]
    rw [show (text.drop a).take (b - a) = front ++ part ++ back from hsplit.symm]
    simp only [List.append_assoc, List.drop_left]
  refine ⟨_, _, Nat.le_add_right a _, ?_, (Pattern.takes_of_drop hdrop).1⟩
  have hle := congrArg List.length hsplit
  rw [List.length_append, List.length_append, slice, List.length_take] at hle
  omega

/-- A mark of a replaced call is one of the text, or it stands in the token. -/
theorem stop_le_of_access {token args : List Char} (hmark : mark ∈ marks) (h : Unmarked text)
    (hargs : args <:+: text) {k l : Nat} (htakes : Takes (token ++ '(' :: args ++ [')']) mark k l) :
    l ≤ token.length := by
  rw [List.append_assoc] at htakes
  obtain hk | hk := Nat.lt_or_ge k token.length
  · exact stop_le_of_takes hmark htakes hk.le (by simp) (c := '(') (by decide)
  · have hbehind : mark <:+: ['('] ++ (args ++ [')']) := infix_of_takes (takes_right htakes hk)
    obtain hopen | hrest := infix_append hmark hbehind (.inl (by rintro _ ⟨⟩; decide))
    · exact absurd hopen (not_infix_of_not_mem hmark (by decide))
    · obtain hinside | hclose := infix_append hmark hrest (.inr (by rintro _ ⟨⟩; decide))
      · exact absurd (hinside.trans hargs) (h mark hmark)
      · exact absurd hclose (not_infix_of_not_mem hmark (by decide))

/-- A pivot clause with a mark holds the token of a folded call. -/
theorem token_of_clause (h : Unmarked text) {pivot : Pivot}
    (hpivot : .pivot pivot ∈ (encodePivots (encodeArrayAccess text).text).records)
    (hmark : mark ∈ marks) (hinside : mark <:+: pivot.clause.toList) :
    ∃ access, .arrayAccess access ∈ (encodeArrayAccess text).records ∧
      access.token.toList <:+: pivot.clause.toList := by
  obtain ⟨m, close, number, hmem, rfl⟩ := mem_encodePivots.1 hpivot
  obtain ⟨hof, -, hclose⟩ :=
    (clausesFrom_findPivots (encodeArrayAccess text).text).each (m, close)
      (List.fst_mem_of_mem_zipIdx hmem)
  dsimp only at hof hclose
  obtain ⟨hhead, hopen, -⟩ := open_of_head hof.reads
  obtain ⟨hchar, -⟩ := outside_of_shown hopen (by decide) (not_inLiteral_of_plain hopen (by decide))
  have hclause := hinside
  rw [readPivot, String.toList_ofList] at hclause
  have hslice : mark <:+: slice (encodeArrayAccess text).text (m.stop - 1) (close + 1) := by
    refine (infix_append hmark hclause (.inr fun y hy => ?_)).resolve_left fun hkeyword => ?_
    · rw [slice, List.head?_take, List.head?_drop, hchar] at hy
      split at hy
      · cases hy
      · obtain rfl := Option.some.inj hy
        decide
    · have hnot := group_avoids hof 1 ['_'] (by cbv)
      exact not_infix_of_not_mem hmark (not_mem_upper_underscore fun hin =>
        hnot '_' hin List.mem_cons_self) hkeyword
  have hne : mark ≠ [] := by
    rintro rfl
    cases (mark_spec hmark).1
  obtain ⟨i, j, hi, hj, htakes⟩ := takes_of_slice hslice hne
  have hends := htakes.ends
  have hlength := List.length_pos_of_ne_nil hne
  obtain hold | ⟨done, edit, next, k, hsplit, hk, hinside⟩ :=
    takes_splice hmark (editsFrom_arrayAccess text) (fun edit hedit => (seamed_access hedit).1)
      htakes
  · exact absurd hold (h mark hmark)
  -- the mark is in the token of a call, so the clause reaches into the token and holds it
  have hedit : edit ∈ Stage.arrayAccess.edits text := by simp [hsplit]
  obtain ⟨-, access, args, haccess, htoken, heq, hargs⟩ := seamed_access hedit
  rw [heq] at hinside
  have hstop := stop_le_of_access hmark h hargs hinside
  have hstands := standsAt_replacement [] ('(' :: args ++ [')'])
    (hsplit ▸ editsFrom_arrayAccess text) htoken
    (by simpa using heq) rfl
  rw [← hsplit] at hstands
  have hheld := apart_or_held hstands htoken hof hclose
  rw [List.length_nil, Nat.add_zero] at hheld hstands
  obtain hbefore | hbehind | ⟨hheldStart, hheldStop⟩ := hheld
  · omega
  · omega
  · exact ⟨access, haccess, clause_of_held hstands hheldStart hheldStop number⟩

end

end SqlLayout.Placeholder
