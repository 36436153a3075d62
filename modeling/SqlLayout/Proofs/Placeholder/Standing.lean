import SqlLayout.Proofs.Pattern.Goes
import SqlLayout.Proofs.Placeholder.IndexedCalls
import SqlLayout.Proofs.Placeholder.PivotClauses

/-!
# Tokens that stand in a text

A token is a word.  It stands in a text where it is written outside of literals and comments.  A
step that replaces spans leaves a token standing that none of the spans reaches into, and a
replacement that holds a token in statement text makes it stand.

## Implementation notes

No pattern of a later step starts or ends inside of a token: what it reads first and last is a word
of its own or no word.  So a span either leaves a token alone or holds all of it.
-/

namespace SqlLayout.Placeholder

open Pattern (Captures Match Reads Spells Takes placeAt slice splice)
open Source

/-! ## Tokens -/

/-- A word that starts with an underscore. -/
structure IsToken (token : List Char) : Prop where
  first : token.head? = some '_'
  word : ∀ c ∈ token, Text.isWord c = true

/-- A token that is written in a text between two offsets, outside of literals and comments. -/
structure StandsAt (text token : List Char) (i j : Nat) : Prop where
  takes : Takes text token i j
  shown : Takes (mask text) token i j
  outside : Outside text i

/-- A token that is written somewhere in a text, outside of literals and comments. -/
def Stands (text token : List Char) : Prop :=
  ∃ i j, StandsAt text token i j

section

variable {text token front back rest : List Char} {i j k : Nat}

namespace IsToken

theorem inert (h : IsToken token) : inert token = true :=
  inert_of_isWord h.word

theorem append (h : IsToken token) (hback : ∀ c ∈ back, Text.isWord c = true) :
    IsToken (token ++ back) where
  first := by
    rw [List.head?_append, h.first]
    rfl
  word := List.forall_mem_append.2 ⟨h.word, hback⟩

theorem last (h : IsToken token) : ∃ x, token.getLast? = some x ∧ isInert x = true := by
  cases hlast : token.getLast? with
  | none =>
      obtain rfl := List.getLast?_eq_none_iff.1 hlast
      cases h.first
  | some x => exact ⟨x, rfl, List.all_eq_true.1 h.inert x (List.mem_of_getLast? hlast)⟩

/-- A token is read alike wherever statement text goes on with it. -/
theorem apart (h : IsToken token) (x : List Char) :
    ∀ a ∈ x.getLast?, ∀ b ∈ (token ++ rest).head?, joins a b = false := by
  rintro a - b hb
  rw [List.head?_append, h.first] at hb
  obtain rfl := Option.some.inj hb
  exact joins_inert_right a (by decide)

end IsToken

/-- A token behind statement text stands. -/
theorem standsAt_of_code (htoken : IsToken token) (hfront : modeAfter .code front = .code) :
    StandsAt (front ++ token ++ back) token front.length (front.length + token.length) := by
  obtain ⟨x, hx, hinert⟩ := htoken.last
  have hmask : mask (front ++ token ++ back) = mask front ++ (token ++ mask back) := by
    rw [List.append_assoc, mask_append hfront (htoken.apart front),
      mask_append (modeAfter_of_inert htoken.inert) (apart_of_last hx hinert),
      mask_of_inert htoken.inert]
  have hdrop : (front ++ token ++ back).drop front.length = token ++ back := by
    rw [List.append_assoc, List.drop_left]
  have hshown : (mask (front ++ token ++ back)).drop front.length = token ++ mask back := by
    rw [hmask]
    exact List.drop_left' (length_mask front)
  refine ⟨(Pattern.takes_of_drop hdrop).1, (Pattern.takes_of_drop hshown).1, ?_, ?_, ?_⟩
  · simp only [List.length_append]
    omega
  · rw [List.append_assoc, List.take_left]
    exact hfront
  · rw [hdrop, List.append_assoc, List.take_left]
    exact htoken.apart front

namespace StandsAt

theorem le (h : StandsAt text token i j) : i ≤ j := by
  have hends := h.takes.ends
  omega

/-- What is shown of a token is a word. -/
theorem getElem? (h : StandsAt text token i j) (htoken : IsToken token) (hik : i ≤ k)
    (hkj : k < j) :
    ∃ c, (mask text)[k]? = some c ∧ Text.isWord c = true := by
  have hends := h.shown.ends
  have hlt : k - i < token.length := by omega
  refine ⟨token[k - i], ?_, htoken.word _ (List.getElem_mem hlt)⟩
  have hget : (mask text)[i + (k - i)]? = token[k - i]? := by
    rw [← List.getElem?_drop, h.shown.starts, List.getElem?_append_left hlt]
  rw [← List.getElem?_eq_getElem hlt, ← hget, Nat.add_sub_cancel' hik]

theorem first (h : StandsAt text token i j) (htoken : IsToken token) :
    (mask text)[i]? = some '_' := by
  rw [← List.head?_drop, h.shown.starts, List.head?_append, htoken.first]
  rfl

theorem lt (h : StandsAt text token i j) (htoken : IsToken token) : i < j := by
  have hends := h.takes.ends
  have hlength : 0 < token.length := List.length_pos_of_mem (List.mem_of_mem_head? htoken.first)
  omega

/-- Behind a token is statement text. -/
theorem outside_stop (h : StandsAt text token i j) (htoken : IsToken token) : Outside text j := by
  obtain ⟨x, hx, hinert⟩ := htoken.last
  have hbehind : Outside (text.drop i) token.length := by
    have htake : (text.drop i).take token.length = token := by rw [h.takes.starts, List.take_left]
    refine ⟨?_, ?_, ?_⟩
    · rw [h.takes.starts, List.length_append]
      omega
    · rw [htake]
      exact modeAfter_of_inert htoken.inert
    · rw [htake]
      exact apart_of_last hx hinert
  rw [h.takes.ends]
  exact h.outside.of_drop hbehind

/-- Nothing that starts where no word goes on starts inside of a token. -/
theorem le_or_le (h : StandsAt text token i j) (htoken : IsToken token)
    (hedge : ∀ y ∈ ((mask text).take k).getLast?, Text.isWord y = false) : k ≤ i ∨ j ≤ k := by
  by_contra hinside
  obtain ⟨c, hc, hword⟩ := h.getElem? htoken (show i ≤ k - 1 by omega) (by omega)
  have hlast : c ∈ ((mask text).take k).getLast? := by
    rw [List.getLast?_take, if_neg (by omega), hc]
    rfl
  cases hword.symm.trans (hedge c hlast)

/-- A character that belongs to no word stands before a token or behind it. -/
theorem lt_or_le (h : StandsAt text token i j) (htoken : IsToken token) {c : Char}
    (hc : (mask text)[k]? = some c) (hword : Text.isWord c = false) : k < i ∨ j ≤ k := by
  by_contra hinside
  obtain ⟨x, hx, hxword⟩ := h.getElem? htoken (show i ≤ k by omega) (by omega)
  obtain rfl := Option.some.inj (hc.symm.trans hx)
  cases hxword.symm.trans hword

/-- What reads no underscores does not read the start of a token. -/
theorem lt_or_le_of_reads (h : StandsAt text token i j) (htoken : IsToken token) {p : Pattern}
    {a b : Nat} {c d : Captures} (hread : Reads (mask text) p a c b d)
    (hp : p.avoids ['_'] = true) : i < a ∨ b ≤ i := by
  by_contra hinside
  have hmem : '_' ∈ slice (mask text) a b :=
    Pattern.mem_slice (by omega) (by omega) (h.first htoken)
  exact hread.avoids hp '_' hmem List.mem_cons_self

end StandsAt

/-! ## Tokens and replacements -/

/-- Spans before an offset are replaced in the text before it, and spans behind it in the text
behind it. -/
theorem splice_two {last : Nat} {done next : List (Match × List Char)}
    (h : EditsFrom text last (done ++ next)) (hlast : last ≤ k)
    (hdone : ∀ edit ∈ done, edit.1.stop ≤ k) (hnext : ∀ edit ∈ next, k ≤ edit.1.start) :
    splice text last (done ++ next) = splice (text.take k) last done ++ splice text k next := by
  induction done generalizing last with
  | nil =>
      rw [List.nil_append, splice_from hlast hnext, splice, List.drop_take]
      rfl
  | cons edit done ih =>
      rw [List.cons_append] at h ⊢
      obtain ⟨hedit, hdone⟩ := List.forall_mem_cons.1 hdone
      have hle := h.head.1.le
      rw [splice, splice, ih h.tail hedit hdone, slice_take (by omega)]
      simp only [List.append_assoc]

/-- The text before a span, with the spans before it replaced, is statement text to its end. -/
theorem modeAfter_before {done next : List (Match × List Char)}
    (h : EditsFrom text 0 (done ++ next)) (hk : Outside text k)
    (hdone : ∀ edit ∈ done, edit.1.stop ≤ k) (hnext : ∀ edit ∈ next, k ≤ edit.1.start) :
    modeAfter .code (splice (text.take k) 0 done) = .code :=
  (modeAfter_splice (outside_zero text) h (Nat.zero_le k) hdone hnext).2.trans hk.code

/-- A token that no span reaches into is left standing. -/
theorem stands_splice {edits : List (Match × List Char)} (hedits : EditsFrom text 0 edits)
    (htoken : IsToken token) (h : StandsAt text token i j)
    (hapart : ∀ edit ∈ edits, edit.1.stop ≤ i ∨ j ≤ edit.1.start) :
    Stands (splice text 0 edits) token := by
  obtain ⟨done, next, rfl, hdone, hnext⟩ : ∃ done next, edits = done ++ next ∧
      (∀ edit ∈ done, edit.1.stop ≤ i) ∧ ∀ edit ∈ next, j ≤ edit.1.start := by
    generalize 0 = last at hedits
    induction edits generalizing last with
    | nil => exact ⟨[], [], rfl, by simp, by simp⟩
    | cons edit rest ih =>
        obtain ⟨hedit, hrest⟩ := List.forall_mem_cons.1 hapart
        obtain hbefore | hbehind := hedit
        · obtain ⟨done, next, rfl, hdone, hnext⟩ := ih hrest edit.1.stop hedits.tail
          exact ⟨edit :: done, next, rfl, List.forall_mem_cons.2 ⟨hbefore, hdone⟩, hnext⟩
        · refine ⟨[], edit :: rest, rfl, by simp,
            List.forall_mem_cons.2 ⟨hbehind, fun later hlater => ?_⟩⟩
          have hle := hedits.head.1.le
          have hapart := (hedits.tail.each later hlater).2
          omega
  have hle := h.le
  have hstarts : ∀ edit ∈ next, i ≤ edit.1.start := fun edit hedit => hle.trans (hnext edit hedit)
  rw [splice_two hedits (Nat.zero_le i) hdone hstarts, splice_from hle hnext,
    h.takes.slice_eq, ← List.append_assoc]
  exact ⟨_, _, standsAt_of_code htoken (modeAfter_before hedits h.outside hdone hstarts)⟩

/-- A token in statement text of a replacement stands. -/
theorem standsAt_replacement {done next : List (Match × List Char)} {edit : Match × List Char}
    (front back : List Char) (hedits : EditsFrom text 0 (done ++ edit :: next))
    (htoken : IsToken token)
    (hreplacement : edit.2 = front ++ token ++ back) (hfront : modeAfter .code front = .code) :
    StandsAt (splice text 0 (done ++ edit :: next)) token
      ((splice (text.take edit.1.start) 0 done).length + front.length)
      ((splice (text.take edit.1.start) 0 done).length + front.length + token.length) := by
  obtain ⟨-, hlater, hbefore⟩ := List.pairwise_append.1 hedits.apart
  obtain ⟨hsafe, -⟩ := hedits.each edit (by simp)
  have hdone : ∀ earlier ∈ done, earlier.1.stop ≤ edit.1.start :=
    fun earlier hearlier => hbefore earlier hearlier edit List.mem_cons_self
  have hnext : ∀ later ∈ edit :: next, edit.1.start ≤ later.1.start := by
    refine List.forall_mem_cons.2 ⟨Nat.le_refl _, fun later hlater' => ?_⟩
    exact hsafe.le.trans ((List.pairwise_cons.1 hlater).1 later hlater')
  have hcode := modeAfter_before hedits hsafe.start hdone hnext
  have happend : modeAfter .code (splice (text.take edit.1.start) 0 done ++ front) = .code := by
    rw [modeAfter_append hcode, hfront]
    rintro x - y hy
    obtain ⟨z, hz, hinert⟩ := hsafe.standalone.first
    rw [hreplacement, List.append_assoc, List.head?_append, hy] at hz
    obtain rfl := Option.some.inj hz
    exact joins_inert_right x hinert
  rw [splice_two hedits (Nat.zero_le _) hdone hnext, splice, Pattern.slice_self, List.nil_append,
    hreplacement, ← List.length_append]
  have hstands := @standsAt_of_code token _ (back ++ splice text edit.1.stop next) htoken happend
  simpa only [List.append_assoc] using hstands

theorem stands_replacement {edits : List (Match × List Char)} {edit : Match × List Char}
    (front back : List Char) (hedits : EditsFrom text 0 edits) (hedit : edit ∈ edits)
    (htoken : IsToken token)
    (hreplacement : edit.2 = front ++ token ++ back) (hfront : modeAfter .code front = .code) :
    Stands (splice text 0 edits) token := by
  obtain ⟨done, next, rfl⟩ := List.append_of_mem hedit
  exact ⟨_, _, standsAt_replacement front back hedits htoken hreplacement hfront⟩

end

/-! ## Folded calls -/

section

variable {text token : List Char} {i j : Nat}

theorem isToken_access (call : IndexedCall) : IsToken call.access.token.toList := by
  have hmark : IsToken arrayAccessMark.toList := ⟨rfl, List.all_eq_true.1 (by decide)⟩
  simp only [IndexedCall.access, IndexedCall.nameText, String.toList_append, String.toList_ofList]
  have hindex := hmark.append (Text.isWord_of_toString call.index)
  exact (hindex.append (List.all_eq_true.1 (by decide))).append (all_isWord call.named)

/-- The edit of an indexed call that is folded. -/
theorem edit_of_access {access : ArrayAccess}
    (h : .arrayAccess access ∈ (encodeArrayAccess text).records) :
    IsToken access.token.toList ∧ ∃ edit ∈ Stage.arrayAccess.edits text, ∃ args,
      edit.2 = access.token.toList ++ '(' :: args ++ [')'] := by
  obtain ⟨m, hm, heq⟩ := List.mem_map.1 h
  obtain rfl : readArrayAccess text m = access := by simpa using heq
  obtain ⟨call, -, hcall⟩ :=
    exists_indexedCall ((Pattern.inOrder_findAll indexedCall (mask text)).each m hm).1
  exact ⟨hcall ▸ isToken_access call, _, List.mem_map_of_mem hm, m.group text 2, rfl⟩

/-- Every call that is folded leaves its token standing. -/
theorem stands_access {access : ArrayAccess}
    (h : .arrayAccess access ∈ (encodeArrayAccess text).records) :
    Stands (encodeArrayAccess text).text access.token.toList := by
  obtain ⟨htoken, edit, hedit, args, hreplacement⟩ := edit_of_access h
  refine stands_replacement [] ('(' :: args ++ [')']) (editsFrom_arrayAccess text) hedit
    htoken ?_ rfl
  simpa using hreplacement

/-! ## Pivot clauses -/

/-- The token of a numbered placeholder. -/
theorem isToken_numbered {mark : String} (hmark : IsToken mark.toList) (number : Nat) :
    IsToken (mark ++ toString number ++ "__").toList := by
  simp only [String.toList_append]
  exact (hmark.append (Text.isWord_of_toString number)).append (List.all_eq_true.1 (by decide))

theorem upper_append (front back : List Char) :
    Text.upper (front ++ back) = Text.upper front ++ Text.upper back :=
  List.flatMap_append

/-- The token of a numbered placeholder has no letters in lower case. -/
theorem upper_numbered {mark : String} (hmark : Text.upper mark.toList = mark.toList)
    (number : Nat) :
    Text.upper (mark ++ toString number ++ "__").toList =
      (mark ++ toString number ++ "__").toList := by
  have hnumber : Text.upper (toString number).toList = (toString number).toList := by
    refine Text.upper_eq_self fun c hc => Text.upperChar_mark ?_
    obtain ⟨hlow, hhigh⟩ := Text.code_of_toString number c hc
    exact Text.Ranges.has_iff.2 ⟨(0, 64), by decide, by omega, by omega⟩
  simp only [String.toList_append, upper_append, hmark, hnumber]
  congr

theorem isToken_pivot (number : Nat) : IsToken (pivotMark ++ toString number ++ "__").toList :=
  isToken_numbered ⟨rfl, List.all_eq_true.1 (by decide)⟩ number

theorem mem_encodePivots {pivot : Pivot} : .pivot pivot ∈ (encodePivots text).records ↔
    ∃ m close number, ((m, close), number) ∈ (findPivots text).closed.zipIdx ∧
      readPivot text number m close = pivot := by
  simp [encodePivots]

/-- Every pivot clause leaves its token standing. -/
theorem stands_pivot {pivot : Pivot} (h : .pivot pivot ∈ (encodePivots text).records) :
    (∃ number : Nat, pivot.token = pivotMark ++ toString number ++ "__") ∧
      Stands (encodePivots text).text pivot.token.toList := by
  have htext : (encodePivots text).text = splice text 0 (Stage.pivots.edits text) :=
    @Stage.text_of_apply .pivots text _ (by decide) rfl
  obtain ⟨m, close, number, hmem, rfl⟩ := mem_encodePivots.1 h
  refine ⟨⟨number, rfl⟩, ?_⟩
  rw [htext]
  exact stands_replacement [] [] (editsFrom_pivots text) (List.mem_map_of_mem hmem)
    (isToken_pivot number) (by simp) rfl

/-- A slice holds the slices inside of it. -/
theorem isInfix_slice_of_le {a b : Nat} (hai : a ≤ i) (hij : i ≤ j) (hjb : j ≤ b) :
    slice text i j <:+: slice text a b :=
  ⟨slice text a i, slice text j b, by
    rw [Pattern.slice_append_slice hai hij, Pattern.slice_append_slice (hai.trans hij) hjb]⟩

/-- A closed pivot clause leaves a token alone or holds it in its group. -/
theorem apart_or_held {m : Match} {close : Nat} (h : StandsAt text token i j)
    (htoken : IsToken token) (hof : m.Of pivotHead (mask text))
    (hclose : balancedClose (mask text) (m.stop - 1) = some close) :
    close + 1 ≤ i ∨ j ≤ m.start ∨ m.stop ≤ i ∧ j ≤ close := by
  obtain ⟨b, hstart, -⟩ := reads_pivotHead.1 hof.reads
  obtain ⟨-, -, -, -, hedge⟩ := reads_pivotStart.1 hstart
  have hfirst := h.le_or_le htoken hedge
  have hhead := h.lt_or_le_of_reads htoken hof.reads (by cbv)
  have hlast := h.lt_or_le htoken (close_of_balanced hclose).2 (by decide)
  omega

/-- The record of a clause repeats the tokens of its group. -/
theorem clause_of_held {m : Match} {close : Nat} (h : StandsAt text token i j) (hi : m.stop ≤ i)
    (hj : j ≤ close) (number : Nat) : token <:+: (readPivot text number m close).clause.toList := by
  have hslice : slice text i j <:+: slice text (m.stop - 1) (close + 1) :=
    isInfix_slice_of_le ((Nat.sub_le _ _).trans hi) h.le (Nat.le_succ_of_le hj)
  rw [h.takes.slice_eq] at hslice
  rw [readPivot, String.toList_ofList]
  exact hslice.trans (List.suffix_append _ _).isInfix

/-- A token stands on when the pivot clauses are taken out, unless one of them holds it. -/
theorem stands_encodePivots (h : Stands text token) (htoken : IsToken token) :
    Stands (encodePivots text).text token ∨
      ∃ pivot, .pivot pivot ∈ (encodePivots text).records ∧ token <:+: pivot.clause.toList := by
  obtain ⟨i, j, h⟩ := h
  have htext : (encodePivots text).text = splice text 0 (Stage.pivots.edits text) :=
    @Stage.text_of_apply .pivots text _ (by decide) rfl
  by_cases hapart : ∀ edit ∈ Stage.pivots.edits text, edit.1.stop ≤ i ∨ j ≤ edit.1.start
  · rw [htext]
    exact .inl (stands_splice (editsFrom_pivots text) htoken h hapart)
  · right
    push Not at hapart
    obtain ⟨edit, hedit, hstop, hstart⟩ := hapart
    obtain ⟨⟨⟨m, close⟩, number⟩, hmem, rfl⟩ := List.mem_map.1 hedit
    obtain ⟨hof, -, hclose⟩ :=
      (clausesFrom_findPivots text).each (m, close) (List.fst_mem_of_mem_zipIdx hmem)
    obtain hbefore | hbehind | ⟨hinside, hend⟩ := apart_or_held h htoken hof hclose
    · exact absurd hstop (Nat.not_lt.2 hbefore)
    · exact absurd hstart (Nat.not_lt.2 hbehind)
    · exact ⟨_, mem_encodePivots.2 ⟨m, close, number, hmem, rfl⟩,
        clause_of_held h hinside hend number⟩

/-! ## Groupings -/

theorem isToken_group (number : Nat) : IsToken (groupByAllToken number).toList :=
  isToken_numbered ⟨rfl, List.all_eq_true.1 (by decide)⟩ number

/-- Every grouping by all columns leaves its token standing. -/
theorem stands_group {group : String} (h : .groupByAll group ∈ (encodeGroupByAll text).records) :
    (∃ number, group = groupByAllToken number) ∧
      Stands (encodeGroupByAll text).text group.toList := by
  obtain ⟨⟨m, number⟩, hmem, heq⟩ := List.mem_map.1 h
  obtain rfl : groupByAllToken number = group := by simpa using heq
  refine ⟨⟨number, rfl⟩, ?_⟩
  exact stands_replacement "GROUP BY ".toList [] (editsFrom_groupByAll text)
    (List.mem_map_of_mem hmem) (isToken_group number) (by simp) (modeAfter_of_inert (by decide))

/-- A word of letters that starts at a word edge goes on from no word. -/
theorem edge_of_word {shown : List Char} {letters : String} {rest : List Pattern} {c d : Captures}
    (h : Reads shown (.all (.wordEdge :: .word letters :: rest)) i c j d)
    (hletters : letters.toList.all Text.isAsciiLetter = true) (hne : letters.toList ≠ []) :
    ∀ y ∈ (shown.take i).getLast?, Text.isWord y = false := by
  obtain ⟨_, _, hedge, h⟩ := Pattern.reads_all_cons.1 h
  obtain ⟨_, _, hword, -⟩ := Pattern.reads_all_cons.1 h
  obtain ⟨rfl, rfl, hplace⟩ := Pattern.reads_wordEdge.1 hedge
  obtain ⟨-, part, htakes, hspells⟩ := Pattern.reads_word.1 hword
  refine (htakes.isWordEdge_start ?_ ?_).1 hplace
  · rintro rfl
    exact hne (List.forall₂_nil_right_iff.1 hspells)
  · exact Text.forall_mem_of_letters hspells fun letter hletter x hsame =>
      Text.isWord_of_sameLetter (List.all_eq_true.1 hletters letter hletter) hsame

/-- What is not read behind words goes on from no word. -/
theorem edge_of_notAfter {shown : List Char} {p : Char → Bool} {c d : Captures}
    (h : Reads shown (.notAfter p) i c j d) (hp : ∀ y, p y = false → Text.isWord y = false) :
    ∀ y ∈ (shown.take i).getLast?, Text.isWord y = false := by
  intro y hy
  cases h with
  | notAfter hbefore =>
      change ((shown.take i).getLast?).any p = false at hbefore
      rw [Option.mem_def.1 hy, Option.any_some] at hbefore
      exact hp y hbefore

/-- A token stands on when the groupings are numbered. -/
theorem stands_encodeGroupByAll (h : Stands text token) (htoken : IsToken token) :
    Stands (encodeGroupByAll text).text token := by
  obtain ⟨i, j, h⟩ := h
  refine stands_splice (editsFrom_groupByAll text) htoken h fun edit hedit => ?_
  obtain ⟨⟨m, number⟩, hmem, rfl⟩ := List.mem_map.1 hedit
  obtain ⟨hof, -⟩ := (Pattern.inOrder_findAll groupByAll (mask text)).each m
    (List.fst_mem_of_mem_zipIdx hmem)
  have hfirst := h.le_or_le htoken (edge_of_word hof.reads (by decide) (by decide))
  have hwords := h.lt_or_le_of_reads htoken hof.reads (by cbv)
  dsimp only
  omega

end

end SqlLayout.Placeholder
