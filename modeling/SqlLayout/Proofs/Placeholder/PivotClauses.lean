import SqlLayout.Proofs.Pattern.Takes
import SqlLayout.Proofs.Placeholder.Edits
import SqlLayout.Proofs.Placeholder.Shape
import SqlLayout.Proofs.Source.Balanced
import SqlLayout.Proofs.Text.Letters

/-!
# Pivot clauses

The text of a statement is cut into pivot clauses, each with what stands before it, and a rest.
Nothing of the text is lost: the clauses go to the records, the text before each of them and the
rest are kept.

## Implementation notes

The parts of a clause are cut outside of literals and comments, so that the mask of the text is made
of the masks of the parts, and what is shown of a part can be told from the part alone.
-/

namespace SqlLayout.Placeholder

open Pattern (Captures Match Reads Spells Takes placeAt slice splice)
open Source

/-- The keywords of a pivot clause, their letters in either case. -/
def PivotKeyword (part : List Char) : Prop :=
  Spells "UNPIVOT" part ∨ Spells "PIVOT" part

/-- A pivot clause in shown text, with what stands before it and from its group on. -/
structure PivotAt (shown front keyword gap behind : List Char) : Prop where
  split : shown = front ++ keyword ++ gap ++ behind
  edge : ∀ c ∈ front.getLast?, Text.isWord c = false
  spelled : PivotKeyword keyword
  blank : ∀ c ∈ gap, Text.isBlank c = true
  opens : behind.head? = some '('

/-- Whether a text starts with a group in parentheses. -/
def StartsGroup (behind : List Char) : Prop :=
  ∃ group, group <+: behind ∧ IsGroup group

/-- A closed pivot clause with the text before it. -/
structure PivotClause where
  before : List Char
  keyword : List Char
  gap : List Char
  group : List Char
  edge : ∀ c ∈ (mask before).getLast?, Text.isWord c = false
  spelled : PivotKeyword keyword
  shown : mask keyword = keyword
  blank : ∀ c ∈ mask gap, Text.isBlank c = true
  balanced : IsGroup (mask group)

namespace PivotClause

/-- The text of a clause with what stands before it. -/
def source (clause : PivotClause) : List Char :=
  clause.before ++ clause.keyword ++ clause.gap ++ clause.group

/-- What is shown of a clause with what stands before it. -/
def masked (clause : PivotClause) : List Char :=
  mask clause.before ++ clause.keyword ++ mask clause.gap ++ mask clause.group

/-- The record of a clause by its number. -/
def record (clause : PivotClause) (number : Nat) : Pivot :=
  { token := pivotMark ++ toString number ++ "__"
    clause := String.ofList (Text.upper clause.keyword ++ clause.group) }

/-- What is left of a clause in the text. -/
def kept (clause : PivotClause) (number : Nat) : List Char :=
  clause.before ++ (clause.record number).token.toList

end PivotClause

/-! ## The head of a clause -/

/-- The keyword of a pivot clause. -/
def pivotStart : List Pattern :=
  [.wordEdge, .capture 1 (.any [.word "UNPIVOT", .word "PIVOT"])]

/-- The start of the group of a pivot clause. -/
def pivotOpening : List Pattern :=
  [.blanks, .char '(']

section

variable {shown keyword : List Char} {i j k l b : Nat} {c d : Captures}

theorem letter_of_keyword (h : PivotKeyword keyword) :
    ∀ x ∈ keyword, Text.isWord x = true ∧ Text.isBlank x = false := by
  have hletters {letters : List Char} (hall : letters.all Text.isAsciiLetter = true) :
    ∀ letter ∈ letters, ∀ c,
      Text.sameLetter letter c = true → Text.isWord c = true ∧ Text.isBlank c = false := by
    intro letter hletter c hsame
    have hascii := List.all_eq_true.1 hall letter hletter
    exact ⟨Text.isWord_of_sameLetter hascii hsame, Text.isBlank_of_sameLetter hascii hsame⟩
  obtain h | h := h
  · exact Text.forall_mem_of_letters h (hletters (by decide))
  · exact Text.forall_mem_of_letters h (hletters (by decide))

theorem ne_nil_of_keyword (h : PivotKeyword keyword) : keyword ≠ [] := by
  rintro rfl
  obtain h | h := h <;> cases h

theorem reads_pivotKeyword : Reads shown (.any [.word "UNPIVOT", .word "PIVOT"]) i c b d ↔
    d = c ∧ ∃ keyword, Takes shown keyword i b ∧ PivotKeyword keyword := by
  constructor
  · rintro (_ | _ | _ | h | h)
    · obtain ⟨rfl, keyword, htakes, hspells⟩ := Pattern.reads_word.1 h
      exact ⟨rfl, keyword, htakes, .inl hspells⟩
    · obtain ⟨rfl, keyword, htakes, hspells⟩ := Pattern.reads_word.1 h
      exact ⟨rfl, keyword, htakes, .inr hspells⟩
  · rintro ⟨rfl, keyword, htakes, hspells | hspells⟩
    · exact .left (Pattern.reads_word.2 ⟨rfl, keyword, htakes, hspells⟩)
    · exact .right (Pattern.reads_word.2 ⟨rfl, keyword, htakes, hspells⟩)

theorem reads_pivotStart : Reads shown (.all pivotStart) i [] b d ↔ d = [(1, i, b)] ∧
    ∃ keyword, Takes shown keyword i b ∧ PivotKeyword keyword ∧
      ∀ y ∈ (shown.take i).getLast?, Text.isWord y = false := by
  have hedge {keyword : List Char} (htakes : Takes shown keyword i b)
    (hkeyword : PivotKeyword keyword) :
      Pattern.isWordEdge (placeAt shown i) = true ↔ ∀ y ∈ (shown.take i).getLast?,
        Text.isWord y = false :=
    htakes.isWordEdge_start (ne_nil_of_keyword hkeyword) fun x hx =>
      (letter_of_keyword hkeyword x hx).1
  constructor
  · intro h
    obtain ⟨_, _, hplace, h⟩ := Pattern.reads_all_cons.1 h
    obtain ⟨_, _, hcapture, h⟩ := Pattern.reads_all_cons.1 h
    obtain ⟨rfl, rfl⟩ := Pattern.reads_all_nil.1 h
    cases hplace with
    | wordEdge hplace =>
        obtain ⟨_, rfl, hread⟩ := Pattern.reads_capture.1 hcapture
        obtain ⟨rfl, keyword, htakes, hkeyword⟩ := reads_pivotKeyword.1 hread
        exact ⟨rfl, keyword, htakes, hkeyword, (hedge htakes hkeyword).1 hplace⟩
  · rintro ⟨rfl, keyword, htakes, hkeyword, hbefore⟩
    refine .seq (.wordEdge ((hedge htakes hkeyword).2 hbefore)) (.seq (.capture ?_) .empty)
    exact reads_pivotKeyword.2 ⟨rfl, keyword, htakes, hkeyword⟩

theorem reads_pivotOpening : Reads shown (.all pivotOpening) b c j d ↔ d = c ∧
    ∃ g gap, j = g + 1 ∧ Takes shown gap b g ∧ (∀ x ∈ gap, Text.isBlank x = true) ∧
      shown[g]? = some '(' := by
  constructor
  · intro h
    obtain ⟨g, _, hblanks, h⟩ := Pattern.reads_all_cons.1 h
    obtain ⟨_, _, hopen, h⟩ := Pattern.reads_all_cons.1 h
    obtain ⟨rfl, rfl⟩ := Pattern.reads_all_nil.1 h
    obtain ⟨rfl, gap, htakes, hgap⟩ := Pattern.reads_many_one.1 hblanks
    cases hopen with
    | one hopen hmark =>
        obtain rfl := eq_of_beq hmark
        exact ⟨rfl, g, gap, rfl, htakes, hgap, hopen⟩
  · rintro ⟨rfl, g, gap, rfl, htakes, hgap, hopen⟩
    exact .seq (Pattern.reads_many_one.2 ⟨rfl, gap, htakes, hgap⟩)
      (.seq (.one hopen (beq_self_eq_true _)) .empty)

/-- The head of a pivot clause between two offsets, cut behind its keyword and before its group. -/
theorem reads_pivotHead : Reads shown pivotHead i [] j d ↔
    ∃ b, Reads shown (.all pivotStart) i [] b d ∧ Reads shown (.all pivotOpening) b d j d := by
  constructor
  · intro h
    obtain ⟨b, e, hstart, hopening⟩ :=
      (@Pattern.reads_all_append _ pivotStart pivotOpening _ _ _ _).1 h
    obtain ⟨rfl, -⟩ := reads_pivotOpening.1 hopening
    exact ⟨b, hstart, hopening⟩
  · rintro ⟨b, hstart, hopening⟩
    exact (@Pattern.reads_all_append _ pivotStart pivotOpening _ _ _ _).2 ⟨b, d, hstart, hopening⟩

/-- Where a clause is shown, its head is read. -/
theorem PivotAt.reads {front gap behind : List Char}
    (h : PivotAt (shown.drop i) front keyword gap behind)
    (hedge : front = [] → ∀ y ∈ (shown.take i).getLast?, Text.isWord y = false) :
    ∃ j d, j = i + front.length + keyword.length + gap.length + 1 ∧
      Reads shown pivotHead (i + front.length) [] j d ∧ shown.drop (j - 1) = behind := by
  obtain ⟨hsplit, hlast, hkeyword, hgap, hopens⟩ := h
  rw [List.append_assoc, List.append_assoc] at hsplit
  obtain ⟨hfront, hrest⟩ := Pattern.takes_of_drop hsplit
  obtain ⟨htakes, hrest⟩ := Pattern.takes_of_drop hrest
  obtain ⟨hblanks, hrest⟩ := Pattern.takes_of_drop hrest
  refine ⟨_, _, rfl, reads_pivotHead.2 ⟨_, reads_pivotStart.2 ⟨rfl, keyword, htakes, hkeyword, ?_⟩,
    reads_pivotOpening.2 ⟨rfl, _, gap, rfl, hblanks, hgap, ?_⟩⟩, hrest⟩
  · rw [hfront.take_eq, List.getLast?_append]
    cases hend : front.getLast? with
    | none =>
        rw [Option.none_or]
        exact hedge (List.getLast?_eq_none_iff.1 hend)
    | some y =>
        rw [Option.some_or, ← hend]
        exact hlast
  · rw [← List.head?_drop, hrest, hopens]

/-- The head of a clause goes to the first open parenthesis behind its start. -/
theorem open_of_head (h : Reads shown pivotHead i [] j d) :
    i < j - 1 ∧ shown[j - 1]? = some '(' ∧ ∀ k, i ≤ k → k < j - 1 → shown[k]? ≠ some '(' := by
  obtain ⟨b, hstart, hopening⟩ := reads_pivotHead.1 h
  obtain ⟨-, keyword, htakes, hkeyword, -⟩ := reads_pivotStart.1 hstart
  obtain ⟨-, g, gap, rfl, hgap, hblank, hopen⟩ := reads_pivotOpening.1 hopening
  have hlength := List.length_pos_of_ne_nil (ne_nil_of_keyword hkeyword)
  have hends := htakes.ends
  have hends' := hgap.ends
  refine ⟨by omega, by rwa [Nat.add_sub_cancel], fun k hik hkg hk => ?_⟩
  rw [Nat.add_sub_cancel] at hkg
  by_cases hkb : k < b
  · have hmem : '(' ∈ keyword := htakes.slice_eq ▸ Pattern.mem_slice hik hkb hk
    cases (letter_of_keyword hkeyword _ hmem).1
  · have hmem : '(' ∈ gap := hgap.slice_eq ▸ Pattern.mem_slice (Nat.le_of_not_lt hkb) hkg hk
    cases hblank _ hmem

/-- No clause starts inside of the head of another one: in its keyword a word would go on, in its
gap and at its group no keyword starts. -/
theorem apart_of_heads {e : Captures} (h : Reads shown pivotHead i [] j d)
    (hother : Reads shown pivotHead k [] l e) (hik : i < k) : j ≤ k := by
  obtain ⟨b, hstart, hopening⟩ := reads_pivotHead.1 h
  obtain ⟨-, keyword, htakes, hkeyword, -⟩ := reads_pivotStart.1 hstart
  obtain ⟨-, g, gap, rfl, hgap, hblank, hopen⟩ := reads_pivotOpening.1 hopening
  obtain ⟨_, hlater, -⟩ := reads_pivotHead.1 hother
  obtain ⟨-, word, hword, hspelled, hedge⟩ := reads_pivotStart.1 hlater
  obtain ⟨x, hx, hletter⟩ : ∃ x, shown[k]? = some x ∧ Text.isWord x = true ∧
      Text.isBlank x = false := by
    obtain ⟨x, more, rfl⟩ := List.exists_cons_of_ne_nil (ne_nil_of_keyword hspelled)
    exact ⟨x, (Pattern.drop_eq_cons hword.starts).1,
      letter_of_keyword hspelled x List.mem_cons_self⟩
  by_contra hlt
  by_cases hkb : k ≤ b
  · obtain ⟨y, hy⟩ : ∃ y, shown[k - 1]? = some y :=
      ⟨_, List.getElem?_eq_getElem (by have := (List.getElem?_eq_some_iff.1 hx).1; omega)⟩
    have hbefore : y ∈ (shown.take k).getLast? := by
      rw [List.getLast?_take, if_neg (by omega), hy]
      rfl
    have hmem : y ∈ keyword := htakes.slice_eq ▸ Pattern.mem_slice (by omega) (by omega) hy
    cases (letter_of_keyword hkeyword y hmem).1.symm.trans (hedge y hbefore)
  · by_cases hkg : k < g
    · have hmem : x ∈ gap := hgap.slice_eq ▸ Pattern.mem_slice (by omega) hkg hx
      cases (hblank x hmem).symm.trans hletter.2
    · obtain rfl : k = g := by omega
      obtain rfl := Option.some.inj (hopen.symm.trans hx)
      cases hletter.1

end

/-! ## Clauses one after the other -/

/-- Closed clauses of a text in order from an offset on, each with the offset of its last
parenthesis. -/
structure ClausesFrom (text : List Char) (last : Nat) (closed : List (Match × Nat)) : Prop where
  each : ∀ clause ∈ closed, clause.1.Of pivotHead (mask text) ∧ last ≤ clause.1.start ∧
    balancedClose (mask text) (clause.1.stop - 1) = some clause.2
  apart : closed.Pairwise fun a b => a.2 + 1 ≤ b.1.start

/-- The offset behind the last of some clauses. -/
def clausesStop (last : Nat) : List (Match × Nat) → Nat
  | [] => last
  | (_, close) :: rest => clausesStop (close + 1) rest

section

variable {text : List Char} {m : Match} {last close : Nat} {closed : List (Match × Nat)}

theorem clausesFrom_findPivots (text : List Char) :
    ClausesFrom text 0 (findPivots text).closed := by
  have hfound := Pattern.inOrder_findAll pivotHead (mask text)
  obtain ⟨heach, hapart⟩ :=
    pivotClauses_closed (mask text) (fun m hm => (hfound.each m hm).1.reads.le) 0
  refine ⟨fun clause h => ?_, hapart⟩
  obtain ⟨hmem, hle, hclose⟩ := heach clause h
  exact ⟨(hfound.each _ hmem).1, hle, hclose⟩

theorem ClausesFrom.head (h : ClausesFrom text last ((m, close) :: closed)) :
    m.Of pivotHead (mask text) ∧ last ≤ m.start ∧ balancedClose (mask text) (m.stop - 1) =
      some close :=
  h.each (m, close) List.mem_cons_self

theorem ClausesFrom.tail (h : ClausesFrom text last ((m, close) :: closed)) :
    ClausesFrom text (close + 1) closed where
  each := fun clause hclause =>
    have heach := h.each clause (List.mem_cons_of_mem (m, close) hclause)
    ⟨heach.1, (List.pairwise_cons.1 h.apart).1 clause hclause, heach.2.2⟩
  apart := (List.pairwise_cons.1 h.apart).2

theorem outside_of_parenthesis {c : Char} (h : (mask text)[last]? = some c)
    (hplain : isPlain c = true) :
    Outside text last ∧ Outside text (last + 1) :=
  (outside_of_shown h (isSolid_of_plain hplain) (not_inLiteral_of_plain h hplain)).2

/-- A closed clause, with what stands before it from an offset on. -/
theorem exists_clause (hlast : Outside text last) (hof : m.Of pivotHead (mask text))
    (hle : last ≤ m.start) (hclose : balancedClose (mask text) (m.stop - 1) = some close) :
    m.start < close + 1 ∧ Outside text (close + 1) ∧ (mask text)[close]? = some ')' ∧
    ∃ clause : PivotClause, clause.before = slice text last m.start ∧
      clause.source = slice text last (close + 1) ∧
        clause.masked = slice (mask text) last (close + 1) ∧
      ∀ number, readPivot text number m close = clause.record number := by
  obtain ⟨b, hstart, hopening⟩ := reads_pivotHead.1 hof.reads
  obtain ⟨houtside, hbehind, hliteral⟩ := outside_of_reads hstart (by cbv)
  obtain ⟨hcaptures, keyword, htakes, hkeyword, hedge⟩ := reads_pivotStart.1 hstart
  obtain ⟨-, g, gap, hstop, hgap, hblank, hopen⟩ := reads_pivotOpening.1 hopening
  rw [hstop, Nat.add_sub_cancel] at hclose
  obtain ⟨hgclose, hparen⟩ := close_of_balanced hclose
  obtain ⟨hgroup, -⟩ := outside_of_parenthesis hopen (by decide)
  obtain ⟨-, hend⟩ := outside_of_parenthesis hparen (by decide)
  have hbalanced : IsGroup (slice (mask text) g (close + 1)) := by
    obtain ⟨other, hother, -, -, hisGroup⟩ | ⟨hnone, -⟩ := balancedClose_spec hopen
    · obtain rfl := Option.some.inj (hclose.symm.trans hother)
      exact hisGroup
    · cases hnone.symm.trans hclose
  have hstartb : m.start ≤ b := hstart.le
  have hbg : b ≤ g := by
    have hends := hgap.ends
    omega
  have hsame : slice text m.start b = slice (mask text) m.start b :=
    slice_of_reads hstart (by cbv) hliteral hbehind.le
  have hbefore := (hlast.scan_slice houtside hle).2
  have hkeywordMask := (houtside.scan_slice hbehind hstartb).2
  have hgapMask := (hbehind.scan_slice hgroup hbg).2
  have hgroupMask := (hgroup.scan_slice hend (Nat.le_succ_of_le hgclose)).2
  refine ⟨by omega, hend, hparen, ⟨slice text last m.start, slice text m.start b, slice text b g,
    slice text g (close + 1), ?_, ?_, ?_, ?_, ?_⟩, rfl, ?_, ?_, fun number => ?_⟩
  · intro c hc
    refine hedge c ?_
    rw [hbefore] at hc
    rw [← Pattern.take_append_slice hle, List.getLast?_append, hc]
    rfl
  · rw [hsame, htakes.slice_eq]
    exact hkeyword
  · rw [hkeywordMask, hsame]
  · rw [hgapMask, hgap.slice_eq]
    exact hblank
  · rw [hgroupMask]
    exact hbalanced
  · simp only [PivotClause.source]
    rw [Pattern.slice_append_slice hle hstartb, Pattern.slice_append_slice (by omega) hbg,
      Pattern.slice_append_slice (by omega) (by omega)]
  · simp only [PivotClause.masked]
    rw [hbefore, hsame, hgapMask, hgroupMask, Pattern.slice_append_slice hle hstartb,
      Pattern.slice_append_slice (by omega) hbg, Pattern.slice_append_slice (by omega) (by omega)]
  · have hspan : m.span? 1 = some (m.start, b) := by
      rw [Match.span?, hcaptures]
      rfl
    rw [readPivot, Match.group, hspan, hstop]
    simp only [Nat.add_sub_cancel, ← hsame]
    rfl

/-- The text from an offset on is cut into its clauses and a rest. -/
theorem exists_clauses (number : Nat) (hlast : Outside text last)
    (h : ClausesFrom text last closed) :
    Outside text (clausesStop last closed) ∧ ∃ clauses : List PivotClause,
      text.drop last = clauses.flatMap PivotClause.source ++ text.drop (clausesStop last closed) ∧
      (mask text).drop last = clauses.flatMap PivotClause.masked ++
        (mask text).drop (clausesStop last closed) ∧
      ((closed.zipIdx number).map fun ((m, close), n) => readPivot text n m close) =
        (clauses.zipIdx number).map (fun (clause, n) => clause.record n) ∧
      splice text last ((closed.zipIdx number).map fun ((m, close), n) =>
          ({ m with stop := close + 1 }, (readPivot text n m close).token.toList)) =
        (clauses.zipIdx number).flatMap (fun (clause, n) => clause.kept n) ++
          text.drop (clausesStop last closed) := by
  induction closed generalizing last number with
  | nil => exact ⟨hlast, [], by simp [clausesStop, splice]⟩
  | cons first closed ih =>
      obtain ⟨m, close⟩ := first
      obtain ⟨hof, hle, hclose⟩ := h.head
      obtain ⟨hlt, hend, -, clause, hbefore, hsource, hmasked, hrecord⟩ :=
        exists_clause hlast hof hle hclose
      obtain ⟨hstop, clauses, htext, hmask, hrecords, hsplice⟩ := ih (number + 1) hend h.tail
      refine ⟨hstop, clause :: clauses, ?_, ?_, ?_, ?_⟩
      · rw [List.flatMap_cons, hsource, List.append_assoc, clausesStop, ← htext,
          Pattern.slice_append_drop (by omega)]
      · rw [List.flatMap_cons, hmasked, List.append_assoc, clausesStop, ← hmask,
          Pattern.slice_append_drop (by omega)]
      · rw [List.zipIdx_cons, List.zipIdx_cons, List.map_cons, List.map_cons, hrecords]
        exact congrArg (· :: _) (hrecord number)
      · rw [List.zipIdx_cons, List.zipIdx_cons, List.map_cons, List.flatMap_cons, splice,
          hsplice, hrecord, ← hbefore, clausesStop, ← List.append_assoc]
        rfl

/-- The rest stands behind a closing parenthesis, if there is a clause before it. -/
theorem before_clausesStop (hlast : Outside text last) (h : ClausesFrom text last closed) :
    clausesStop last closed = last ∨
      ∃ close, clausesStop last closed = close + 1 ∧ (mask text)[close]? = some ')' := by
  induction closed generalizing last with
  | nil => exact .inl rfl
  | cons first closed ih =>
      obtain ⟨m, close⟩ := first
      obtain ⟨hof, hle, hclose⟩ := h.head
      obtain ⟨-, hend, hparen, -⟩ := exists_clause hlast hof hle hclose
      obtain hstop | hstop := ih hend h.tail
      · exact .inr ⟨close, hstop, hparen⟩
      · exact .inr hstop

/-! ## The rest -/

theorem le_clausesStop (shown : List Char) {found : List Match}
    (hfound : ∀ m ∈ found, m.start < m.stop - 1) (last : Nat) :
    last ≤ clausesStop last (pivotClauses shown last found).closed := by
  induction found generalizing last with
  | nil => exact Nat.le_refl last
  | cons m found ih =>
      obtain ⟨hm, hrest⟩ := List.forall_mem_cons.1 hfound
      rw [pivotClauses]
      split
      · exact ih hrest last
      · split
        · exact Nat.le_refl last
        · next close hclose =>
            have hle := (close_of_balanced hclose).1
            have hlater := ih hrest (close + 1)
            rw [clausesStop]
            omega

/-- The search for clauses is given up at the first one behind the closed ones, which is never
closed. -/
theorem exists_unclosed {shown : List Char} {found : List Match}
    (hfound : ∀ m ∈ found, m.start < m.stop - 1)
    (hsorted : found.Pairwise fun a b => a.start < b.start) (hm : m ∈ found)
    (hstop : clausesStop last (pivotClauses shown last found).closed ≤ m.start)
    (hclosed : balancedClose shown (m.stop - 1) ≠ none) :
    ∃ other ∈ found, clausesStop last (pivotClauses shown last found).closed ≤ other.start ∧
      other.start < m.start ∧ balancedClose shown (other.stop - 1) = none := by
  induction found generalizing last with
  | nil => cases hm
  | cons first found ih =>
      have hle := le_clausesStop shown hfound last
      obtain ⟨hfirst, hrest⟩ := List.forall_mem_cons.1 hfound
      obtain ⟨hbefore, hlater⟩ := List.pairwise_cons.1 hsorted
      rw [pivotClauses] at hstop hle ⊢
      split at hstop
      · next hinside =>
          rw [if_pos hinside] at hle ⊢
          obtain rfl | hm := List.mem_cons.1 hm
          · omega
          · obtain ⟨other, hother, hspec⟩ := ih hrest hlater hm hstop
            exact ⟨other, List.mem_cons_of_mem first hother, hspec⟩
      · next hinside =>
          rw [if_neg hinside] at hle ⊢
          cases hclose : balancedClose shown (first.stop - 1) with
          | none =>
              obtain rfl | hm := List.mem_cons.1 hm
              · exact absurd hclose hclosed
              · exact ⟨first, List.mem_cons_self, Nat.le_of_not_lt hinside, hbefore m hm, hclose⟩
          | some close =>
              simp only [hclose, clausesStop] at hstop ⊢
              obtain rfl | hm := List.mem_cons.1 hm
              · have hpast := le_clausesStop shown hrest (close + 1)
                have hparen := (close_of_balanced hclose).1
                omega
              · obtain ⟨other, hother, hspec⟩ := ih hrest hlater hm hstop
                exact ⟨other, List.mem_cons_of_mem first hother, hspec⟩

/-- A clause that is shown is found. -/
theorem exists_found {shown front keyword gap behind : List Char} {i : Nat}
    (hedge : ∀ y ∈ (shown.take i).getLast?, Text.isWord y = false)
    (h : PivotAt (shown.drop i) front keyword gap behind) :
    ∃ m ∈ pivotHead.findAll shown, m.start = i + front.length ∧
      shown.drop (m.stop - 1) = behind := by
  obtain ⟨j, d, -, hreads, hbehind⟩ := h.reads fun _ => hedge
  obtain ⟨hlt, hopen, hfirst⟩ := open_of_head hreads
  have hle : i + front.length ≤ shown.length := by
    have hlength := (List.getElem?_eq_some_iff.1 hopen).1
    omega
  obtain ⟨m, hm⟩ := Option.isSome_iff_exists.1
    (Pattern.isSome_matchAt_of_reads (by decide) hreads hle)
  obtain ⟨hstart, hof⟩ := Pattern.of_matchAt hm
  obtain ⟨hlt', hopen', hfirst'⟩ := open_of_head hof
  have hstop : m.stop - 1 = j - 1 := by
    refine Nat.le_antisymm (Nat.le_of_not_lt fun hless => ?_) (Nat.le_of_not_lt fun hless => ?_)
    · exact hfirst' (j - 1) hlt.le hless hopen
    · exact hfirst (m.stop - 1) hlt'.le hless hopen'
  refine ⟨m, Pattern.mem_foundFrom (Nat.zero_le _) hm (by omega) hle fun hread hless => ?_, hstart,
    hstop ▸ hbehind⟩
  exact ⟨hread.lt (by decide), apart_of_heads hread hof hless⟩

/-- What is found is shown. -/
theorem exists_shown {shown : List Char} {i : Nat} (hof : m.Of pivotHead shown) (hi : i ≤ m.start) :
    ∃ front keyword gap, PivotAt (shown.drop i) front keyword gap (shown.drop (m.stop - 1)) ∧
      i + front.length = m.start := by
  obtain ⟨b, hstart, hopening⟩ := reads_pivotHead.1 hof.reads
  obtain ⟨-, keyword, htakes, hkeyword, hedge⟩ := reads_pivotStart.1 hstart
  obtain ⟨-, g, gap, hstop, hgap, hblank, hopen⟩ := reads_pivotOpening.1 hopening
  rw [hstop, Nat.add_sub_cancel]
  have hlength : (slice shown i m.start).length = m.start - i :=
    Pattern.length_slice hi hof.start_le
  refine ⟨slice shown i m.start, keyword, gap,
    ⟨?_, fun c hc => hedge c ?_, hkeyword, hblank, ?_⟩, by omega⟩
  · rw [List.append_assoc, ← hgap.starts, List.append_assoc, ← htakes.starts,
      Pattern.slice_append_drop hi]
  · rw [← Pattern.take_append_slice hi, List.getLast?_append, hc]
    rfl
  · rw [List.head?_drop, hopen]

end

/-- The extraction of pivot clauses loses nothing.  The text is cut into closed clauses, each with
what stands before it, and a rest.  Each clause is a record of its own, and what stands before it is
kept with the token of the record behind it.  No closed clause is left in the rest, unless one
before it is never closed. -/
theorem encodePivots_loses_nothing (text : List Char) :
    ∃ (clauses : List PivotClause) (rest : List Char),
    text = clauses.flatMap PivotClause.source ++ rest ∧
    mask text = clauses.flatMap PivotClause.masked ++ mask rest ∧
    (encodePivots text).text =
      clauses.zipIdx.flatMap (fun (clause, number) => clause.kept number) ++ rest ∧
    (encodePivots text).records =
      clauses.zipIdx.map (fun (clause, number) => .pivot (clause.record number)) ∧
    (clauses.zipIdx.map fun (clause, number) => (clause.record number).token).Nodup ∧
    ∀ front keyword gap behind, PivotAt (mask rest) front keyword gap behind → StartsGroup behind →
      ∃ front' keyword' gap' behind', PivotAt (mask rest) front' keyword' gap' behind' ∧
        front'.length < front.length ∧ ¬ StartsGroup behind' := by
  have hclauses := clausesFrom_findPivots text
  obtain ⟨hstop, clauses, htext, hmask, hrecords, hsplice⟩ :=
    exists_clauses 0 (outside_zero text) hclauses
  refine ⟨clauses, text.drop (clausesStop 0 (findPivots text).closed), htext, ?_, ?_, ?_, ?_, ?_⟩
  · rw [hstop.mask_drop]
    exact hmask
  · rw [← hsplice, encodePivots, List.map_map]
    rfl
  · have hpivots := congrArg (List.map Record.pivot) hrecords
    rw [List.map_map, List.map_map] at hpivots
    rw [encodePivots]
    simp only [List.map_map]
    exact hpivots
  · exact numbered_nodup pivotMark "__" clauses
  · intro front keyword gap behind hshown hgroup
    rw [hstop.mask_drop] at hshown ⊢
    have hedge : ∀ y ∈ ((mask text).take (clausesStop 0 (findPivots text).closed)).getLast?,
        Text.isWord y = false := by
      intro y hy
      rw [List.getLast?_take] at hy
      obtain hzero | ⟨close, hclose, hparen⟩ := before_clausesStop (outside_zero text) hclauses
      · rw [hzero] at hy
        cases hy
      · rw [hclose, if_neg (Nat.succ_ne_zero close), Nat.add_sub_cancel, hparen] at hy
        obtain rfl := Option.some.inj hy
        decide
    obtain ⟨m, hm, hstart, hbehind⟩ := exists_found hedge hshown
    have hfound := Pattern.inOrder_findAll pivotHead (mask text)
    have hlt : ∀ m ∈ pivotHead.findAll (mask text), m.start < m.stop - 1 :=
      fun m hm => (open_of_head (hfound.each m hm).1.reads).1
    have hsorted : (pivotHead.findAll (mask text)).Pairwise fun a b => a.start < b.start := by
      refine hfound.apart.imp_of_mem fun {a b} ha _ hab => ?_
      have hless := hlt a ha
      omega
    obtain ⟨part, hpart, hisGroup⟩ := hgroup
    obtain ⟨-, hopen, -⟩ := open_of_head (hfound.each m hm).1.reads
    have hclosed : balancedClose (mask text) (m.stop - 1) ≠ none := fun hnone =>
      not_isGroup_of_balancedClose hopen hnone (hbehind ▸ hpart) hisGroup
    have hbehindClauses : clausesStop 0 (findPivots text).closed ≤ m.start :=
      hstart ▸ Nat.le_add_right _ _
    obtain ⟨other, hother, hle, hbefore, hnone⟩ :=
      exists_unclosed hlt hsorted hm hbehindClauses hclosed
    obtain ⟨front', keyword', gap', hshown', hstart'⟩ :=
      exists_shown (hfound.each other hother).1 hle
    refine ⟨front', keyword', gap', _, hshown', ?_, ?_⟩
    · have hplace : clausesStop 0 (findPivots text).closed + front'.length = other.start := hstart'
      omega
    · rintro ⟨part', hpart', hisGroup'⟩
      exact not_isGroup_of_balancedClose (open_of_head (hfound.each other hother).1.reads).2.1 hnone
        hpart' hisGroup'

end SqlLayout.Placeholder
