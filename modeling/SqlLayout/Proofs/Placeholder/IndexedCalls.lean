import SqlLayout.Proofs.Placeholder.Chains
import SqlLayout.Proofs.Placeholder.Twice
import SqlLayout.Proofs.Text.Strip

/-!
# Indexed calls and their placeholders

The token of an array access holds the name and the index of its call, so one token stands for one
name and one index, however many calls share it.  Restoring puts every call with a token back under
the index that the token holds.

## Implementation notes

The trees before and after restoring are compared by their expressions, parents first.  A call with
a token is two expressions after that, its index and the call below it; every other expression stays
one.
-/

namespace SqlLayout.Placeholder

open Pattern (Captures Match Reads Takes slice)
open Source SqlLayout.Tree

/-- An indexed call as it is written. -/
structure IndexedCall where
  name : List Char
  args : List Char
  digits : List Char
  named : isTypeName name = true
  indexed : digits ≠ []
  decimal : ∀ c ∈ digits, Text.isDigit c = true

namespace IndexedCall

/-- The text of an indexed call. -/
def source (call : IndexedCall) : List Char :=
  call.name ++ ['('] ++ (call.args ++ ([')', '['] ++ (call.digits ++ [']'])))

/-- The name of an indexed call. -/
def nameText (call : IndexedCall) : String :=
  String.ofList call.name

/-- The number that the digits of an index spell. -/
def index (call : IndexedCall) : Nat :=
  Text.digitsValue call.digits

/-- The record of an indexed call. -/
def access (call : IndexedCall) : ArrayAccess :=
  { token := arrayAccessMark ++ toString call.index ++ "__" ++ call.nameText
    callText := String.ofList (call.name ++ '(' :: call.args ++ [')'])
    index := call.index }

end IndexedCall

/-! ## What is matched -/

section

variable {text shown : List Char} {i j : Nat} {c d : Captures} {m : Match}

theorem takes_of_char {x : Char} (h : Reads shown (.char x) i c j d) :
    d = c ∧ Takes shown [x] i j := by
  obtain ⟨rfl, _, htakes, hmark⟩ := Pattern.reads_one.1 h
  obtain rfl := eq_of_beq hmark
  exact ⟨rfl, htakes⟩

theorem takes_indexedName (h : Reads shown (.all indexedName) i c j d) :
    ∃ name, isTypeName name = true ∧ Takes shown (name ++ ['(']) i j ∧
      d = (1, i, i + name.length) :: c := by
  obtain ⟨_, _, hbefore, h⟩ := Pattern.reads_all_cons.1 h
  obtain ⟨_, _, hcapture, h⟩ := Pattern.reads_all_cons.1 h
  obtain ⟨_, _, hopen, h⟩ := Pattern.reads_all_cons.1 h
  obtain ⟨rfl, rfl⟩ := Pattern.reads_all_nil.1 h
  obtain ⟨_, rfl, hread⟩ := Pattern.reads_capture.1 hcapture
  obtain ⟨rfl, hparen⟩ := takes_of_char hopen
  cases hbefore
  cases hread with
  | seq hfirst hmore =>
      obtain ⟨rfl, first, htakes, hstart⟩ := Pattern.reads_one.1 hfirst
      obtain ⟨rfl, more, htakes', hword⟩ := Pattern.reads_many_one.1 hmore
      have hname : Takes shown ([first] ++ more) i _ := Pattern.takes_append.2 ⟨_, htakes, htakes'⟩
      refine ⟨first :: more, ?_, Pattern.takes_append.2 ⟨_, hname, hparen⟩, ?_⟩
      · exact Bool.and_eq_true_iff.2 ⟨hstart, List.all_eq_true.2 hword⟩
      · rw [hname.ends]
        rfl

theorem takes_indexedEnd (h : Reads shown (.all indexedEnd) i c j d) :
    ∃ digits, digits ≠ [] ∧ (∀ c ∈ digits, Text.isDigit c = true) ∧
      Takes shown ([')', '['] ++ (digits ++ [']'])) i j ∧
        d = (3, i + 2, i + 2 + digits.length) :: c := by
  obtain ⟨_, _, hclose, h⟩ := Pattern.reads_all_cons.1 h
  obtain ⟨_, _, hopen, h⟩ := Pattern.reads_all_cons.1 h
  obtain ⟨_, _, hcapture, h⟩ := Pattern.reads_all_cons.1 h
  obtain ⟨_, _, hlast, h⟩ := Pattern.reads_all_cons.1 h
  obtain ⟨rfl, rfl⟩ := Pattern.reads_all_nil.1 h
  obtain ⟨rfl, hparen⟩ := takes_of_char hclose
  obtain ⟨rfl, hbracket⟩ := takes_of_char hopen
  obtain ⟨_, rfl, hread⟩ := Pattern.reads_capture.1 hcapture
  obtain ⟨rfl, digits, hdigits, hne, hall⟩ := Pattern.reads_many1_one.1 hread
  obtain ⟨hcaptures, hend⟩ := takes_of_char hlast
  have hfront : Takes shown ([')'] ++ ['[']) i _ := Pattern.takes_append.2 ⟨_, hparen, hbracket⟩
  refine ⟨digits, hne, hall,
    Pattern.takes_append.2 ⟨_, hfront, Pattern.takes_append.2 ⟨_, hdigits, hend⟩⟩, ?_⟩
  rw [hcaptures, hdigits.ends, hfront.ends]
  rfl

/-- What is matched is an indexed call. -/
theorem exists_indexedCall (h : m.Of indexedCall (mask text)) :
    ∃ call : IndexedCall, slice text m.start m.stop = call.source ∧
      readArrayAccess text m = call.access := by
  obtain ⟨a, d, hfront, hrest⟩ :=
    (@Pattern.reads_all_append _ indexedName (.capture 2 (nestedText 1) :: indexedEnd) _ _ _ _).1
      h.reads
  obtain ⟨b, e, hargs, hback⟩ := Pattern.reads_all_cons.1 hrest
  obtain ⟨hstart, hopen, hliteral⟩ := outside_of_reads hfront (by cbv)
  obtain ⟨hclose, hstop, hliteral'⟩ := outside_of_reads hback (by cbv)
  obtain ⟨name, hnamed, hname, rfl⟩ := takes_indexedName hfront
  obtain ⟨digits, hne, hdecimal, hend, hcaptures⟩ := takes_indexedEnd hback
  obtain ⟨_, rfl, hinside⟩ := Pattern.reads_capture.1 hargs
  obtain rfl := hinside.captures_eq (by cbv)
  have hle := hargs.le
  have hfrontText : slice text m.start a = name ++ ['('] := by
    rw [slice_of_reads hfront (by cbv) hliteral hopen.le, hname.slice_eq]
  have hbackText : slice text b m.stop = [')', '['] ++ (digits ++ [']']) := by
    rw [slice_of_reads hback (by cbv) hliteral' hstop.le, hend.slice_eq]
  have hnameGroup : m.group text 1 = name := by
    have hslice : slice text m.start (m.start + name.length) =
        (slice text m.start a).take name.length := by
      rw [slice, slice, hname.ends, List.take_take]
      simp
    rw [Match.group, Match.span?, hcaptures]
    exact hslice.trans (by rw [hfrontText, List.take_left])
  have hdigitsGroup : m.group text 3 = digits := by
    have hdrop : text.drop (b + 2) = digits ++ ([']'] ++ text.drop m.stop) := by
      rw [← List.drop_drop, ← Pattern.slice_append_drop hback.le, hbackText]
      simp
    rw [Match.group, Match.span?, hcaptures]
    exact (Pattern.takes_of_drop hdrop).1.slice_eq
  have hargsGroup : m.group text 2 = slice text a b := by
    rw [Match.group, Match.span?, hcaptures]
    rfl
  refine ⟨⟨name, slice text a b, digits, hnamed, hne, hdecimal⟩, ?_, ?_⟩
  · rw [← Pattern.slice_append_slice (Nat.le_trans hfront.le hle)
      hback.le, ← Pattern.slice_append_slice hfront.le hle, hfrontText, hbackText,
      List.append_assoc]
    rfl
  · rw [readArrayAccess, hnameGroup, hdigitsGroup, hargsGroup]
    rfl

end

/-! ## Restoring -/

section

variable {records : Numbered ArrayAccess}

/-- Where no groupings, pivot clauses and casts are recorded, the passes for them keep a
statement. -/
theorem restoreStatement_early {records : List Record} (hgroups : groupTokens records = [])
    (hpivots : pivots records = []) (hcasts : casts records = []) (statement : Statement) :
    (restoreStatement records statement).statement =
      (restoreArrayAccesses (arrayAccesses records)
        (restoreHead records statement).statement).statement := by
  have hcast (s : Statement) : (restoreCasts [] s).statement = s := rfl
  simp only [restoreStatement, Restored.andThen, hgroups, hpivots, hcasts, restoreGroups_nil,
    restorePivots_nil, hcast]

end

/-! ## From the text to the tree -/

section

variable {text : List Char}

end

end SqlLayout.Placeholder
