import SqlLayout.Proofs.Pattern.Takes
import SqlLayout.Proofs.Placeholder.Edits
import SqlLayout.Proofs.Text.Case

/-!
# The expansion of casts

Casts are expanded pass by pass until none is left.  Every pass takes two colons away for each cast
that it expands and adds none, so the passes come to an end, there are half as many records as
colons taken away, and the text that is left has no cast.

## Implementation notes

A replacement repeats the operand and the type of its cast, which may hold colons in comments.
Upper case keeps the colons of a type, and so does dropping its blanks; only the two colons between
operand and type are lost.
-/

namespace SqlLayout.Placeholder

open Pattern (Match Reads Captures slice splice)
open Source

/-! ## One pass -/

/-- The casts of a text, each with the call that takes its place. -/
def castEdits (text : List Char) : List (Match × List Char) :=
  (shorthandCast.findOutside text).map fun m => (m, (readCast text m).expansion)

/-- A text with its casts expanded once. -/
def expandOnce (text : List Char) : Encoded :=
  { text := splice text 0 (castEdits text)
    records := (shorthandCast.findOutside text).map fun m => .castShorthand (readCast text m) }

/-- Casts are expanded pass by pass until none is left. -/
inductive Expands : List Char → Encoded → Prop where
  | done {text : List Char} (h : shorthandCast.findOutside text = []) :
      Expands text { text := text }
  | pass {text : List Char} {rest : Encoded} (h : shorthandCast.findOutside text ≠ [])
      (later : Expands (expandOnce text).text rest) :
      Expands text { text := rest.text, records := (expandOnce text).records ++ rest.records }

/-- There is one way to expand the casts of a text. -/
theorem Expands.unique {text : List Char} {encoded : Encoded} (h : Expands text encoded) :
    ∀ {other : Encoded}, Expands text other → encoded = other := by
  induction h with
  | done hnone =>
      intro other hother
      cases hother with
      | done => rfl
      | pass hsome _ => exact absurd hnone hsome
  | pass hsome _ ih =>
      intro other hother
      cases hother with
      | done hnone => exact absurd hnone hsome
      | pass _ later => rw [ih later]

theorem Expands.none_left {text : List Char} {encoded : Encoded} (h : Expands text encoded) :
    shorthandCast.findOutside encoded.text = [] := by
  induction h with
  | done hnone => exact hnone
  | pass _ _ ih => exact ih

theorem expandCasts_succ (passes : Nat) (text : List Char) : expandCasts (passes + 1) text =
    if shorthandCast.findOutside text = [] then { text := text } else
      let rest := expandCasts passes (expandOnce text).text
      { text := rest.text, records := (expandOnce text).records ++ rest.records } := by
  rw [expandCasts, expandOnce, castEdits]
  cases hfound : shorthandCast.findOutside text with
  | nil => rfl
  | cons m rest =>
      have hzip (found : List Match) :
        found.zip ((found.map (readCast text)).map CastShorthand.expansion) =
          found.map fun m => (m, (readCast text m).expansion) := by
        rw [List.map_map]
        exact List.map_prod_left_eq_zip.symm
      simp only [hzip]
      simp

/-! ## What can be cast -/

/-- A call. -/
def castableCall : List Pattern :=
  [.one isNameStart, .many (.one fun c => Text.isWord c || c == '.'), .char '(', nestedText 2,
    .char ')']

/-- A group in parentheses. -/
def castableGroup : List Pattern :=
  [.char '(', nestedText 1, .char ')']

/-- A string. -/
def castableString : List Pattern :=
  [.char '\x27', .many (.one (· != '\x27')), .char '\x27']

/-- A number. -/
def castableNumber : Pattern :=
  .seq .digits (.optional (.seq (.char '.') .digits))

/-- A name, which may be qualified. -/
def castableName : List Pattern :=
  [.one isNameStart, .many (.one isNamePart),
    .many (.all [.char '.', .one isNameStart, .many (.one isNamePart)])]

theorem reads_castOperand {text : List Char} {i j : Nat} {c d : Captures} :
    Reads text castOperand i c j d ↔
    Reads text (.all castableCall) i c j d ∨ Reads text (.all castableGroup) i c j d ∨
      Reads text (.all castableString) i c j d ∨ Reads text castableNumber i c j d ∨
      Reads text (.all castableName) i c j d := by
  constructor
  · rintro (_ | _ | _ | hcall |
      (_ | _ | _ | hgroup | (_ | _ | _ | hstring | (_ | _ | _ | hnumber | hname))))
    · exact .inl hcall
    · exact .inr (.inl hgroup)
    · exact .inr (.inr (.inl hstring))
    · exact .inr (.inr (.inr (.inl hnumber)))
    · exact .inr (.inr (.inr (.inr hname)))
  · rintro (hcall | hgroup | hstring | hnumber | hname)
    · exact .left hcall
    · exact .right (.left hgroup)
    · exact .right (.right (.left hstring))
    · exact .right (.right (.right (.left hnumber)))
    · exact .right (.right (.right (.right hname)))

/-! ## The parts of a cast -/

/-- The parts of a cast: its operand up to two colons, and its type after them. -/
structure CastParts (shown : List Char) (m : Match) (colon : Nat) : Prop where
  operandSpan : m.span? 1 = some (m.start, colon)
  typeSpan : m.span? 2 = some (colon + 2, m.stop)
  operand : ∃ c d, Reads shown castOperand m.start c colon d
  first : shown[colon]? = some ':'
  second : shown[colon + 1]? = some ':'
  type : ∃ c d, Reads shown castType (colon + 2) c m.stop d

theorem cast_of {shown : List Char} {m : Match} (h : m.Of shorthandCast shown) :
    ∃ colon, CastParts shown m colon := by
  obtain ⟨_, _, hbefore, hrest⟩ := Pattern.reads_all_cons.1 h.reads
  obtain ⟨colon, _, hoperand, hrest⟩ := Pattern.reads_all_cons.1 hrest
  obtain ⟨_, _, hfirst, hrest⟩ := Pattern.reads_all_cons.1 hrest
  obtain ⟨_, _, hsecond, hrest⟩ := Pattern.reads_all_cons.1 hrest
  obtain ⟨_, _, htype, hend⟩ := Pattern.reads_all_cons.1 hrest
  obtain ⟨rfl, hcaptures⟩ := Pattern.reads_all_nil.1 hend
  cases hbefore
  cases hfirst with
  | one hfirst hcolon =>
      cases hsecond with
      | one hsecond hcolon' =>
          obtain rfl := eq_of_beq hcolon
          obtain rfl := eq_of_beq hcolon'
          obtain ⟨_, rfl, hoperand'⟩ := Pattern.reads_capture.1 hoperand
          obtain ⟨_, rfl, htype'⟩ := Pattern.reads_capture.1 htype
          refine ⟨colon, ?_, ?_, ⟨_, _, hoperand'⟩, hfirst, hsecond, ⟨_, _, htype'⟩⟩
          · rw [Match.span?, ← hcaptures, List.lookup_cons]
            exact htype'.lookup_eq (by decide)
          · rw [Match.span?, ← hcaptures]
            rfl

section

variable {text : List Char} {m : Match} {colon : Nat}

namespace CastParts

theorem start_lt (h : CastParts (mask text) m colon) : m.start < colon := by
  obtain ⟨_, _, hoperand⟩ := h.operand
  exact hoperand.lt (by decide)

theorem lt_stop (h : CastParts (mask text) m colon) : colon + 2 < m.stop := by
  obtain ⟨_, _, htype⟩ := h.type
  exact htype.lt (by decide)

/-- The two colons of a cast are statement text. -/
theorem colons (h : CastParts (mask text) m colon) :
    Outside text colon ∧ Outside text (colon + 2) ∧ slice text colon (colon + 2) = [':', ':'] := by
  obtain ⟨hfirst, hcolon, hbetween⟩ :=
    outside_of_shown h.first (by decide) (not_inLiteral_of_plain h.first (by decide))
  obtain ⟨hsecond, -, hafter⟩ :=
    outside_of_shown h.second (by decide) (not_inLiteral_of_plain h.second (by decide))
  have hpart : text.drop colon = [':', ':'] ++ text.drop (colon + 2) := by
    obtain ⟨hlt, hget⟩ := List.getElem?_eq_some_iff.1 hfirst
    obtain ⟨hlt', hget'⟩ := List.getElem?_eq_some_iff.1 hsecond
    rw [List.drop_eq_getElem_cons hlt, List.drop_eq_getElem_cons hlt', hget, hget']
    rfl
  refine ⟨hcolon, hafter, ?_⟩
  rw [slice, hpart, Nat.add_sub_cancel_left]
  rfl

/-- A cast is written from its operand, two colons and its type. -/
theorem slice_eq (h : CastParts (mask text) m colon) :
    slice text m.start m.stop = m.group text 1 ++ [':', ':'] ++ m.group text 2 := by
  rw [Match.group, Match.group, h.operandSpan, h.typeSpan, ← h.colons.2.2,
    Pattern.slice_append_slice h.start_lt.le (Nat.le_add_right _ _),
    Pattern.slice_append_slice (h.start_lt.le.trans (Nat.le_add_right _ _)) h.lt_stop.le]

end CastParts

/-! ## Colons -/

theorem colon_mark : Text.asciiMarks.has ':'.toNat = true := by
  decide

/-- The call that takes the place of a cast has all of its colons but two. -/
theorem count_expansion (h : m.Of shorthandCast (mask text)) :
    (slice text m.start m.stop).count ':' = (readCast text m).expansion.count ':' + 2 := by
  obtain ⟨colon, hparts⟩ := cast_of h
  have htype (type : List Char) : (type.filter (!Text.isBlank ·)).count ':' = type.count ':' :=
    List.count_filter (by decide)
  have hfixed : castToken.toList.count ':' = 0 ∧ "(CAST(".toList.count ':' = 0 ∧
      " AS ".toList.count ':' = 0 ∧ "))".toList.count ':' = 0 := by
    decide
  obtain ⟨htoken, hopen, has, hclose⟩ := hfixed
  rw [hparts.slice_eq, CastShorthand.expansion, readCast]
  simp only [String.toList_append, String.toList_ofList, List.count_append,
    Text.count_upper colon_mark, htype, htoken, hopen, has, hclose]
  simp
  omega

end

/-- Edits that lose equally many of a character lose it in the text. -/
theorem count_splice {text shown : List Char} {p : Pattern} {replace : Match → List Char}
    {mark : Char} {lost last : Nat} {found : List Match}
    (hfound : Pattern.InOrder p shown last found)
    (hcount : ∀ m ∈ found, (slice text m.start m.stop).count mark = (replace m).count mark + lost) :
    (splice text last (found.map fun m => (m, replace m))).count mark + lost * found.length =
      (text.drop last).count mark := by
  induction found generalizing last with
  | nil => simp [splice]
  | cons m rest ih =>
      obtain ⟨hm, hrest⟩ := List.forall_mem_cons.1 hcount
      obtain ⟨⟨hof, hle⟩, heach⟩ := List.forall_mem_cons.1 hfound.each
      obtain ⟨hfirst, hapart⟩ := List.pairwise_cons.1 hfound.apart
      have hlater := ih ⟨fun next hnext => ⟨(heach next hnext).1, hfirst next hnext⟩, hapart⟩ hrest
      calc (splice text last ((m :: rest).map fun m => (m, replace m))).count mark +
        lost * (m :: rest).length
          = (slice text last m.start).count mark + ((replace m).count mark + lost) +
              ((splice text m.stop (rest.map fun m => (m, replace m))).count mark +
                lost * rest.length) := by
            rw [List.map_cons, splice, List.count_append, List.count_append, List.length_cons,
              Nat.mul_succ]
            omega
        _ = (slice text last m.start ++ slice text m.start m.stop ++ text.drop m.stop).count
          mark := by
            rw [hlater, ← hm, List.count_append, List.count_append]
        _ = (text.drop last).count mark := by
            rw [List.append_assoc, Pattern.slice_append_drop hof.reads.le,
              Pattern.slice_append_drop hle]

/-- A pass takes two colons away for each cast. -/
theorem count_expandOnce (text : List Char) :
    (expandOnce text).text.count ':' + 2 * (shorthandCast.findOutside text).length =
      text.count ':' := by
  have hfound := Pattern.inOrder_findAll shorthandCast (mask text)
  exact count_splice hfound fun m hm => count_expansion (hfound.each m hm).1

/-- As many passes as there are colons are enough. -/
theorem expands_expandCasts {passes : Nat} {text : List Char} (h : text.count ':' ≤ passes) :
    Expands text (expandCasts passes text) := by
  induction passes generalizing text with
  | zero =>
      have hcount := count_expandOnce text
      refine .done (List.eq_nil_of_length_eq_zero ?_)
      omega
  | succ passes ih =>
      rw [expandCasts_succ]
      split
      · next hnone => exact .done hnone
      · next hsome =>
          have hcount := count_expandOnce text
          have hlength := List.length_pos_iff.2 hsome
          exact .pass hsome (ih (by omega))

theorem Expands.count {text : List Char} {encoded : Encoded} (h : Expands text encoded) :
    encoded.text.count ':' + 2 * encoded.records.length = text.count ':' := by
  induction h with
  | done => simp
  | @pass text rest _ _ ih =>
      have hcount := count_expandOnce text
      have hrecords : (expandOnce text).records.length = (shorthandCast.findOutside text).length :=
        List.length_map _
      simp only [List.length_append]
      omega

/-- The expansion of casts comes to an end and leaves none.  Every pass that finds a cast leaves
fewer colons than there were, by two for each cast that it replaces and records. -/
theorem casts_all_expanded (text : List Char) :
    (∀ encoded, Expands text encoded ↔ encoded = encodeCasts text) ∧
    (∀ current, shorthandCast.findOutside current ≠ [] →
      (expandOnce current).text.count ':' < current.count ':' ∧
      (expandOnce current).text.count ':' + 2 * (shorthandCast.findOutside current).length =
        current.count ':' ∧
      (expandOnce current).records.length = (shorthandCast.findOutside current).length) ∧
    (encodeCasts text).text.count ':' + 2 * (encodeCasts text).records.length = text.count ':' ∧
    shorthandCast.findOutside (encodeCasts text).text = [] := by
  have hexpands : Expands text (encodeCasts text) := expands_expandCasts (Nat.le_refl _)
  refine ⟨fun encoded => ⟨fun h => h.unique hexpands, ?_⟩, fun current hsome => ?_, hexpands.count,
    hexpands.none_left⟩
  · rintro rfl
    exact hexpands
  · have hcount := count_expandOnce current
    have hlength := List.length_pos_iff.2 hsome
    exact ⟨by omega, hcount, List.length_map _⟩

end SqlLayout.Placeholder
