import SqlLayout.Proofs.Placeholder.CastSeams
import SqlLayout.Proofs.Placeholder.Levels
import SqlLayout.Proofs.Placeholder.Trailing

/-!
# Chains of casts

In a chain `x::a::b` every cast applies to what stands before it.  Such a chain is expanded from its
innermost cast outwards exactly when it has at most two links.  A longer one is taken apart: the
first pass also takes the second type for what the third one is the type of.
-/

namespace SqlLayout.Placeholder

open Pattern (Match Reads Captures Takes slice splice foundFrom placeAt)
open Source

/-! ## Chains -/

/-- Whether a text is a name without qualification. -/
def isName : List Char → Bool
  | [] => false
  | c :: rest => isNameStart c && rest.all isNamePart

/-- Whether a text is the name of a type without parameters. -/
def isTypeName : List Char → Bool
  | [] => false
  | c :: rest => isNameStart c && rest.all Text.isWord

/-- A text with casts to several types, one after the other. -/
def castChain (operand : List Char) (types : List (List Char)) : List Char :=
  operand ++ types.flatMap fun type => ':' :: ':' :: type

/-- The record of one cast. -/
def castOf (operand type : List Char) : CastShorthand :=
  { token := castToken, operand := String.ofList operand, typeText := String.ofList type }

/-- The casts of a chain from the innermost one outwards, each of all that is inside of it. -/
def nestedCasts : List Char → List (List Char) → List CastShorthand
  | _, [] => []
  | operand, type :: types =>
    castOf operand type :: nestedCasts (castOf operand type).expansion types

/-- Whether neither a name goes on with a text nor the parameters of a type. -/
def endsType : List Char → Bool
  | [] => true
  | '(' :: x :: _ => !Text.isBlank x && !Text.isDigit x
  | x :: _ => !Text.isWord x && !Text.isBlank x && x != '('

/-- A chain with its casts expanded from the innermost one outwards. -/
def nestedChain (operand : List Char) (types : List (List Char)) : List Char :=
  types.foldl (fun inner type => (castOf inner type).expansion) operand

/-! ## What a cast is read from -/

/-- The parts of a cast before its type. -/
def castFront : List Pattern :=
  [.notAfter (fun c => Text.isWord c || c == '$' || c == '.'), .capture 1 castOperand, .char ':',
    .char ':']

section

variable {text type rest : List Char} {i j : Nat}

theorem reads_char {c : Char} {d e : Captures} :
    Reads text (.char c) i d j e ↔ e = d ∧ j = i + 1 ∧ text[i]? = some c := by
  constructor
  · rintro (_ | ⟨hx, hc⟩)
    exact ⟨rfl, rfl, eq_of_beq hc ▸ hx⟩
  · rintro ⟨rfl, rfl, hx⟩
    exact .one hx (by simp)

theorem reads_castFront {d : Captures} : Reads text (.all castFront) i [] j d ↔
    (text.take i).getLast?.any (fun c => Text.isWord c || c == '$' || c == '.') = false ∧
    ∃ colon, j = colon + 2 ∧ d = [(1, i, colon)] ∧ Reads text castOperand i [] colon [] ∧
      text[colon]? = some ':' ∧ text[colon + 1]? = some ':' := by
  simp only [castFront, Pattern.reads_all_cons, Pattern.reads_all_nil, reads_char,
    Pattern.reads_capture]
  constructor
  · rintro ⟨_, _, hbefore, colon, _, ⟨e, rfl, hoperand⟩, _, _, ⟨rfl, rfl, hfirst⟩, _, _,
      ⟨rfl, rfl, hsecond⟩, rfl, rfl⟩
    cases hbefore with
    | notAfter hbefore =>
        obtain rfl := hoperand.captures_eq (by cbv)
        exact ⟨hbefore, colon, rfl, rfl, hoperand, hfirst, hsecond⟩
  · rintro ⟨hbefore, colon, rfl, rfl, hoperand, hfirst, hsecond⟩
    exact ⟨i, [], .notAfter hbefore, colon, _, ⟨[], rfl, hoperand⟩, _, _, ⟨rfl, rfl, hfirst⟩, _, _,
      ⟨rfl, rfl, hsecond⟩, rfl, rfl⟩

/-- The parameters of a type. -/
def typeParameters : List Pattern :=
  [.blanks, .char '(', .blanks, .digits, .blanks,
    .optional (.all [.char ',', .blanks, .digits, .blanks]), .char ')']

theorem head_of_endsType {x : Char} (h : endsType (x :: rest) = true) :
    Text.isWord x = false ∧ Text.isBlank x = false := by
  by_cases hopen : x = '('
  · subst hopen
    decide
  · cases rest <;> simp_all [endsType]

theorem inside_of_endsType (h : endsType ('(' :: rest) = true) :
    ∃ x, rest.head? = some x ∧ Text.isBlank x = false ∧ Text.isDigit x = false := by
  cases rest with
  | nil => cases h
  | cons x rest => exact ⟨x, rfl, by simpa [endsType] using h⟩

theorem endsType_colon (rest : List Char) : endsType (':' :: rest) = true := by
  cases rest <;> rfl

theorem eq_of_reads_blanks {c d : Captures} {x : Char} (h : Reads text .blanks i c j d)
    (hx : text[i]? = some x) (hblank : Text.isBlank x = false) : j = i := by
  have hstarts : Pattern.blanks.avoidsFirst [x] = true := by
    simp [Pattern.blanks, Pattern.avoidsFirst, hblank]
  obtain rfl | ⟨y, hy, hnot⟩ := h.first hstarts
  · rfl
  · obtain rfl := Option.some.inj (hx.symm.trans hy)
    exact absurd List.mem_cons_self hnot

/-- No parameters are read where a type ends. -/
theorem not_reads_parameters {c d : Captures} (hdrop : text.drop i = rest)
    (hrest : endsType rest = true) :
    ¬ Reads text (.all typeParameters) i c j d := by
  intro h
  obtain ⟨k, _, hblanks, h⟩ := Pattern.reads_all_cons.1 h
  obtain ⟨_, _, hopen, h⟩ := Pattern.reads_all_cons.1 h
  obtain ⟨-, rfl, hget⟩ := reads_char.1 hopen
  obtain ⟨l, _, hblanks', h⟩ := Pattern.reads_all_cons.1 h
  obtain ⟨_, _, hdigits, -⟩ := Pattern.reads_all_cons.1 h
  cases rest with
  | nil =>
      have hlength := List.drop_eq_nil_iff.1 hdrop
      have hk := (List.getElem?_eq_some_iff.1 hget).1
      have hle := hblanks.le
      omega
  | cons y rest =>
      obtain ⟨hy, hinside⟩ := Pattern.drop_eq_cons hdrop
      obtain rfl := eq_of_reads_blanks hblanks hy (head_of_endsType hrest).2
      obtain rfl := Option.some.inj (hy.symm.trans hget)
      obtain ⟨x, hx, hblank, hdigit⟩ := inside_of_endsType hrest
      rw [← hinside, List.head?_drop] at hx
      obtain rfl := eq_of_reads_blanks hblanks' hx hblank
      obtain ⟨-, part, htakes, hne, hall⟩ := Pattern.reads_many1_one.1 hdigits
      obtain ⟨digit, more, rfl⟩ := List.exists_cons_of_ne_nil hne
      have hstart := (Pattern.drop_eq_cons htakes.starts).1
      obtain rfl := Option.some.inj (hx.symm.trans hstart)
      have htrue := hall x List.mem_cons_self
      rw [hdigit] at htrue
      cases htrue

/-- Where a type ends its parameters are left out. -/
theorem run_parameters {c : Captures} {next : Pattern.Place → Captures → Option (Nat × Captures)}
    (hdrop : text.drop i = rest) (hrest : endsType rest = true) :
    Pattern.run text.length (.all [.optional (.all typeParameters)]) (placeAt text i) c next =
      next (placeAt text i) c := by
  have hnone : Pattern.run text.length (.all typeParameters) (placeAt text i) c next = none := by
    refine Option.eq_none_iff_forall_ne_some.2 fun found hfound => ?_
    obtain ⟨_, _, hread, -⟩ := Pattern.follows_run _ hfound
    exact not_reads_parameters hdrop hrest hread
  exact congrArg (· <|> next (placeAt text i) c) hnone

/-- A type without parameters is read up to its last character. -/
theorem run_castType {c : Captures} {next : Pattern.Place → Captures → Option (Nat × Captures)}
    (hnext : ∀ place captures, (next place captures).isSome = true) (htype : isTypeName type = true)
    (hdrop : text.drop i = type ++ rest) (hrest : endsType rest = true) :
    Pattern.run text.length castType (placeAt text i) c next =
      next (placeAt text (i + type.length)) c := by
  obtain ⟨first, more, rfl⟩ := List.exists_cons_of_ne_nil (l := type) (by rintro rfl; cases htype)
  obtain ⟨hfirst, hmore⟩ := Bool.and_eq_true_iff.1 htype
  have hhead : ∀ y ∈ rest.head?, Text.isWord y = false := by
    cases rest with
    | nil => nofun
    | cons y rest =>
        rintro _ ⟨⟩
        exact (head_of_endsType hrest).1
  have hend : Pattern.spanEnd text Text.isWord (i + 1) = i + (first :: more).length := by
    rw [Pattern.spanEnd_eq (Pattern.drop_eq_cons hdrop).2 (List.all_eq_true.1 hmore) hhead,
      List.length_cons]
    omega
  have hbehind : text.drop (i + (first :: more).length) = rest := by
    rw [← List.drop_drop, hdrop, List.drop_left]
  have hname : Pattern.run text.length castType (placeAt text i) c next =
      Pattern.run text.length (.one isNameStart) (placeAt text i) c fun place captures =>
        Pattern.run text.length (.many (.one Text.isWord)) place captures fun place captures =>
          Pattern.run text.length (.all [.optional (.all typeParameters)]) place captures next :=
            rfl
  rw [hname, Pattern.run_one_cons hdrop, if_pos hfirst, Pattern.run_many_one, hend,
    run_parameters hbehind hrest]
  left
  rw [hend, run_parameters hbehind hrest]
  exact hnext _ _

/-- The cast at an offset, when there is one way to read what is cast and the type has no
parameters. -/
theorem matchAt_cast {colon : Nat} (hi : i ≤ text.length)
    (hbefore : (text.take i).getLast?.any (fun c => Text.isWord c || c == '$' || c == '.') = false)
    (hoperand : Reads text castOperand i [] colon [])
    (honly : ∀ k, Reads text castOperand i [] k [] → text[k]? = some ':' → text[k + 1]? = some ':' →
      k = colon)
    (htype : isTypeName type = true) (hdrop : text.drop colon = ':' :: ':' :: (type ++ rest))
    (hrest : endsType rest = true) :
    Pattern.matchAt shorthandCast text.length (placeAt text i) = some
      { start := i, stop := colon + 2 + type.length
        captures := [(2, colon + 2, colon + 2 + type.length), (1, i, colon)] } := by
  obtain ⟨hfirst, hdrop⟩ := Pattern.drop_eq_cons hdrop
  obtain ⟨hsecond, hdrop⟩ := Pattern.drop_eq_cons hdrop
  have hfront : Reads text (.all castFront) i [] (colon + 2) [(1, i, colon)] :=
    reads_castFront.2 ⟨hbefore, colon, rfl, rfl, hoperand, hfirst, hsecond⟩
  have hdecided : (Pattern.all castFront).decided = true := by cbv
  have htaken : Pattern.run text.length (.all [.capture 2 castType]) (placeAt text (colon + 2))
    [(1, i, colon)]
      (fun place captures => some (place.pos, captures)) =
      some (colon + 2 + type.length, [(2, colon + 2, colon + 2 + type.length), (1, i, colon)]) :=
    run_castType (fun _ _ => rfl) htype hdrop hrest
  refine Pattern.matchAt_append_eq hdecided hi hfront (fun {k e} h => ?_) htaken
  obtain ⟨-, other, rfl, rfl, hother, hfirst', hsecond'⟩ := reads_castFront.1 h
  obtain rfl := honly other hother hfirst' hsecond'
  exact ⟨rfl, rfl⟩

/-- No cast starts with a colon, nor where no two colons follow. -/
theorem matchAt_eq_none (h : text[i]? = some ':' ∨ ∀ k, i < k → text[k]? = some ':' →
    text[k + 1]? ≠ some ':') :
    Pattern.matchAt shorthandCast text.length (placeAt text i) = none := by
  refine Option.eq_none_iff_forall_ne_some.2 fun m hm => ?_
  obtain ⟨rfl, hread⟩ := Pattern.of_matchAt hm
  obtain ⟨_, _, hfront, -⟩ :=
    (@Pattern.reads_all_append _ castFront [.capture 2 castType] _ _ _ _).1 hread
  obtain ⟨-, colon, -, -, hoperand, hfirst, hsecond⟩ := reads_castFront.1 hfront
  have hlt := hoperand.lt (by decide)
  obtain hcolon | hnone := h
  · have hstarts : castOperand.avoidsFirst [':'] = true := by cbv
    obtain ⟨x, hx, hmark⟩ := (hoperand.first hstarts).resolve_left (Nat.ne_of_lt hlt)
    obtain rfl := Option.some.inj (hx.symm.trans hcolon)
    exact hmark (by simp)
  · exact hnone colon hlt hfirst hsecond

end

/-! ## Names -/

section

variable {c : Char} {text name rest : List Char} {i : Nat}

theorem code_of_asciiLetter (h : Text.isAsciiLetter c = true) :
    65 ≤ c.toNat ∧ c.toNat ≤ 90 ∨ 97 ≤ c.toNat ∧ c.toNat ≤ 122 := by
  simp only [Text.isAsciiLetter, Bool.or_eq_true, Bool.and_eq_true, decide_eq_true_eq, Char.le_def,
    UInt32.le_iff_toNat_le] at h
  exact h.symm

theorem isWord_of_isNameStart (h : isNameStart c = true) : Text.isWord c = true := by
  obtain hletter | hunderscore := Bool.or_eq_true_iff.1 h
  · have hcode := code_of_asciiLetter hletter
    rw [Text.isWord, if_pos (by omega), hletter]
    rfl
  · rw [eq_of_beq hunderscore]
    decide

theorem not_isDigit_of_isNameStart (h : isNameStart c = true) : Text.isDigit c = false := by
  obtain hletter | hunderscore := Bool.or_eq_true_iff.1 h
  · have hcode := code_of_asciiLetter hletter
    have hdigit : Text.isAsciiDigit c = false := by
      simp only [Text.isAsciiDigit, Bool.and_eq_false_iff, decide_eq_false_iff_not, Char.le_def,
        UInt32.le_iff_toNat_le]
      right
      change ¬c.toNat ≤ 57
      omega
    rw [Text.isDigit, Text.digitValue?, if_pos (by omega), hdigit]
    rfl
  · rw [eq_of_beq hunderscore]
    decide

theorem isNamePart_of_isWord (h : Text.isWord c = true) : isNamePart c = true := by
  rw [isNamePart, h, Bool.true_or]

theorem all_isWord (h : isTypeName name = true) : ∀ c ∈ name, Text.isWord c = true := by
  cases name with
  | nil => cases h
  | cons first more =>
      obtain ⟨hfirst, hmore⟩ := Bool.and_eq_true_iff.1 h
      exact List.forall_mem_cons.2 ⟨isWord_of_isNameStart hfirst, List.all_eq_true.1 hmore⟩

theorem isName_of_isTypeName (h : isTypeName name = true) : isName name = true := by
  cases name with
  | nil => cases h
  | cons first more =>
      obtain ⟨hfirst, hmore⟩ := Bool.and_eq_true_iff.1 h
      refine Bool.and_eq_true_iff.2 ⟨hfirst, List.all_eq_true.2 fun c hc => ?_⟩
      exact isNamePart_of_isWord (List.all_eq_true.1 hmore c hc)

theorem all_isNamePart (h : isName name = true) : ∀ c ∈ name, isNamePart c = true := by
  cases name with
  | nil => cases h
  | cons first more =>
      obtain ⟨hfirst, hmore⟩ := Bool.and_eq_true_iff.1 h
      exact List.forall_mem_cons.2 ⟨isNamePart_of_isWord (isWord_of_isNameStart hfirst),
        List.all_eq_true.1 hmore⟩

theorem not_mem_of_isNamePart {mark : Char} (h : ∀ c ∈ name, isNamePart c = true)
    (hmark : isNamePart mark = false) :
    mark ∉ name := by
  intro hmem
  rw [h mark hmem] at hmark
  cases hmark

/-- A name can be cast. -/
theorem reads_name (hname : isName name = true) (hdrop : text.drop i = name ++ rest) :
    Reads text castOperand i [] (i + name.length) [] := by
  cases name with
  | nil => cases hname
  | cons first more =>
      obtain ⟨hfirst, hmore⟩ := Bool.and_eq_true_iff.1 hname
      obtain ⟨htakes, -⟩ := Pattern.takes_of_drop hdrop
      obtain ⟨hone, hmany⟩ := htakes.uncons
      have hreadFirst : Reads text (.one isNameStart) i [] (i + 1) [] :=
        Pattern.reads_one.2 ⟨rfl, first, hone, hfirst⟩
      have hreadMore : Reads text (.many (.one isNamePart)) (i + 1) []
          (i + (first :: more).length) [] :=
        Pattern.reads_many_one.2 ⟨rfl, more, hmany, List.all_eq_true.1 hmore⟩
      have hread : Reads text (.all castableName) i [] (i + (first :: more).length) [] :=
        .seq hreadFirst (.seq hreadMore (.seq .manyDone .empty))
      exact reads_castOperand.2 (.inr (.inr (.inr (.inr hread))))

/-- Where there are only names and colons, the operand of a cast is the name before its colons. -/
theorem eq_of_reads_name (hplain : ∀ c ∈ text, isNamePart c = true ∨ c = ':')
    (hname : isName name = true) (hdrop : text.drop i = name ++ ':' :: rest) {k : Nat}
    (h : Reads text castOperand i [] k [])
    (hk : text[k]? = some ':') : k = i + name.length := by
  have hnot {mark : Char} {j e : Nat} {c d : Captures} (hread : Reads text (.char mark) j c e d) :
      isNamePart mark = true ∨ mark = ':' :=
    hplain mark (List.mem_of_getElem? (reads_char.1 hread).2.2)
  obtain hcall | hgroup | hstring | hnumber | hread := reads_castOperand.1 h
  · obtain ⟨_, _, -, hrest⟩ := Pattern.reads_all_cons.1 hcall
    obtain ⟨_, _, -, hrest⟩ := Pattern.reads_all_cons.1 hrest
    obtain ⟨_, _, hopen, -⟩ := Pattern.reads_all_cons.1 hrest
    exact absurd (hnot hopen) (by decide)
  · obtain ⟨_, _, hopen, -⟩ := Pattern.reads_all_cons.1 hgroup
    exact absurd (hnot hopen) (by decide)
  · obtain ⟨_, _, hopen, -⟩ := Pattern.reads_all_cons.1 hstring
    exact absurd (hnot hopen) (by decide)
  · obtain ⟨first, more, rfl⟩ := List.exists_cons_of_ne_nil (l := name) (by rintro rfl; cases hname)
    obtain ⟨hfirst, -⟩ := Bool.and_eq_true_iff.1 hname
    cases hnumber with
    | seq hdigits _ =>
        obtain ⟨-, part, htakes, hne, hall⟩ := Pattern.reads_many1_one.1 hdigits
        obtain ⟨digit, rest, rfl⟩ := List.exists_cons_of_ne_nil hne
        obtain rfl : first = digit := (List.cons.inj (hdrop.symm.trans htakes.starts)).1
        have hdigit := hall first List.mem_cons_self
        rw [not_isDigit_of_isNameStart hfirst] at hdigit
        cases hdigit
  · have hget : text[i + name.length]? = some ':' := by
      rw [← List.getElem?_drop, hdrop, List.getElem?_append_right (Nat.le_refl _), Nat.sub_self]
      rfl
    have havoids : (Pattern.all castableName).avoids [':'] = true := by cbv
    have hcolons := hread.avoids havoids
    obtain hlt | heq | hlt := Nat.lt_trichotomy k (i + name.length)
    · have hcolon : ':' ∉ name := not_mem_of_isNamePart (all_isNamePart hname) (by decide)
      refine absurd ?_ hcolon
      have hle := hread.le
      have hmem : (text.drop i)[k - i]? = some ':' := by
        rwa [List.getElem?_drop, Nat.add_sub_cancel' hle]
      rw [hdrop, List.getElem?_append_left (by omega)] at hmem
      exact List.mem_of_getElem? hmem
    · exact heq
    · exact absurd (List.mem_singleton_self ':')
        (hcolons ':' (Pattern.mem_slice (Nat.le_add_right _ _) hlt hget))

end

/-! ## The first pass over a chain -/

/-- What the first pass makes of a chain: it takes every second type for what the next one is the
type of. -/
def pairedChain : List Char → List (List Char) → List Char
  | operand, [] => operand
  | operand, [type] => (castOf operand (Text.upper type)).expansion
  | operand, type :: next :: types =>
    (castOf operand (Text.upper type)).expansion ++ ':' :: ':' :: pairedChain next types

/-- The casts that the first pass finds in a chain. -/
def pairedCasts : List Char → List (List Char) → List CastShorthand
  | _, [] => []
  | operand, [type] => [castOf operand (Text.upper type)]
  | operand, type :: next :: types => castOf operand (Text.upper type) :: pairedCasts next types

theorem castChain_cons (operand type : List Char) (types : List (List Char)) :
    castChain operand (type :: types) = operand ++ ':' :: ':' :: castChain type types := by
  simp [castChain]

/-- The match of a cast with a name for its type. -/
def nameMatch (i colon stop : Nat) : Match :=
  { start := i, stop := stop, captures := [(2, colon + 2, stop), (1, i, colon)] }

theorem not_isBlank_of_isWord {c : Char} (h : Text.isWord c = true) : Text.isBlank c = false := by
  have hmarks : (trailingMarks.all fun mark => !Text.isWord mark) = true := by decide +kernel
  refine Bool.eq_false_iff.2 fun hblank => ?_
  have hnot := List.all_eq_true.1 hmarks c (mem_trailingMarks (Bool.or_eq_true_iff.2 (.inl hblank)))
  rw [h] at hnot
  cases hnot

section

variable {text operand type rest : List Char} {i : Nat}

theorem readCast_nameMatch (hdrop : text.drop i = operand ++ ':' :: ':' :: (type ++ rest))
    (htype : ∀ c ∈ type, Text.isWord c = true) :
    readCast text (nameMatch i (i + operand.length) (i + operand.length + 2 + type.length)) =
      castOf operand (Text.upper type) := by
  obtain ⟨hoperand, hrest⟩ := Pattern.takes_of_drop hdrop
  obtain ⟨-, hrest⟩ := Pattern.drop_eq_cons hrest
  obtain ⟨-, hrest⟩ := Pattern.drop_eq_cons hrest
  obtain ⟨htakes, -⟩ := Pattern.takes_of_drop hrest
  have hkept : type.filter (!Text.isBlank ·) = type :=
    List.filter_eq_self.2 fun c hc => by rw [not_isBlank_of_isWord (htype c hc)]; rfl
  have hfirst : (nameMatch i (i + operand.length) (i + operand.length + 2 + type.length)).group text
      1 = operand :=
    hoperand.slice_eq
  have hsecond : (nameMatch i (i + operand.length) (i + operand.length + 2 + type.length)).group
      text 2 = type :=
    htakes.slice_eq
  rw [readCast, hfirst, hsecond, hkept]
  rfl

/-- A cast to a name is replaced and recorded, and the pass goes on behind it. -/
theorem foundFrom_cast (hi : i ≤ text.length)
    (hdrop : text.drop i = operand ++ ':' :: ':' :: (type ++ rest)) (htype : isTypeName type = true)
    (hmatch : Pattern.matchAt shorthandCast text.length (placeAt text i) = some
      (nameMatch i (i + operand.length) (i + operand.length + 2 + type.length))) :
    let stop := i + operand.length + 2 + type.length
    text.drop stop = rest ∧
    splice text i ((foundFrom shorthandCast text i).map fun m => (m, (readCast text m).expansion)) =
      (castOf operand (Text.upper type)).expansion ++
        splice text stop ((foundFrom shorthandCast text stop).map fun m =>
          (m, (readCast text m).expansion)) ∧
    (foundFrom shorthandCast text i).map (readCast text) =
      castOf operand (Text.upper type) :: (foundFrom shorthandCast text stop).map
        (readCast text) := by
  have hrest : text.drop (i + operand.length + 2 + type.length) = rest := by
    rw [← List.drop_drop, ← List.drop_drop, ← List.drop_drop, hdrop, List.drop_left]
    exact List.drop_left
  have hstop : i + operand.length + 2 + type.length ≤ text.length := by
    have hlength := congrArg List.length hdrop
    simp only [List.length_drop, List.length_append, List.length_cons] at hlength
    omega
  have hfound := Pattern.foundFrom_match
    (show i < (nameMatch i (i + operand.length) (i + operand.length + 2 + type.length)).stop by
      dsimp only [nameMatch]; omega) hstop hmatch
  refine ⟨hrest, ?_, ?_⟩
  · rw [hfound, List.map_cons, splice, readCast_nameMatch hdrop (all_isWord htype)]
    simp only [nameMatch, Pattern.slice_self, List.nil_append]
  · rw [hfound, List.map_cons, readCast_nameMatch hdrop (all_isWord htype)]
    rfl

theorem foundFrom_eq_nil (h : ':' ∉ text.drop i) : foundFrom shorthandCast text i = [] := by
  refine Pattern.foundFrom_eq_nil fun k hk => matchAt_eq_none (.inr fun colon hcolon hget _ => h ?_)
  refine List.mem_of_getElem? (i := colon - i) ?_
  rw [List.getElem?_drop, Nat.add_sub_cancel' (by omega), hget]

/-- Up to the first span that is replaced a text is kept. -/
theorem splice_from {j : Nat} (hij : i ≤ j) {edits : List (Match × List Char)}
    (h : ∀ edit ∈ edits, j ≤ edit.1.start) :
    splice text i edits = slice text i j ++ splice text j edits := by
  cases edits with
  | nil => exact (Pattern.slice_append_drop hij).symm
  | cons edit rest =>
      rw [splice, splice, ← Pattern.slice_append_slice hij (h edit List.mem_cons_self)]
      simp only [List.append_assoc]

theorem matchAt_name (hplain : ∀ c ∈ text, isNamePart c = true ∨ c = ':')
    (hoperand : isName operand = true) (htype : isTypeName type = true) (hi : i ≤ text.length)
    (hbefore : (text.take i).getLast?.any (fun c => Text.isWord c || c == '$' || c == '.') = false)
    (hdrop : text.drop i = operand ++ ':' :: ':' :: (type ++ rest)) (hrest : endsType rest = true) :
    Pattern.matchAt shorthandCast text.length (placeAt text i) = some
      (nameMatch i (i + operand.length) (i + operand.length + 2 + type.length)) := by
  have hcolon : text.drop (i + operand.length) = ':' :: ':' :: (type ++ rest) := by
    rw [← List.drop_drop, hdrop, List.drop_left]
  exact matchAt_cast hi hbefore (reads_name hoperand hdrop)
    (fun k h hk _ => eq_of_reads_name hplain hoperand hdrop h hk) htype hcolon hrest

/-- The first pass over a chain from a name on. -/
theorem foundFrom_chain (hplain : ∀ c ∈ text, isNamePart c = true ∨ c = ':')
    {types : List (List Char)} (hoperand : isName operand = true)
    (htypes : ∀ type ∈ types, isTypeName type = true) (hi : i ≤ text.length)
    (hbefore : (text.take i).getLast?.any (fun c => Text.isWord c || c == '$' || c == '.') = false)
    (hdrop : text.drop i = castChain operand types) :
    splice text i ((foundFrom shorthandCast text i).map fun m => (m, (readCast text m).expansion)) =
      pairedChain operand types ∧
    (foundFrom shorthandCast text i).map (readCast text) = pairedCasts operand types := by
  fun_induction pairedChain operand types generalizing i with
  | case1 operand =>
      have hnone : ':' ∉ text.drop i := by
        rw [hdrop, castChain, List.flatMap_nil, List.append_nil]
        exact not_mem_of_isNamePart (all_isNamePart hoperand) (by decide)
      rw [foundFrom_eq_nil hnone]
      exact ⟨hdrop.trans (List.append_nil operand), rfl⟩
  | case2 operand type =>
      have htype := htypes type List.mem_cons_self
      rw [castChain_cons, castChain, List.flatMap_nil] at hdrop
      obtain ⟨hend, hsplice, hrecords⟩ :=
        foundFrom_cast hi hdrop htype (matchAt_name hplain hoperand htype hi hbefore hdrop rfl)
      rw [hsplice, hrecords, foundFrom_eq_nil (by simp [hend]), List.map_nil, splice, hend]
      exact ⟨List.append_nil _, rfl⟩
  | case3 operand type next types ih =>
      obtain ⟨htype, hlater⟩ := List.forall_mem_cons.1 htypes
      obtain ⟨hnext, htypes⟩ := List.forall_mem_cons.1 hlater
      rw [castChain_cons, castChain_cons] at hdrop
      obtain ⟨hend, hsplice, hrecords⟩ :=
        foundFrom_cast hi hdrop htype (matchAt_name hplain hoperand htype hi hbefore hdrop
          (endsType_colon _))
      generalize i + operand.length + 2 + type.length = stop at hend hsplice hrecords
      obtain ⟨hfirst, hrest⟩ := Pattern.drop_eq_cons hend
      obtain ⟨hsecond, hrest⟩ := Pattern.drop_eq_cons hrest
      have hstop := (List.getElem?_eq_some_iff.1 hsecond).1
      have hskip : foundFrom shorthandCast text stop = foundFrom shorthandCast text (stop + 2) := by
        rw [Pattern.foundFrom_succ (by omega) (matchAt_eq_none (.inl hfirst)),
          Pattern.foundFrom_succ hstop (matchAt_eq_none (.inl hsecond))]
      have hcolon : (text.take (stop + 2)).getLast? = some ':' := by
        rw [List.take_add_one, hsecond, Option.toList_some, List.getLast?_append,
          List.getLast?_singleton, Option.some_or]
      have hkept : slice text stop (stop + 2) = [':', ':'] := by
        rw [slice, hend, Nat.add_sub_cancel_left]
        rfl
      obtain ⟨htext, hcasts⟩ :=
        ih (isName_of_isTypeName hnext) htypes hstop (by rw [hcolon]; decide) hrest
      have hstarts := (Pattern.inOrder_foundFrom (p := shorthandCast) hstop).each
      rw [hsplice, hrecords, hskip, hcasts, splice_from (Nat.le_add_right stop 2), hkept, htext]
      · exact ⟨rfl, rfl⟩
      · exact List.forall_mem_map.2 fun m hm => (hstarts m hm).2

end

/-! ## Inert texts -/

section

variable {text operand type rest : List Char}

theorem mask_of_inert (h : inert text = true) : mask text = text := by
  induction text with
  | nil => rfl
  | cons c rest ih =>
      obtain ⟨hc, hrest⟩ := inert_cons.1 h
      rw [mask, maskFrom_code_inert hc]
      exact congrArg (c :: ·) (ih hrest)

theorem inert_of_isNamePart (h : ∀ c ∈ text, isNamePart c = true ∨ c = ':') :
    inert text = true := by
  refine List.all_eq_true.2 fun c hc => ?_
  have hmark {mark : Char} (hmark : isNamePart mark = false) (hcolon : mark ≠ ':') : c ≠ mark := by
    rintro rfl
    obtain hpart | rfl := h c hc
    · rw [hpart] at hmark
      cases hmark
    · exact hcolon rfl
  simp only [isInert, isQuote, Bool.and_eq_true, Bool.not_eq_true', Bool.or_eq_false_iff,
    bne_iff_ne, beq_eq_false_iff_ne]
  refine ⟨⟨⟨⟨⟨?_, ?_⟩, ?_⟩, ?_⟩, ?_⟩, ?_⟩ <;> exact hmark (by decide) (by decide)

theorem expandOnce_of_inert (h : inert text = true) :
    (expandOnce text).text =
      splice text 0 ((foundFrom shorthandCast text 0).map fun m =>
        (m, (readCast text m).expansion)) ∧
    (expandOnce text).records =
      ((foundFrom shorthandCast text 0).map (readCast text)).map .castShorthand := by
  rw [expandOnce, castEdits, Pattern.findOutside, mask_of_inert h, Pattern.findAll_eq, List.map_map]
  exact ⟨rfl, rfl⟩

theorem isNamePart_castChain {types : List (List Char)} (hoperand : isName operand = true)
    (htypes : ∀ type ∈ types, isTypeName type = true) :
    ∀ c ∈ castChain operand types, isNamePart c = true ∨ c = ':' := by
  refine List.forall_mem_append.2 ⟨fun c hc => .inl (all_isNamePart hoperand c hc), fun c hc => ?_⟩
  obtain ⟨type, htype, hmem⟩ := List.mem_flatMap.1 hc
  obtain rfl | hmem := List.mem_cons.1 hmem
  · exact .inr rfl
  obtain rfl | hmem := List.mem_cons.1 hmem
  · exact .inr rfl
  · exact .inl (isNamePart_of_isWord (all_isWord (htypes type htype) c hmem))

/-- The first pass pairs the types of a chain. -/
theorem expandOnce_castChain {types : List (List Char)} (hoperand : isName operand = true)
    (htypes : ∀ type ∈ types, isTypeName type = true) :
    (expandOnce (castChain operand types)).text = pairedChain operand types ∧
    (expandOnce (castChain operand types)).records =
      (pairedCasts operand types).map .castShorthand := by
  have hplain := isNamePart_castChain hoperand htypes
  obtain ⟨htext, hrecords⟩ := expandOnce_of_inert (inert_of_isNamePart hplain)
  obtain ⟨hpaired, hcasts⟩ :=
    foundFrom_chain hplain hoperand htypes (Nat.zero_le _) rfl List.drop_zero
  exact ⟨htext.trans hpaired, hrecords.trans (congrArg _ hcasts)⟩

end

/-! ## Casts of casts -/

section

variable {text operand type part rest : List Char} {i j k : Nat} {c d e : Captures}

theorem castOf_expansion (operand type : List Char) : (castOf operand type).expansion =
    ['_'] ++ ("_CAST_SHORTHAND__".toList ++ (['('] ++ ("CAST".toList ++ (['('] ++
      (operand ++ (" AS ".toList ++ (type ++ ([')'] ++ [')'])))))))) := by
  simp [castOf, CastShorthand.expansion, castToken]

theorem reads_many_append {p : Pattern} (h : Reads text (.many p) i c j d)
    (hmore : Reads text (.many p) j d k e) :
    Reads text (.many p) i c k e := by
  generalize hmany : Pattern.many p = repetition at h
  induction h with
  | manyDone => exact hmany ▸ hmore
  | manyMore hround _ _ ih =>
      cases hmany
      exact .manyMore hround (ih hmore rfl)
  | _ => cases hmany

/-- Text without parentheses can stand at any depth. -/
theorem reads_nested_plain (depth : Nat) (hpart : ∀ x ∈ part, x ≠ '(' ∧ x ≠ ')')
    (htakes : Takes text part i j) :
    Reads text (nestedText depth) i c j c := by
  cases depth with
  | zero =>
      exact Pattern.reads_many_one.2 ⟨rfl, part, htakes, fun x hx => by simpa using hpart x hx⟩
  | succ depth =>
      induction part generalizing i with
      | nil =>
          obtain rfl := Pattern.takes_nil.1 htakes
          exact .manyDone
      | cons x part ih =>
          obtain ⟨hx, hpart⟩ := List.forall_mem_cons.1 hpart
          obtain ⟨hfirst, hmore⟩ := htakes.uncons
          exact .manyMore (.left (Pattern.reads_one.2 ⟨rfl, x, hfirst, by simpa using hx⟩))
            (ih hpart hmore)

theorem takes_char {x : Char} (h : Takes text [x] i j) : Reads text (.char x) i c j c :=
  Pattern.reads_one.2 ⟨rfl, x, h, by simp⟩

/-- The expansion of a cast can be cast, when it has no other parentheses. -/
theorem reads_expansion (hoperand : ∀ x ∈ operand, x ≠ '(' ∧ x ≠ ')')
    (htype : ∀ x ∈ type, x ≠ '(' ∧ x ≠ ')')
    (hdrop : text.drop i = (castOf operand type).expansion ++ rest) :
    Reads text castOperand i [] (i + (castOf operand type).expansion.length) [] := by
  obtain ⟨htakes, -⟩ := Pattern.takes_of_drop hdrop
  generalize i + (castOf operand type).expansion.length = stop at htakes ⊢
  simp only [castOf_expansion, Pattern.takes_append] at htakes
  obtain ⟨_, hfirst, _, htoken, _, hopen, afterCast, hcast, inner, hinner, _, htakesOperand, _, has,
    last, htakesType, _, hcloseInner, hclose⟩ := htakes
  have hplain (part : String) (hpart : (part.toList.all fun x => x != '(' && x != ')') = true) :
      ∀ x ∈ part.toList, x ≠ '(' ∧ x ≠ ')' :=
        fun x hx => by simpa using List.all_eq_true.1 hpart x hx
  have hinside : Reads text (nestedText 1) inner [] last [] :=
    reads_many_append (reads_nested_plain 1 hoperand htakesOperand)
      (reads_many_append (reads_nested_plain 1 (hplain " AS " (by decide)) has)
        (reads_nested_plain 1 htype htakesType))
  have hgroup : Reads text (.all [.char '(', nestedText 1, .char ')']) afterCast [] _ [] :=
    .seq (takes_char hinner) (.seq hinside (.seq (takes_char hcloseInner) .empty))
  have hargs : Reads text (nestedText 2) _ [] _ [] :=
    reads_many_append (reads_nested_plain 2 (hplain "CAST" (by decide)) hcast)
      (.manyMore (.right hgroup) .manyDone)
  have hname : Reads text (.many (.one fun c => Text.isWord c || c == '.')) _ [] _ [] :=
    Pattern.reads_many_one.2 ⟨rfl, _, htoken, List.all_eq_true.1 (by decide)⟩
  have hcall : Reads text (.all castableCall) i [] stop [] :=
    .seq (Pattern.reads_one.2 ⟨rfl, '_', hfirst, rfl⟩)
      (.seq hname (.seq (takes_char hopen) (.seq hargs (.seq (takes_char hclose) .empty))))
  exact reads_castOperand.2 (.inl hcall)

theorem not_mem_upper {mark : Char} (hmark : Text.asciiMarks.has mark.toNat = true)
    (hword : Text.isWord mark = false) (htype : ∀ c ∈ type, Text.isWord c = true) :
    mark ∉ Text.upper type := by
  rw [← List.count_eq_zero, Text.count_upper hmark, List.count_eq_zero]
  intro hmem
  rw [htype mark hmem] at hword
  cases hword

theorem colon_not_mem_castOf (hoperand : ':' ∉ operand) (htype : ':' ∉ type) :
    ':' ∉ (castOf operand type).expansion := by
  simp [castOf_expansion, hoperand, htype]

theorem inert_castOf (hoperand : inert operand = true) (htype : inert type = true) :
    inert (castOf operand type).expansion = true := by
  rw [castOf_expansion]
  simp only [inert_append, hoperand, htype]
  decide

theorem inert_of_isWord (h : ∀ c ∈ type, Text.isWord c = true) : inert type = true :=
  inert_of_isNamePart fun c hc => .inl (isNamePart_of_isWord (h c hc))

/-- Without colons nothing is expanded. -/
theorem expands_of_no_colon (h : ':' ∉ text) : Expands text { text := text } := by
  have hcount := count_expandOnce text
  rw [List.count_eq_zero.2 h] at hcount
  exact .done (List.eq_nil_of_length_eq_zero (by omega))

/-- The cast of an expansion at the start of a text. -/
theorem matchAt_castOf {next : List Char} (hoperand : ∀ x ∈ operand, x ≠ '(' ∧ x ≠ ')' ∧ x ≠ ':')
    (htype : ∀ x ∈ type, x ≠ '(' ∧ x ≠ ')' ∧ x ≠ ':') (hnext : isTypeName next = true)
    (hrest : endsType rest = true)
    (hdrop : text.drop 0 = (castOf operand type).expansion ++ ':' :: ':' :: (next ++ rest)) :
    Pattern.matchAt shorthandCast text.length (placeAt text 0) = some
      (nameMatch 0 (0 + (castOf operand type).expansion.length)
        (0 + (castOf operand type).expansion.length + 2 + next.length)) := by
  have hread := reads_expansion (fun x hx => ⟨(hoperand x hx).1, (hoperand x hx).2.1⟩)
    (fun x hx => ⟨(htype x hx).1, (htype x hx).2.1⟩) hdrop
  have hcolon : ':' ∉ (castOf operand type).expansion :=
    colon_not_mem_castOf (fun hmem => (hoperand _ hmem).2.2 rfl) fun hmem => (htype _ hmem).2.2 rfl
  obtain ⟨htakes, hbehind⟩ := Pattern.takes_of_drop hdrop
  have hopen : '(' ∈ (castOf operand type).expansion := by simp [castOf_expansion]
  have hfirst : text[0]? ≠ some '\x27' := by
    rw [← List.head?_eq_getElem?, ← List.drop_zero (l := text), hdrop, castOf_expansion]
    exact nofun
  generalize (castOf operand type).expansion = inner at *
  refine matchAt_cast (Nat.zero_le _) rfl hread (fun k h hk _ => ?_) hnext hbehind hrest
  -- the parentheses are closed where the expansion ends, and before it there is no colon
  obtain hlt | heq | hlt := Nat.lt_trichotomy k (0 + inner.length)
  · refine absurd ?_ hcolon
    rw [← htakes.slice_eq]
    exact Pattern.mem_slice (Nat.zero_le k) hlt hk
  · exact heq
  · have hflat := (nested_operand h hfirst).2 _ (Nat.zero_le _) hlt
      (nested_operand hread hfirst).1.closed
    rw [Flat, htakes.slice_eq] at hflat
    exact absurd (hflat _ hopen) (by simp)

/-- A name has no parentheses and no colons. -/
theorem plain_of_isName (h : isName operand = true) :
    ∀ x ∈ operand, x ≠ '(' ∧ x ≠ ')' ∧ x ≠ ':' := by
  intro x hx
  have hpart := all_isNamePart h x hx
  refine ⟨?_, ?_, ?_⟩ <;> rintro rfl <;> exact absurd hpart (by decide)

/-- A type has none in upper case. -/
theorem plain_upper (h : isTypeName type = true) :
    ∀ x ∈ Text.upper type, x ≠ '(' ∧ x ≠ ')' ∧ x ≠ ':' := by
  intro x hx
  refine ⟨?_, ?_, ?_⟩ <;> rintro rfl <;>
    exact not_mem_upper (by decide) (by decide) (all_isWord h) hx

theorem inert_pairedChain {types : List (List Char)} (hoperand : isName operand = true)
    (htypes : ∀ type ∈ types, isTypeName type = true) :
    inert (pairedChain operand types) = true := by
  have hcast {operand type : List Char} (hoperand : isName operand = true)
    (htype : isTypeName type = true) :
      inert (castOf operand (Text.upper type)).expansion = true :=
    inert_castOf (inert_of_isNamePart fun c hc => .inl (all_isNamePart hoperand c hc))
      (inert_upper (inert_of_isWord (all_isWord htype)))
  fun_induction pairedChain operand types with
  | case1 operand => exact inert_of_isNamePart fun c hc => .inl (all_isNamePart hoperand c hc)
  | case2 operand type => exact hcast hoperand (htypes type List.mem_cons_self)
  | case3 operand type next types ih =>
      obtain ⟨htype, hlater⟩ := List.forall_mem_cons.1 htypes
      obtain ⟨hnext, htypes⟩ := List.forall_mem_cons.1 hlater
      have hrest := ih (isName_of_isTypeName hnext) htypes
      exact inert_append.2 ⟨hcast hoperand htype,
        inert_cons.2 ⟨by decide, inert_cons.2 ⟨by decide, hrest⟩⟩⟩

/-- The first cast that is expanded is the cast of an expansion at the start of a text. -/
theorem expandOnce_castOf {next : List Char} (hinert : inert text = true)
    (hoperand : ∀ x ∈ operand, x ≠ '(' ∧ x ≠ ')' ∧ x ≠ ':')
    (htype : ∀ x ∈ type, x ≠ '(' ∧ x ≠ ')' ∧ x ≠ ':') (hnext : isTypeName next = true)
    (hrest : endsType rest = true)
    (hdrop : text.drop 0 = (castOf operand type).expansion ++ ':' :: ':' :: (next ++ rest)) :
    let outer := castOf (castOf operand type).expansion (Text.upper next)
    ∃ later records, (expandOnce text).text = outer.expansion ++ later ∧
      (expandOnce text).records = .castShorthand outer :: records ∧
        (':' ∉ rest → later = rest ∧ records = []) := by
  obtain ⟨htext, hcasts⟩ := expandOnce_of_inert hinert
  obtain ⟨hend, hsplice, hrecords⟩ :=
    foundFrom_cast (Nat.zero_le _) hdrop hnext (matchAt_castOf hoperand htype hnext hrest hdrop)
  refine ⟨_, _, htext.trans hsplice, hcasts.trans (congrArg (List.map _) hrecords),
    fun hcolon => ?_⟩
  rw [foundFrom_eq_nil (by rwa [hend]), List.map_nil, splice, hend]
  exact ⟨rfl, rfl⟩

/-! ## Short chains -/

/-- A pass that records something is followed by the expansion of what it leaves. -/
theorem Expands.of_pass {next : List Char} {records : List Record} {later : Encoded}
    (htext : (expandOnce text).text = next) (hrecords : (expandOnce text).records = records)
    (hne : records ≠ []) (hlater : Expands next later) :
    Expands text { text := later.text, records := records ++ later.records } := by
  have hfound : shorthandCast.findOutside text ≠ [] := by
    intro hnone
    rw [← hrecords, expandOnce, hnone] at hne
    exact hne rfl
  rw [← hrecords]
  exact .pass hfound (htext ▸ hlater)

/-- The expansion of two passes. -/
theorem Expands.of_two_passes {mid last : List Char} {first second : CastShorthand}
    (hfirst : (expandOnce text).text = mid)
    (hfirstRecords : (expandOnce text).records = [.castShorthand first])
    (hsecond : (expandOnce mid).text = last)
    (hsecondRecords : (expandOnce mid).records = [.castShorthand second])
    (hlast : ':' ∉ last) :
    Expands text { text := last, records := [.castShorthand first, .castShorthand second] } :=
  .of_pass hfirst hfirstRecords (List.cons_ne_nil _ _)
    (.of_pass hsecond hsecondRecords (List.cons_ne_nil _ _) (expands_of_no_colon hlast))

/-- Chains of at most two links are expanded from the innermost cast outwards. -/
theorem expands_short_chain {types : List (List Char)} (hoperand : isName operand = true)
    (htypes : ∀ type ∈ types, isTypeName type = true) (hlength : types.length ≤ 2) :
    Expands (castChain operand types)
      { text := nestedChain operand (types.map Text.upper)
        records := (nestedCasts operand (types.map Text.upper)).map .castShorthand } := by
  obtain ⟨hfirst, hfirstRecords⟩ := expandOnce_castChain hoperand htypes
  have hpart := all_isNamePart hoperand
  have hcolon : ':' ∉ operand := not_mem_of_isNamePart hpart (by decide)
  have hupper {type : List Char} (htype : isTypeName type = true) : ':' ∉ Text.upper type :=
    not_mem_upper (by decide) (by decide) (all_isWord htype)
  obtain _ | ⟨type, _ | ⟨next, _ | ⟨last, types⟩⟩⟩ := types
  · rw [castChain, List.flatMap_nil, List.append_nil]
    exact expands_of_no_colon hcolon
  · have hinner := colon_not_mem_castOf hcolon (hupper (htypes type List.mem_cons_self))
    rw [pairedChain] at hfirst
    rw [pairedCasts] at hfirstRecords
    simp only [List.map_cons, List.map_nil, nestedChain, List.foldl_cons, List.foldl_nil,
      nestedCasts]
      at hfirstRecords ⊢
    generalize castOf operand (Text.upper type) = cast at hfirst hfirstRecords hinner ⊢
    exact Expands.of_pass hfirst hfirstRecords (List.cons_ne_nil _ _) (expands_of_no_colon hinner)
  · obtain ⟨htype, hlater⟩ := List.forall_mem_cons.1 htypes
    have hnext := hlater next List.mem_cons_self
    have hinert : inert (pairedChain operand [type, next]) = true :=
      inert_pairedChain hoperand htypes
    have hdrop : (pairedChain operand [type, next]).drop 0 =
        (castOf operand (Text.upper type)).expansion ++ ':' :: ':' :: (next ++ []) := by
      rw [pairedChain, pairedChain, List.drop_zero, List.append_nil]
    obtain ⟨later, records, hsecond, hsecondRecords, hrest⟩ :=
      expandOnce_castOf hinert (plain_of_isName hoperand) (plain_upper htype) hnext rfl hdrop
    obtain ⟨rfl, rfl⟩ := hrest List.not_mem_nil
    rw [List.append_nil] at hsecond
    have hlast := colon_not_mem_castOf (colon_not_mem_castOf hcolon (hupper htype)) (hupper hnext)
    rw [pairedCasts, pairedCasts] at hfirstRecords
    simp only [List.map_cons, List.map_nil, nestedChain, List.foldl_cons, List.foldl_nil,
      nestedCasts]
      at hfirstRecords hsecondRecords ⊢
    generalize castOf operand (Text.upper type) = cast at *
    generalize castOf cast.expansion (Text.upper next) = outer at *
    exact Expands.of_two_passes hfirst hfirstRecords hsecond hsecondRecords hlast
  · exact absurd hlength (by simp)

end

end SqlLayout.Placeholder
