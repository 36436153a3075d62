import SqlLayout.Proofs.Placeholder.Chains

/-!
# The length of a chain of casts

A call can be cast when its parentheses are at most three deep.  The expansion of the expansion of a
cast is one level deeper, and no cast starts inside of it, so it stays where it is at the start of a
text.  From three links on the second pass leaves such an expansion before the rest of the chain,
which is never cast again.
-/

namespace SqlLayout.Placeholder

open Pattern (Match Reads Captures slice splice)
open Source

/-! ## Closing parentheses -/

/-- From everywhere on a text opens no more parentheses than it closes. -/
def Closes (part : List Char) : Prop :=
  ∀ k, level (part.drop k) ≤ 0

section

variable {front back part : List Char}

theorem Closes.append (hfront : Closes front) (hback : Closes back) : Closes (front ++ back) := by
  intro k
  have hfirst := hfront k
  have hsecond := hback (k - front.length)
  rw [List.drop_append, level_append]
  omega

theorem closes_of_not_mem (h : '(' ∉ part) : Closes part := by
  intro k
  have hnone : (part.drop k).count '(' = 0 :=
    List.count_eq_zero.2 fun hmem => h (List.mem_of_mem_drop hmem)
  rw [level, hnone]
  omega

theorem Closes.group (h : Closes part) : Closes ('(' :: (part ++ [')'])) := by
  intro k
  cases k with
  | zero =>
      have hinside := h 0
      have hgroup : '(' :: (part ++ [')']) = ['('] ++ part ++ [')'] := rfl
      have hopen : level ['('] = 1 := rfl
      have hclose : level [')'] = -1 := rfl
      rw [List.drop_zero] at hinside
      rw [List.drop_zero, hgroup, level_append, level_append]
      omega
  | succ k => exact h.append (closes_of_not_mem (by decide)) k

end

/-! ## The start of a text -/

/-- What the expansion of a cast starts with. -/
def castOpening : List Char :=
  castToken.toList ++ "(CAST(".toList

/-- The call in the expansion of a cast. -/
def innerCast (operand type : List Char) : List Char :=
  "CAST".toList ++ '(' :: (operand ++ " AS ".toList ++ type ++ [')'])

section

variable {text operand type outer rest : List Char}

theorem expansion_eq_innerCast (operand type : List Char) :
    (castOf operand type).expansion =
      castToken.toList ++ '(' :: (innerCast operand type ++ [')']) := by
  simp [castOf, CastShorthand.expansion, innerCast]

theorem expansion_eq_castOpening (operand type : List Char) :
    (castOf operand type).expansion = castOpening ++ operand ++
      (' ' :: ("AS ".toList ++ type ++ "))".toList)) := by
  simp [castOf, CastShorthand.expansion, castOpening]

theorem closes_innerCast (hoperand : Closes operand) (htype : '(' ∉ type) :
    Closes (innerCast operand type) := by
  have hargument : Closes (operand ++ " AS ".toList ++ type) :=
    (hoperand.append (closes_of_not_mem (by decide))).append (closes_of_not_mem htype)
  exact (closes_of_not_mem (by decide)).append hargument.group

theorem closes_expansion (hoperand : Closes operand) (htype : '(' ∉ type) :
    Closes (castOf operand type).expansion := by
  rw [expansion_eq_innerCast]
  exact (closes_of_not_mem (by decide)).append (closes_innerCast hoperand htype).group

/-- Nothing is read from inside of the token, which is a word. -/
theorem any_before_inside_token {i : Nat} (htext : text = castToken.toList ++ rest) (hpos : 0 < i)
    (hi : i ≤ castToken.toList.length) :
    (text.take i).getLast?.any (fun c => Text.isWord c || c == '$' || c == '.') = true := by
  have hword : ∀ c ∈ castToken.toList, Text.isWord c = true := List.all_eq_true.1 (by decide)
  rw [htext, List.take_append_of_le_length hi]
  obtain hnil | ⟨front, last, hlast⟩ := List.eq_nil_or_concat' (castToken.toList.take i)
  · have hlength := congrArg List.length hnil
    rw [List.length_take_of_le hi, List.length_nil] at hlength
    omega
  · have hmem : last ∈ castToken.toList.take i := hlast ▸ List.mem_concat_self
    rw [hlast, List.getLast?_concat, Option.any_some, hword last (List.mem_of_mem_take hmem)]
    rfl

/-- Behind its token an expansion closes more parentheses than it opens. -/
theorem level_behind_token {i : Nat} (hcloses : Closes (innerCast operand type))
    (hgt : castToken.toList.length < i) (hlt : i < (castOf operand type).expansion.length) :
    level ((castOf operand type).expansion.drop i) < 0 := by
  rw [expansion_eq_innerCast] at hlt ⊢
  obtain ⟨k, rfl⟩ := Nat.exists_eq_add_of_lt hgt
  have hk : k ≤ (innerCast operand type).length := by
    simp only [List.length_append, List.length_cons, List.length_nil] at hlt
    omega
  have hinside := hcloses k
  have hclose : level [')'] = -1 := rfl
  rw [Nat.add_assoc, ← List.drop_drop, List.drop_left, List.drop_succ_cons,
    List.drop_append_of_le_length hk, level_append, hclose]
  omega

/-- What is cast at the start of a text opens at most three parentheses. -/
theorem not_reads_castOpenings {colon : Nat} (htext : text = castOpening ++ castOpening ++ rest)
    (hcolon : (castOpening ++ castOpening).length ≤ colon) :
    ¬ Reads text castOperand 0 [] colon [] := by
  intro h
  have hquote : text[0]? ≠ some '\x27' := by
    rw [htext]
    exact nofun
  have hlevel := ((nested_operand h hquote).1.bounded _ (Nat.zero_le _) hcolon).2
  have hslice : slice text 0 (castOpening ++ castOpening).length = castOpening ++ castOpening := by
    rw [slice, List.drop_zero, htext, Nat.sub_zero, List.take_left]
  have hfour : level (castOpening ++ castOpening) = 4 := by decide
  rw [hslice, hfour] at hlevel
  omega

/-- A cast in a text that starts with the expansion of an expansion starts behind it. -/
theorem length_le_start {m : Match} (hopening : ∃ last, operand = castOpening ++ last)
    (hcloses : Closes operand) (htype : '(' ∉ type)
    (hinert : inert (castOf operand type).expansion = true)
    (hcolon : ':' ∉ (castOf operand type).expansion)
    (htext : text = (castOf operand type).expansion ++ rest) (hm : m.Of shorthandCast text) :
    (castOf operand type).expansion.length ≤ m.start := by
  obtain ⟨_, _, hfront, -⟩ :=
    (@Pattern.reads_all_append _ castFront [.capture 2 castType] _ _ _ _).1 hm.reads
  obtain ⟨hbefore, colon, -, -, hoperand, hfirst, -⟩ := reads_castFront.1 hfront
  refine Nat.le_of_not_lt fun hlt => ?_
  have hbehind : (castOf operand type).expansion.length ≤ colon := by
    refine Nat.le_of_not_lt fun hinside => hcolon ?_
    rw [htext, List.getElem?_append_left hinside] at hfirst
    exact List.mem_of_getElem? hfirst
  obtain hzero | hpos := Nat.eq_zero_or_pos m.start
  · obtain ⟨last, rfl⟩ := hopening
    simp only [expansion_eq_castOpening, List.append_assoc] at htext hbehind
    rw [hzero] at hoperand
    refine not_reads_castOpenings (htext.trans (List.append_assoc _ _ _).symm) ?_ hoperand
    simp only [List.length_append] at hbehind ⊢
    omega
  obtain hle | hgt := Nat.lt_or_ge castToken.toList.length m.start |>.symm
  · rw [expansion_eq_innerCast, List.append_assoc] at htext
    rw [any_before_inside_token htext hpos hle] at hbefore
    cases hbefore
  · have hquote : text[m.start]? ≠ some '\x27' := by
      intro hget
      rw [htext, List.getElem?_append_left hlt] at hget
      exact absurd (List.all_eq_true.1 hinert _ (List.mem_of_getElem? hget)) (by decide)
    have hlevel := ((nested_operand hoperand hquote).1.bounded _ hlt.le hbehind).1
    have hnegative := level_behind_token (closes_innerCast hcloses htype) hgt hlt
    rw [htext, Pattern.slice_append _ (Nat.le_refl _), slice,
      List.take_of_length_le (by simp)] at hlevel
    omega

end

/-! ## Long chains -/

section

variable {text operand type rest : List Char} {types : List (List Char)}

/-- What the second pass leaves at the start of a long chain: a cast to the token that the first one
has brought. -/
def doubleCast (operand type : List Char) : List Char :=
  (castOf (castOf operand (Text.upper type)).expansion castToken.toList).expansion

theorem doubleCast_eq (operand type : List Char) : ∃ rest,
    doubleCast operand type = castOpening ++ (castOpening ++ (operand ++ ' ' :: rest)) := by
  have hdouble : doubleCast operand type = _ := expansion_eq_castOpening _ _
  simp only [expansion_eq_castOpening, List.append_assoc, List.cons_append] at hdouble
  exact ⟨_, hdouble⟩

theorem inert_doubleCast (hoperand : isName operand = true) (htype : isTypeName type = true) :
    inert (doubleCast operand type) = true := by
  have hname : inert operand = true :=
    inert_of_isNamePart fun c hc => .inl (all_isNamePart hoperand c hc)
  exact inert_castOf (inert_castOf hname (inert_upper (inert_of_isWord (all_isWord htype))))
    (by decide)

/-- No cast starts inside of a cast of a cast. -/
theorem length_doubleCast_le (hoperand : isName operand = true) (htype : isTypeName type = true)
    {m : Match} (hm : m.Of shorthandCast (doubleCast operand type ++ rest)) :
    (doubleCast operand type).length ≤ m.start := by
  have hplain := plain_of_isName hoperand
  have hupper := plain_upper htype
  refine length_le_start ⟨_, (expansion_eq_castOpening _ _).trans (List.append_assoc _ _ _)⟩ ?_
    (by decide)
    (inert_doubleCast hoperand htype) ?_ rfl hm
  · exact closes_expansion (closes_of_not_mem fun hmem => (hplain _ hmem).1 rfl) fun hmem =>
      (hupper _ hmem).1 rfl
  · refine colon_not_mem_castOf (colon_not_mem_castOf ?_ ?_) (by decide)
    · exact fun hmem => (hplain _ hmem).2.2 rfl
    · exact fun hmem => (hupper _ hmem).2.2 rfl

/-- A pass keeps a cast of a cast at the start of a text. -/
theorem expandOnce_doubleCast (hoperand : isName operand = true) (htype : isTypeName type = true)
    (rest : List Char) :
    ∃ later, (expandOnce (doubleCast operand type ++ rest)).text =
      doubleCast operand type ++ later := by
  have hinert := inert_doubleCast hoperand htype
  have hmask : mask (doubleCast operand type ++ rest) = doubleCast operand type ++ mask rest := by
    rw [mask_append (modeAfter_of_inert hinert), mask_of_inert hinert]
    intro x hx y _
    exact joins_inert_left (List.all_eq_true.1 hinert x (List.mem_of_getLast? hx)) y
  have hstarts : ∀ edit ∈ castEdits (doubleCast operand type ++ rest),
      (doubleCast operand type).length ≤ edit.1.start := by
    refine List.forall_mem_map.2 fun m hm => ?_
    have hof :=
      ((Pattern.inOrder_findAll shorthandCast (mask (doubleCast operand type ++ rest))).each m hm).1
    rw [hmask] at hof
    exact length_doubleCast_le hoperand htype hof
  have hkept : slice (doubleCast operand type ++ rest) 0 (doubleCast operand type).length =
      doubleCast operand type := by
    rw [Pattern.slice_append rest (Nat.le_refl _), slice, List.drop_zero, Nat.sub_zero,
      List.take_length]
  rw [expandOnce, splice_from (Nat.zero_le _) hstarts, hkept]
  exact ⟨_, rfl⟩

/-- So does every later one. -/
theorem Expands.keeps_doubleCast {encoded : Encoded} (h : Expands text encoded)
    (hoperand : isName operand = true) (htype : isTypeName type = true)
    (hstarts : doubleCast operand type <+: text) :
    doubleCast operand type <+: encoded.text := by
  induction h with
  | done => exact hstarts
  | pass _ _ ih =>
      obtain ⟨rest, rfl⟩ := hstarts
      obtain ⟨later, hlater⟩ := expandOnce_doubleCast hoperand htype rest
      exact ih ⟨later, hlater.symm⟩

theorem pairedChain_cons (operand type : List Char) (types : List (List Char)) :
    ∃ rest, pairedChain operand (type :: types) = castToken.toList ++ '(' :: 'C' :: rest := by
  have hcast : ∃ rest, (castOf operand (Text.upper type)).expansion =
      castToken.toList ++ '(' :: 'C' :: rest :=
    ⟨_, (expansion_eq_innerCast _ _).trans rfl⟩
  obtain ⟨rest, hrest⟩ := hcast
  cases types with
  | nil => exact ⟨rest, hrest⟩
  | cons next types =>
      refine ⟨rest ++ ':' :: ':' :: pairedChain next types, ?_⟩
      rw [pairedChain, hrest, List.append_assoc]
      rfl

/-- Of three types or more the second pass makes a cast to the token of the first one. -/
theorem expandOnce_pairedChain {next last : List Char} (hoperand : isName operand = true)
    (htypes : ∀ t ∈ type :: next :: last :: types, isTypeName t = true) :
    doubleCast operand type <+:
      (expandOnce (pairedChain operand (type :: next :: last :: types))).text ∧
    (expandOnce (pairedChain operand (type :: next :: last :: types))).records ≠ [] := by
  obtain ⟨rest, hrest⟩ := pairedChain_cons next last types
  have htype := htypes type List.mem_cons_self
  have hdrop : (pairedChain operand (type :: next :: last :: types)).drop 0 =
      (castOf operand (Text.upper type)).expansion ++
        ':' :: ':' :: (castToken.toList ++ '(' :: 'C' :: rest) := by
    rw [pairedChain, hrest, List.drop_zero]
  obtain ⟨later, records, htext, hrecords, -⟩ :=
    expandOnce_castOf (inert_pairedChain hoperand htypes)
    (plain_of_isName hoperand) (plain_upper htype) (by decide) rfl hdrop
  have hupper : Text.upper castToken.toList = castToken.toList := by decide
  rw [hupper] at htext
  exact ⟨⟨later, htext.symm⟩, hrecords ▸ List.cons_ne_nil _ _⟩

/-- A nested chain starts with an opening for each of its types. -/
theorem nestedChain_eq (operand : List Char) (types : List (List Char)) : ∃ rest,
    nestedChain operand types = (List.replicate types.length castOpening).flatten ++
      (operand ++ rest) := by
  induction types generalizing operand with
  | nil => exact ⟨[], (List.append_nil operand).symm⟩
  | cons type types ih =>
      obtain ⟨rest, hrest⟩ := ih (castOf operand type).expansion
      obtain ⟨tail, htail⟩ : ∃ tail, (castOf operand type).expansion =
          castOpening ++ (operand ++ tail) :=
        ⟨_, (expansion_eq_castOpening _ _).trans (List.append_assoc _ _ _)⟩
      refine ⟨tail ++ rest, hrest.trans ?_⟩
      simp only [htail, List.length_cons, List.replicate_succ', List.flatten_append,
        List.flatten_singleton, List.append_assoc]

/-- A name before a blank is not the token before a parenthesis. -/
theorem name_ne_opening (hoperand : isName operand = true) (later : List Char) :
    operand ++ ' ' :: later ≠ castOpening ++ rest := by
  intro h
  have hpart : ∀ c ∈ castToken.toList, isNamePart c = true := List.all_eq_true.1 (by decide)
  have hopening : castOpening ++ rest = castToken.toList ++ '(' :: ("CAST(".toList ++ rest) := by
    rw [castOpening, List.append_assoc]
    rfl
  have hname := congrArg (List.takeWhile isNamePart) (h.trans hopening)
  rw [List.takeWhile_append_of_pos (all_isNamePart hoperand), List.takeWhile_append_of_pos hpart,
    List.takeWhile_cons_of_neg (by decide), List.takeWhile_cons_of_neg (by decide), List.append_nil,
    List.append_nil] at hname
  rw [hopening, hname] at h
  cases List.append_cancel_left h

theorem Expands.later {encoded : Encoded} (h : Expands text encoded)
    (hne : (expandOnce text).records ≠ []) :
    ∃ rest, Expands (expandOnce text).text rest ∧ encoded.text = rest.text := by
  cases h with
  | done hnone =>
      rw [expandOnce, hnone] at hne
      exact absurd rfl hne
  | pass _ later => exact ⟨_, later, rfl⟩

theorem Expands.first_records {encoded : Encoded} (h : Expands text encoded) :
    (expandOnce text).records <+: encoded.records := by
  cases h with
  | done hnone =>
      rw [expandOnce, hnone]
      exact List.nil_prefix
  | pass _ _ => exact List.prefix_append _ _

/-- The expansion of a chain of three casts or more starts with a cast of a cast to the token. -/
theorem Expands.long_chain {next last : List Char} {encoded : Encoded}
    (hoperand : isName operand = true)
    (htypes : ∀ t ∈ type :: next :: last :: types, isTypeName t = true)
    (h : Expands (castChain operand (type :: next :: last :: types)) encoded) :
    doubleCast operand type <+: encoded.text := by
  obtain ⟨hfirst, hfirstRecords⟩ := expandOnce_castChain hoperand htypes
  obtain ⟨hsecond, hsecondRecords⟩ := expandOnce_pairedChain hoperand htypes
  obtain ⟨mid, hmid, hmidText⟩ :=
    h.later (by rw [hfirstRecords, pairedCasts]; exact List.cons_ne_nil _ _)
  rw [hfirst] at hmid
  obtain ⟨rest, hrest, hrestText⟩ := hmid.later hsecondRecords
  rw [hmidText, hrestText]
  exact hrest.keeps_doubleCast hoperand (htypes type List.mem_cons_self) hsecond

/-- It is no expansion from the innermost cast outwards. -/
theorem ne_nestedChain {uppers : List (List Char)} {expanded : List Char}
    (hoperand : isName operand = true) (hstarts : doubleCast operand type <+: expanded)
    (hlong : 3 ≤ uppers.length) :
    expanded ≠ nestedChain operand uppers := by
  rintro rfl
  obtain ⟨later, hlater⟩ := hstarts
  obtain ⟨rest, hrest⟩ := nestedChain_eq operand uppers
  obtain ⟨tail, htail⟩ := doubleCast_eq operand type
  obtain ⟨more, hmore⟩ := Nat.exists_eq_add_of_le' hlong
  rw [hrest, htail, hmore] at hlater
  simp only [List.replicate_succ, List.flatten_cons, List.append_assoc, List.cons_append] at hlater
  exact name_ne_opening hoperand _ (List.append_cancel_left (List.append_cancel_left hlater))

/-- A chain of casts is expanded from the innermost cast outwards exactly when it has at most two
links.  The first casts that are recorded are those of its types in pairs. -/
theorem cast_chain_nests_iff {operand : List Char} {types : List (List Char)}
    (hoperand : isName operand = true) (htypes : ∀ type ∈ types, isTypeName type = true) :
    ((encodeCasts (castChain operand types)).text = nestedChain operand (types.map Text.upper) ↔
      types.length ≤ 2) ∧
    (types.length ≤ 2 → (encodeCasts (castChain operand types)).records =
      (nestedCasts operand (types.map Text.upper)).map .castShorthand) ∧
    (pairedCasts operand types).map .castShorthand <+:
      (encodeCasts (castChain operand types)).records := by
  have hexpands : Expands (castChain operand types) (encodeCasts (castChain operand types)) :=
    expands_expandCasts (Nat.le_refl _)
  have hshort (hlength : types.length ≤ 2) :=
    hexpands.unique (expands_short_chain hoperand htypes hlength)
  refine ⟨⟨fun htext => ?_, fun hlength => by rw [hshort hlength]⟩,
    fun hlength => by rw [hshort hlength], ?_⟩
  · refine Nat.le_of_not_lt fun hlong => ?_
    obtain _ | ⟨type, _ | ⟨next, _ | ⟨last, types⟩⟩⟩ := types
    · exact absurd hlong (by decide)
    · exact absurd hlong (by simp)
    · exact absurd hlong (by simp)
    · exact ne_nestedChain hoperand (hexpands.long_chain hoperand htypes) (by simp) htext
  · rw [← (expandOnce_castChain hoperand htypes).2]
    exact hexpands.first_records

theorem cast_chain_nests_two :
    isName "x".toList = true ∧ (∀ type ∈ ["int".toList, "text".toList], isTypeName type = true) ∧
    (encodeCasts "x::int::text".toList).text =
      "__CAST_SHORTHAND__(CAST(__CAST_SHORTHAND__(CAST(x AS INT)) AS TEXT))".toList := by
  have hoperand : isName "x".toList = true := by decide
  have htypes : ∀ type ∈ ["int".toList, "text".toList], isTypeName type = true := by decide
  exact ⟨hoperand, htypes, ((cast_chain_nests_iff hoperand htypes).1.2 (by decide)).trans rfl⟩

/-- The third cast of a chain takes the second type for what it applies to. -/
theorem chain_of_three_taken_apart :
    isName "x".toList = true ∧
      (∀ type ∈ ["a".toList, "b".toList, "c".toList], isTypeName type = true) ∧
    (encodeCasts "x::a::b::c".toList).text =
      ("__CAST_SHORTHAND__(CAST(__CAST_SHORTHAND__(CAST(x AS A)) AS __CAST_SHORTHAND__))" ++
        "(CAST(b AS C))").toList ∧
    (encodeCasts "x::a::b::c".toList).text ≠
      nestedChain "x".toList ["A".toList, "B".toList, "C".toList] ∧
    (encodeCasts "x::a::b::c".toList).records =
      [.castShorthand (castOf "x".toList "A".toList), .castShorthand (castOf "b".toList "C".toList),
        .castShorthand (castOf "__CAST_SHORTHAND__(CAST(x AS A))".toList
          "__CAST_SHORTHAND__".toList)] := by
  decide +kernel

end

end SqlLayout.Placeholder
