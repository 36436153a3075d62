import SqlLayout.Layout.Statement
import SqlLayout.Proofs.Grant.Shape
import SqlLayout.Proofs.Text.Case

/-!
# Printed grants

A printed grant is read as the same grant and printed as the same text.  A grant that is kept as it
is written does not become one of the fixed shape by the semicolon that is put behind it.
-/

namespace SqlLayout.Grant

open Pattern Text Layout

/-- The text of a grant as it is laid out. -/
def rendered (tabWidth : Nat) (text : List Char) : String :=
  (Doc.text (grantText (parse text))).render tabWidth

/-! ## Parts in upper case -/

/-- An object with its kind in upper case. -/
def Object.normal (o : Object) : Object :=
  { o with kind := upper o.kind }

/-- Parts with the privilege and the kinds in upper case. -/
def Parts.normal (p : Parts) : Parts :=
  { privilege := upper p.privilege, target := p.target.normal, scope := p.scope.map Object.normal,
    grantee := p.grantee.normal }

theorem unbroken_upper {w : List Char} (h : Unbroken w) : Unbroken (upper w) :=
  ⟨upper_ne_nil h.nonempty, forall_mem_upper (fun _ hd => hd.solid) h.solid⟩

theorem Object.Valid.normal {o : Object} (h : o.Valid) : o.normal.Valid :=
  ⟨unbroken_upper h.kind, h.name, h.open_end⟩

theorem Parts.Valid.normal {p : Parts} (h : p.Valid) : p.normal.Valid where
  privilege := unbroken_upper h.privilege
  single := by
    have hcomma := forall_mem_upper (fun _ hd => hd.not_comma) fun x hx hsame =>
      h.single.1 (hsame ▸ hx)
    have hsemicolon := forall_mem_upper (fun _ hd => hd.not_semicolon) fun x hx hsame =>
      h.single.2 (hsame ▸ hx)
    exact ⟨fun hmem => hcomma _ hmem rfl, fun hmem => hsemicolon _ hmem rfl⟩
  target := h.target.normal
  scope := by
    intro o ho
    obtain ⟨inside, hinside, rfl⟩ := Option.map_eq_some_iff.1 ho
    exact (h.scope inside hinside).normal
  grantee := h.grantee.normal

theorem Parts.node_normal (p : Parts) : p.normal.node = p.node := by
  simp [Parts.node, Parts.normal, Object.normal, upper_upper, Function.comp_def]

/-! ## The printed text -/

/-- The text of an object behind a keyword. -/
def Object.written (keyword : String) (o : Object) : List Char :=
  ' ' :: keyword.toList ++ (' ' :: o.kind ++ ' ' :: o.name)

/-- The text of an object that may be left out. -/
def scopeWritten (scope : Option Object) : List Char :=
  scope.elim [] (Object.written "IN")

/-- The text of a grant without the semicolon. -/
def Parts.written (p : Parts) : List Char :=
  "GRANT".toList ++ (' ' :: p.privilege ++
    (p.target.written "ON" ++ (scopeWritten p.scope ++ p.grantee.written "TO")))

theorem toList_grantText {p : Parts} (h : p.Valid) :
    (grantText p.node).toList = p.normal.written ++ [';'] := by
  obtain ⟨privilege, target, scope, grantee⟩ := p
  cases scope with
  | none =>
      have hkind : nonEmpty none = none := rfl
      simp [grantText, Parts.node, Parts.written, Parts.normal, Object.normal, Object.written,
        scopeWritten, grantPart, hkind]
  | some o =>
      have hkind : nonEmpty (some (String.ofList (upper o.kind))) =
          some (String.ofList (upper o.kind)) := by
        have hne := upper_ne_nil (h.scope o rfl).kind.nonempty
        simp [nonEmpty, hne]
      simp [grantText, Parts.node, Parts.written, Parts.normal, Object.normal, Object.written,
        scopeWritten, grantPart, hkind]

section

variable {w : List Char} {o : Object} {p : Parts}

theorem led_blank_word (h : Unbroken w) : Led (' ' :: w) [w] :=
  have hblank : Blank [' '] := by simp [Blank]; decide
  led_word hblank (by simp) h

theorem led_written {keyword : String} (hkeyword : Unbroken keyword.toList) (h : o.Valid) :
    Led (o.written keyword) [keyword.toList, o.kind, o.name] :=
  (led_blank_word hkeyword).append ((led_blank_word h.kind).append (led_blank_word h.name))

theorem spells_self {keyword : String} : Spells keyword keyword.toList :=
  List.forall₂_same.2 fun c _ => by simp [sameLetter]

theorem unbroken_keyword {keyword : String} (hne : keyword.toList ≠ [])
    (hall : keyword.toList.all isAsciiLetter = true) : Unbroken keyword.toList :=
  unbroken_of_spells hne hall spells_self

theorem exists_led_scope {scope : Option Object} (h : ∀ o ∈ scope, o.Valid) :
    ∃ ws, scopeWords scope ws ∧ Led (scopeWritten scope) ws := by
  cases scope with
  | none => exact ⟨[], rfl, fun rest hrest => ⟨hrest, rfl⟩⟩
  | some o =>
      exact ⟨_, ⟨_, spells_self, rfl⟩, led_written (unbroken_keyword (by decide) (by decide))
        (h o rfl)⟩

/-- The printed text has the words of the parts. -/
theorem words_written (h : p.Valid) : p.Words (words p.written) := by
  obtain ⟨ws, hws, hscope⟩ := exists_led_scope h.scope
  have htarget : Led (p.target.written "ON") _ :=
    led_written (unbroken_keyword (by decide) (by decide)) h.target
  have hgrantee : Led (p.grantee.written "TO") _ :=
    led_written (unbroken_keyword (by decide) (by decide)) h.grantee
  obtain ⟨hbreaks, hwords⟩ :=
    ((led_blank_word h.privilege).append (htarget.append (hscope.append hgrantee))) []
      (by simp [Breaks])
  rw [List.append_nil] at hbreaks hwords
  refine ⟨"GRANT".toList, _, ws, _, spells_self, ⟨_, spells_self, rfl⟩, hws,
    ⟨_, spells_self, rfl⟩, ?_⟩
  rw [Parts.written, words_append (unbroken_keyword (by decide) (by decide)) hbreaks, hwords]
  simp [words, wordsFrom]

theorem fenced_written (h : p.Valid) : Fenced p.written where
  begins := ⟨"GRANT".toList, _, unbroken_keyword (by decide) (by decide), rfl⟩
  ends := by
    refine ⟨"GRANT".toList ++
      (' ' :: p.privilege ++ (p.target.written "ON" ++
        (scopeWritten p.scope ++ (" TO ".toList ++ (p.grantee.kind ++ [' ']))))), p.grantee.name,
      h.grantee.name, h.grantee.open_end, ?_⟩
    simp [Parts.written, Object.written]

end

/-! ## Closed texts -/

/-- A text that ends with a semicolon is rendered as it stands. -/
theorem render_closed (tabWidth : Nat) (front : List Char) :
    (Doc.text (String.ofList (front ++ [';']))).render tabWidth =
      String.ofList (front ++ [';']) := by
  simp [Doc.render, Doc.items, writeItems, trimSpaces]

/-- A text with a semicolon behind it, unless it ends with one. -/
def closed (text : List Char) : List Char :=
  if text.getLast? = some ';' then text else text ++ [';']

theorem exists_closed (text : List Char) : ∃ front, closed text = front ++ [';'] := by
  rw [closed]
  split
  · next h => exact List.getLast?_eq_some_iff.1 h
  · exact ⟨text, rfl⟩

theorem closed_closed (text : List Char) : closed (closed text) = closed text := by
  obtain ⟨front, hfront⟩ := exists_closed text
  rw [hfront, closed, if_pos List.getLast?_concat]

theorem grantText_verbatim (text : List Char) :
    grantText { verbatim := some (String.ofList text) } = String.ofList (closed text) := by
  have hends : (String.ofList text).endsWith ";" = true ↔ text.getLast? = some ';' := by
    rw [← String.endsWith_toSlice, String.Slice.endsWith_string_iff, List.getLast?_eq_some_iff]
    simp [List.IsSuffix, eq_comm]
  rw [closed]
  split
  · next h => exact if_pos (hends.2 h)
  · next h =>
      refine (if_neg (mt hends.1 h)).trans ?_
      rw [← String.toList_inj]
      simp

/-- A semicolon that is put behind a trimmed text does not change its body. -/
theorem body_closed (text : List Char) : strip (closed (strip text)) = closed (strip text) ∧
    body (closed (strip text)) = body text := by
  by_cases h : (strip text).getLast? = some ';'
  · have hclosed : closed (strip text) = strip text := if_pos h
    rw [hclosed]
    exact ⟨strip_strip text, body_strip text⟩
  · have hclosed : closed (strip text) = strip text ++ [';'] := if_neg h
    have hstrip : strip (strip text ++ [';']) = strip text ++ [';'] :=
      strip_concat (by decide) (strip_strip text)
    rw [hclosed]
    refine ⟨hstrip, ?_⟩
    rw [body, hstrip, if_pos List.getLast?_concat, List.dropLast_concat, body, if_neg h]

/-! ## The normal form -/

theorem rendered_of_words (tabWidth : Nat) {text : List Char} {p : Parts} (hvalid : p.Valid)
    (hwords : p.Words (words (body text))) :
    rendered tabWidth text = String.ofList (p.normal.written ++ [';']) := by
  have htext : grantText p.node = String.ofList (p.normal.written ++ [';']) := by
    rw [← toList_grantText hvalid, String.ofList_toList]
  rw [rendered, parse_of_words hvalid hwords, htext, render_closed]

theorem rendered_of_not_words (tabWidth : Nat) {text : List Char}
    (h : ¬∃ p : Parts, p.Valid ∧ p.Words (words (body text))) :
    rendered tabWidth text = String.ofList (closed (strip text)) := by
  obtain ⟨front, hfront⟩ := exists_closed (strip text)
  rw [rendered, parse_of_not_words h, grantText_verbatim, hfront, render_closed]

theorem words_body_written {p : Parts} (h : p.Valid) :
    p.Words (words (body (p.written ++ [';']))) := by
  have hnone : Blank [] := by simp [Blank]
  have hbody := (fenced_written h).words_body hnone hnone hnone (.inr rfl)
  simp only [List.nil_append, List.append_nil] at hbody
  rw [hbody]
  exact words_written h

/-- Printing is a normal form: a printed grant is printed as the same text; a grant that was taken
apart is taken apart alike, and one that was kept as it is written is kept as it is printed. -/
theorem printed_grant_is_normal (tabWidth : Nat) (text : List Char) :
    rendered tabWidth (rendered tabWidth text).toList = rendered tabWidth text ∧
      parse (rendered tabWidth text).toList =
        if (parse text).verbatim.isSome then { verbatim := some (rendered tabWidth text) }
        else parse text := by
  by_cases h : ∃ p : Parts, p.Valid ∧ p.Words (words (body text))
  · obtain ⟨p, hvalid, hwords⟩ := h
    have hprinted : (rendered tabWidth text).toList = p.normal.written ++ [';'] := by
      rw [rendered_of_words tabWidth hvalid hwords, String.toList_ofList]
    have hagain : parse (rendered tabWidth text).toList = parse text := by
      rw [hprinted, parse_of_words hvalid.normal (words_body_written hvalid.normal), p.node_normal,
        parse_of_words hvalid hwords]
    refine ⟨by rw [rendered, hagain, ← rendered], ?_⟩
    rw [hagain, parse_of_words hvalid hwords]
    rfl
  · have hprinted : (rendered tabWidth text).toList = closed (strip text) := by
      rw [rendered_of_not_words tabWidth h, String.toList_ofList]
    obtain ⟨hstrip, hbody⟩ := body_closed text
    have hagain : ¬∃ p : Parts, p.Valid ∧ p.Words (words (body (closed (strip text)))) := by
      rwa [hbody]
    rw [hprinted, rendered_of_not_words tabWidth hagain, parse_of_not_words hagain, hstrip,
      closed_closed, rendered_of_not_words tabWidth h, parse_of_not_words h]
    exact ⟨rfl, rfl⟩

example : rendered 4 "grant select\n on table Orders to  role Reader".toList =
    "GRANT SELECT ON TABLE Orders TO ROLE Reader;" := by decide

end SqlLayout.Grant
