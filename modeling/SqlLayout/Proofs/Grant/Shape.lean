import SqlLayout.Grant
import SqlLayout.Proofs.Pattern.Takes
import SqlLayout.Proofs.Text.Letters
import SqlLayout.Proofs.Text.Strip
import SqlLayout.Proofs.Text.Words

/-!
# The shape of grants

Whether a text is a grant of the fixed shape, and with which parts, depends only on its words: the
blanks between them and a semicolon at the end make no difference.
-/

namespace SqlLayout.Grant

open Pattern Text

/-! ## Parts -/

/-- A kind of object and the name of one, as they are written. -/
structure Object where
  kind : List Char
  name : List Char

/-- The parts of a grant of the fixed shape, as they are written. -/
structure Parts where
  privilege : List Char
  target : Object
  scope : Option Object
  grantee : Object

/-- Whether an object can be written in a grant. -/
structure Object.Valid (o : Object) : Prop where
  kind : Unbroken o.kind
  name : Unbroken o.name
  open_end : ';' ∉ o.name

/-- Whether parts can be written in a grant. -/
structure Parts.Valid (p : Parts) : Prop where
  privilege : Unbroken p.privilege
  single : ',' ∉ p.privilege ∧ ';' ∉ p.privilege
  target : p.target.Valid
  scope : ∀ o ∈ p.scope, o.Valid
  grantee : p.grantee.Valid

/-- The words of an object behind a keyword. -/
def Object.Words (keyword : String) (o : Object) (ws : List (List Char)) : Prop :=
  ∃ w, Spells keyword w ∧ ws = [w, o.kind, o.name]

/-- The words of an object that may be left out. -/
def scopeWords : Option Object → List (List Char) → Prop
  | none, ws => ws = []
  | some o, ws => o.Words "IN" ws

/-- The words of a grant. -/
def Parts.Words (p : Parts) (ws : List (List Char)) : Prop :=
  ∃ grant target scope grantee, Spells "GRANT" grant ∧ p.target.Words "ON" target ∧
    scopeWords p.scope scope ∧
    p.grantee.Words "TO" grantee ∧ ws = grant :: p.privilege :: (target ++ (scope ++ grantee))

/-- What parts become in the tree. -/
def Parts.node (p : Parts) : Tree.Grant :=
  { privilege := some (String.ofList (upper p.privilege))
    onType := some (String.ofList (upper p.target.kind))
    onName := some (String.ofList p.target.name)
    inType := p.scope.map fun o => String.ofList (upper o.kind)
    inName := p.scope.map fun o => String.ofList o.name
    toType := some (String.ofList (upper p.grantee.kind))
    toName := some (String.ofList p.grantee.name) }

/-- Words are those of one grant only. -/
theorem Parts.Words.unique {p q : Parts} {ws : List (List Char)} (hp : p.Words ws)
    (hq : q.Words ws) : p = q := by
  obtain ⟨grant, target, scope, grantee, -, ⟨on, -, rfl⟩, hscope, ⟨onto, -, rfl⟩, rfl⟩ := hp
  obtain ⟨grant', target', scope', grantee', -, ⟨on', -, rfl⟩, hscope', ⟨onto', -, rfl⟩, hsame⟩ :=
    hq
  obtain ⟨privilege, ⟨kind, name⟩, inside, ⟨kindTo, nameTo⟩⟩ := p
  obtain ⟨privilege', ⟨kind', name'⟩, inside', ⟨kindTo', nameTo'⟩⟩ := q
  cases inside with
  | none =>
      obtain rfl : scope = [] := hscope
      cases inside' with
      | none =>
          obtain rfl : scope' = [] := hscope'
          simp only [List.cons_append, List.nil_append, List.cons.injEq] at hsame
          obtain ⟨-, rfl, -, rfl, rfl, -, rfl, rfl, -⟩ := hsame
          rfl
      | some o =>
          obtain ⟨w, -, rfl⟩ := hscope'
          simp at hsame
  | some o =>
      obtain ⟨w, -, rfl⟩ := hscope
      cases inside' with
      | none =>
          obtain rfl : scope' = [] := hscope'
          simp at hsame
      | some o' =>
          obtain ⟨w', -, rfl⟩ := hscope'
          obtain ⟨kindIn, nameIn⟩ := o
          obtain ⟨kindIn', nameIn'⟩ := o'
          simp only [List.cons_append, List.nil_append, List.cons.injEq] at hsame
          obtain ⟨-, rfl, -, rfl, rfl, -, rfl, rfl, -, rfl, rfl, -⟩ := hsame
          rfl

/-! ## Keywords -/

theorem unbroken_of_spells {keyword : String} {w : List Char} (hne : keyword.toList ≠ [])
    (hall : keyword.toList.all isAsciiLetter = true) (h : Spells keyword w) : Unbroken w := by
  refine ⟨?_, ?_⟩
  · rintro rfl
    exact hne (List.forall₂_nil_right_iff.1 h)
  · exact forall_mem_of_letters h fun letter hletter c hsame =>
      isBlank_of_sameLetter (List.all_eq_true.1 hall letter hletter) hsame

/-! ## Reading an object -/

section

variable {text front tail w : List Char} {ws vs : List (List Char)} {keyword : String} {o : Object}
  {kindGroup nameGroup i j : Nat} {c d : Captures}

/-- What is read of an object is its words, and its kind and name are captured. -/
theorem exists_of_reads_objectPart (hkeyword : ∀ w, Spells keyword w → Unbroken w)
    (h : Reads text (objectPart keyword kindGroup nameGroup) i c j d) :
    ∃ (o : Object) (front : List Char) (ws : List (List Char)) (s t s' : Nat),
      o.Valid ∧ o.Words keyword ws ∧ Takes text front i j ∧ Led front ws ∧ o.name <:+ front ∧
        d = (nameGroup, s', j) :: (kindGroup, s, t) :: c ∧ slice text s t = o.kind ∧
          slice text s' j = o.name := by
  simp only [objectPart, blanks1, objectKind, objectName, reads_all_cons, reads_all_nil,
    reads_many1_one, reads_word, reads_capture] at h
  obtain ⟨_, _, ⟨rfl, blanks, hblanks, hne, hblank⟩, _, _, ⟨rfl, w, hw, hspells⟩, _, _,
    ⟨rfl, blanks', hblanks', hne', hblank'⟩, _, _, ⟨_, rfl, rfl, kind, hkind, hkindne, hkindall⟩, _,
    _,
    ⟨rfl, blanks'', hblanks'', hne'', hblank''⟩, _, _,
    ⟨_, rfl, rfl, name, hname, hnamene, hnameall⟩, rfl, rfl⟩ := h
  have hkindword : Unbroken kind := ⟨hkindne, fun x hx => by simpa using hkindall x hx⟩
  have hnameword : Unbroken name := ⟨hnamene, fun x hx => by
    obtain ⟨hsolid, -⟩ := Bool.and_eq_true_iff.1 (hnameall x hx)
    simpa using hsolid⟩
  have hopen : ';' ∉ name := fun hmem => by simpa using hnameall _ hmem
  refine ⟨⟨kind, name⟩, (blanks ++ w) ++ ((blanks' ++ kind) ++ (blanks'' ++ name)),
    [w] ++ ([kind] ++ [name]), _, _, _, ⟨hkindword, hnameword, hopen⟩, ⟨w, hspells, rfl⟩, ?_, ?_,
    ?_, rfl, hkind.slice_eq, hname.slice_eq⟩
  · have htail := takes_append.2 ⟨_, takes_append.2 ⟨_, hblanks', hkind⟩,
      takes_append.2 ⟨_, hblanks'', hname⟩⟩
    exact takes_append.2 ⟨_, takes_append.2 ⟨_, hblanks, hw⟩, htail⟩
  · refine (led_word hblank hne (hkeyword w hspells)).append (.append ?_ ?_)
    · exact led_word hblank' hne' hkindword
    · exact led_word hblank'' hne'' hnameword
  · exact ⟨blanks ++ w ++ (blanks' ++ kind ++ blanks''), by simp⟩

/-- The first word of a part stands behind blanks. -/
theorem exists_takes_word (hdrop : text.drop i = front ++ tail) (hwords : words front = w :: ws) :
    ∃ (blanks front' : List Char) (j k : Nat), Takes text blanks i j ∧ Blank blanks ∧
      (Breaks front → blanks ≠ []) ∧
      Takes text w j k ∧ text.drop k = front' ++ tail ∧ Breaks front' ∧ words front' = ws := by
  obtain ⟨blanks, front', rfl, hblanks, hbreaks, hws⟩ := exists_of_words hwords
  simp only [List.append_assoc] at hdrop
  obtain ⟨htakes, hdrop⟩ := takes_of_drop hdrop
  obtain ⟨htakes', hdrop⟩ := takes_of_drop hdrop
  refine ⟨blanks, front', _, _, htakes, hblanks, ?_, htakes', hdrop, hbreaks, hws⟩
  rintro hfront rfl
  have hword : Unbroken w := unbroken_of_mem_words w (hwords ▸ List.mem_cons_self)
  exact hword.not_breaks front' hfront

theorem exists_reads_objectPart (hdrop : text.drop i = front ++ tail) (hbreaks : Breaks front)
    (hvalid : o.Valid) (ho : o.Words keyword vs) (hwords : words front = vs ++ ws) :
    ∃ (front' : List Char) (j : Nat) (d : Captures),
      Reads text (objectPart keyword kindGroup nameGroup) i c j d ∧
      text.drop j = front' ++ tail ∧ Breaks front' ∧ words front' = ws := by
  obtain ⟨w, hspells, rfl⟩ := ho
  obtain ⟨blanks, _, _, _, hblanks, hblank, hne, hw, hdrop, hbreaks', hwords⟩ :=
    exists_takes_word hdrop hwords
  obtain ⟨blanks', _, _, _, hblanks', hblank', hne', hkind, hdrop, hbreaks'', hwords⟩ :=
    exists_takes_word hdrop hwords
  obtain ⟨blanks'', front', _, j, hblanks'', hblank'', hne'', hname, hdrop, hlast, hws⟩ :=
    exists_takes_word hdrop hwords
  suffices hread : ∃ d, Reads text (objectPart keyword kindGroup nameGroup) i c j d by
    obtain ⟨d, hread⟩ := hread
    exact ⟨front', j, d, hread, hdrop, hlast, hws⟩
  simp only [objectPart, blanks1, objectKind, objectName, reads_all_cons, reads_all_nil,
    reads_many1_one, reads_word, reads_capture]
  refine ⟨_, _, _, ⟨rfl, blanks, hblanks, hne hbreaks, hblank⟩, _, _, ⟨rfl, w, hw, hspells⟩, _, _,
    ⟨rfl, blanks', hblanks', hne' hbreaks', hblank'⟩, _, _,
    ⟨_, rfl, rfl, o.kind, hkind, hvalid.kind.nonempty, ?_⟩, _, _,
    ⟨rfl, blanks'', hblanks'', hne'' hbreaks'', hblank''⟩, _, _,
    ⟨_, rfl, rfl, o.name, hname, hvalid.name.nonempty, ?_⟩, rfl, rfl⟩
  · exact fun x hx => by simp [hvalid.kind.solid x hx]
  · intro x hx
    have hopen : x ≠ ';' := fun h => hvalid.open_end (h ▸ hx)
    simp [hvalid.name.solid x hx, hopen]

end

/-! ## The end of a grant -/

/-- A text without the blanks around it and without a semicolon at its end. -/
def body (text : List Char) : List Char :=
  if (strip text).getLast? = some ';' then (strip text).dropLast else strip text

section

variable {text core : List Char}

theorem body_strip (text : List Char) : body (strip text) = body text := by
  rw [body, body, strip_strip]

theorem exists_body (text : List Char) :
    ∃ lead mark trail, Blank lead ∧ Blank trail ∧ (mark = [] ∨ mark = [';']) ∧
    text = lead ++ (body text ++ (mark ++ trail)) := by
  obtain ⟨lead, trail, hlead, htrail, htext⟩ := exists_strip text
  by_cases hlast : (strip text).getLast? = some ';'
  · refine ⟨lead, [';'], trail, hlead, htrail, .inr rfl, ?_⟩
    obtain ⟨front, hfront⟩ := List.getLast?_eq_some_iff.1 hlast
    rw [body, if_pos hlast, hfront, List.dropLast_concat, ← List.append_assoc front, ← hfront]
    exact htext
  · refine ⟨lead, [], trail, hlead, htrail, .inl rfl, ?_⟩
    rw [body, if_neg hlast]
    exact htext

/-- Whether a text begins with a word, and ends with one that holds no semicolon. -/
structure Fenced (core : List Char) : Prop where
  begins : ∃ first rest, Unbroken first ∧ core = first ++ rest
  ends : ∃ front last, Unbroken last ∧ ';' ∉ last ∧ core = front ++ last

namespace Fenced

theorem head_solid (h : Fenced core) (rest : List Char) :
    ∀ x ∈ (core ++ rest).head?, isBlank x = false := by
  obtain ⟨first, more, hfirst, rfl⟩ := h.begins
  obtain ⟨x, word, rfl⟩ := List.exists_cons_of_ne_nil hfirst.nonempty
  simpa using hfirst.solid x List.mem_cons_self

theorem exists_last (h : Fenced core) :
    ∃ x, core.getLast? = some x ∧ isBlank x = false ∧ x ≠ ';' := by
  obtain ⟨front, last, hlast, hopen, rfl⟩ := h.ends
  have hx := List.getLast?_eq_some_getLast hlast.nonempty
  have hmem := List.getLast_mem hlast.nonempty
  refine ⟨last.getLast hlast.nonempty, by simp [hx], hlast.solid _ hmem, fun h => hopen ?_⟩
  rwa [h] at hmem

theorem strip_eq (h : Fenced core) : strip core = core := by
  obtain ⟨x, hx, hsolid, -⟩ := h.exists_last
  refine strip_eq_self_iff.2 ⟨?_, ?_⟩
  · simpa using h.head_solid []
  · simpa [hx] using hsolid

/-- Blanks and a semicolon behind a text do not belong to its words. -/
theorem words_body {lead blanks mark trail : List Char} (h : Fenced core) (hlead : Blank lead)
    (hblanks : Blank blanks) (htrail : Blank trail) (hmark : mark = [] ∨ mark = [';']) :
    words (body (lead ++ (core ++ (blanks ++ (mark ++ trail))))) = words core := by
  obtain rfl | rfl := hmark
  · have hstrip : strip (lead ++ (core ++ (blanks ++ ([] ++ trail)))) = core :=
      strip_blanks hlead (List.forall_mem_append.2 ⟨hblanks, htrail⟩) h.strip_eq
    obtain ⟨x, hx, -, hopen⟩ := h.exists_last
    rw [body, hstrip, if_neg (by simpa [hx] using hopen)]
  · have hmarked : strip (core ++ (blanks ++ [';'])) = core ++ (blanks ++ [';']) := by
      refine strip_eq_self_iff.2 ⟨h.head_solid _, ?_⟩
      rw [← List.append_assoc, List.getLast?_concat]
      rintro x ⟨⟩
      decide
    have hstrip : strip (lead ++ (core ++ (blanks ++ ([';'] ++ trail)))) =
        core ++ blanks ++ [';'] := by
      have hall := strip_blanks hlead htrail hmarked
      simpa only [List.append_assoc] using hall
    rw [body, hstrip, if_pos List.getLast?_concat, List.dropLast_concat, words_append_blank hblanks]

end Fenced

end

/-! ## The shape -/

/-- What a group captured. -/
def captured (text : List Char) (c : Captures) (group : Nat) : Option (List Char) :=
  (c.lookup group).map fun span => slice text span.1 span.2

@[simp]
theorem captured_nil (text : List Char) (group : Nat) : captured text [] group = none := rfl

@[simp]
theorem captured_cons (text : List Char) (number i j : Nat) (c : Captures) (group : Nat) :
    captured text ((number, i, j) :: c) group =
      if group = number then some (slice text i j) else captured text c group := by
  rw [captured, List.lookup_cons]
  split
  · next h => rw [if_pos (eq_of_beq h)]; rfl
  · next h => rw [if_neg (ne_of_beq_false h)]; rfl

section

variable {text : List Char} {m : Match} {p : Parts}

theorem parse_eq (h : shape.matchStart text = some m) : parse text =
    { privilege := (captured text m.captures 1).map (String.ofList ∘ upper)
      onType := (captured text m.captures 2).map (String.ofList ∘ upper)
      onName := (captured text m.captures 3).map String.ofList
      inType := (captured text m.captures 4).map (String.ofList ∘ upper)
      inName := (captured text m.captures 5).map String.ofList
      toType := (captured text m.captures 6).map (String.ofList ∘ upper)
      toName := (captured text m.captures 7).map String.ofList } := by
  have hname (group : Nat) : (m.span? group).map (fun _ => String.ofList (m.group text group)) =
      (captured text m.captures group).map String.ofList := by
    rw [captured, Match.group, Match.span?]
    cases m.captures.lookup group <;> rfl
  have hkind (group : Nat) : ((captured text m.captures group).map String.ofList).map
    String.upperCase =
      (captured text m.captures group).map (String.ofList ∘ upper) := by
    cases captured text m.captures group with
    | none => rfl
    | some kind => simp [String.upperCase]
  simp only [parse, h, hname, hkind]

theorem parse_eq_none (h : shape.matchStart text = none) :
    parse text = { verbatim := some (String.ofList (strip text)) } := by
  rw [parse, h]

/-- The keyword and the privilege. -/
def headParts : List Pattern :=
  [.atStart, .blanks, .word "GRANT", .blanks1,
    .capture 1 (.many1 (.one fun c => !Text.isBlank c && c != ',' && c != ';'))]

/-- The objects of a grant. -/
def objectParts : List Pattern :=
  [objectPart "ON" 2 3, .optional (objectPart "IN" 4 5), objectPart "TO" 6 7]

/-- The semicolon that may stand at the end. -/
def endParts : List Pattern :=
  [.blanks, .optional (.char ';'), .blanks]

theorem shape_eq : shape = .all ((headParts ++ (objectParts ++ endParts)) ++ [Pattern.atEnd]) := rfl

theorem unbroken_of_grant {w : List Char} (h : Spells "GRANT" w) : Unbroken w :=
  unbroken_of_spells (by decide) (by decide) h

theorem exists_of_reads_head {j : Nat} {d : Captures} (h : Reads text (.all headParts) 0 [] j d) :
    ∃ (lead grant gap privilege : List Char) (s : Nat),
      Takes text (lead ++ (grant ++ (gap ++ privilege))) 0 j ∧ Blank lead ∧ Spells "GRANT" grant ∧
        Led (gap ++ privilege) [privilege] ∧ Unbroken privilege ∧
          (',' ∉ privilege ∧ ';' ∉ privilege) ∧
          d = [(1, s, j)] ∧ slice text s j = privilege := by
  simp only [headParts, blanks, blanks1, reads_all_cons, reads_all_nil, reads_many_one,
    reads_many1_one, reads_word, reads_capture] at h
  obtain ⟨_, _, hstart, _, _, ⟨rfl, lead, hlead, hleadblank⟩, _, _, ⟨rfl, grant, hgrant, hspells⟩,
    _, _, ⟨rfl, gap, hgap, hgapne, hgapblank⟩, _, _,
    ⟨_, rfl, rfl, privilege, hprivilege, hne, hall⟩, rfl, rfl⟩ := h
  cases hstart
  have hword : Unbroken privilege := ⟨hne, fun x hx => by
    obtain ⟨hfront, -⟩ := Bool.and_eq_true_iff.1 (hall x hx)
    obtain ⟨hsolid, -⟩ := Bool.and_eq_true_iff.1 hfront
    simpa using hsolid⟩
  refine ⟨lead, grant, gap, privilege, _, ?_, hleadblank, hspells, led_word hgapblank hgapne hword,
    hword, ⟨?_, ?_⟩, rfl, hprivilege.slice_eq⟩
  · have hback := takes_append.2 ⟨_, hgrant, takes_append.2 ⟨_, hgap, hprivilege⟩⟩
    exact takes_append.2 ⟨_, hlead, hback⟩
  · exact fun hmem => by simpa using hall _ hmem
  · exact fun hmem => by simpa using hall _ hmem

theorem reads_end {i j : Nat} {c d : Captures} : Reads text (.all endParts) i c j d ↔
    d = c ∧ ∃ blanks mark trail, Takes text (blanks ++ (mark ++ trail)) i j ∧ Blank blanks ∧
      Blank trail ∧
      (mark = [] ∨ mark = [';']) := by
  simp only [endParts, blanks, char, reads_all_cons, reads_all_nil, reads_many_one, reads_optional,
    reads_one]
  constructor
  · rintro ⟨_, _, ⟨rfl, blanks, hblanks, hblank⟩, _, _, hmark, _, _,
      ⟨rfl, trail, htrail, htrailblank⟩, rfl, rfl⟩
    obtain ⟨rfl, x, hx, hsame⟩ | ⟨rfl, rfl⟩ := hmark
    · obtain rfl := eq_of_beq hsame
      have hback := takes_append.2 ⟨_, hx, htrail⟩
      exact ⟨rfl, blanks, [';'], trail, takes_append.2 ⟨_, hblanks, hback⟩, hblank, htrailblank,
        .inr rfl⟩
    · exact ⟨rfl, blanks, [], trail, takes_append.2 ⟨_, hblanks, htrail⟩, hblank, htrailblank,
        .inl rfl⟩
  · rintro ⟨rfl, blanks, mark, trail, htakes, hblank, htrailblank, hmark⟩
    obtain ⟨k, hblanks, hback⟩ := takes_append.1 htakes
    obtain ⟨l, hmarks, htrail⟩ := takes_append.1 hback
    refine ⟨k, d, ⟨rfl, blanks, hblanks, hblank⟩, l, d, ?_, j, d, ⟨rfl, trail, htrail, htrailblank⟩,
      rfl, rfl⟩
    obtain rfl | rfl := hmark
    · exact .inr ⟨takes_nil.1 hmarks, rfl⟩
    · exact .inl ⟨rfl, ';', hmarks, by simp⟩

theorem exists_of_reads_scope {i j : Nat} {c d : Captures}
    (hc : captured text c 4 = none ∧ captured text c 5 = none)
    (h : Reads text (.optional (objectPart "IN" 4 5)) i c j d) :
    ∃ (scope : Option Object) (front : List Char) (ws : List (List Char)),
      (∀ o ∈ scope, o.Valid) ∧ scopeWords scope ws ∧ Takes text front i j ∧ Led front ws ∧
        captured text d 4 = scope.map Object.kind ∧ captured text d 5 = scope.map Object.name ∧
          ∀ group, group ≠ 4 → group ≠ 5 → captured text d group = captured text c group := by
  obtain h | ⟨rfl, rfl⟩ := reads_optional.1 h
  · obtain ⟨o, front, ws, s, t, s', hvalid, hws, htakes, hled, -, rfl, hkind, hname⟩ :=
      exists_of_reads_objectPart (fun w => unbroken_of_spells (by decide) (by decide)) h
    refine ⟨some o, front, ws, by simpa using hvalid, hws, htakes,
      hled, by simp [hkind], by simp [hname], ?_⟩
    intro group h4 h5
    simp [h4, h5]
  · exact ⟨none, [], [], by simp, rfl, takes_nil.2 rfl, fun rest hrest => ⟨hrest, rfl⟩, hc.1, hc.2,
      fun _ _ _ => rfl⟩

/-- A text of the shape has the words of parts, and they are what it is taken apart into. -/
theorem exists_parts (h : shape.matchStart text = some m) :
    ∃ p : Parts, p.Valid ∧ p.Words (words (body text)) ∧ parse text = p.node := by
  have hshape := h
  rw [shape_eq] at hshape
  obtain ⟨hread, hend⟩ := exists_of_matchStart hshape
  obtain ⟨_, _, hhead, hback⟩ := reads_all_append.1 hread
  obtain ⟨_, _, hobjects, hendread⟩ := reads_all_append.1 hback
  obtain ⟨lead, grant, gap, privilege, _, hheadtakes, hlead, hspells, hprivilegeled, hprivilege,
    hsingle, rfl, hslice⟩ := exists_of_reads_head hhead
  simp only [objectParts, reads_all_cons, reads_all_nil] at hobjects
  obtain ⟨_, _, htarget, _, _, hscope, _, _, hgrantee, rfl, rfl⟩ := hobjects
  obtain ⟨target, front, ws, _, _, _, htargetvalid, htargetwords, htargettakes, htargetled, -, rfl,
      hkind, hname⟩ :=
    exists_of_reads_objectPart (fun w => unbroken_of_spells (by decide) (by decide)) htarget
  obtain ⟨scope, front', ws', hscopevalid, hscopewords, hscopetakes, hscopeled, hscopekind,
      hscopename, hother⟩ :=
    exists_of_reads_scope (by simp) hscope
  obtain ⟨grantee, front'', ws'', _, _, _, hgranteevalid, hgranteewords, hgranteetakes, hgranteeled,
    hlast, rfl, hkind', hname'⟩ := exists_of_reads_objectPart
    (fun w => unbroken_of_spells (by decide) (by decide)) hgrantee
  obtain ⟨hcaptures, blanks, mark, trail, hendtakes, hblanks, htrail, hmark⟩ := reads_end.1 hendread
  refine ⟨⟨privilege, target, scope, grantee⟩,
    ⟨hprivilege, hsingle, htargetvalid, hscopevalid, hgranteevalid⟩, ?_, ?_⟩
  · have hgrant := unbroken_of_grant hspells
    have htext : text = lead ++ (grant ++ (gap ++ privilege ++ (front ++ (front' ++ front''))) ++
        (blanks ++ (mark ++ (trail ++ text.drop m.stop)))) := by
      have hall := takes_append.2 ⟨_, hheadtakes,
        takes_append.2 ⟨_, htargettakes,
        takes_append.2 ⟨_, hscopetakes, takes_append.2 ⟨_, hgranteetakes, hendtakes⟩⟩⟩⟩
      have hstarts := hall.starts
      simpa only [List.drop_zero, List.append_assoc] using hstarts
    have htail : Blank (trail ++ text.drop m.stop) := by
      refine List.forall_mem_append.2 ⟨htrail, ?_⟩
      obtain hend | hend := hend <;> simp [hend, show isBlank '\n' = true by decide]
    obtain ⟨back, hback⟩ := hlast
    have hfenced : Fenced (grant ++ (gap ++ privilege ++ (front ++ (front' ++ front'')))) := by
      refine ⟨⟨grant, _, hgrant, rfl⟩, grant ++ (gap ++ privilege ++ (front ++ (front' ++ back))),
        grantee.name, hgranteevalid.name, hgranteevalid.open_end, ?_⟩
      simp only [← hback, List.append_assoc]
    have hled := hprivilegeled.append (htargetled.append (hscopeled.append hgranteeled))
    obtain ⟨hbreaks, hwords⟩ := hled [] (by simp [Breaks])
    rw [List.append_nil] at hbreaks hwords
    refine ⟨grant, ws, ws', ws'', hspells, htargetwords, hscopewords, hgranteewords, ?_⟩
    rw [htext, hfenced.words_body hlead hblanks htail hmark, words_append hgrant hbreaks, hwords]
    simp [words, wordsFrom]
  · rw [parse_eq h, hcaptures]
    simp [hother, hslice, hkind, hname, hscopekind, hscopename, hkind', hname', Parts.node,
      Function.comp_def]

theorem exists_reads_scope {front tail : List Char} {ws vs : List (List Char)}
    {scope : Option Object} {i : Nat} {c : Captures} (hdrop : text.drop i = front ++ tail)
    (hbreaks : Breaks front) (hvalid : ∀ o ∈ scope, o.Valid)
    (ho : scopeWords scope vs) (hwords : words front = vs ++ ws) :
    ∃ (front' : List Char) (j : Nat) (d : Captures),
      Reads text (.optional (objectPart "IN" 4 5)) i c j d ∧
      text.drop j = front' ++ tail ∧ Breaks front' ∧ words front' = ws := by
  cases scope with
  | none =>
      obtain rfl : vs = [] := ho
      exact ⟨front, i, c, reads_optional.2 (.inr ⟨rfl, rfl⟩), hdrop, hbreaks, hwords⟩
  | some o =>
      obtain ⟨front', j, d, hread, hrest⟩ :=
        exists_reads_objectPart hdrop hbreaks (hvalid o rfl) ho hwords
      exact ⟨front', j, d, reads_optional.2 (.inl hread), hrest⟩

theorem exists_reads_head {front tail grant privilege : List Char} {ws : List (List Char)}
    (hdrop : text.drop 0 = front ++ tail) (hspells : Spells "GRANT" grant)
    (hprivilege : Unbroken privilege) (hsingle : ',' ∉ privilege ∧ ';' ∉ privilege)
    (hwords : words front = grant :: privilege :: ws) :
    ∃ (front' : List Char) (j : Nat) (d : Captures), Reads text (.all headParts) 0 [] j d ∧
      text.drop j = front' ++ tail ∧ Breaks front' ∧ words front' = ws := by
  obtain ⟨lead, _, _, _, hlead, hleadblank, -, hgrant, hdrop, hbreaks, hwords⟩ :=
    exists_takes_word hdrop hwords
  obtain ⟨gap, front', _, j, hgap, hgapblank, hne, hprivilegetakes, hdrop, hlast, hws⟩ :=
    exists_takes_word hdrop hwords
  suffices hread : ∃ d, Reads text (.all headParts) 0 [] j d by
    obtain ⟨d, hread⟩ := hread
    exact ⟨front', j, d, hread, hdrop, hlast, hws⟩
  simp only [headParts, blanks, blanks1, reads_all_cons, reads_all_nil, reads_many_one,
    reads_many1_one, reads_word, reads_capture]
  refine ⟨_, _, _, .atStart, _, _, ⟨rfl, lead, hlead, hleadblank⟩, _, _,
    ⟨rfl, grant, hgrant, hspells⟩, _, _, ⟨rfl, gap, hgap, hne hbreaks, hgapblank⟩, _, _,
    ⟨_, rfl, rfl, privilege, hprivilegetakes, hprivilege.nonempty, ?_⟩, rfl, rfl⟩
  intro x hx
  have hcomma : x ≠ ',' := fun h => hsingle.1 (h ▸ hx)
  have hsemicolon : x ≠ ';' := fun h => hsingle.2 (h ▸ hx)
  simp [hprivilege.solid x hx, hcomma, hsemicolon]

/-- A text with the words of parts is of the shape. -/
theorem isSome_of_words (hvalid : p.Valid) (hwords : p.Words (words (body text))) :
    (shape.matchStart text).isSome = true := by
  obtain ⟨lead, mark, trail, hlead, htrail, hmark, htext⟩ := exists_body text
  obtain ⟨grant, target, scope, grantee, hspells, htarget, hscope, hgrantee, hbody⟩ := hwords
  have hdrop : text.drop 0 = (lead ++ body text) ++ (mark ++ trail) := by
    rw [List.drop_zero, List.append_assoc]
    exact htext
  rw [← words_blank_append hlead] at hbody
  obtain ⟨front, i, c, hhead, hdrop, hbreaks, hrest⟩ :=
    exists_reads_head hdrop hspells hvalid.privilege hvalid.single hbody
  obtain ⟨front', j, d, hon, hdrop, hbreaks, hrest⟩ :=
    exists_reads_objectPart hdrop hbreaks hvalid.target htarget hrest
  obtain ⟨front'', k, e, hin, hdrop, hbreaks, hrest⟩ :=
    exists_reads_scope hdrop hbreaks hvalid.scope hscope hrest
  rw [← List.append_nil grantee] at hrest
  obtain ⟨blanks, l, f, hto, hdrop, -, hnone⟩ :=
    exists_reads_objectPart hdrop hbreaks hvalid.grantee hgrantee hrest
  have hblanks := blank_of_words_eq_nil hnone
  rw [← List.append_nil (blanks ++ _)] at hdrop
  obtain ⟨htakes, hdone⟩ := takes_of_drop hdrop
  have hend : Reads text (.all endParts) l f _ f :=
    reads_end.2 ⟨rfl, blanks, mark, trail, htakes, hblanks, htrail, hmark⟩
  have hobjects : Reads text (.all objectParts) i c l f :=
    reads_all_cons.2 ⟨_, _, hon, reads_all_cons.2 ⟨_, _, hin, reads_all_cons.2 ⟨_, _, hto,
      reads_all_nil.2 ⟨rfl, rfl⟩⟩⟩⟩
  have hread := reads_all_append.2 ⟨_, _, hhead, reads_all_append.2 ⟨_, _, hobjects, hend⟩⟩
  have hle := hread.le_length (Nat.zero_le _)
  have hge := List.drop_eq_nil_iff.1 hdone
  rw [Nat.le_antisymm hle hge] at hread
  exact isSome_matchStart rfl hread

/-- What a text with the words of parts is taken apart into. -/
theorem parse_of_words (hvalid : p.Valid) (hwords : p.Words (words (body text))) :
    parse text = p.node := by
  obtain ⟨m, hm⟩ := Option.isSome_iff_exists.1 (isSome_of_words hvalid hwords)
  obtain ⟨q, -, hq, hparse⟩ := exists_parts hm
  rw [hparse, hwords.unique hq]

/-- A text is kept as it is written when it does not have the words of parts. -/
theorem parse_of_not_words (h : ¬∃ p : Parts, p.Valid ∧ p.Words (words (body text))) :
    parse text = { verbatim := some (String.ofList (strip text)) } := by
  refine parse_eq_none (Option.eq_none_iff_forall_ne_some.2 fun m hm => ?_)
  obtain ⟨p, hvalid, hwords, -⟩ := exists_parts hm
  exact h ⟨p, hvalid, hwords⟩

end

end SqlLayout.Grant
