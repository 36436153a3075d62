import SqlLayout.Proofs.Source.Mask
import SqlLayout.Proofs.Text.Case

/-!
# Texts that are scanned alike

The scanner does not see which ordinary characters a text has, or how many stand next to each other.
So upper case, and other blanks between the same words, leave it in the same mode.  Only line feeds
are not ordinary: when one becomes a space, a line comment in front of it goes on.
-/

namespace SqlLayout.Source

/-! ## Ordinary characters -/

/-- A character that means nothing to the scanner, and is no semicolon. -/
def isOrdinary (c : Char) : Bool :=
  isInert c && c != '\\' && c != '\n' && c != ';'

section

variable {c : Char} {mode : Mode} {front text other : List Char}

theorem startsInert_of_ordinary (h : isOrdinary c = true) (rest : List Char) :
    startsInert (c :: rest) = true := by
  simp only [isOrdinary, Bool.and_eq_true, bne_iff_ne] at h
  exact startsInert_cons.2 ⟨h.1.1.1, h.1.1.2⟩

theorem modeAfter_ordinary (hmode : mode.Opened) (h : isOrdinary c = true) (rest : List Char) :
    modeAfter mode (c :: rest) = modeAfter mode rest := by
  simp only [isOrdinary, Bool.and_eq_true, bne_iff_ne] at h
  obtain ⟨⟨⟨hinert, hbackslash⟩, hfeed⟩, -⟩ := h
  have hquote := isQuote_of_inert hinert
  cases mode with
  | code =>
      cases rest with
      | nil => simp [modeAfter, hquote]
      | cons y rest =>
          rw [modeAfter_code_cons (joins_inert_left hinert y), hquote, if_neg Bool.false_ne_true]
  | line => rw [modeAfter, if_neg (by simpa using hfeed)]
  | block =>
      rw [modeAfter]
      rintro rest' rfl
      exact absurd hinert (by decide)
  | literal quote =>
      have hclose : c ≠ quote := by
        rintro rfl
        rw [Mode.Opened, hquote] at hmode
        cases hmode
      exact modeAfter_literal_inside (by simp [hbackslash]) (by simpa using hclose) rest

theorem modeAfter_all_ordinary (hmode : mode.Opened) (h : ∀ x ∈ front, isOrdinary x = true)
    (rest : List Char) :
    modeAfter mode (front ++ rest) = modeAfter mode rest := by
  induction front with
  | nil => rfl
  | cons x front ih =>
      obtain ⟨hx, hfront⟩ := List.forall_mem_cons.1 h
      rw [List.cons_append, modeAfter_ordinary hmode hx, ih hfront]

/-- The scanner reads a character by itself when nothing is joined to it. -/
theorem modeAfter_before_inert (hmode : mode.Opened) (x : Char) (h : startsInert text = true) :
    modeAfter mode (x :: text) = modeAfter (modeAfter mode [x]) text := by
  have hapart : ∀ y ∈ [x].getLast?, ∀ z ∈ text.head?, joins y z = false := by
    rintro y - z hz
    obtain ⟨rest, rfl⟩ := List.head?_eq_some_iff.1 hz
    exact joins_inert_right y (startsInert_cons.1 h).1
  exact (scan_append hmode (.inr h) hapart).mode

/-- The scanner takes two characters together, or the first one by itself. -/
theorem modeAfter_cons_cons (hmode : mode.Opened) (x y : Char) : ∃ next : Mode, next.Opened ∧
    ((∀ rest, modeAfter mode (x :: y :: rest) = modeAfter next rest) ∨
      ∀ rest, modeAfter mode (x :: y :: rest) = modeAfter next (y :: rest)) := by
  cases mode with
  | code =>
      by_cases hquote : isQuote x = true
      · exact ⟨.literal x, hquote, .inr fun rest => modeAfter_code_quote hquote (y :: rest)⟩
      · cases hjoin : joins x y with
        | false =>
            exact ⟨.code, trivial, .inr
              fun rest => by rw [modeAfter_code_cons hjoin, if_neg hquote]⟩
        | true =>
            obtain ⟨rfl, rfl⟩ | ⟨rfl, rfl⟩ | ⟨hquote', -⟩ := joins_iff.1 hjoin
            · exact ⟨.line, trivial, .inl fun rest => by rw [modeAfter]⟩
            · exact ⟨.block, trivial, .inl fun rest => by rw [modeAfter]⟩
            · exact absurd hquote' hquote
  | line =>
      by_cases hfeed : (x == '\n') = true
      · exact ⟨.code, trivial, .inr fun rest => if_pos hfeed⟩
      · exact ⟨.line, trivial, .inr fun rest => if_neg hfeed⟩
  | block =>
      by_cases hclose : x = '*' ∧ y = '/'
      · obtain ⟨rfl, rfl⟩ := hclose
        exact ⟨.code, trivial, .inl fun rest => by rw [modeAfter]⟩
      · refine ⟨.block, trivial, .inr fun rest => ?_⟩
        rw [modeAfter]
        exact fun rest' hx hy => hclose ⟨hx, (List.cons.inj hy).1⟩
  | literal quote =>
      by_cases hescape : (x == '\\' && quote == '\x27') = true
      · exact ⟨.literal quote, hmode, .inl fun rest => by rw [modeAfter, if_pos hescape]⟩
      · by_cases hclose : (x == quote) = true
        · by_cases hdouble : (y == quote) = true
          · refine ⟨.literal quote, hmode, .inl fun rest => ?_⟩
            rw [modeAfter, if_neg hescape, if_pos hclose]
            exact if_pos hdouble
          · refine ⟨.code, trivial, .inr fun rest => ?_⟩
            simp [modeAfter.eq_def (.literal quote), hescape, hclose, hdouble]
        · exact ⟨.literal quote, hmode, .inr fun rest => modeAfter_literal_inside hescape hclose
            (y :: rest)⟩

end

/-! ## Texts that are alike -/

/-- Texts with the same characters, but for ordinary ones in the place of ordinary ones. -/
inductive Alike : List Char → List Char → Prop
  | nil : Alike [] []
  | same (c : Char) {text other : List Char} (rest : Alike text other) :
      Alike (c :: text) (c :: other)
  | ordinary {c d : Char} {front back text other : List Char} (front_all : ∀ x ∈ c :: front,
      isOrdinary x = true)
      (back_all : ∀ x ∈ d :: back, isOrdinary x = true) (rest : Alike text other) :
      Alike (c :: front ++ text) (d :: back ++ other)

namespace Alike

variable {text other more others : List Char}

theorem append (h : Alike text other) (hmore : Alike more others) :
    Alike (text ++ more) (other ++ others) := by
  induction h with
  | nil => exact hmore
  | same c rest ih => exact .same c ih
  | ordinary hfront hback rest ih =>
      rw [List.append_assoc, List.append_assoc]
      exact .ordinary hfront hback ih

theorem refl (text : List Char) : Alike text text := by
  induction text with
  | nil => exact .nil
  | cons c rest ih => exact .same c ih

/-- The scanner goes through texts that are alike in the same modes, whatever character stands
before them. -/
theorem modeAfter_eq (h : Alike text other) {mode : Mode} (hmode : mode.Opened) :
    modeAfter mode text = modeAfter mode other ∧
      ∀ x, modeAfter mode (x :: text) = modeAfter mode (x :: other) := by
  induction h generalizing mode with
  | nil => exact ⟨rfl, fun _ => rfl⟩
  | same c rest ih =>
      refine ⟨(ih hmode).2 c, fun x => ?_⟩
      obtain ⟨next, hnext, htogether | halone⟩ := modeAfter_cons_cons hmode x c
      · rw [htogether, htogether, (ih hnext).1]
      · rw [halone, halone, (ih hnext).2 c]
  | @ordinary c d front back text other hfront hback rest ih =>
      refine ⟨?_, fun x => ?_⟩
      · rw [modeAfter_all_ordinary hmode hfront, modeAfter_all_ordinary hmode hback, (ih hmode).1]
      · have hnext : (modeAfter mode [x]).Opened := modeAfter_opened hmode
        have hc := startsInert_of_ordinary (hfront c List.mem_cons_self) (front ++ text)
        have hd := startsInert_of_ordinary (hback d List.mem_cons_self) (back ++ other)
        rw [List.cons_append, List.cons_append, modeAfter_before_inert hmode x hc,
          modeAfter_before_inert hmode x hd, ← List.cons_append, ← List.cons_append,
          modeAfter_all_ordinary hnext hfront, modeAfter_all_ordinary hnext hback, (ih hnext).1]

/-- A semicolon of one text is one of the other, and what stands before them is alike. -/
theorem exists_semicolon {front back : List Char} (h : Alike text (front ++ ';' :: back)) :
    ∃ front' back', text = front' ++ ';' :: back' ∧ Alike front' front ∧ Alike back' back := by
  generalize hother : front ++ ';' :: back = other at h
  induction h generalizing front with
  | nil => simp at hother
  | same c rest ih =>
      cases front with
      | nil =>
          obtain ⟨rfl, rfl⟩ := List.cons.inj hother
          exact ⟨[], _, rfl, .nil, rest⟩
      | cons d front =>
          obtain ⟨rfl, hrest⟩ := List.cons.inj hother
          obtain ⟨front', back', rfl, hfront, hback⟩ := ih hrest
          exact ⟨d :: front', back', rfl, .same d hfront, hback⟩
  | @ordinary c d before after text other hbefore hafter rest ih =>
      have hplain : ';' ∉ d :: after := fun hmem => absurd (hafter _ hmem) (by decide)
      have hbeyond {more : List Char} (hfront : front = d :: after ++ more)
        (hrest : other = more ++ ';' :: back) :
          ∃ front' back', c :: before ++ text = front' ++ ';' :: back' ∧ Alike front' front ∧
            Alike back' back := by
        obtain ⟨front', back', rfl, hfront', hback'⟩ := ih hrest.symm
        exact ⟨c :: before ++ front', back', by simp, hfront ▸ .ordinary hbefore hafter hfront',
          hback'⟩
      obtain ⟨more, hsplit, hrest⟩ | ⟨more, hfront, hrest⟩ := List.append_eq_append_iff.1 hother
      · cases more with
        | nil => exact @hbeyond [] (by simpa using hsplit.symm) hrest.symm
        | cons x more =>
            obtain rfl := (List.cons.inj hrest).1
            exact absurd (hsplit ▸ List.mem_append_right _ List.mem_cons_self) hplain
      · exact hbeyond hfront hrest

end Alike

/-! ## Upper case -/

section

variable {c : Char}

theorem ordinary_of_settled (h : Text.Settled c) : isOrdinary c = true := by
  have hmark (mark : Char) (hmark : mark ∈ Text.marks) : c ≠ mark :=
    fun heq => h.unmarked (heq ▸ hmark)
  have hfeed : c ≠ '\n' := by
    rintro rfl
    exact absurd h.solid (by decide)
  simp only [isOrdinary, isInert, isQuote, Bool.and_eq_true, Bool.not_eq_true',
    Bool.or_eq_false_iff, beq_eq_false_iff_ne, bne_iff_ne]
  exact
    ⟨⟨⟨⟨⟨⟨⟨⟨hmark _ (by decide), hmark _ (by decide)⟩, hmark _ (by decide)⟩, hmark _ (by decide)⟩,
    hmark _ (by decide)⟩, hmark _ (by decide)⟩, hmark _ (by decide)⟩, hfeed⟩, hmark _ (by decide)⟩

/-- The characters that are not ordinary. -/
theorem special_of_not_ordinary (h : ¬ isOrdinary c = true) :
    c = '\x27' ∨ c = '\x22' ∨ c = '\x60' ∨ c = '-' ∨
    c = '*' ∨ c = '/' ∨ c = '\\' ∨ c = '\n' ∨ c = ';' := by
  by_contra hnone
  simp only [not_or] at hnone
  simp [isOrdinary, isInert, isQuote, hnone] at h

/-- Upper case changes ordinary characters only. -/
theorem ordinary_of_upperChar (h : Text.upperChar c ≠ [c]) : isOrdinary c = true := by
  by_contra hspecial
  apply h
  obtain rfl | rfl | rfl | rfl | rfl | rfl | rfl | rfl | rfl := special_of_not_ordinary hspecial <;>
    decide

theorem alike_upper (text : List Char) : Alike text (Text.upper text) := by
  induction text with
  | nil => exact .nil
  | cons c rest ih =>
      by_cases hself : Text.upperChar c = [c]
      · rw [Text.upper, List.flatMap_cons, hself]
        exact .same c ih
      · obtain ⟨hne, hsettled⟩ := (Text.upperChar_cases c).resolve_left hself
        obtain ⟨d, more, hupper⟩ := List.exists_cons_of_ne_nil hne
        rw [Text.upper, List.flatMap_cons, hupper]
        have hback : ∀ x ∈ d :: more, isOrdinary x = true :=
          fun x hx => ordinary_of_settled (hsettled x (hupper ▸ hx))
        exact @Alike.ordinary c d [] more _ _
          (List.forall_mem_singleton.2 (ordinary_of_upperChar hself)) hback ih

end

/-! ## Texts on one line -/

/-- A text with its line feeds as spaces. -/
def oneLine (text : List Char) : List Char :=
  text.map fun c => if c == '\n' then ' ' else c

@[simp] theorem oneLine_append (front back : List Char) :
    oneLine (front ++ back) = oneLine front ++ oneLine back :=
  List.map_append

theorem forall_mem_oneLine (text : List Char) : ∀ x ∈ oneLine text, (x != '\n') = true := by
  refine List.forall_mem_map.2 fun c _ => ?_
  split
  · decide
  · next hc => simpa using hc

section

variable {mode : Mode} {text : List Char}

/-- Outside of line comments a line feed means nothing to the scanner. -/
theorem modeAfter_feed (hmode : mode.Opened) (hline : mode ≠ .line) (rest : List Char) :
    modeAfter mode ('\n' :: rest) = modeAfter mode rest := by
  cases mode with
  | code =>
      cases rest with
      | nil => rfl
      | cons y rest => exact modeAfter_code_cons (joins_inert_left (by decide) y) rest
  | line => exact absurd rfl hline
  | block =>
      rw [modeAfter]
      rintro rest' heq
      cases heq
  | literal quote =>
      have hclose : '\n' ≠ quote := fun heq => isQuote_ne_lineFeed hmode heq.symm
      exact modeAfter_literal_inside (by simp) (by simpa using hclose) rest

/-- One character does not begin a line comment. -/
theorem eq_line_of_single {x : Char} (h : modeAfter mode [x] = .line) :
    mode = .line ∧ x ≠ '\n' := by
  cases mode with
  | code =>
      by_cases hquote : isQuote x = true <;> simp [modeAfter, hquote] at h
  | line =>
      refine ⟨rfl, ?_⟩
      rintro rfl
      cases h
  | block => simp [modeAfter] at h
  | literal quote =>
      by_cases hescape : (x == '\\' && quote == '\x27') = true
      · simp [modeAfter, hescape] at h
      · by_cases hclose : (x == quote) = true <;> simp [modeAfter, hescape, hclose] at h

/-- What a scan makes of a text on one line: it ends in a line comment exactly when a line comment
begins in the text, and in the same mode else. -/
structure OneLined (scan : List Char → Mode) (text : List Char) : Prop where
  line_iff : scan (oneLine text) = .line ↔ ∃ front, front <+: text ∧ scan front = .line
  line_or_same : scan (oneLine text) = .line ∨ scan (oneLine text) = scan text

namespace OneLined

variable {scan : List Char → Mode} {rest : List Char}

theorem nil (scan : List Char → Mode) : OneLined scan [] :=
  ⟨by simp [oneLine], .inr rfl⟩

theorem exists_prefix_cons {c : Char} : (∃ front, front <+: c :: rest ∧ scan front = .line) ↔
    scan [] = .line ∨ ∃ front, front <+: rest ∧ scan (c :: front) = .line := by
  constructor
  · rintro ⟨front, hfront, hscan⟩
    obtain rfl | ⟨more, rfl, hmore⟩ := List.prefix_cons_iff.1 hfront
    · exact .inl hscan
    · exact .inr ⟨more, hmore, hscan⟩
  · rintro (hscan | ⟨front, hfront, hscan⟩)
    · exact ⟨[], List.nil_prefix, hscan⟩
    · exact ⟨c :: front, List.cons_prefix_cons.2 ⟨rfl, hfront⟩, hscan⟩

theorem cons {c : Char} (hc : c ≠ '\n')
    (hstays : scan [] = .line → scan (c :: oneLine rest) = .line)
    (h : OneLined (fun more => scan (c :: more)) rest) : OneLined scan (c :: rest) := by
  have hline : oneLine (c :: rest) = c :: oneLine rest := by simp [oneLine, hc]
  constructor
  · rw [hline, exists_prefix_cons, ← h.line_iff]
    exact ⟨.inr, Or.rec hstays id⟩
  · rw [hline]
    exact h.line_or_same

/-- A line feed that becomes a space matters within a line comment only. -/
theorem feed (hmode : mode.Opened) (hnil : scan [] = mode)
    (hspace : ∀ more, scan (' ' :: more) = modeAfter mode (' ' :: more))
    (hfeed : ∀ more, scan ('\n' :: more) = modeAfter mode ('\n' :: more))
    (h : OneLined (modeAfter mode) rest) :
    OneLined scan ('\n' :: rest) := by
  have hline : scan (oneLine ('\n' :: rest)) = modeAfter mode (oneLine rest) :=
    (hspace (oneLine rest)).trans (modeAfter_ordinary hmode (by decide) (oneLine rest))
  by_cases hmodeline : mode = .line
  · have hstays : modeAfter mode (oneLine rest) = .line := by
      rw [hmodeline]
      exact modeAfter_line (forall_mem_oneLine rest)
    refine ⟨iff_of_true (hline.trans hstays) ⟨[], List.nil_prefix, hnil.trans hmodeline⟩,
      .inl (hline.trans hstays)⟩
  · have hsame (more : List Char) : scan ('\n' :: more) = modeAfter mode more :=
      (hfeed more).trans (modeAfter_feed hmode hmodeline more)
    constructor
    · rw [hline, exists_prefix_cons, h.line_iff, hnil, or_iff_right hmodeline]
      simp only [hsame]
    · rw [hline, hsame]
      exact h.line_or_same

end OneLined

theorem oneLined_modeAfter (hmode : mode.Opened) (text : List Char) :
    OneLined (modeAfter mode) text ∧
    ∀ x, x ≠ '\n' → OneLined (fun more => modeAfter mode (x :: more)) text := by
  induction text generalizing mode with
  | nil => exact ⟨.nil _, fun _ _ => .nil _⟩
  | cons c rest ih =>
      have hrest := forall_mem_oneLine rest
      by_cases hc : c = '\n'
      · subst hc
        refine ⟨.feed hmode rfl (fun _ => rfl) (fun _ => rfl) (ih hmode).1, fun x _ => ?_⟩
        have hnext : (modeAfter mode [x]).Opened := modeAfter_opened hmode
        exact .feed hnext rfl (fun _ => modeAfter_before_inert hmode x
          (startsInert_cons.2 (by decide)))
          (fun _ => modeAfter_before_inert hmode x (startsInert_cons.2 (by decide))) (ih hnext).1
      · have hc' : (c != '\n') = true := by simpa using hc
        refine ⟨.cons hc ?_ ((ih hmode).2 c hc), fun x _ => .cons hc ?_ ?_⟩
        · rintro rfl
          exact modeAfter_line (List.forall_mem_cons.2 ⟨hc', hrest⟩)
        · intro hsingle
          obtain ⟨rfl, hx⟩ := eq_line_of_single hsingle
          have hx' : (x != '\n') = true := by simpa using hx
          exact modeAfter_line (List.forall_mem_cons.2 ⟨hx', List.forall_mem_cons.2 ⟨hc', hrest⟩⟩)
        · obtain ⟨next, hnext, htogether | halone⟩ := modeAfter_cons_cons hmode x c
          · simp only [htogether]
            exact (ih hnext).1
          · simp only [halone]
            exact (ih hnext).2 c hc

end

/-! ## Hidden semicolons -/

section

variable {text other : List Char}

/-- No semicolon is visible exactly when none stands in statement text. -/
theorem hidden_iff : ';' ∉ mask text ↔ ∀ front back, text = front ++ ';' :: back →
    modeAfter .code front ≠ .code := by
  constructor
  · rintro hidden front back rfl hcode
    rw [mask_append_semicolon hcode] at hidden
    exact hidden (List.mem_append_right _ List.mem_cons_self)
  · intro h hmem
    obtain ⟨offset, hoffset⟩ := List.mem_iff_getElem?.1 hmem
    obtain ⟨htext, hcode⟩ := visible_semicolon_iff.1 hoffset
    exact h _ _ (split_at_offset htext).1 hcode

theorem hidden_of_append {back : List Char} (hidden : ';' ∉ mask (text ++ back)) :
    ';' ∉ mask text := by
  refine hidden_iff.2 fun front rest htext => hidden_iff.1 hidden front (rest ++ back) ?_
  rw [htext, List.append_assoc, List.cons_append]

/-- A semicolon that is visible behind a text without one stands in what follows it. -/
theorem exists_gap {tail front back : List Char} (hidden : ';' ∉ mask text)
    (h : text ++ tail = front ++ ';' :: back) (hcode : modeAfter .code front = .code) :
    ∃ gap, front = text ++ gap ∧ tail = gap ++ ';' :: back := by
  obtain ⟨gap, hgap⟩ | ⟨rest, hcut, hrest⟩ := List.append_eq_append_iff.1 h
  · exact ⟨gap, hgap⟩
  · cases rest with
    | nil => exact ⟨[], by simpa using hcut.symm, hrest.symm⟩
    | cons x rest =>
        obtain ⟨rfl, -⟩ := List.cons.inj hrest
        exact absurd hcode (hidden_iff.1 hidden front rest hcut)

theorem hidden_append {tail : List Char} (hidden : ';' ∉ mask text) (htail : ';' ∉ tail) :
    ';' ∉ mask (text ++ tail) := by
  refine hidden_iff.2 fun front back htext hcode => ?_
  obtain ⟨gap, -, hgap⟩ := exists_gap hidden htext hcode
  exact htail (hgap ▸ List.mem_append_right gap List.mem_cons_self)

/-- What is like a text on one line shows no semicolon that the text does not show. -/
theorem Alike.hidden (h : Alike (oneLine text) other) (hidden : ';' ∉ mask text) :
    ';' ∉ mask other := by
  refine hidden_iff.2 fun front back hother hcode => ?_
  subst hother
  obtain ⟨front', back', hline, hfront, -⟩ := h.exists_semicolon
  obtain ⟨before, after, rfl, rfl, hafter⟩ := List.map_eq_append_iff.1 hline
  obtain ⟨c, rest, rfl, hc, rfl⟩ := List.map_eq_cons_iff.1 hafter
  have hsemicolon : c = ';' := by
    split at hc
    · exact absurd hc (by decide)
    · exact hc
  subst hsemicolon
  rw [← (hfront.modeAfter_eq Mode.opened_code).1] at hcode
  obtain ⟨hbefore, -⟩ := oneLined_modeAfter Mode.opened_code before
  obtain hline | hsame := hbefore.line_or_same
  · exact absurd (hline.symm.trans hcode) (by decide)
  · exact hidden_iff.1 hidden before rest rfl (hsame.symm.trans hcode)

end

end SqlLayout.Source
