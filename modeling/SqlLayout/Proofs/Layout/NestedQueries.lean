import SqlLayout.Proofs.Layout.Alignment
import SqlLayout.Proofs.Layout.Enclosing

/-!
# Nested queries

A query that stands in brackets somewhere in a document is printed there as it is printed on its
own, shifted to the right by one level more than there are brackets around the place.  What is
printed around the brackets does not depend on the query.

## Implementation notes

The lines of a query are shifted as they are when none of its fields has a line feed: a text with
one would go on at the start of a line.

## Main results

- `unbroken_queryDoc`: the lines of such a query are those of its layout.
- `nested_query_shifted`: its lines between brackets are its lines on its own, shifted.
-/

namespace SqlLayout.Layout

open SqlLayout.Tree

/-! ## Fields on one line -/

/-- Whether no field of a part has a line feed. -/
def OnOneLine (part : Part) : Prop :=
  ∀ text ∈ names part ++ fragments part ++ strings part, '\n' ∉ text.toList

instance (part : Part) : Decidable (OnOneLine part) :=
  inferInstanceAs (Decidable (∀ text ∈ names part ++ fragments part ++ strings part,
    '\n' ∉ text.toList))

theorem Composed.not_feed {texts : List String} {text : List Char}
    (htexts : ∀ s ∈ texts, '\n' ∉ s.toList) (h : Composed texts text) : '\n' ∉ text := by
  induction h with
  | name h => exact htexts _ h
  | upper _ ih => exact fun hfeed => ih (Text.mem_of_mem_upper hfeed (by decide))
  | lower _ ih => exact fun hfeed => ih (Text.mem_of_mem_lower hfeed (by decide))
  | trail hs _ ih => simp [ih, not_feed_of_sign hs]
  | between hs _ _ ihfront ihback => simp [ihfront, ihback, not_feed_of_sign hs]

theorem OnOneLine.word {part : Part} (hpart : OnOneLine part) {s : String} (h : s ∈ words part) :
    '\n' ∉ s.toList := by
  obtain ⟨hnamed, hstrings⟩ := List.forall_mem_append.1 hpart
  obtain ⟨hnames, hfragments⟩ := List.forall_mem_append.1 hnamed
  cases spelled_of_mem_words h with
  | fragment hs => exact hfragments s hs
  | string hvalue => exact (flush_quoteString (hstrings _ hvalue)).unbroken
  | sign hs => exact not_feed_of_sign (isSign_of_startsLine hs)
  | composed hs => exact hs.not_feed hnames
  | star hfront hs =>
      rw [hs]
      obtain rfl | hfront := hfront
      · decide
      · simp [hfront.not_feed hnames]

/-! ## Lines without line feeds -/

namespace Lines.Unbroken

variable {s : List Char} {level : Nat} {lines front back : Lines}

theorem behind (hs : '\n' ∉ s) (h : lines.Unbroken) : (lines.behind s).Unbroken :=
  ⟨by simp [hs, h.1], by simpa using h.2⟩

theorem further (h : lines.Unbroken) : (Lines.line [] level lines).Unbroken :=
  ⟨List.not_mem_nil, List.forall_mem_cons.2 h⟩

theorem append (h : front.Unbroken) (hback : back.Unbroken) : (front ++ back).Unbroken := by
  induction front with
  | last text => exact hback.behind h.1
  | line text level below ih =>
      obtain ⟨htext, hbelow⟩ := h
      exact ⟨htext, List.forall_mem_cons.2 (ih (List.forall_mem_cons.1 hbelow))⟩

end Lines.Unbroken

/-- The layout of parts on one line has no line feeds but its line breaks. -/
theorem Laid.unbroken {p : List Part} {n : Nat} {docs : List Doc} (h : Laid p n docs)
    (hp : ∀ part ∈ p, OnOneLine part) (level : Nat) : (concatLines level docs).Unbroken := by
  induction h generalizing level with
  | nil => exact ⟨List.not_mem_nil, List.forall_mem_nil _⟩
  | @word part s hs _ =>
      rw [concatLines, concatLines, Doc.lines, Lines.append_nil]
      exact ⟨(hp part List.mem_cons_self).word hs, List.forall_mem_nil _⟩
  | sign hs _ _ ihfront ihback =>
      obtain ⟨hp, hq⟩ := List.forall_mem_append.1 hp
      rw [concatLines_append, concatLines, Doc.lines, Lines.last_append]
      exact (ihfront hp level).append ((ihback hq level).behind (not_feed_of_sign hs))
  | line _ _ _ ihfront ihback =>
      obtain ⟨hp, hq⟩ := List.forall_mem_append.1 hp
      rw [concatLines_append, concatLines, Doc.lines, Lines.line_append, Lines.last_append,
        Lines.behind_nil]
      exact (ihfront hp level).append (ihback hq level).further
  | column _ _ _ ihfront ihback | branch _ _ ihfront ihback =>
      obtain ⟨hp, hq⟩ := List.forall_mem_append.1 hp
      rw [concatLines_append, concatLines, concatLines, Doc.lines, Doc.lines, Lines.line_append,
        Lines.last_append, Lines.last_append, Lines.behind_nil]
      exact (ihfront hp level).append ((ihback hq level).behind (by decide)).further
  | indent _ ih =>
      rw [concatLines, concatLines, Doc.lines, Doc.lines, Lines.append_nil]
      exact ih hp (level + 1)
  | minus _ ih =>
      rw [concatLines, Doc.lines, Lines.last_append]
      exact (ih (List.forall_mem_cons.1 hp).2 level).behind (by decide)
  | recut _ hsame ih =>
      rw [← hsame level]
      exact ih hp level
  | cover hsub _ _ ih => exact ih (fun part hpart => hp part (hsub hpart)) level

theorem unbroken_queryDoc {q : Query} (h : ∀ part ∈ (Part.query q).preorder, OnOneLine part) :
    ((queryDoc q).lines 0).Unbroken := by
  have hlines := (laid_query q).laid.unbroken h 0
  rwa [concatLines, concatLines, Lines.append_nil] at hlines

/-! ## Documents -/

theorem exists_statementDoc {level : Nat} {query : Doc} {s : Statement}
    (h : Holds level query s.part) :
    ∃ doc, statementDoc? s = some doc ∧ Encloses level query doc := by
  cases s with
  | select q => exact ⟨_, rfl, Among.concat (Encloses.among h List.mem_cons_self)⟩
  | create s | insert s | update s | delete s => exact ⟨_, rfl, h⟩
  | grant | comment | unrendered => cases h

theorem mem_documentItems {s : Statement} {statements : List Statement} (hs : s ∈ statements)
    {doc : Doc} (hdoc : statementDoc? s = some doc) (previous : Option Statement) :
    doc ∈ documentItems previous statements := by
  induction statements generalizing previous with
  | nil => cases hs
  | cons first rest ih =>
      rw [documentItems]
      obtain rfl | hrest := List.mem_cons.1 hs
      · rw [hdoc]
        exact List.mem_append_right _ List.mem_cons_self
      · split
        · exact ih hrest previous
        · exact List.mem_append_right _ (List.mem_cons_of_mem _ (ih hrest _))

/-- A query in brackets, in a part of a statement of a document.  Between the brackets stand the
lines of the query on its own, each line that is not empty behind the indentation of one level more
than there are brackets around the part.  Around the brackets stands the same text, whatever stands
between them. -/
theorem nested_query_shifted (tabWidth : Nat) {statements : List Statement} {s : Statement}
    (hs : s ∈ statements) {level : Nat} {place : Part} (hplace : Inside s.part level place)
    {q : Query} (hq : nestedQuery place = some q)
    (hfields : ∀ part ∈ (Part.query q).preorder, OnOneLine part) :
    ∃ (K : Context) (front back : List Char), documentDoc statements = K.fill (queryDoc q) ∧
      (∀ doc, (doc.lines 0).Unbroken →
        ((K.fill doc).render tabWidth).toList = front ++ bracketedText tabWidth level doc ++ back) ∧
      (printStatements tabWidth statements).toList =
        front ++ bracketedText tabWidth level (queryDoc q) ++ back ++ ['\n'] := by
  have hholds := hplace.holds (holds_nestedQuery hq)
  rw [Nat.zero_add] at hholds
  obtain ⟨doc, hdoc, hencloses⟩ := exists_statementDoc hholds
  obtain ⟨K, rfl, hfill⟩ : Encloses level (queryDoc q) (documentDoc statements) :=
    Among.concat (hencloses.among (mem_documentItems hs hdoc none))
  obtain ⟨front, back, hrender⟩ := K.render_fill tabWidth
  refine ⟨K, front, back, hfill.symm, hrender, ?_⟩
  have htext := hrender (queryDoc q) (unbroken_queryDoc hfields)
  rw [hfill] at htext
  have hne : ¬ ((documentDoc statements).render tabWidth).isEmpty = true := by
    rw [String.isEmpty_iff, ← String.toList_eq_nil_iff, htext, bracketedText]
    simp
  rw [printStatements, if_neg hne, String.toList_append, htext]
  rfl

/-- Two columns of a table, the second of them a string of spaces. -/
def limitsQuery : Query :=
  { columns := [.mk (.column "limit" none false) none, .mk (.literal "  " .string) (some "note")]
    sources := [.table { name := "limits" }] }

/-- A query whose condition has a query. -/
def openOrders : Query :=
  { columns := [.mk (.star none) none]
    filter := some (.binary "AND" (.column "open" none false)
      (.inQuery (.column "amount" none false) limitsQuery false)) }

/-- A union of a query without fields and of one from a derived table. -/
def ordersUnion : Query :=
  { setOperator := some "UNION", next := some { sources := [.derived (some "o") none openOrders] } }

/-- A query with a named query. -/
def nestedReport : Query :=
  { ctes := [.mk "found" [] ordersUnion], columns := [.mk (.star none) none],
    sources := [.table { name := "found" }] }

theorem nested_query_shifted_report :
    let statements : List Statement := [.comment { text := "-- orders" }, .select nestedReport]
    ∃ place, Inside (Statement.select nestedReport).part 2 place ∧
      nestedQuery place = some limitsQuery ∧
      (∀ part ∈ (Part.query limitsQuery).preorder, OnOneLine part) ∧
      ∃ front back, (printStatements 2 statements).toList =
        front ++ bracketedText 2 2 (queryDoc limitsQuery) ++ back ++ ['\n'] := by
  intro statements
  have hcte : Inside (.query nestedReport) 0 (.cte (.mk "found" [] ordersUnion)) :=
    .step .self (.head _)
  have hunion : Inside (.query nestedReport) 1 (.query ordersUnion) := .step hcte (.head _)
  have hnext : Inside (.query nestedReport) 1
      (.query { sources := [.derived (some "o") none openOrders] }) :=
    .step hunion (.head _)
  have hderived : Inside (.query nestedReport) 1 (.source (.derived (some "o") none openOrders)) :=
    .step hnext (.head _)
  have horders : Inside (.query nestedReport) 2 (.query openOrders) := .step hderived (.head _)
  have hfilter : Inside (.query nestedReport) 2 (.expr (.binary "AND" (.column "open" none false)
      (.inQuery (.column "amount" none false) limitsQuery false))) :=
    .step horders (.tail _ (.head _))
  have hplace : Inside (Statement.select nestedReport).part 2
      (.expr (.inQuery (.column "amount" none false) limitsQuery false)) :=
    .step hfilter (.tail _ (.head _))
  have hfields : ∀ part ∈ (Part.query limitsQuery).preorder, OnOneLine part := by decide
  obtain ⟨K, front, back, -, -, hprinted⟩ :=
    nested_query_shifted 2 (List.mem_cons_of_mem _ List.mem_cons_self) hplace rfl hfields
  exact ⟨_, hplace, rfl, hfields, front, back, hprinted⟩

example : bracketedText 2 2 (queryDoc limitsQuery) =
    "(\n      SELECT limit\n           , '  ' AS note\n      FROM limits\n    )".toList := by decide

end SqlLayout.Layout
