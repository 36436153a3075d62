import Mathlib.Data.List.Perm.Subperm
import SqlLayout.Proofs.Tree.Operands

/-!
# Orderings and limits of chains

Every query of a tree can end with an ordering, a limit and an offset.  A chain has one place for
each of them in each of its links, and what a set operation ends with goes to the last link of its
right operand.  So an ordering takes the place of another one there, and what stands behind a query
in parentheses has no place at all.  This module says which of them a chain keeps, and when it keeps
them all.

## Implementation notes

Modifiers are counted as often as they are written: a key that is written twice has to be there
twice.

## Main results

- `exists_ends`: each link has the modifiers of the outermost query that ends with its select and
  has any of the kind.
- `modifiers_kept_iff`: a chain keeps all modifiers of a tree when none stands behind parentheses
  and no set operation has one of a kind that its right operand ends with.
-/

namespace SqlLayout.Tree

open Grammar (Dialect Term)

/-! ## Modifiers -/

/-- An ordering key, a limit or an offset as it is written. -/
inductive Modifier where
  | order (key : Grammar.Ordered)
  | limit (count : Term)
  | offset (start : Term)

/-- An ordering key, a limit or an offset of a chain. -/
inductive BuiltModifier where
  | order (item : OrderItem)
  | limit (count : Expr)
  | offset (start : Expr)

/-- The modifiers of one link of a chain. -/
def Query.modifiers (q : Query) : List BuiltModifier :=
  q.orderBy.map .order ++ q.limit.toList.map .limit ++ q.offset.toList.map .offset

/-- The count of a limit; a FETCH clause has none. -/
def countOf : Grammar.Limit → Option Term
  | .count count _ => some count
  | .fetch _ => none

/-- What a query ends with. -/
structure Ending where
  order : Option (List Grammar.Ordered) := none
  limit : Option Grammar.Limit := none
  offset : Option Term := none

/-- The ordering and the limits among the clauses of a query. -/
def Ending.ofClauses (clauses : Grammar.Clauses) : Ending :=
  { order := clauses.order, limit := clauses.limit, offset := clauses.offset }

namespace Ending

/-- The ordering keys of an ending. -/
def keys (ending : Ending) : List Grammar.Ordered :=
  ending.order.getD []

/-- The count of the limit of an ending. -/
def count (ending : Ending) : Option Term :=
  ending.limit.bind countOf

/-- The modifiers of an ending. -/
def modifiers (ending : Ending) : List Modifier :=
  ending.keys.map .order ++ ending.count.toList.map .limit ++ ending.offset.toList.map .offset

/-- An ending behind another one: of each kind the outer one counts, if there is one. -/
def behind (outer inner : Ending) : Ending :=
  { order := outer.order.or inner.order
    limit := outer.limit.or inner.limit
    offset := outer.offset.or inner.offset }

/-- Whether an ending takes the place of no modifier of the one in front of it. -/
structure Spares (outer inner : Ending) : Prop where
  keys : outer.order.isSome → inner.keys = []
  count : outer.limit.isSome → inner.count = none
  offset : outer.offset.isSome → inner.offset = none

end Ending

/-- The modifiers of all queries of a tree. -/
def attached : Grammar.Query → List Modifier
  | .select select => (Ending.ofClauses select.clauses).modifiers
  | .setOp _ _ _ left right _ clauses =>
    attached left ++ attached right ++ (Ending.ofClauses clauses).modifiers
  | .wrapped inner _ _ _ clauses => attached inner ++ (Ending.ofClauses clauses).modifiers
  | .other _ _ => []

/-- What the last select of a tree ends with, together with the set operations that end with it. -/
def lastEnding : Grammar.Query → Ending
  | .select select => .ofClauses select.clauses
  | .setOp _ _ _ _ right _ clauses => (Ending.ofClauses clauses).behind (lastEnding right)
  | .wrapped inner _ _ _ _ => lastEnding inner
  | .other _ _ => {}

/-- What the other selects end with, each together with the set operations that end with it. -/
def initEndings : Grammar.Query → List Ending
  | .select _ => []
  | .setOp _ _ _ left right _ _ => initEndings left ++ lastEnding left :: initEndings right
  | .wrapped inner _ _ _ _ => initEndings inner
  | .other _ _ => []

/-- What the selects of a tree end with, from left to right. -/
def endings (q : Grammar.Query) : List Ending :=
  initEndings q ++ [lastEnding q]

/-- Whether no modifiers stand behind parentheses, and no set operation has one of a kind that its
right operand ends with. -/
def SparesModifiers : Grammar.Query → Prop
  | .select _ => True
  | .setOp _ _ _ left right _ clauses =>
    SparesModifiers left ∧ SparesModifiers right ∧
      (Ending.ofClauses clauses).Spares (lastEnding right)
  | .wrapped inner _ _ _ clauses =>
    SparesModifiers inner ∧ (Ending.ofClauses clauses).modifiers = []
  | .other _ _ => True

/-! ## Counting modifiers -/

section

variable {α β : Type} (f : Option α → List β) {outer inner : Option α}

/-- An option goes in front of another one that has nothing to count. -/
theorem or_perm (hnone : f none = []) (h : outer.isSome → f inner = []) :
    (f (outer.or inner)).Perm (f inner ++ f outer) := by
  cases outer with
  | none => simp [hnone]
  | some value => simp [h rfl]

theorem length_or_le (outer inner : Option α) :
    (f (outer.or inner)).length ≤ (f inner).length + (f outer).length := by
  cases outer with
  | none => exact Nat.le_add_right _ _
  | some value => exact Nat.le_add_left _ _

theorem eq_nil_of_length_or (h : (f inner).length + (f outer).length ≤ (f (outer.or inner)).length)
    (houter : outer.isSome) : f inner = [] := by
  obtain ⟨value, rfl⟩ := Option.isSome_iff_exists.1 houter
  rw [Option.some_or] at h
  exact List.length_eq_zero_iff.1 (by omega)

end

namespace Ending

variable {outer inner ending : Ending}

theorem length_modifiers (ending : Ending) : ending.modifiers.length =
    ending.keys.length + ending.count.toList.length + ending.offset.toList.length := by
  simp [modifiers, Nat.add_assoc]

theorem length_modifiers_behind_le (outer inner : Ending) :
    (outer.behind inner).modifiers.length ≤ inner.modifiers.length + outer.modifiers.length := by
  have hkeys := length_or_le (·.getD []) outer.order inner.order
  have hcount := length_or_le (fun limit => (limit.bind countOf).toList) outer.limit inner.limit
  have hoffset := length_or_le Option.toList outer.offset inner.offset
  simp only [length_modifiers, keys, count, behind]
  omega

/-- An ending that takes the place of no modifier adds its own. -/
theorem Spares.perm (h : outer.Spares inner) :
    (outer.behind inner).modifiers.Perm (inner.modifiers ++ outer.modifiers) := by
  have hkeys : (outer.behind inner).keys.Perm (inner.keys ++ outer.keys) :=
    or_perm (·.getD []) rfl h.keys
  have hcount : (outer.behind inner).count.toList.Perm (inner.count.toList ++ outer.count.toList) :=
    or_perm (fun limit => (limit.bind countOf).toList) rfl fun houter =>
      congrArg Option.toList (h.count houter)
  have hoffset : (outer.behind inner).offset.toList.Perm
      (inner.offset.toList ++ outer.offset.toList) :=
    or_perm Option.toList rfl fun houter => congrArg Option.toList (h.offset houter)
  refine (((hkeys.map Modifier.order).append (hcount.map Modifier.limit)).append
    (hoffset.map Modifier.offset)).trans ?_
  classical
  refine List.perm_iff_count.2 fun modifier => ?_
  simp only [modifiers, List.map_append, List.count_append]
  omega

/-- An ending that is counted in full takes the place of no modifier. -/
theorem spares_of_length
    (h : inner.modifiers.length + outer.modifiers.length ≤ (outer.behind inner).modifiers.length) :
    outer.Spares inner := by
  have hkeys := length_or_le (·.getD []) outer.order inner.order
  have hcount := length_or_le (fun limit => (limit.bind countOf).toList) outer.limit inner.limit
  have hoffset := length_or_le Option.toList outer.offset inner.offset
  simp only [length_modifiers, keys, count, behind] at h
  refine ⟨eq_nil_of_length_or (·.getD []) (by omega), fun houter => ?_, fun houter => ?_⟩
  · exact Option.toList_eq_nil_iff.1
      (eq_nil_of_length_or (fun limit => (limit.bind countOf).toList) (by omega) houter)
  · exact Option.toList_eq_nil_iff.1 (eq_nil_of_length_or Option.toList (by omega) houter)

end Ending

/-- The modifiers that a chain has a place for. -/
def kept (q : Grammar.Query) : List Modifier :=
  (endings q).flatMap Ending.modifiers

theorem kept_setOp (op : Grammar.SetOp) (distinct byName : Bool) (left right : Grammar.Query)
    (withClause : Option Grammar.With) (clauses : Grammar.Clauses) :
    kept (.setOp op distinct byName left right withClause clauses) = kept left ++
      ((initEndings right).flatMap Ending.modifiers ++
        ((Ending.ofClauses clauses).behind (lastEnding right)).modifiers) := by
  simp [kept, endings, initEndings, lastEnding]

theorem kept_eq (q : Grammar.Query) :
    kept q = (initEndings q).flatMap Ending.modifiers ++ (lastEnding q).modifiers := by
  simp [kept, endings]

theorem length_kept_le : ∀ q : Grammar.Query, (kept q).length ≤ (attached q).length
  | .select select => by simp [kept, endings, initEndings, lastEnding, attached]
  | .other kind text =>
    by simp [kept, endings, initEndings, lastEnding, attached, Ending.modifiers, Ending.keys,
      Ending.count]
  | .wrapped inner withClause label pivots clauses => by
    have hinner := length_kept_le inner
    rw [attached, List.length_append]
    exact Nat.le_trans hinner (Nat.le_add_right _ _)
  | .setOp op distinct byName left right withClause clauses => by
    have hleft := length_kept_le left
    have hright := length_kept_le right
    have hbehind := Ending.length_modifiers_behind_le (.ofClauses clauses) (lastEnding right)
    rw [kept_eq right] at hright
    rw [kept_setOp, attached]
    simp only [List.length_append] at *
    omega

/-- A tree that spares its modifiers keeps them all. -/
theorem kept_perm : ∀ {q : Grammar.Query}, SparesModifiers q → (kept q).Perm (attached q)
  | .select select, _ => by simp [kept, endings, initEndings, lastEnding, attached]
  | .other kind text, _ =>
    by simp [kept, endings, initEndings, lastEnding, attached, Ending.modifiers, Ending.keys,
      Ending.count]
  | .wrapped inner withClause label pivots clauses, h => by
    rw [attached, h.2, List.append_nil]
    exact kept_perm h.1
  | .setOp op distinct byName left right withClause clauses, h => by
    obtain ⟨hleft, hright, hspares⟩ := h
    rw [kept_setOp, attached, List.append_assoc]
    refine (kept_perm hleft).append ?_
    refine (hspares.perm.append_left _).trans ?_
    rw [← List.append_assoc, ← kept_eq]
    exact (kept_perm hright).append_right _

/-- A tree that keeps as many modifiers as it has spares them. -/
theorem spares_of_length : ∀ {q : Grammar.Query}, (attached q).length ≤ (kept q).length →
    SparesModifiers q
  | .select select, _ => trivial
  | .other kind text, _ => trivial
  | .wrapped inner withClause label pivots clauses, h => by
    have hinner := length_kept_le inner
    have h : (attached inner ++ (Ending.ofClauses clauses).modifiers).length ≤
        (kept inner).length := h
    rw [List.length_append] at h
    exact ⟨spares_of_length (by omega), List.length_eq_zero_iff.1 (by omega)⟩
  | .setOp op distinct byName left right withClause clauses, h => by
    have hleft := length_kept_le left
    have hright := length_kept_le right
    have hbehind := Ending.length_modifiers_behind_le (.ofClauses clauses) (lastEnding right)
    rw [kept_setOp, attached] at h
    have heq := congrArg List.length (kept_eq right)
    simp only [List.length_append] at h heq
    exact ⟨spares_of_length (by omega), spares_of_length (by omega),
      Ending.spares_of_length (by omega)⟩

/-! ## Built modifiers -/

section

variable (dialect : Dialect)

/-- Modifiers and what is built of them. -/
inductive ModifierBuilds : Modifier → BuiltModifier → Prop
  | order {key : Grammar.Ordered} {item : OrderItem} (h : ordersOf dialect [key] = .ok [item]) :
      ModifierBuilds (.order key) (.order item)
  | limit {count : Term} {built : Expr} (h : exprOf dialect count = .ok built) :
      ModifierBuilds (.limit count) (.limit built)
  | offset {start : Term} {built : Expr} (h : exprOf dialect start = .ok built) :
      ModifierBuilds (.offset start) (.offset built)

/-- Whether a link has the ordering and the limits of an ending. -/
structure Ends (ending : Ending) (q : Query) : Prop where
  order : ∃ keys, optionalOrdersOf dialect ending.order = .ok keys ∧ q.orderBy = keys.getD []
  limit : limitOf dialect ending.limit = .ok q.limit
  offset : optionalExprOf dialect ending.offset = .ok q.offset

end

section

variable {dialect : Dialect} {ending : Ending} {q : Query}

theorem forall₂_ordersOf {keys : List Grammar.Ordered} {items : List OrderItem}
    (h : ordersOf dialect keys = .ok items) :
    List.Forall₂ (fun key item => ordersOf dialect [key] = .ok [item]) keys items := by
  induction keys generalizing items with
  | nil =>
      obtain rfl := Except.ok.inj h
      exact .nil
  | cons key rest ih =>
      obtain ⟨key, descending, nullsFirst, nulls, fill, comments⟩ := key
      rw [ordersOf] at h
      obtain ⟨built, hbuilt, h⟩ := bind_ok h
      obtain ⟨more, hmore, h⟩ := bind_ok h
      obtain rfl := Except.ok.inj h
      refine .cons ?_ (ih hmore)
      simp only [ordersOf, hbuilt]
      rfl

theorem optionalOrdersOf_ok {order : Option (List Grammar.Ordered)} {keys : Option (List OrderItem)}
    (h : optionalOrdersOf dialect order = .ok keys) :
    ordersOf dialect (order.getD []) = .ok (keys.getD []) := by
  cases order with
  | none =>
      obtain rfl := Except.ok.inj h
      rfl
  | some order =>
      rw [optionalOrdersOf] at h
      obtain ⟨built, hbuilt, h⟩ := bind_ok h
      obtain rfl := Except.ok.inj h
      exact hbuilt

theorem optionalExprOf_ok {term : Option Term} {built : Option Expr}
    (h : optionalExprOf dialect term = .ok built) :
    List.Forall₂ (fun term e => exprOf dialect term = .ok e) term.toList built.toList := by
  cases term with
  | none =>
      obtain rfl := Except.ok.inj h
      exact .nil
  | some term =>
      rw [optionalExprOf] at h
      obtain ⟨e, he, h⟩ := bind_ok h
      obtain rfl := Except.ok.inj h
      exact .cons he .nil

theorem limitOf_ok {limit : Option Grammar.Limit} {built : Option Expr}
    (h : limitOf dialect limit = .ok built) :
    List.Forall₂ (fun count e => exprOf dialect count = .ok e) (limit.bind countOf).toList
      built.toList := by
  match limit with
  | none =>
      obtain rfl := Except.ok.inj h
      exact .nil
  | some (.fetch text) =>
      obtain rfl := Except.ok.inj h
      exact .nil
  | some (.count count tail) =>
      rw [limitOf] at h
      obtain ⟨e, he, h⟩ := bind_ok h
      obtain rfl := Except.ok.inj h
      exact .cons he .nil

/-- The modifiers of a link are those of what it ends with. -/
theorem Ends.modifiers (h : Ends dialect ending q) :
    List.Forall₂ (ModifierBuilds dialect) ending.modifiers q.modifiers := by
  obtain ⟨keys, hkeys, horder⟩ := h.order
  have horders := forall₂_ordersOf (optionalOrdersOf_ok hkeys)
  rw [← horder] at horders
  have hlimit := limitOf_ok h.limit
  have hoffset := optionalExprOf_ok h.offset
  refine List.rel_append (List.rel_append ?_ ?_) ?_
  · exact List.rel_map (fun _ _ h => .order h) horders
  · exact List.rel_map (fun _ _ h => .limit h) hlimit
  · exact List.rel_map (fun _ _ h => .offset h) hoffset

theorem Ends.under (h : Ends dialect ending q) (ctes : List Cte) :
    Ends dialect ending (q.under ctes) :=
  ⟨h.order, h.limit, h.offset⟩

theorem Ends.followedBy (h : Ends dialect ending q) (operator : String) :
    Ends dialect ending (q.followedBy operator) :=
  ⟨h.order, h.limit, h.offset⟩

theorem Ends.of_alone (h : Ends dialect ending q.alone) : Ends dialect ending q :=
  ⟨h.order, h.limit, h.offset⟩

/-- What a set operation ends with goes in front of what its last operand ends with. -/
theorem Ends.ended (h : Ends dialect ending q) {clauses : Grammar.Clauses}
    {keys : Option (List OrderItem)} {count start : Option Expr}
    (hkeys : optionalOrdersOf dialect clauses.order = .ok keys)
    (hcount : limitOf dialect clauses.limit = .ok count)
    (hstart : optionalExprOf dialect clauses.offset = .ok start) :
    Ends dialect ((Ending.ofClauses clauses).behind ending) (q.ended clauses keys count start) := by
  obtain ⟨own, hown, horder⟩ := h.order
  refine ⟨?_, ?_, ?_⟩
  · cases hpresent : clauses.order with
    | none =>
        rw [hpresent] at hkeys
        obtain rfl := Except.ok.inj hkeys
        exact ⟨own, by simpa [Ending.behind, Ending.ofClauses, hpresent] using hown, horder⟩
    | some order =>
        rw [hpresent, optionalOrdersOf] at hkeys
        obtain ⟨built, hbuilt, hkeys⟩ := bind_ok hkeys
        obtain rfl := Except.ok.inj hkeys
        refine ⟨some built, ?_, rfl⟩
        simp only [Ending.behind, Ending.ofClauses, hpresent, Option.some_or,
          optionalOrdersOf, hbuilt]
        rfl
  · cases hpresent : clauses.limit with
    | none => simpa [Ending.behind, Ending.ofClauses, Query.ended, hpresent] using h.limit
    | some limit =>
        rw [hpresent] at hcount
        simpa [Ending.behind, Ending.ofClauses, Query.ended, hpresent] using hcount
  · cases hpresent : clauses.offset with
    | none => simpa [Ending.behind, Ending.ofClauses, Query.ended, hpresent] using h.offset
    | some offset =>
        rw [hpresent] at hstart
        simpa [Ending.behind, Ending.ofClauses, Query.ended, hpresent] using hstart

/-- A select ends with its own ordering and limits. -/
theorem ends_of_selectOf {select : Grammar.Select} (h : selectOf dialect select = .ok q) :
    Ends dialect (.ofClauses select.clauses) q := by
  obtain ⟨withClause, hint, distinct, opening, items, into, source, sourceComments, clauses⟩ :=
    select
  rw [selectOf] at h
  iterate 3 obtain ⟨_, -, h⟩ := bind_ok h
  cases clauses
  rw [clausesOf] at h
  iterate 5 obtain ⟨_, -, h⟩ := bind_ok h
  obtain ⟨order, horder, h⟩ := bind_ok h
  obtain ⟨limit, hlimit, h⟩ := bind_ok h
  obtain ⟨offset, hoffset, h⟩ := bind_ok h
  obtain rfl := Except.ok.inj h
  exact ⟨⟨order, horder, rfl⟩, hlimit, hoffset⟩

/-- What the queries of a list end with. -/
theorem exists_ends : ∀ {q : Grammar.Query} {chain : List Query}, chainOf dialect q = .ok chain →
    ∃ front last, chain = front ++ [last] ∧ List.Forall₂ (Ends dialect) (initEndings q) front ∧
      Ends dialect (lastEnding q) last
  | .select select, chain, h => by
    rw [chainOf] at h
    obtain ⟨q, hq, h⟩ := bind_ok h
    obtain rfl := Except.ok.inj h
    exact ⟨[], q, rfl, .nil, ends_of_selectOf hq⟩
  | .wrapped inner withClause label pivots clauses, chain, h => by
    rw [chainOf] at h
    obtain ⟨front, last, hchain, hends⟩ := exists_ends h
    exact ⟨front, last, hchain, hends⟩
  | .setOp op distinct byName left right withClause clauses, chain, h => by
    obtain ⟨front, back, ctes, hfront, hback, -, hending⟩ := chainOf_setOp_ok_iff.1 h
    obtain ⟨keys, count, start, hkeys, hcount, hstart, rfl⟩ := endingOf_ok_iff.1 hending
    obtain ⟨init, last, rfl, hinit, hlast⟩ := exists_ends hfront
    obtain ⟨more, final, rfl, hmore, hfinal⟩ := exists_ends hback
    have hchanged := forall₂_mapHead (f := Query.under ctes) (fun _ _ h => h.under ctes)
      (List.rel_append hinit (.cons (hlast.followedBy (setOperator op distinct)) hmore))
    have hhead (q : Query) (rest : List Query) :
      mapHead (Query.under ctes) (init ++ q :: rest ++ [final]) =
        mapHead (Query.under ctes) (init ++ q :: rest) ++ [final] := by
      cases init <;> rfl
    refine ⟨_, _, ?_, hchanged, hfinal.ended hkeys hcount hstart⟩
    rw [mapLast_concat, List.append_assoc,
      List.singleton_append, ← List.cons_append, ← List.append_assoc, hhead, mapLast_concat]

/-! ## Kept modifiers -/

theorem forall₂_flatMap {α β γ δ : Type} {R : α → β → Prop} {S : γ → δ → Prop} {f : α → List γ}
    {g : β → List δ} (hfg : ∀ x y, R x y → List.Forall₂ S (f x) (g y)) {xs : List α} {ys : List β}
    (h : List.Forall₂ R xs ys) :
    List.Forall₂ S (xs.flatMap f) (ys.flatMap g) := by
  induction h with
  | nil => exact .nil
  | cons hxy _ ih => exact List.rel_append (hfg _ _ hxy) ih

/-- Whether all modifiers of a tree are found in a chain, as often as they are written. -/
def KeepsModifiers (dialect : Dialect) (q : Grammar.Query) (head : Query) : Prop :=
  ∃ built, List.Forall₂ (ModifierBuilds dialect) (attached q) built ∧
    List.Subperm built (head.links.flatMap Query.modifiers)

/-- Each link of a chain has the ordering and the limits that its select ends with, together with
the set operations that end with it, the outermost ones first; those behind parentheses count
nowhere.  So the chain keeps all modifiers of the tree exactly when there are none behind
parentheses, and no set operation has one of a kind that its right operand ends with. -/
theorem modifiers_kept_iff (dialect : Dialect) (q : Grammar.Query) (h : Builds dialect q) :
    ∃ head, queryOf dialect q = .ok head ∧ List.Forall₂ (Ends dialect) (endings q) head.links ∧
      (KeepsModifiers dialect q head ↔ SparesModifiers q) := by
  obtain ⟨chain, hchain⟩ := (exists_chainOf_iff q).2 h
  obtain ⟨built, bindings, hcomposes⟩ := exists_composes hchain
  have hlinks := map_alone_links hcomposes.chain_ne_nil (unlinked_of_carries hcomposes.queries)
  have hends : List.Forall₂ (Ends dialect) (endings q) (link chain).links := by
    obtain ⟨front, last, rfl, hfront, hlast⟩ := exists_ends hchain
    have hall : List.Forall₂ (Ends dialect) (endings q) (front ++ [last]) :=
      List.rel_append hfront (.cons hlast .nil)
    rw [← hlinks, List.forall₂_map_right_iff] at hall
    exact hall.imp fun _ _ => Ends.of_alone
  have hkept : List.Forall₂ (ModifierBuilds dialect) (kept q)
      ((link chain).links.flatMap Query.modifiers) :=
    forall₂_flatMap (fun _ _ h => h.modifiers) hends
  refine ⟨link chain, queryOf_ok_iff.2 ⟨chain, hchain, rfl⟩, hends, ?_, fun hspares => ?_⟩
  · rintro ⟨found, hfound, hsub⟩
    refine spares_of_length ?_
    rw [hfound.length_eq, hkept.length_eq]
    exact hsub.length_le
  · obtain ⟨found, hfound, hperm⟩ := List.perm_comp_forall₂ (kept_perm hspares).symm hkept
    exact ⟨found, hfound, hperm.subperm⟩

end

/-- A union of a select with an ordering and a union that ends with an ordering, its last select
with a limit. -/
def endedUnions : Grammar.Query :=
  let key (name : String) : Grammar.Ordered :=
    .mk (.column [{ name := name }] []) none true none "" []
  let pick (name : String) (clauses : Grammar.Clauses) : Grammar.Query :=
    .select { items := [.column [{ name := name }] []], clauses := clauses }
  let inner : Grammar.Query := .setOp .union true false (pick "b" { order := some [key "b"] })
    (pick "c" { limit := some (.count (.number "1" []) "") }) none { order := some [key "c"] }
  .setOp .union true false (pick "a" { order := some [key "a", key "d"] })
    (.wrapped inner none none [] {}) none
    { offset := some (.number "2" []) }

theorem modifiers_kept_iff_unions : Builds {} endedUnions ∧ ∃ head,
    queryOf {} endedUnions = .ok head ∧
    (attached endedUnions).length = 6 ∧ KeepsModifiers {} endedUnions head := by
  have hbuilds : Builds {} endedUnions :=
    ⟨⟨_, rfl⟩, ⟨⟨_, rfl⟩, ⟨_, rfl⟩, ⟨_, rfl⟩, ⟨_, rfl⟩, ⟨_, rfl⟩, ⟨_, rfl⟩⟩, ⟨_, rfl⟩, ⟨_, rfl⟩,
      ⟨_, rfl⟩, ⟨_, rfl⟩⟩
  obtain ⟨head, hhead, -, hkeeps⟩ := modifiers_kept_iff {} endedUnions hbuilds
  refine ⟨hbuilds, head, hhead, rfl, hkeeps.2 ⟨trivial, ⟨⟨trivial, trivial, ?_⟩, rfl⟩, ?_⟩⟩
  · exact ⟨fun _ => rfl, nofun, nofun⟩
  · exact ⟨nofun, nofun, fun _ => rfl⟩

/-- How many modifiers a query has, and how many the chain that is built of it. -/
def modifierCounts (q : Grammar.Query) : Option (Nat × Nat) :=
  (queryOf {} q).toOption.map fun head =>
    ((attached q).length, (head.links.flatMap Query.modifiers).length)

/-- A union with a limit, whose last select in parentheses has one as well. -/
def limitedUnion : Grammar.Query :=
  let limited (count : String) : Grammar.Clauses := { limit := some (.count (.number count []) "") }
  .setOp .union true false (.select { items := [.number "1" []], clauses := {} })
    (.wrapped (.select { items := [.number "2" []], clauses := limited "1" }) none none [] {})
      none (limited "2")

/-- The ordering behind a query in parentheses is lost, and the limit of a set operation takes the
place of the one that its last operand ends with. -/
theorem modifiers_lost :
    ((Grammar.parse {} "(select a from t) order by a".toList).toOption.bind fun
      | ([.query q], _) => modifierCounts q
      | _ => none) = some (1, 0) ∧
    (format {} "(select a from t) order by a").events.1.toOption = some "SELECT a\nFROM t\n;\n" ∧
    modifierCounts limitedUnion = some (2, 1) := by
  decide +kernel

end SqlLayout.Tree
