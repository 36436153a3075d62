import Mathlib.Data.List.Perm.Basic
import SqlLayout.Tree.Fields

/-!
# Walks through fields

Two walks by recursion through what values hold, one that lists a node before the nodes below it and
one that lists it after them.  Both go through every place of a node once, each in its own order of
the places.  Rewriting with a replacement that gives back its argument follows the second walk and
changes nothing.

## Implementation notes

A place is the list of positions on the way down to a value, so that two nodes that are alike have
different places.
-/

namespace SqlLayout.Tree.Value

/-- Whether a value is a node. -/
def isNode : Value → Bool
  | .part kind _ => kind.isNode
  | _ => false

/-- Whether a value is an expression. -/
def isExpr : Value → Bool
  | .part kind _ => kind.isExpr
  | _ => false

/-- What a value holds directly: the items of a list and the fields of a part.  A record holds
nothing here. -/
def held : Value → List Value
  | .list values => values
  | .part _ fields => fields
  | _ => []

/-- The value itself if it is a node. -/
def itself (value : Value) : List Value :=
  if value.isNode then [value] else []

mutual

/-- The nodes of a value, a node before the nodes below it. -/
def before : Value → List Value
  | .datum _ | .record _ => []
  | .list values => beforeAll values
  | .part kind fields => (Value.part kind fields).itself ++ beforeAll fields

/-- The nodes of values, a node before the nodes below it. -/
def beforeAll : List Value → List Value
  | [] => []
  | value :: rest => value.before ++ beforeAll rest

end

mutual

/-- The nodes of a value, a node after the nodes below it. -/
def after : Value → List Value
  | .datum _ | .record _ => []
  | .list values => afterAll values
  | .part kind fields => afterAll fields ++ (Value.part kind fields).itself

/-- The nodes of values, a node after the nodes below it. -/
def afterAll : List Value → List Value
  | [] => []
  | value :: rest => value.after ++ afterAll rest

end

theorem beforeAll_eq (values : List Value) : beforeAll values = values.flatMap before := by
  induction values with
  | nil => rfl
  | cons value rest ih => rw [beforeAll, ih, List.flatMap_cons]

theorem afterAll_eq (values : List Value) : afterAll values = values.flatMap after := by
  induction values with
  | nil => rfl
  | cons value rest ih => rw [afterAll, ih, List.flatMap_cons]

theorem before_eq (value : Value) : value.before = value.itself ++ value.held.flatMap before := by
  cases value <;> simp [before, itself, isNode, held, beforeAll_eq]

theorem after_eq (value : Value) : value.after = value.held.flatMap after ++ value.itself := by
  cases value <;> simp [after, itself, isNode, held, afterAll_eq]

theorem sizeOf_lt_of_mem_held {value inner : Value} (h : inner ∈ value.held) :
    sizeOf inner < sizeOf value := by
  cases value with
  | datum d => cases h
  | record r => cases h
  | list values =>
      have hsize : sizeOf inner < sizeOf values := List.sizeOf_lt_of_mem h
      simp only [Value.list.sizeOf_spec]
      omega
  | part kind fields =>
      have hsize : sizeOf inner < sizeOf fields := List.sizeOf_lt_of_mem h
      simp only [Value.part.sizeOf_spec]
      omega

/-- Induction through what values hold. -/
theorem induction_held {P : Value → Prop}
    (step : ∀ value, (∀ inner ∈ value.held, P inner) → P value) (value : Value) : P value :=
  step value fun inner _ => induction_held step inner
termination_by sizeOf value
decreasing_by exact sizeOf_lt_of_mem_held ‹_›

/-- Both walks list the same nodes, each as often as the other. -/
theorem after_perm_before (value : Value) : value.after.Perm value.before := by
  induction value using induction_held with
  | step value ih =>
      rw [after_eq, before_eq]
      exact List.perm_append_comm.trans ((List.Perm.refl _).append (List.Perm.flatMap_left _ ih))

/-! ## Places -/

/-- The value at a place below a value. -/
def at? : Value → List Nat → Option Value
  | value, [] => some value
  | value, i :: place => value.held[i]?.bind (·.at? place)

theorem at?_append (value : Value) (place rest : List Nat) :
    value.at? (place ++ rest) = (value.at? place).bind (·.at? rest) := by
  induction place generalizing value with
  | nil => rfl
  | cons i place ih => simp [at?, ih, Option.bind_assoc]

/-- No place leads into a record. -/
theorem at?_below_record {value : Value} {place : List Nat} {r : Placeholder.Record}
    (h : value.at? place = some (.record r)) (i : Nat) (rest : List Nat) :
    value.at? (place ++ i :: rest) = none := by
  rw [at?_append, h]
  rfl

/-- A list of nodes goes through a tree in an order of places: the places of nodes are met in this
order, every one of them once, and the nodes are those at the places. -/
def Enumerates (value : Value) (earlier : List Nat → List Nat → Prop) (nodes : List Value) : Prop :=
  ∃ places : List (List Nat), places.Pairwise earlier ∧
    (∀ place, place ∈ places ↔ ∃ node, value.at? place = some node ∧ node.isNode) ∧
    places.map value.at? = nodes.map some

/-- The order of places in which a place comes after all places below it. -/
inductive Upwards : List Nat → List Nat → Prop where
  | root (i : Nat) (place : List Nat) : Upwards (i :: place) []
  | left {i j : Nat} (place later : List Nat) (h : i < j) : Upwards (i :: place) (j :: later)
  | inside (i : Nat) {place later : List Nat} (h : Upwards place later) :
      Upwards (i :: place) (i :: later)

/-- An order of places that goes through what a value holds from the first to the last. -/
structure Forward (earlier : List Nat → List Nat → Prop) : Prop where
  left : ∀ {i j : Nat} (place later : List Nat), i < j → earlier (i :: place) (j :: later)
  inside : ∀ (i : Nat) {place later : List Nat}, earlier place later →
    earlier (i :: place) (i :: later)

theorem forward_lex : Forward (· < ·) where
  left _ _ h := List.cons_lt_cons_iff.mpr (.inl h)
  inside _ _ _ h := List.cons_lt_cons_iff.mpr (.inr ⟨rfl, h⟩)

theorem forward_upwards : Forward Upwards where
  left := .left
  inside := .inside

variable {earlier : List Nat → List Nat → Prop} {value : Value} {nodes : List Value}

theorem flatMap_eq_flatMap_range {α β : Type} (f : α → List β) (xs : List α) :
    xs.flatMap f = (List.range xs.length).flatMap fun i => xs[i]?.toList.flatMap f := by
  induction xs with
  | nil => rfl
  | cons x rest ih => simp [List.range_succ_eq_map, List.flatMap_map, ih]

/-- Walks of the values that a list holds, one after the other, are a walk of the list. -/
theorem Enumerates.list (hforward : Forward earlier) {walk : Value → List Value}
    {values : List Value} (h : ∀ inner ∈ values, inner.Enumerates earlier (walk inner)) :
    (Value.list values).Enumerates earlier (values.flatMap walk) := by
  have hitem (i : Nat) : ∃ places : List (List Nat), places.Pairwise earlier ∧
      (∀ place, place ∈ places ↔ ∃ node, values[i]?.bind (·.at? place) = some node ∧ node.isNode) ∧
      places.map (fun place => values[i]?.bind (·.at? place)) =
        (values[i]?.toList.flatMap walk).map some := by
    cases hi : values[i]? with
    | none => exact ⟨[], by simp⟩
    | some inner => simpa [Enumerates] using h inner (List.mem_of_getElem? hi)
  choose places hsorted hmem hmap using hitem
  refine ⟨(List.range values.length).flatMap fun i => (places i).map (i :: ·), ?_, ?_, ?_⟩
  · refine List.pairwise_flatMap.mpr
      ⟨fun i _ => List.pairwise_map.mpr ((hsorted i).imp (hforward.inside i)), ?_⟩
    refine List.pairwise_lt_range.imp fun {i j} hij place hplace later hlater => ?_
    obtain ⟨p, -, rfl⟩ := List.mem_map.mp hplace
    obtain ⟨q, -, rfl⟩ := List.mem_map.mp hlater
    exact hforward.left p q hij
  · rintro (_ | ⟨i, place⟩)
    · simp [at?, isNode]
    · have hlength : place ∈ places i → i < values.length := fun hplace => by
        obtain ⟨node, hnode, -⟩ := (hmem i place).mp hplace
        obtain ⟨inner, hinner, -⟩ := Option.bind_eq_some_iff.mp hnode
        exact (List.getElem?_eq_some_iff.mp hinner).1
      simp only [List.mem_flatMap, List.mem_range, List.mem_map, List.cons.injEq, at?, held, ← hmem]
      constructor
      · rintro ⟨_, -, _, hplace, rfl, rfl⟩
        exact hplace
      · exact fun hplace => ⟨i, hlength hplace, place, hplace, rfl, rfl⟩
  · rw [flatMap_eq_flatMap_range walk, List.map_flatMap, List.map_flatMap]
    refine congrArg (List.flatMap · _) (funext fun i => ?_)
    rw [← hmap, List.map_map]
    rfl

/-- A walk of what a value holds goes through the places below the value. -/
theorem Enumerates.below (h : (Value.list value.held).Enumerates earlier nodes) :
    ∃ places : List (List Nat), places.Pairwise earlier ∧
      (∀ place, place ∈ places ↔ place ≠ [] ∧ ∃ node, value.at? place = some node ∧ node.isNode) ∧
      places.map value.at? = nodes.map some := by
  obtain ⟨places, hsorted, hmem, hmap⟩ := h
  have hsame (place : List Nat) (hplace : place ≠ []) : (Value.list value.held).at? place =
      value.at? place := by
    cases place with
    | nil => contradiction
    | cons i place => rfl
  have hne (place : List Nat) (hplace : place ∈ places) : place ≠ [] := by
    rintro rfl
    simpa [at?, isNode] using (hmem []).mp hplace
  refine ⟨places, hsorted, fun place => ⟨fun hplace => ?_, fun ⟨hplace, hnode⟩ => ?_⟩, ?_⟩
  · exact ⟨hne place hplace, hsame place (hne place hplace) ▸ (hmem place).mp hplace⟩
  · exact (hmem place).mpr (hsame place hplace ▸ hnode)
  · rw [← hmap]
    exact List.map_congr_left fun place hplace => (hsame place (hne place hplace)).symm

/-- A value in front of a walk of what it holds. -/
theorem Enumerates.cons_itself (h : (Value.list value.held).Enumerates earlier nodes)
    (hroot : ∀ place, place ≠ [] → earlier [] place) :
    value.Enumerates earlier (value.itself ++ nodes) := by
  obtain ⟨places, hsorted, hmem, hmap⟩ := h.below
  cases hnode : value.isNode with
  | true =>
      refine ⟨[] :: places, ?_, fun place => ?_, by simp [at?, itself, hnode, hmap]⟩
      · exact List.pairwise_cons.mpr ⟨fun place hplace => hroot place ((hmem place).mp hplace).1,
          hsorted⟩
      · cases place <;> simp [hmem, at?, hnode]
  | false =>
      refine ⟨places, hsorted, fun place => ?_, by simp [itself, hnode, hmap]⟩
      cases place <;> simp [hmem, at?, hnode]

/-- A value behind a walk of what it holds. -/
theorem Enumerates.append_itself (h : (Value.list value.held).Enumerates earlier nodes)
    (hroot : ∀ place, place ≠ [] → earlier place []) :
    value.Enumerates earlier (nodes ++ value.itself) := by
  obtain ⟨places, hsorted, hmem, hmap⟩ := h.below
  cases hnode : value.isNode with
  | true =>
      refine ⟨places ++ [[]], ?_, fun place => ?_, by simp [at?, itself, hnode, hmap]⟩
      · refine List.pairwise_append.mpr ⟨hsorted, List.pairwise_singleton _ _,
          fun place hplace root h => ?_⟩
        obtain rfl := List.mem_singleton.mp h
        exact hroot place ((hmem place).mp hplace).1
      · cases place <;> simp [hmem, at?, hnode]
  | false =>
      refine ⟨places, hsorted, fun place => ?_, by simp [itself, hnode, hmap]⟩
      cases place <;> simp [hmem, at?, hnode]

/-- The first walk goes through the places of nodes in their lexicographic order. -/
theorem enumerates_before (value : Value) : value.Enumerates (· < ·) value.before := by
  induction value using induction_held with
  | step value ih =>
      rw [before_eq]
      refine (Enumerates.list forward_lex ih).cons_itself fun place h => ?_
      obtain ⟨i, rest, rfl⟩ := List.exists_cons_of_ne_nil h
      exact List.nil_lt_cons i rest

/-- The second walk goes through the places of nodes upwards. -/
theorem enumerates_after (value : Value) : value.Enumerates Upwards value.after := by
  induction value using induction_held with
  | step value ih =>
      rw [after_eq]
      refine (Enumerates.list forward_upwards ih).append_itself fun place h => ?_
      obtain ⟨i, rest, rfl⟩ := List.exists_cons_of_ne_nil h
      exact .root i rest

example : (exprValue (.paren (.raw "a"))).after =
    [exprValue (.raw "a"), exprValue (.paren (.raw "a"))] := rfl

/-! ## Rewriting -/

section

variable {m : Type → Type} [Monad m]

/-- The replacement that visits its argument and gives it back. -/
def givingBack {α : Type} (visit : α → m Unit) (x : α) : m α := do
  visit x
  pure x

variable [LawfulMonad m] (visit : Value → m Unit)

mutual

/-- A replacement that gives back its argument is called on the nodes of the second walk, and
nothing changes. -/
theorem transform_givingBack (value : Value) :
    value.transform (givingBack visit) = givingBack (fun tree => tree.after.forM visit) value := by
  cases value with
  | datum d => simp [transform, givingBack, after]
  | record r => simp [transform, givingBack, after]
  | list values =>
      rw [transform, transformAll_givingBack values]
      simp [givingBack, after]
  | part kind fields =>
      rw [transform, transformAll_givingBack fields]
      cases hnode : kind.isNode <;>
        simp [givingBack, after, itself, isNode, hnode, List.forM_append]

theorem transformAll_givingBack (values : List Value) :
    transformAll (givingBack visit) values =
      givingBack (fun trees => (afterAll trees).forM visit) values := by
  cases values with
  | nil => simp [transformAll, givingBack, afterAll]
  | cons value rest =>
      rw [transformAll, transform_givingBack value, transformAll_givingBack rest]
      simp [givingBack, afterAll, List.forM_append]

end

end

end SqlLayout.Tree.Value
