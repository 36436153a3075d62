import SqlLayout.Proofs.Tree.Fields

/-!
# Children in fields

The children of a part are the parts that a search in its fields finds.  The search looks into lists
in two levels only, and no field of a part has more of them.
-/

namespace SqlLayout.Tree

open Value

/-! ## What fields show -/

@[simp] theorem exprValues_eq (es : List Expr) : exprValues es = es.map exprValue := by
  induction es with
  | nil => rfl
  | cons e rest ih => rw [exprValues, ih, List.map_cons]

@[simp] theorem branchValues_eq (bs : List Branch) : branchValues bs = bs.map branchValue := by
  induction bs with
  | nil => rfl
  | cons b rest ih => rw [branchValues, ih, List.map_cons]

@[simp] theorem orderValues_eq (os : List OrderItem) : orderValues os = os.map orderValue := by
  induction os with
  | nil => rfl
  | cons o rest ih => rw [orderValues, ih, List.map_cons]

@[simp] theorem itemValues_eq (is : List SelectItem) : itemValues is = is.map itemValue := by
  induction is with
  | nil => rfl
  | cons i rest ih => rw [itemValues, ih, List.map_cons]

@[simp] theorem sourceValues_eq (ss : List Source) : sourceValues ss = ss.map sourceValue := by
  induction ss with
  | nil => rfl
  | cons s rest ih => rw [sourceValues, ih, List.map_cons]

@[simp] theorem joinValues_eq (js : List Join) : joinValues js = js.map joinValue := by
  induction js with
  | nil => rfl
  | cons j rest ih => rw [joinValues, ih, List.map_cons]

@[simp] theorem cteValues_eq (cs : List Cte) : cteValues cs = cs.map cteValue := by
  induction cs with
  | nil => rfl
  | cons c rest ih => rw [cteValues, ih, List.map_cons]

@[simp] theorem optionalValue_eq (e : Option Expr) : optionalValue e = .optional exprValue e := by
  cases e <;> rfl

@[simp] theorem optionalQueryValue_eq (q : Option Query) :
    optionalQueryValue q = .optional queryValue q := by
  cases q <;> rfl

/-- A part is its kind and its fields, and is a node if its kind is one of nodes. -/
theorem exists_value_eq (part : Part) :
    ∃ kind fields, part.value = .part kind fields ∧ kind.isNode = part.isNode := by
  cases part with
  | expr e => cases e <;> exact ⟨_, _, rfl, rfl⟩
  | query q => cases q; exact ⟨_, _, rfl, rfl⟩
  | source s => cases s <;> exact ⟨_, _, rfl, rfl⟩
  | join j => cases j; exact ⟨_, _, rfl, rfl⟩
  | item i => cases i; exact ⟨_, _, rfl, rfl⟩
  | branch b => cases b; exact ⟨_, _, rfl, rfl⟩
  | order o => cases o; exact ⟨_, _, rfl, rfl⟩
  | cte c => cases c; exact ⟨_, _, rfl, rfl⟩
  | _ => exact ⟨_, _, rfl, rfl⟩

theorem isPart_value (part : Part) : part.value.isPart := by
  obtain ⟨kind, fields, hvalue, -⟩ := exists_value_eq part
  rw [hvalue]
  rfl

theorem isNode_value (part : Part) : part.value.isNode = part.isNode := by
  obtain ⟨kind, fields, hvalue, hnode⟩ := exists_value_eq part
  rw [hvalue]
  exact hnode

@[simp] theorem isPart_exprValue (e : Expr) : (exprValue e).isPart := isPart_value (.expr e)
@[simp] theorem isPart_queryValue (q : Query) : (queryValue q).isPart := isPart_value (.query q)
@[simp] theorem isPart_sourceValue (s : Source) : (sourceValue s).isPart := isPart_value (.source s)
@[simp] theorem isPart_joinValue (j : Join) : (joinValue j).isPart := isPart_value (.join j)
@[simp] theorem isPart_itemValue (i : SelectItem) : (itemValue i).isPart := isPart_value (.item i)
@[simp] theorem isPart_branchValue (b : Branch) : (branchValue b).isPart := isPart_value (.branch b)
@[simp] theorem isPart_orderValue (o : OrderItem) : (orderValue o).isPart := isPart_value (.order o)
@[simp] theorem isPart_cteValue (c : Cte) : (cteValue c).isPart := isPart_value (.cte c)
@[simp] theorem isPart_tableValue (t : TableRef) :
    t.value.isPart := isPart_value (.source (.table t))
@[simp] theorem isPart_columnDefValue (c : ColumnDef) :
    c.value.isPart := isPart_value (.columnDef c)
@[simp] theorem isPart_assignmentValue (a : Assignment) :
    a.asValue.isPart := isPart_value (.assignment a)
@[simp] theorem isPart_dataTypeValue (t : DataType) : t.value.isPart := isPart_value (.dataType t)
@[simp] theorem isPart_referenceValue (r : Reference) :
    r.value.isPart := isPart_value (.reference r)

namespace Value

@[simp] theorem items_datum (d : Datum) : (Value.datum d).items = [.datum d] := by simp only [items]
@[simp] theorem items_record (r : Placeholder.Record) :
    (Value.record r).items = [.record r] := by simp only [items]
@[simp] theorem items_list (values : List Value) :
    (Value.list values).items = values := by simp only [items]
@[simp] theorem isPart_datum (d : Datum) : (Value.datum d).isPart = false := by simp only [isPart]
@[simp] theorem isPart_record (r : Placeholder.Record) :
    (Value.record r).isPart = false := by simp only [isPart]

@[simp] theorem items_of_isPart {value : Value} (h : value.isPart) : value.items = [value] := by
  cases value with
  | part kind fields => rfl
  | _ => simp [isPart] at h

@[simp] theorem parts_datum (d : Datum) : (Value.datum d).parts = [] := by simp [parts]
@[simp] theorem parts_record (r : Placeholder.Record) :
    (Value.record r).parts = [] := by simp [parts]

@[simp] theorem parts_of_isPart {value : Value} (h : value.isPart) : value.parts = [value] := by
  simp [parts, h]

@[simp] theorem parts_optional_of_data {α : Type} {f : α → Value} (h : ∀ x, (f x).parts = [])
    (x : Option α) :
    (optional f x).parts = [] := by
  cases x with
  | none => exact parts_datum _
  | some y => exact h y

@[simp] theorem parts_optional {α : Type} {f : α → Value} (h : ∀ x, (f x).isPart) (x : Option α) :
    (optional f x).parts = x.toList.map f := by
  cases x with
  | none => exact parts_datum _
  | some y => exact parts_of_isPart (h y)

@[simp] theorem parts_list_of_data {α : Type} {f : α → Value} (h : ∀ x, (f x).items = [f x])
    (hdata : ∀ x, (f x).isPart = false) (xs : List α) : (Value.list (xs.map f)).parts = [] := by
  have hitems : (xs.map f).flatMap items = xs.map f := by
    rw [List.flatMap_map, funext h, ← List.map_eq_flatMap]
  rw [parts, items_list, hitems, List.filter_eq_nil_iff]
  simp [hdata]

@[simp] theorem parts_list {α : Type} {f : α → Value} (h : ∀ x, (f x).isPart) (xs : List α) :
    (Value.list (xs.map f)).parts = xs.map f := by
  simp [parts, List.flatMap_map, h, ← List.map_eq_flatMap]

@[simp] theorem parts_rows {α : Type} {f : α → Value} (h : ∀ x, (f x).isPart)
    (rows : List (List α)) :
    (Value.list (rows.map fun row => .list (row.map f))).parts = rows.flatMap (List.map f) := by
  have hitems : (rows.map fun row => Value.list (row.map f)).flatMap items =
      rows.flatMap (List.map f) := by
    simp only [List.flatMap_map, items_list]
  rw [parts, items_list, hitems, List.filter_eq_self]
  simp only [List.mem_flatMap, List.mem_map]
  rintro _ ⟨row, -, x, -, rfl⟩
  exact h x

/-- A value with lists in at most two levels. -/
def Shallow (value : Value) : Prop :=
  ∀ item ∈ value.items.flatMap items, item.items = [item]

@[simp] theorem shallow_datum (d : Datum) : (Value.datum d).Shallow := by simp [Shallow]

@[simp] theorem shallow_record (r : Placeholder.Record) :
    (Value.record r).Shallow := by simp [Shallow]

@[simp] theorem shallow_of_isPart {value : Value} (h : value.isPart) :
    value.Shallow := by simp [Shallow, h]

@[simp] theorem shallow_list (values : List Value) :
    (Value.list values).Shallow ↔ ∀ value ∈ values, ∀ item ∈ value.items, item.items = [item] := by
  simp only [Shallow, items_list, List.mem_flatMap]
  exact ⟨fun h value hvalue item hitem => h item ⟨value, hvalue, hitem⟩,
    fun h item ⟨value, hvalue, hitem⟩ => h value hvalue item hitem⟩

@[simp] theorem shallow_optional {α : Type} {f : α → Value} (h : ∀ x, (f x).Shallow)
    (x : Option α) :
    (optional f x).Shallow := by
  cases x with
  | none => exact shallow_datum _
  | some y => exact h y

theorem before_eq_flatMap_items (value : Value) : value.before = value.items.flatMap before := by
  cases value <;> simp [items, before, beforeAll_eq]

theorem before_of_isPart_eq_false {value : Value} (h : value.items = [value])
    (hpart : value.isPart = false) :
    value.before = [] := by
  cases value with
  | datum d => rfl
  | record r => rfl
  | list values =>
      have hsize := congrArg sizeOf h
      simp only [items, List.cons.sizeOf_spec, List.nil.sizeOf_spec,
        Value.list.sizeOf_spec] at hsize
      omega
  | part kind fields => cases hpart

theorem flatMap_before_filter {leaves : List Value} (h : ∀ item ∈ leaves, item.items = [item]) :
    (leaves.filter isPart).flatMap before = leaves.flatMap before := by
  induction leaves with
  | nil => rfl
  | cons item rest ih =>
      obtain ⟨hitem, hrest⟩ := List.forall_mem_cons.mp h
      cases hpart : item.isPart with
      | true => rw [List.filter_cons_of_pos hpart, List.flatMap_cons, List.flatMap_cons, ih hrest]
      | false =>
          rw [List.filter_cons_of_neg (Bool.not_eq_true _ ▸ hpart), List.flatMap_cons,
            before_of_isPart_eq_false hitem hpart, ih hrest, List.nil_append]

/-- In a value with few levels of lists, the search for parts misses no nodes. -/
theorem Shallow.before_eq {value : Value} (h : value.Shallow) :
    value.before = value.parts.flatMap before :=
  calc value.before
    _ = value.items.flatMap before := before_eq_flatMap_items value
    _ = value.items.flatMap fun item => item.items.flatMap before :=
      congrArg (List.flatMap · value.items) (funext before_eq_flatMap_items)
    _ = (value.items.flatMap items).flatMap before := List.flatMap_assoc.symm
    _ = value.parts.flatMap before := (flatMap_before_filter h).symm

end Value

/-! ## Children -/

/-- The children of a part are what the search in its fields finds. -/
theorem children_value (part : Part) : part.value.children = part.children.map Part.value := by
  cases part with
  | expr e =>
      cases e <;>
        simp [Part.value, exprValue, Value.children, Part.children, Expr.children, exprParts,
          optionalPart, Function.comp_def]
  | query q =>
      cases q
      simp [Part.value, queryValue, Value.children, Part.children, Query.children, exprParts,
        optionalPart, Function.comp_def]
  | source s =>
      cases s <;> simp [Part.value, sourceValue, TableRef.value, Value.children, Part.children]
  | join j =>
      cases j
      simp [Part.value, joinValue, Value.children, Part.children, optionalPart, exprParts,
        Function.comp_def]
  | item i => cases i; simp [Part.value, itemValue, Value.children, Part.children]
  | branch b => cases b; simp [Part.value, branchValue, Value.children, Part.children]
  | order o => cases o; simp [Part.value, orderValue, Value.children, Part.children]
  | cte c => cases c; simp [Part.value, cteValue, Value.children, Part.children]
  | columnDef c =>
      simp [Part.value, ColumnDef.value, Value.children, Part.children, exprParts, optionalPart,
        Function.comp_def]
  | assignment a => simp [Part.value, Assignment.asValue, Value.children, Part.children]
  | dataType t => simp [Part.value, DataType.value, Value.children, Part.children]
  | reference r => simp [Part.value, Reference.value, Value.children, Part.children]
  | _ =>
      simp [Part.value, sourceValue, Value.children, Part.children, exprParts, optionalPart,
        List.map_flatMap, Function.comp_def]

/-- The fields of a part have lists in at most two levels. -/
theorem shallow_of_mem_held (part : Part) : ∀ value ∈ part.value.held, value.Shallow := by
  cases part with
  | expr e => cases e <;> simp [Part.value, exprValue, held]
  | query q => cases q; simp [Part.value, queryValue, held]
  | source s => cases s <;> simp [Part.value, sourceValue, TableRef.value, held]
  | join j => cases j; simp [Part.value, joinValue, held]
  | item i => cases i; simp [Part.value, itemValue, held]
  | branch b => cases b; simp [Part.value, branchValue, held]
  | order o => cases o; simp [Part.value, orderValue, held]
  | cte c => cases c; simp [Part.value, cteValue, held]
  | columnDef c => simp [Part.value, ColumnDef.value, held]
  | assignment a => simp [Part.value, Assignment.asValue, held]
  | dataType t => simp [Part.value, DataType.value, held]
  | reference r => simp [Part.value, Reference.value, held]
  | _ => simp [Part.value, held]

end SqlLayout.Tree
