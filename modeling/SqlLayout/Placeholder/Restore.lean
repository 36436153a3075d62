import SqlLayout.Tree.Traverse
import SqlLayout.Tree.Walk

/-!
# Restoring placeholders

The tree of an encoded statement still holds the placeholders.  Restoring puts back what the records
say, and reports the records that nothing in the tree asked for.

## Implementation notes

Records are told apart by their position in the list, so equal records are reported one by one.
Each pass gives the restored statement with the positions of the records it used.
-/

namespace SqlLayout.Placeholder

open SqlLayout.Tree

/-- A statement with the positions of the records that were used on it. -/
structure Restored where
  statement : Statement
  used : List Nat := []

/-- A record with its position. -/
abbrev Numbered (α : Type) := List (α × Nat)

/-- The records of one kind, with their positions. -/
def pick (f : Record → Option α) (records : List Record) : Numbered α :=
  records.zipIdx.filterMap fun (record, position) => (f record).map (·, position)

/-- The kinds of object that `OR REPLACE` was taken from. -/
def replaceMarkers : List Record → Numbered ReplacedKind :=
  pick fun | .replaceMarker kind => some kind | _ => none

/-- The dynamic tables of a record list. -/
def dynamicTables : List Record → Numbered DynamicTable :=
  pick fun | .dynamicTable record => some record | _ => none

/-- The custom types of a record list. -/
def customTypes : List Record → Numbered CustomType :=
  pick fun | .customType record => some record | _ => none

/-- The array accesses of a record list. -/
def arrayAccesses : List Record → Numbered ArrayAccess :=
  pick fun | .arrayAccess record => some record | _ => none

/-- The tokens of groupings by all columns of a record list. -/
def groupTokens : List Record → Numbered String :=
  pick fun | .groupByAll token => some token | _ => none

/-- The pivot clauses of a record list. -/
def pivots : List Record → Numbered Pivot :=
  pick fun | .pivot record => some record | _ => none

/-- The casts of a record list. -/
def casts : List Record → Numbered CastShorthand :=
  pick fun | .castShorthand record => some record | _ => none

/-! ## Created objects -/

/-- Whether a marker belongs to a created object; dynamic tables reach the grammar as views. -/
def markerFits (kind : ReplacedKind) (node : Create) : Bool :=
  kind.keyword == node.kind.keyword || (kind == .view && node.dynamicOptions.isSome)

/-- Puts `OR REPLACE` back. -/
def restoreReplaceMarkers (records : Numbered ReplacedKind) (node : Create) : Create × List Nat :=
  records.foldl (fun (node, used) (kind, position) =>
    if markerFits kind node then ({ node with replace := true }, used ++ [position])
    else (node, used)) (node, [])

/-- Turns views back into dynamic tables. -/
def restoreDynamicTables (records : Numbered DynamicTable) (node : Create) : Create × List Nat :=
  records.foldl (fun (node, used) (record, position) =>
    if node.kind == .view || node.dynamicOptions == some record then
      ({ node with kind := .dynamicTable, dynamicOptions := some record }, used ++ [position])
    else (node, used)) (node, [])

/-- Whether a custom type belongs to a column, now or after it was restored before. -/
def customTypeFits (record : CustomType) (column : ColumnDef) : Bool :=
  column.name.lowerCase == record.column.lowerCase &&
    match column.type with
    | some type => type.name == record.standIn || type.name == record.keyword
    | none => false

/-- Gives a column its custom type back, from the first record that fits. -/
def restoreColumn (records : Numbered CustomType) (column : ColumnDef) : ColumnDef × List Nat :=
  match records.find? fun entry => customTypeFits entry.1 column with
  | some (record, position) =>
    ({ column with
        type := some { name := record.keyword, length := record.length, scale := record.scale } },
      [position])
  | none => (column, [])

/-- Gives the columns of a created table their custom types back. -/
def restoreCustomTypes (records : Numbered CustomType) (node : Create) : Create × List Nat :=
  if records.isEmpty || node.kind != .table then (node, [])
  else
    let columns := node.columns.map (restoreColumn records)
    ({ node with customTypes := records.map Prod.fst, columns := columns.map Prod.fst },
      columns.flatMap Prod.snd)

/-- The passes over the created object itself. -/
def restoreCreate (records : List Record) (node : Create) : Create × List Nat :=
  let (node, used₁) := restoreReplaceMarkers (replaceMarkers records) node
  let (node, used₂) := restoreDynamicTables (dynamicTables records) node
  let (node, used₃) := restoreCustomTypes (customTypes records) node
  (node, used₁ ++ used₂ ++ used₃)

/-- The passes over a statement that only concern created objects. -/
def restoreHead (records : List Record) : Statement → Restored
  | .create node =>
    let (node, used) := restoreCreate records node
    { statement := .create node, used := used }
  | statement => { statement := statement }

/-! ## Array accesses -/

/-- Attaches array accesses to a statement. -/
def attachAccesses (accesses : List ArrayAccess) : Statement → Statement
  | .select s => .select { s with arrayAccesses := accesses }
  | .create s => .create { s with arrayAccesses := accesses }
  | .insert s => .insert { s with arrayAccesses := accesses }
  | .update s => .update { s with arrayAccesses := accesses }
  | .delete s => .delete { s with arrayAccesses := accesses }
  | .grant s => .grant { s with arrayAccesses := accesses }
  | .comment s => .comment { s with arrayAccesses := accesses }
  | .unrendered s => .unrendered { s with arrayAccesses := accesses }

/-- The first array access that a call is the placeholder of. -/
def accessOf? (records : Numbered ArrayAccess) (name : String) : Option (ArrayAccess × Nat) :=
  records.find? fun entry => entry.1.token == name

/-- Turns a placeholder call back into an indexed call. -/
def restoreIndex (records : Numbered ArrayAccess) : Expr → Expr
  | .call name args bare =>
    match accessOf? records name with
    | some (record, _) => .index (.call record.functionName args false) record.index
    | none => .call name args bare
  | e => e

/-- The records used by the placeholder calls of a tree. -/
def usedByCall (records : Numbered ArrayAccess) : Part → List Nat
  | .expr (.call name _ _) => ((accessOf? records name).map Prod.snd).toList
  | _ => []

/-- The records whose indexed call stands in a tree. -/
def usedByIndex (records : Numbered ArrayAccess) : Part → List Nat
  | .expr (.index (.call name _ _) index) =>
    records.filterMap fun (record, position) =>
      if record.functionName == name && record.index == index then some position else none
  | _ => []

/-- Puts the indexes of calls back. -/
def restoreArrayAccesses (records : Numbered ArrayAccess) (statement : Statement) : Restored :=
  if records.isEmpty then { statement := statement }
  else
    let restored := (attachAccesses (records.map Prod.fst) statement).mapExprs
      (restoreIndex records)
    { statement := restored
      used := statement.part.preorder.flatMap (usedByCall records) ++
        restored.part.preorder.flatMap (usedByIndex records) }

/-! ## Grouping by all columns -/

/-- The progress of the pass over groupings: the tokens still to be found, the positions used, and
the number of queries that already group by all columns. -/
structure GroupState where
  pending : Numbered String
  used : List Nat := []
  restored : Nat := 0

/-- Decides whether the grouping of a query is a placeholder, and takes its token. -/
def takeGroup (query : Query) : StateM GroupState Bool := do
  let state ← get
  if query.groupByAll && query.groupBy.isEmpty then
    set { state with restored := state.restored + 1 }
    return false
  match query.groupBy with
  | [.column name _ _] =>
    match state.pending.find? fun entry => entry.1 == name with
    | some entry =>
      set { state with pending := state.pending.erase entry, used := state.used ++ [entry.2] }
      return true
    | none => return false
  | _ => return false

/-- Puts groupings by all columns back; each query restored before accounts for one token. -/
def restoreGroups (records : Numbered String) (statement : Statement) : Restored :=
  let (restored, state) :=
    (statementTraverse { Pass.keep (StateM GroupState) with clears := takeGroup } statement).run
      { pending := records }
  { statement := restored
    used := state.used ++ (state.pending.take state.restored).map Prod.snd }

/-! ## Pivot clauses -/

/-- One pivot clause on the marks of a table source. -/
def restorePivot (marks : TableMarks) (record : Pivot) : TableMarks :=
  if marks.label == some record.token then { label := none, pivot := some record.clause } else marks

/-- All pivot clauses on the marks of a table source. -/
def restoreMarks (records : Numbered Pivot) (marks : TableMarks) : TableMarks :=
  records.foldl (fun marks entry => restorePivot marks entry.1) marks

/-- The pivot clauses used on the marks of a table source. -/
def usedByMarks : Numbered Pivot → TableMarks → List Nat
  | [], _ => []
  | (record, position) :: rest, marks =>
    (if marks.label == some record.token || marks.pivot == some record.clause then [position]
      else []) ++ usedByMarks rest (restorePivot marks record)

/-- The marks of a part that is a table source. -/
def marksOf? : Part → Option TableMarks
  | .source (.table table) => some ⟨table.label, table.pivot⟩
  | .source (.derived label pivot _) => some ⟨label, pivot⟩
  | _ => none

/-- Puts pivot clauses back. -/
def restorePivots (records : Numbered Pivot) (statement : Statement) : Restored :=
  { statement := statement.mapMarks (restoreMarks records)
    used := (statement.part.preorder.filterMap marksOf?).flatMap (usedByMarks records) }

/-! ## Casts -/

/-- Turns a marked call around a cast back into a cast with `::`. -/
def restoreCast (token : String) : Expr → Expr
  | .call name [.cast operand type shorthand safe] bare =>
    if name == token then .cast operand type true safe
    else .call name [.cast operand type shorthand safe] bare
  | e => e

/-- Whether a part is a cast with `::`. -/
def isShorthandCast : Part → Bool
  | .expr (.cast _ _ true _) => true
  | _ => false

/-- Puts casts with `::` back; one such cast in the tree accounts for all records. -/
def restoreCasts (records : Numbered CastShorthand) (statement : Statement) : Restored :=
  match records with
  | [] => { statement := statement }
  | (first, _) :: _ =>
    let restored := statement.mapExprs (restoreCast first.token)
    { statement := restored
      used := if restored.part.preorder.any isShorthandCast then records.map Prod.snd else [] }

/-! ## All passes -/

/-- Runs one more pass on a restored statement. -/
def Restored.andThen (before : Restored) (pass : Statement → Restored) : Restored :=
  let after := pass before.statement
  { statement := after.statement, used := before.used ++ after.used }

/-- Restores one statement. -/
def restoreStatement (records : List Record) (statement : Statement) : Restored :=
  restoreHead records statement
    |>.andThen (restoreArrayAccesses (arrayAccesses records))
    |>.andThen (restoreGroups (groupTokens records))
    |>.andThen (restorePivots (pivots records))
    |>.andThen (restoreCasts (casts records))

/-- The statements after restoring, and the records that were not used. -/
structure Restoration where
  statements : List Statement
  unapplied : List Record

/-- Restores statements from the records of their text. -/
def restore (records : List Record) (statements : List Statement) : Restoration :=
  let restored := statements.map (restoreStatement records)
  let used := restored.flatMap Restored.used
  { statements := restored.map Restored.statement
    unapplied := records.zipIdx.filterMap fun (record, position) =>
      if used.contains position then none else some record }

end SqlLayout.Placeholder
