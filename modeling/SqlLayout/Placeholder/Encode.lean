import SqlLayout.Placeholder.Decimals
import SqlLayout.Placeholder.Create
import SqlLayout.Placeholder.Calls
import SqlLayout.Placeholder.Clauses

/-!
# Encoding a statement

All replacement steps in their fixed order, so that later steps never disturb the placeholders of
earlier ones.
-/

namespace SqlLayout.Placeholder

/-- The replacement steps. -/
inductive Stage where
  | decimals
  | dynamicTable
  | replaceMarker
  | customTypes
  | arrayAccess
  | pivots
  | groupByAll
  | casts
  deriving DecidableEq, Repr

/-- Runs one step on a text. -/
def Stage.apply (stage : Stage) (text : List Char) : Except Fault Encoded :=
  match stage with
  | .decimals => .ok { text := normalizeDecimals text }
  | .dynamicTable => .ok (encodeDynamicTable text)
  | .replaceMarker => encodeReplaceMarker text
  | .customTypes => encodeCustomTypes text
  | .arrayAccess => .ok (encodeArrayAccess text)
  | .pivots => .ok (encodePivots text)
  | .groupByAll => .ok (encodeGroupByAll text)
  | .casts => .ok (encodeCasts text)

/-- The steps in the order in which they run. -/
def stages : List Stage :=
  [.decimals, .dynamicTable, .replaceMarker, .customTypes, .arrayAccess, .pivots,
    .groupByAll, .casts]

/-- Runs steps one after the other and collects their records. -/
def runStages : List Stage → List Char → Except Fault Encoded
  | [], text => .ok { text := text }
  | stage :: rest, text => do
    let first ← stage.apply text
    let later ← runStages rest first.text
    return { text := later.text, records := first.records ++ later.records }

/-- Encodes one statement. -/
def encode (text : List Char) : Except Fault Encoded :=
  runStages stages text

/-- The keyword of the unclosed pivot clause met while encoding, if the encoding gets that far. -/
def encodeNote? (text : List Char) : Option String :=
  match runStages [.decimals, .dynamicTable, .replaceMarker, .customTypes, .arrayAccess] text with
  | .ok before => unclosedPivot? before.text
  | .error _ => none

end SqlLayout.Placeholder
