import SqlLayout.Pattern.Search
import SqlLayout.Source.Balanced
import SqlLayout.Placeholder.Record

/-!
# Placeholders for clauses

A pivot clause becomes a table alias, and grouping by all columns becomes grouping by one column.
-/

namespace SqlLayout.Placeholder

open Pattern (Match)

/-- The keyword of a pivot clause with its opening parenthesis. -/
def pivotHead : Pattern :=
  .all [.wordEdge, .capture 1 (.any [.word "UNPIVOT", .word "PIVOT"]), .blanks, .char '(']

/-- Pivot clauses of a text in order, each with the offset of its closing parenthesis, up to the
first one that is never closed, which is given apart. -/
structure PivotClauses where
  closed : List (Match × Nat) := []
  unclosed : Option Match := none

/-- The pivot clauses among matches of the head that start at offset `last` or later. -/
def pivotClauses (masked : List Char) (last : Nat) : List Match → PivotClauses
  | [] => {}
  | m :: rest =>
    if m.start < last then pivotClauses masked last rest
    else match Source.balancedClose masked (m.stop - 1) with
      | none => { unclosed := some m }
      | some close =>
        let later := pivotClauses masked (close + 1) rest
        { later with closed := (m, close) :: later.closed }

/-- The record of one pivot clause. -/
def readPivot (text : List Char) (number : Nat) (m : Match) (close : Nat) : Pivot :=
  { token := pivotMark ++ toString number ++ "__"
    clause := String.ofList
      (Text.upper (m.group (Source.mask text) 1) ++ Pattern.slice text (m.stop - 1) (close + 1)) }

/-- The pivot clauses of a text. -/
def findPivots (text : List Char) : PivotClauses :=
  pivotClauses (Source.mask text) 0 (pivotHead.findOutside text)

/-- Replaces every closed pivot clause by a table alias. -/
def encodePivots (text : List Char) : Encoded :=
  let records := (findPivots text).closed.zipIdx.map fun ((m, close), number) =>
    (m, close, readPivot text number m close)
  { text := Pattern.splice text 0 <| records.map fun (m, close, record) =>
      ({ m with stop := close + 1 }, record.token.toList)
    records := records.map fun (_, _, record) => .pivot record }

/-- The keyword of a pivot clause that is left alone because it is never closed. -/
def unclosedPivot? (text : List Char) : Option String :=
  (findPivots text).unclosed.map fun m => String.ofList (m.group (Source.mask text) 1)

/-- Grouping by all columns. -/
def groupByAll : Pattern :=
  .all [.wordEdge, .word "GROUP", .blanks1, .word "BY", .blanks1, .word "ALL", .wordEdge]

/-- The token of a grouping by its number. -/
def groupByAllToken (number : Nat) : String :=
  groupByAllMark ++ toString number ++ "__"

/-- Replaces every grouping by all columns by a grouping by one numbered column. -/
def encodeGroupByAll (text : List Char) : Encoded :=
  let found := (groupByAll.findOutside text).zipIdx
  { text := Pattern.splice text 0 <| found.map fun (m, number) =>
      (m, "GROUP BY ".toList ++ (groupByAllToken number).toList)
    records := found.map fun (_, number) => .groupByAll (groupByAllToken number) }

end SqlLayout.Placeholder
