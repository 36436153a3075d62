import SqlLayout.Text.Basic

/-!
# Source spans

The range that a whole text covers, with lines counted from one and columns from zero.
-/

namespace SqlLayout.Source

/-- First and last position of a text. -/
structure Span where
  startLine : Nat := 1
  startColumn : Nat := 0
  endLine : Nat
  endColumn : Nat
  deriving DecidableEq, Repr

/-- The span that covers all of a text. -/
def Span.ofText (text : List Char) : Span :=
  let lines := Text.splitOn '\n' text
  { endLine := lines.length, endColumn := (lines.getLast?.map List.length).getD 0 }

end SqlLayout.Source
