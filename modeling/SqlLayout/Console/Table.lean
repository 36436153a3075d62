import SqlLayout.Console.Markup
import SqlLayout.Console.Wrap

/-!
# Tables

A table with a title over it and a frame around its cells.  Every column is as wide as its widest
line, and the last one gives way when the table is too wide for the console.
-/

namespace SqlLayout.Console

/-- How the lines of a cell stand in their column. -/
inductive Align where
  | left
  | right
  | center
  deriving DecidableEq, Repr

/-- A line in its place. -/
def Align.place (align : Align) (columns : Nat) (line : List Char) : List Char :=
  let bare := Text.dropEndWhile Text.isBlank line
  match align with
  | .left => fit columns line
  | .right => fit columns (blanks (columns - width bare) ++ bare)
  | .center => fit columns (blanks ((columns - width bare) / 2) ++ bare)

/-- A column of a table: its head and how its cells stand. -/
structure Column where
  head : String
  align : Align := .left

/-- A table: its title, its columns, and a text for each column in each row.  The title and the
texts are marked texts. -/
structure Table where
  title : String
  columns : List Column
  rows : List (List String)

namespace Table

/-- The columns that a cell asks for. -/
def cellWidth (cell : String) : Nat :=
  ((Text.lines (visible cell.toList)).map width).foldl max 0

/-- The widths that the columns ask for. -/
def askedWidths (table : Table) : List Nat :=
  table.columns.zipIdx.map fun (column, index) =>
    let cells := column.head :: table.rows.filterMap (·[index]?)
    (cells.map cellWidth).foldl max 0

/-- The columns that frame and padding take: a blank on both sides of each cell, and a line around
each. -/
def frameWidth (count : Nat) : Nat :=
  3 * count + 1

/-- The widths of the columns. -/
def widths (table : Table) : List Nat :=
  let asked := table.askedWidths
  let others := asked.dropLast.foldl (· + ·) 0
  asked.dropLast ++ (asked.getLast?.toList.map fun last =>
    min last (Console.columns - frameWidth asked.length - others))

/-- The lines of a cell. -/
def cellLines (align : Align) (columns : Nat) (cell : String) : List (List Char) :=
  (wrap columns .ellipsis cell.toList).map (align.place columns)

/-- A row between the lines of its frame; cells that are lower than the row are filled up with blank
lines. -/
def rowLines (bar : Char) (aligns : List Align) (widths : List Nat) (cells : List String) :
    List (List Char) :=
  let blocks := (aligns.zip (widths.zip cells)).map fun (align, columns, cell) =>
    (columns, cellLines align columns cell)
  let height := (blocks.map (·.2.length)).foldl max 0
  (List.range height).map fun index =>
    bar :: blocks.flatMap fun (columns, lines) =>
      [' '] ++ (lines[index]?).getD (blanks columns) ++ [' ', bar]

/-- A line of the frame: its ends, its stroke and its crossings. -/
def frameLine (first stroke crossing last : Char) (widths : List Nat) : List Char :=
  let strokes := widths.map fun columns => List.replicate (columns + 2) stroke
  first :: [crossing].intercalate strokes ++ [last]

/-- A table whose texts are as they are shown. -/
def plain (table : Table) : Table :=
  { table with title := shown table.title, rows := table.rows.map (·.map shown) }

/-- The text of a table, with a line end after each line. -/
def render (table : Table) : String :=
  let table := table.plain
  let widths := table.widths
  let aligns := table.columns.map (·.align)
  let total := widths.foldl (· + ·) 0 + frameWidth widths.length
  let title := (wrap total .fold table.title.toList).map (Align.center.place total)
  let lines := title ++ [frameLine '┏' '━' '┳' '┓' widths] ++
    rowLines '┃' aligns widths (table.columns.map (·.head)) ++ [frameLine '┡' '━' '╇' '┩' widths] ++
    table.rows.flatMap (rowLines '│' aligns widths) ++ [frameLine '└' '─' '┴' '┘' widths]
  String.join (lines.map fun line => String.ofList line ++ "\n")

end Table

end SqlLayout.Console
