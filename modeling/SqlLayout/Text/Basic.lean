import SqlLayout.Text.Classes
import SqlLayout.Text.Case

/-!
# Texts

Trimming, cutting into lines and joining, on lists of characters.
-/

namespace SqlLayout.Text

/-- Drops the characters at the end that satisfy `p`. -/
def dropEndWhile (p : Char → Bool) (text : List Char) : List Char :=
  (text.reverse.dropWhile p).reverse

/-- Drops white space at both ends. -/
def strip (text : List Char) : List Char :=
  dropEndWhile isBlank (text.dropWhile isBlank)

/-- The characters that end a line, besides the pair of carriage return and line feed. -/
def isLineEnd (c : Char) : Bool :=
  (10 ≤ c.toNat && c.toNat ≤ 13) || (28 ≤ c.toNat && c.toNat ≤ 30) || c.toNat == 0x85
    || c.toNat == 0x2028 || c.toNat == 0x2029

/-- The lines of a text, without their ends; `line` holds the characters of the current line in
reverse.  A last line without an end counts only when it is not empty. -/
def linesFrom (line : List Char) : List Char → List (List Char)
  | [] => if line.isEmpty then [] else [line.reverse]
  | '\r' :: '\n' :: rest => line.reverse :: linesFrom [] rest
  | c :: rest =>
    if isLineEnd c then line.reverse :: linesFrom [] rest else linesFrom (c :: line) rest

/-- The lines of a text, cut at every kind of line end. -/
def lines (text : List Char) : List (List Char) :=
  linesFrom [] text

/-- The pieces of a text between the characters equal to `separator`. -/
def splitOn (separator : Char) : List Char → List (List Char)
  | [] => [[]]
  | c :: rest =>
    if c == separator then [] :: splitOn separator rest
    else match splitOn separator rest with
      | [] => [[c]]
      | piece :: pieces => (c :: piece) :: pieces

end SqlLayout.Text

namespace String

/-- The string without white space at both ends. -/
def stripBlanks (s : String) : String :=
  String.ofList (SqlLayout.Text.strip s.toList)

/-- The lines of a string, cut at every kind of line end. -/
def allLines (s : String) : List String :=
  (SqlLayout.Text.lines s.toList).map String.ofList

end String
