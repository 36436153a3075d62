import SqlLayout.Text.Basic

/-!
# Masked text

Searches in statement text must not see the inside of string literals, quoted identifiers and
comments.  They run on a masked copy of the text: it has the same length, the inside of every
literal is filled with `_`, every comment is filled with spaces, and line feeds stay where they are.

## Implementation notes

The scanner is a machine with four modes that reads the text once from left to right.  An
unterminated literal or block comment runs to the end of the text.
-/

namespace SqlLayout.Source

/-- What the scanner is inside of. -/
inductive Mode where
  /-- Statement text. -/
  | code
  /-- A comment that ends with the line. -/
  | line
  /-- A comment between `/*` and `*/`. -/
  | block
  /-- A literal opened by the given quote. -/
  | literal (quote : Char)
  deriving DecidableEq, Repr

/-- The characters that open a string literal or a quoted identifier. -/
def isQuote (c : Char) : Bool :=
  c == '\x27' || c == '\x22' || c == '\x60'

/-- Replaces a character by the fill, except a line feed. -/
def blankOut (fill c : Char) : Char :=
  if c == '\n' then c else fill

/-- Masks the rest of a text from the given mode on. -/
def maskFrom : Mode → List Char → List Char
  | _, [] => []
  | .code, c :: rest =>
    match c, rest with
    | '-', '-' :: rest' => ' ' :: ' ' :: maskFrom .line rest'
    | '/', '*' :: rest' => ' ' :: ' ' :: maskFrom .block rest'
    | c, rest =>
      if isQuote c then c :: maskFrom (.literal c) rest else c :: maskFrom .code rest
  | .line, c :: rest =>
    if c == '\n' then c :: maskFrom .code rest else ' ' :: maskFrom .line rest
  | .block, c :: rest =>
    match c, rest with
    | '*', '/' :: rest' => ' ' :: ' ' :: maskFrom .code rest'
    | c, rest => blankOut ' ' c :: maskFrom .block rest
  | .literal quote, c :: rest =>
    if c == '\\' && quote == '\x27' then
      match rest with
      | [] => ['_']
      | escaped :: rest' => '_' :: blankOut '_' escaped :: maskFrom (.literal quote) rest'
    else if c == quote then
      match rest with
      | [] => [c]
      | next :: rest' =>
        if next == quote then '_' :: '_' :: maskFrom (.literal quote) rest'
        else c :: maskFrom .code (next :: rest')
    else blankOut '_' c :: maskFrom (.literal quote) rest

/-- The masked copy of a text. -/
def mask (text : List Char) : List Char :=
  maskFrom .code text

end SqlLayout.Source
