import SqlLayout.Text.PrintTable

/-!
# Texts shown in quotes

Messages show a text between quotes with escapes: single quotes, unless the text has a single quote
and no double quote.
-/

namespace SqlLayout.Text

/-- The hexadecimal digits of a number, padded with zeros to a width. -/
def hex (width value : Nat) : List Char :=
  let digits := Nat.toDigits 16 value
  List.replicate (width - digits.length) '0' ++ digits

/-- How one character is shown between the given quotes. -/
def showChar (quote c : Char) : List Char :=
  if c == quote || c == '\\' then ['\\', c]
  else if c == '\n' then ['\\', 'n']
  else if c == '\r' then ['\\', 'r']
  else if c == '\t' then ['\\', 't']
  else if !hiddenRanges.has c.toNat then [c]
  else if c.toNat < 0x100 then '\\' :: 'x' :: hex 2 c.toNat
  else if c.toNat < 0x10000 then '\\' :: 'u' :: hex 4 c.toNat
  else '\\' :: 'U' :: hex 8 c.toNat

/-- The quote a text is shown in. -/
def quoteFor (text : List Char) : Char :=
  if text.contains '\x27' && !text.contains '\x22' then '\x22' else '\x27'

/-- A text shown between quotes. -/
def quoted (text : List Char) : List Char :=
  let quote := quoteFor text
  quote :: text.flatMap (showChar quote) ++ [quote]

end SqlLayout.Text

namespace String

/-- The string shown between quotes, with escapes. -/
def shown (s : String) : String :=
  String.ofList (SqlLayout.Text.quoted s.toList)

end String
