import SqlLayout.Text.WordTable

/-!
# Character classes

Blanks, decimal digits and identifier characters of every script, and the comparison of a letter
with an ASCII letter that ignores case.
-/

namespace SqlLayout.Text

/-- White space of every script, with the separators of the control range. -/
def blankRanges : Ranges :=
  [(9, 13), (28, 32), (133, 133), (160, 160), (5760, 5760), (8192, 8202), (8232, 8233),
   (8239, 8239), (8287, 8287), (12288, 12288)]

/-- White space. -/
def isBlank (c : Char) : Bool :=
  blankRanges.has c.toNat

/-- ASCII letters. -/
def isAsciiLetter (c : Char) : Bool :=
  ('a' ≤ c && c ≤ 'z') || ('A' ≤ c && c ≤ 'Z')

/-- ASCII digits. -/
def isAsciiDigit (c : Char) : Bool :=
  '0' ≤ c && c ≤ '9'

/-- Identifier characters: letters, digits, other numbers and the underscore. -/
def isWord (c : Char) : Bool :=
  if c.toNat < 128 then isAsciiLetter c || isAsciiDigit c || c == '_'
  else wordRanges.has c.toNat

/-- The value of a decimal digit of any script. -/
def digitValue? (c : Char) : Option Nat :=
  if c.toNat < 128 then
    if isAsciiDigit c then some (c.toNat - 48) else none
  else
    (decimalZeros.find? fun first => first ≤ c.toNat && c.toNat < first + 10).map (c.toNat - ·)

/-- Decimal digits of every script. -/
def isDigit (c : Char) : Bool :=
  (digitValue? c).isSome

/-- Digits with a form of their own, such as superscripts. -/
def formedDigitRanges : Ranges :=
  [(0xB2, 0xB3), (0xB9, 0xB9), (0x1369, 0x1371), (0x19DA, 0x19DA), (0x2070, 0x2070),
    (0x2074, 0x2079),
   (0x2080, 0x2089), (0x2460, 0x2468), (0x2474, 0x247C), (0x2488, 0x2490),
   (0x24EA, 0x24EA), (0x24F5, 0x24FD), (0x24FF, 0x24FF), (0x2776, 0x277E), (0x2780, 0x2788),
   (0x278A, 0x2792), (0x10A40, 0x10A43),
   (0x10E60, 0x10E68), (0x11052, 0x1105A), (0x1F100, 0x1F10A)]

/-- Digits of every script and form. -/
def isNumeral (c : Char) : Bool :=
  isDigit c || formedDigitRanges.has c.toNat

/-- The number spelled by decimal digits of any script; other characters are skipped. -/
def digitsValue (digits : List Char) : Nat :=
  digits.foldl (fun value c => match digitValue? c with
    | some digit => value * 10 + digit
    | none => value) 0

/-- The ASCII lower-case form. -/
def asciiLower (c : Char) : Char :=
  if 'A' ≤ c && c ≤ 'Z' then Char.ofNat (c.toNat + 32) else c

/-- The ASCII upper-case form. -/
def asciiUpper (c : Char) : Char :=
  if 'a' ≤ c && c ≤ 'z' then Char.ofNat (c.toNat - 32) else c

/-- Letters beyond ASCII that are read as the given lower-case ASCII letter when case is ignored:
the dotted and dotless i, the long s and the Kelvin sign. -/
def caseVariants (letter : Char) : List Nat :=
  match letter with
  | 'i' => [0x130, 0x131]
  | 's' => [0x17f]
  | 'k' => [0x212a]
  | _ => []

/-- Whether `c` reads as the ASCII character `letter` when case is ignored. -/
def sameLetter (letter c : Char) : Bool :=
  asciiLower c == asciiLower letter || (caseVariants (asciiLower letter)).contains c.toNat

end SqlLayout.Text
