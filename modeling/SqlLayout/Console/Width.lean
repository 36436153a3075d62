import SqlLayout.Text.Basic
import SqlLayout.Text.PrintTable

/-!
# Terminal columns

How many columns a text takes on a terminal, and how tabs and control characters are shown there.
-/

namespace SqlLayout.Console

/-- The columns a character takes: none for control characters and combining marks, two for wide
characters, else one. -/
def charWidth (c : Char) : Nat :=
  if c.toNat < 0x20 then 0
  else if c.toNat < 0x7F then 1
  else if c.toNat < 0xA0 || Text.combiningRanges.has c.toNat then 0
  else if Text.wideRanges.has c.toNat then 2
  else 1

/-- Joins two pictures into one. -/
def joiner : Char := '\u200d'

/-- Asks to show the character before it as a picture. -/
def pictureMark : Char := '\uFE0F'

/-- The columns a text takes after a character that was measured.  A joiner hides the character
after it, and a mark widens a narrow character that can be shown as a picture. -/
def widthAfter (last : Option Char) : List Char → Nat
  | [] => 0
  | [c] =>
    if c == joiner then 0
    else if c == pictureMark then (if last.any (Text.pictureRanges.has ·.toNat) then 1 else 0)
    else charWidth c
  | c :: d :: rest =>
    if c == joiner then widthAfter last rest
    else if c == pictureMark then
      (if last.any (Text.pictureRanges.has ·.toNat) then 1 else 0) + widthAfter none (d :: rest)
    else if charWidth c == 0 then widthAfter last (d :: rest)
    else charWidth c + widthAfter (some c) (d :: rest)

/-- The columns a text takes. -/
def width (text : List Char) : Nat :=
  widthAfter none text

/-- Nothing takes no columns. -/
@[simp]
theorem width_nil : width [] = 0 := rfl

/-- Spaces. -/
def blanks (count : Nat) : List Char :=
  List.replicate count ' '

/-- Spaces take one column each. -/
theorem widthAfter_blanks (last : Option Char) (count : Nat) :
    widthAfter last (blanks count) = count := by
  have one : charWidth ' ' = 1 := by decide
  have plain : (' ' == joiner) = false ∧ (' ' == pictureMark) = false := by decide
  induction count generalizing last with
  | zero => simp [blanks, widthAfter]
  | succ n ih =>
    cases n with
    | zero => simp [blanks, widthAfter, plain, one]
    | succ m =>
      have := ih (some ' ')
      simp only [blanks, List.replicate_succ] at this ⊢
      rw [widthAfter]
      simp [plain, one, this]
      omega

/-- Spaces take one column each. -/
@[simp]
theorem width_blanks (count : Nat) : width (blanks count) = count :=
  widthAfter_blanks none count

/-- Control characters that are not shown: the bell, the backspace, the vertical tab, the form feed
and the carriage return. -/
def isSilent (c : Char) : Bool :=
  [7, 8, 11, 12, 13].contains c.toNat

/-- A text without the control characters that are not shown. -/
def visible (text : List Char) : List Char :=
  text.filter (!isSilent ·)

/-- The distance between two tab stops. -/
def tabStop : Nat := 8

/-- A line with its tabs replaced by spaces up to the next tab stop; `used` columns stand before
it. -/
def expandTabs (used : Nat) : List Char → List Char
  | [] => []
  | c :: rest =>
    if c == '\t' then
      let next := (used / tabStop + 1) * tabStop
      blanks (next - used) ++ expandTabs next rest
    else c :: expandTabs (used + charWidth c) rest

/-- The longest start of a text that takes at most the given columns. -/
def takeColumns : Nat → List Char → List Char
  | _, [] => []
  | columns, c :: rest =>
    if charWidth c ≤ columns then c :: takeColumns (columns - charWidth c) rest else []

/-- A text cut or filled with spaces to the given columns, as far as its characters allow. -/
def fit (columns : Nat) (text : List Char) : List Char :=
  if width text ≤ columns then text ++ blanks (columns - width text)
  else
    let kept := takeColumns columns text
    kept ++ blanks (columns - width kept)

end SqlLayout.Console
