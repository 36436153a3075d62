import SqlLayout.Settings.Refusal
import SqlLayout.Text.Basic

/-!
# Setting values

Settings and tree fields are given as loosely typed values.  Reading a value as an integer, a truth
value or a text is lenient where the meaning is clear, and every refusal has a cause.
-/

namespace SqlLayout.Settings

/-- A loosely typed value. -/
inductive Value where
  | text (s : String)
  | int (n : Int)
  /-- A number with a fraction part, possibly zero: `digits / 10 ^ places`. -/
  | decimal (digits : Int) (places : Nat)
  | bool (b : Bool)
  | null
  /-- A list or an object. -/
  | compound
  deriving Repr, DecidableEq

/-- The digits of a number text, which may have single underscores between digits. -/
def digitRun? : List Char → Option (List Char)
  | [] => none
  | [c] => if Text.isAsciiDigit c then some [c] else none
  | c :: '_' :: rest => if Text.isAsciiDigit c then (digitRun? rest).map (c :: ·) else none
  | c :: rest => if Text.isAsciiDigit c then (digitRun? rest).map (c :: ·) else none

/-- The integer that unsigned digits spell; a fraction of zeros is allowed. -/
def natText? (text : List Char) : Option Nat :=
  let whole := text.takeWhile (· != '.')
  let fraction := (text.dropWhile (· != '.')).drop 1
  let dotted := text.contains '.'
  if dotted && (fraction.isEmpty || !fraction.all (· == '0')) then none
  else (digitRun? whole).map Text.digitsValue

/-- White space around numbers: all but the separators of the control range. -/
def isNumberBlank (c : Char) : Bool :=
  Text.isBlank c && !(28 ≤ c.toNat && c.toNat ≤ 31)

/-- The integer that a text spells, with a sign and blanks around it allowed. -/
def intText? (text : String) : Option Int :=
  match Text.dropEndWhile isNumberBlank (text.toList.dropWhile isNumberBlank) with
  | '-' :: digits => (natText? digits).map fun n => -(n : Int)
  | '+' :: digits => (natText? digits).map Int.ofNat
  | digits => (natText? digits).map Int.ofNat

/-- The most characters that the text of a number can have. -/
def maxDigits : Nat := 4300

/-- Reads the text of an integer. -/
def readInt (text : String) : Except Refusal Int :=
  match intText? text with
  | some n => if text.length > maxDigits then .error .integerSize else .ok n
  | none => .error .notIntegerText

/-- The numbers that fit in a machine word. -/
def fitsWord (n : Int) : Bool :=
  -(Int.pow 2 63) ≤ n && n < Int.pow 2 63

/-- Whether a number has no fraction, and then its value. -/
def wholeDecimal? (digits : Int) (places : Nat) : Option Int :=
  let scale : Nat := Nat.pow 10 places
  if digits % scale == 0 then some (digits / scale) else none

/-- Reads a value as an integer. -/
def Value.int? : Value → Except Refusal Int
  | .int n => .ok n
  | .bool b => .ok (if b then 1 else 0)
  | .decimal digits places =>
    match wholeDecimal? digits places with
    | some n => if fitsWord n then .ok n else .error .integerSize
    | none => .error .fraction
  | .text s => readInt s
  | .null | .compound => .error .notInteger

/-- Reads a value as an integer that is at least the given one. -/
def Value.atLeast? (least : Int) (value : Value) : Except Refusal Nat := do
  let n ← value.int?
  if n < least then .error .tooSmall else .ok n.toNat

/-- The truth value of a number. -/
def truthOf? (n : Int) : Except Refusal Bool :=
  if n == 1 then .ok true
  else if n == 0 then .ok false
  else if fitsWord n then .error .notTruthValue
  else .error .notTruth

/-- Reads a value as a truth value. -/
def Value.bool? : Value → Except Refusal Bool
  | .bool b => .ok b
  | .int n => truthOf? n
  | .decimal digits places =>
    match wholeDecimal? digits places with
    | some n => truthOf? n
    | none => .error .notTruth
  | .text s =>
    let word := String.ofList (s.toList.map Text.asciiLower)
    if ["1", "on", "t", "true", "y", "yes"].contains word then .ok true
    else if ["0", "off", "f", "false", "n", "no"].contains word then .ok false
    else .error .notTruthValue
  | .null | .compound => .error .notTruth

/-- Reads a value as a text. -/
def Value.text? : Value → Except Refusal String
  | .text s => .ok s
  | _ => .error .notText

/-- Reads a value as a text that may be missing. -/
def Value.optionalText? : Value → Except Refusal (Option String)
  | .null => .ok none
  | value => value.text?.map some

end SqlLayout.Settings
