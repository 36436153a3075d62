import SqlLayout.Text.Basic

/-!
# Text patterns

Patterns with ordered choice over lists of characters.  A pattern can capture what a part of it
matched, look at the character before the current place and refuse what follows.

## Implementation notes

Matching hands the place reached to a continuation, so a later part of a pattern can make an earlier
one try its next way.  Repetition takes a bound on the number of rounds, which is the number of
characters left, because a round that consumes nothing ends the repetition.
-/

namespace SqlLayout

/-- A pattern over characters. -/
inductive Pattern where
  /-- Matches nothing at all, and succeeds. -/
  | empty
  /-- One character of a class. -/
  | one (p : Char → Bool)
  /-- One pattern after the other. -/
  | seq (a b : Pattern)
  /-- The first pattern or else the second. -/
  | alt (a b : Pattern)
  /-- Any number of rounds, as many as possible first. -/
  | many (a : Pattern)
  /-- Any number of rounds, as few as possible first. -/
  | few (a : Pattern)
  /-- Captures what the pattern matches under a number. -/
  | capture (group : Nat) (a : Pattern)
  /-- The start of the text. -/
  | atStart
  /-- The end of the text, or the place before a last line feed. -/
  | atEnd
  /-- A place with an identifier character on exactly one side. -/
  | wordEdge
  /-- A place after a character of a class. -/
  | after (p : Char → Bool)
  /-- A place that is not after a character of a class. -/
  | notAfter (p : Char → Bool)
  /-- A place where the pattern does not match. -/
  | notAhead (a : Pattern)

namespace Pattern

/-- A place in a text: the character before it, the rest of the text and the offset. -/
structure Place where
  before : Option Char
  rest : List Char
  pos : Nat

/-- The place at the start of a text. -/
def Place.start (text : List Char) : Place :=
  { before := none, rest := text, pos := 0 }

/-- Captured spans by group number, latest first. -/
abbrev Captures := List (Nat × Nat × Nat)

/-- The step that a matcher takes: from a place and captures, through a continuation. -/
abbrev Step := Place → Captures → (Place → Captures → Option (Nat × Captures)) →
  Option (Nat × Captures)

/-- Repeats a step as often as possible, giving rounds back one by one. -/
def repeatMany (step : Step) : Nat → Step
  | 0, place, captures, next => next place captures
  | rounds + 1, place, captures, next =>
    (step place captures fun place' captures' =>
      if place.pos < place'.pos then repeatMany step rounds place' captures' next else none)
    <|> next place captures

/-- Repeats a step as rarely as possible, adding rounds one by one. -/
def repeatFew (step : Step) : Nat → Step
  | 0, place, captures, next => next place captures
  | rounds + 1, place, captures, next =>
    next place captures <|>
    (step place captures fun place' captures' =>
      if place.pos < place'.pos then repeatFew step rounds place' captures' next else none)

/-- Whether a place has an identifier character on exactly one side. -/
def isWordEdge (place : Place) : Bool :=
  (place.before.any Text.isWord) != (place.rest.head?.any Text.isWord)

/-- Matches a pattern in a text of the given size from a place on. -/
def run (size : Nat) : Pattern → Step
  | .empty, place, captures, next => next place captures
  | .one p, place, captures, next =>
    match place.rest with
    | [] => none
    | c :: rest =>
      if p c then next { before := some c, rest := rest, pos := place.pos + 1 } captures else none
  | .seq a b, place, captures, next =>
    run size a place captures fun place' captures' => run size b place' captures' next
  | .alt a b, place, captures, next =>
    run size a place captures next <|> run size b place captures next
  | .many a, place, captures, next =>
    repeatMany (run size a) (size - place.pos) place captures next
  | .few a, place, captures, next =>
    repeatFew (run size a) (size - place.pos) place captures next
  | .capture group a, place, captures, next =>
    run size a place captures fun place' captures' =>
      next place' ((group, place.pos, place'.pos) :: captures')
  | .atStart, place, captures, next => if place.pos == 0 then next place captures else none
  | .atEnd, place, captures, next =>
    if place.rest.isEmpty || place.rest == ['\n'] then next place captures else none
  | .wordEdge, place, captures, next => if isWordEdge place then next place captures else none
  | .after p, place, captures, next => if place.before.any p then next place captures else none
  | .notAfter p, place, captures, next => if place.before.any p then none else next place captures
  | .notAhead a, place, captures, next =>
    if (run size a place captures fun place' captures' => some (place'.pos, captures')).isSome then
      none
    else next place captures

/-! ## Building patterns -/

/-- A sequence of patterns. -/
def all (parts : List Pattern) : Pattern :=
  parts.foldr .seq .empty

/-- The first of several patterns that fits. -/
def any : List Pattern → Pattern
  | [] => .notAhead .empty
  | [a] => a
  | a :: rest => .alt a (any rest)

/-- At least one round, as many as possible first. -/
def many1 (a : Pattern) : Pattern :=
  .seq a (.many a)

/-- The pattern if it fits, else nothing. -/
def optional (a : Pattern) : Pattern :=
  .alt a .empty

/-- One given character. -/
def char (c : Char) : Pattern :=
  .one (· == c)

/-- A word whose letters may be in either case. -/
def word (letters : String) : Pattern :=
  all (letters.toList.map fun letter => .one (Text.sameLetter letter))

/-- Any number of blanks. -/
def blanks : Pattern :=
  .many (.one Text.isBlank)

/-- At least one blank. -/
def blanks1 : Pattern :=
  many1 (.one Text.isBlank)

/-- At least one identifier character. -/
def name : Pattern :=
  many1 (.one Text.isWord)

/-- At least one decimal digit. -/
def digits : Pattern :=
  many1 (.one Text.isDigit)

end Pattern

end SqlLayout
