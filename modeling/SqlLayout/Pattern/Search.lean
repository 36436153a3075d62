import SqlLayout.Pattern.Basic
import SqlLayout.Source.Mask

/-!
# Searching and substituting

Matches are found from left to right and never overlap.  `substitute` searches the masked text and
replaces in the text itself, so nothing inside a literal or a comment is ever matched.
-/

namespace SqlLayout.Pattern

/-- One match: its span and the spans of its groups, latest first. -/
structure Match where
  start : Nat
  stop : Nat
  captures : Captures
  deriving Repr, DecidableEq

/-- The span of a group, if the group took part in the match. -/
def Match.span? (m : Match) (group : Nat) : Option (Nat × Nat) :=
  m.captures.lookup group

/-- The characters of a text between two offsets. -/
def slice (text : List Char) (start stop : Nat) : List Char :=
  (text.drop start).take (stop - start)

/-- What a group matched, read from a text of the same length; empty when the group took no part. -/
def Match.group (m : Match) (text : List Char) (group : Nat) : List Char :=
  match m.span? group with
  | some (start, stop) => slice text start stop
  | none => []

/-- The match that starts at a place, if there is one. -/
def matchAt (p : Pattern) (size : Nat) (place : Place) : Option Match :=
  (run size p place [] fun place' captures => some (place'.pos, captures)).map
    fun found => { start := place.pos, stop := found.1, captures := found.2 }

/-- The match at the start of a text, if there is one. -/
def matchStart (p : Pattern) (text : List Char) : Option Match :=
  matchAt p text.length (Place.start text)

/-- The matches from a place on that start at offset `from` or later. -/
def matchesFrom (p : Pattern) (size : Nat) (before : Option Char) (pos : Nat) (least : Nat) :
    List Char → List Match
  | [] =>
    if pos < least then []
    else (matchAt p size { before := before, rest := [], pos := pos }).toList
  | c :: rest =>
    if pos < least then matchesFrom p size (some c) (pos + 1) least rest
    else match matchAt p size { before := before, rest := c :: rest, pos := pos } with
      | some m => m :: matchesFrom p size (some c) (pos + 1) (max m.stop (pos + 1)) rest
      | none => matchesFrom p size (some c) (pos + 1) least rest

/-- All matches in a text, from left to right and without overlap. -/
def findAll (p : Pattern) (text : List Char) : List Match :=
  matchesFrom p text.length none 0 0 text

/-- The first match in a text. -/
def find? (p : Pattern) (text : List Char) : Option Match :=
  (findAll p text).head?

/-- Replaces the spans of the matches, which are in order, in the text from offset `last` on. -/
def splice (text : List Char) (last : Nat) : List (Match × List Char) → List Char
  | [] => text.drop last
  | (m, replacement) :: rest =>
    slice text last m.start ++ replacement ++ splice text m.stop rest

/-- The matches of a pattern outside literals and comments. -/
def findOutside (p : Pattern) (text : List Char) : List Match :=
  findAll p (Source.mask text)

end SqlLayout.Pattern
