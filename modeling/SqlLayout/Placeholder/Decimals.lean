import SqlLayout.Pattern.Search

/-!
# Leading-dot decimals

A number that starts with its decimal point gets a zero in front of it.
-/

namespace SqlLayout.Placeholder

/-- The characters a leading-dot decimal can follow. -/
def canPrecedeDecimal (c : Char) : Bool :=
  Text.isBlank c || "(+-*/=<>,;".toList.contains c

/-- A decimal point with digits after it and no digits before it. -/
def leadingDotDecimal : Pattern :=
  .all [.any [.atStart, .after canPrecedeDecimal], .char '.', .capture 1 .digits, .wordEdge]

/-- Writes a zero before every leading decimal point. -/
def normalizeDecimals (text : List Char) : List Char :=
  Pattern.splice text 0 <|
    (Pattern.findOutside leadingDotDecimal text).map fun m => (m, '0' :: '.' :: m.group text 1)

end SqlLayout.Placeholder
