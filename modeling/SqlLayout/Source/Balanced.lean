/-!
# Balanced parentheses

The search for the parenthesis that closes an open one, on masked text.
-/

namespace SqlLayout.Source

/-- Looks for the closing parenthesis that brings the depth back to zero, counting from `pos`. -/
def closeFrom (depth : Int) (pos : Nat) : List Char → Option Nat
  | [] => none
  | c :: rest =>
    if c == '(' then closeFrom (depth + 1) (pos + 1) rest
    else if c == ')' then
      if depth - 1 == 0 then some pos else closeFrom (depth - 1) (pos + 1) rest
    else closeFrom depth (pos + 1) rest

/-- The offset of the parenthesis that closes the one at `start`, if it is closed. -/
def balancedClose (text : List Char) (start : Nat) : Option Nat :=
  closeFrom 0 start (text.drop start)

end SqlLayout.Source
