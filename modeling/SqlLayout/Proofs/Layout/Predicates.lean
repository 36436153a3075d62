import SqlLayout.Format

/-!
# Predicates that are read back

A printed predicate is read as the same node when no negation that is written in front of its
operand stands where an operator follows it.
-/

namespace SqlLayout.Layout

open Grammar SqlLayout.Tree

/-- The node of an expression that is written as a text. -/
def readExpr? (dialect : Dialect) (text : List Char) : Option Expr := do
  let tokens ← (tokenize dialect text).toOption
  let input : Input := { dialect := dialect, tokens := tokens.toArray, source := text }
  let (term, progress) ← (assignment (rulesTo (4 * tokens.length + 64)) input {}).toOption
  if progress.pos < tokens.length then none else (exprOf dialect (← term)).toOption

/-- The operator of an expression that is no single operand. -/
def outermost? : Expr → Option String
  | .binary operator _ _ | .unary operator _ => some operator
  | _ => none

/-- A test for a truth value keeps no negated spelling, so its negation takes in the comparison
around it. -/
theorem negated_test_is_read_otherwise :
    (format {} "select a is not true = b").events.1.toOption =
      some "SELECT NOT a IS TRUE = b\n;\n" ∧
      (readExpr? {} "a is not true = b".toList).bind outermost? = some "=" ∧
      ((readExpr? {} "a is not true = b".toList).bind fun e =>
        readExpr? {} ((exprDoc e).render).toList).bind outermost? = some "NOT" := by
  decide +kernel

end SqlLayout.Layout
