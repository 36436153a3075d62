import SqlLayout.Grammar.Parser.Statement
import SqlLayout.Grammar.Parser.Types

/-!
# Parsing a text

A text is read into tokens, cut at its semicolons, and each part is parsed on its own.

## Implementation notes

The rules refer to each other only after a token has been consumed or through a fixed number of
other rules, so a multiple of the number of tokens bounds the nesting.
-/

namespace SqlLayout.Grammar

/-- The rules up to a depth of nesting. -/
def rulesTo : Nat → Rules
  | 0 => Rules.none
  | depth + 1 =>
    let r := rulesTo depth
    { expression := expression r
      assignment := assignment r
      equality := equality r
      bitwise := bitwise r
      additive := additive r
      unary := unary r
      typed := typed r
      column := column r
      columnTail := columnTail r
      typeName := typeName r
      query := query r
      withClauses := withClauses r
      withSetOps := withSetOps r
      table := tableSource r
      statement := statement r }

/-- The tokens between semicolons.  A semicolon with comments is a part of its own. -/
def chunks : List Token → List Token → List (List Token)
  | current, [] => [current.reverse]
  | current, token :: rest =>
    if token.kind == .symbol ";" then
      let own := if token.comments.isEmpty then [] else [[token]]
      current.reverse :: own ++ if rest.isEmpty then [] else chunks [] rest
    else chunks (token :: current) rest

/-- One statement of a text, with the warnings about it. -/
def parseChunk (dialect : Dialect) (source : List Char) (tokens : List Token) :
    Except Fault (Option Parsed × List String) := do
  let input : Input := { dialect := dialect, tokens := tokens.toArray, source := source }
  let (found, progress) ← statement (rulesTo (4 * tokens.length + 64)) input {}
  if progress.pos < tokens.length then throw (.unexpected "end of statement")
  return (found, progress.warnings)

/-- The statements of a text and the warnings about them.  A text without a statement is a fault. -/
def parse (dialect : Dialect) (text : List Char) : Except Fault (List Parsed × List String) := do
  let tokens ← tokenize dialect text
  let parts ← (chunks [] tokens).mapM fun chunk =>
    if chunk.isEmpty then pure (none, []) else parseChunk dialect text chunk
  let statements := parts.filterMap Prod.fst
  if statements.isEmpty then throw (.unexpected "statement")
  return (statements, parts.flatMap Prod.snd)

/-- The canonical text of a statement. -/
def Parsed.sql (dialect : Dialect) (parsed : Parsed) : String :=
  parsed.asQuery.sql dialect

end SqlLayout.Grammar
