import SqlLayout.Pattern.Search
import SqlLayout.Tree.Basic

/-!
# Grants

Grants are not part of the grammar.  One fixed shape is taken apart; every other grant is kept as it
is written.
-/

namespace SqlLayout.Grant

open SqlLayout.Tree (Grant)

/-- The start of every grant. -/
def head : Pattern :=
  .all [.atStart, .blanks, .word "GRANT", .blanks1]

/-- Whether a text is a grant. -/
def isGrant (text : List Char) : Bool :=
  (head.matchStart text).isSome

/-- An object kind: anything up to a blank. -/
def objectKind : Pattern :=
  .many1 (.one fun c => !Text.isBlank c)

/-- An object name: anything up to a blank or a semicolon. -/
def objectName : Pattern :=
  .many1 (.one fun c => !Text.isBlank c && c != ';')

/-- A keyword with an object kind and an object name, captured under two numbers. -/
def objectPart (keyword : String) (kindGroup nameGroup : Nat) : Pattern :=
  .all [.blanks1, .word keyword, .blanks1, .capture kindGroup objectKind, .blanks1,
    .capture nameGroup objectName]

/-- A grant of one privilege. -/
def shape : Pattern :=
  .all [.atStart, .blanks, .word "GRANT", .blanks1,
    .capture 1 (.many1 (.one fun c => !Text.isBlank c && c != ',' && c != ';')),
    objectPart "ON" 2 3, .optional (objectPart "IN" 4 5), objectPart "TO" 6 7,
    .blanks, .optional (.char ';'), .blanks, .atEnd]

/-- Takes a grant apart; privilege and object kinds are put in upper case. -/
def parse (text : List Char) : Grant :=
  match shape.matchStart text with
  | none => { verbatim := some (String.ofList (Text.strip text)) }
  | some m =>
    let name (group : Nat) := (m.span? group).map fun _ => String.ofList (m.group text group)
    let kind (group : Nat) := (name group).map String.upperCase
    { privilege := kind 1, onType := kind 2, onName := name 3, inType := kind 4, inName := name 5,
      toType := kind 6, toName := name 7 }

end SqlLayout.Grant
