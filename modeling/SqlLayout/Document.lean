import SqlLayout.Error
import SqlLayout.Grant
import SqlLayout.Log
import SqlLayout.Placeholder.Encode
import SqlLayout.Placeholder.Restore
import SqlLayout.Source.Span
import SqlLayout.Source.Split

/-!
# Documents

A document is a text with its statements.  Leading comment lines become statements of their own,
grants are read apart, and every other statement is encoded, parsed, built and restored.
-/

namespace SqlLayout

open SqlLayout.Tree (Statement)

/-- A dialect with the name it was asked for by; the generic dialect has none. -/
structure Language where
  label : Option String := none
  dialect : Grammar.Dialect := {}

namespace Language

/-- The language of an optional name; no name and the empty name are the generic dialect. -/
def named (name : Option String) : Except Error Language :=
  match name with
  | none => .ok {}
  | some name =>
    if name.isEmpty then .ok {}
    else match Grammar.Dialect.named? name with
      | some dialect => .ok { label := some name, dialect := dialect }
      | none => .error (.unknownDialect name)

/-- Parses a text without placeholders. -/
def parse (language : Language) (text : List Char) : Logged Cause (List Grammar.Parsed) := do
  let (parsed, warnings) ← Logged.ofExcept ((Grammar.parse language.dialect text).mapError .grammar)
  Logged.logAll (warnings.map .keptAsCommand)
  Logged.log (.parsed parsed.length language.label)
  return parsed

/-- The tree of a parsed statement. -/
def build (language : Language) (parsed : Grammar.Parsed) : Logged Cause Statement := do
  let statement ← Logged.ofExcept ((Tree.statementOf language.dialect parsed).mapError .unsupported)
  if let .unrendered node := statement then Logged.log (.withoutLayout node.kind)
  return statement

/-- The trees of a text without placeholders. -/
def trees (language : Language) (text : List Char) : Logged Cause (List Statement) := do
  (← language.parse text).mapM language.build

end Language

/-- A text with its statements. -/
structure Document where
  text : List Char
  span : Source.Span
  statements : List Statement
  /-- Whether the text is a single statement, and not a list of them. -/
  alone : Bool := false

namespace Document

/-- A grant, with a message when it is kept as it is written. -/
def grant (text : List Char) : Logged ε Statement := do
  let node := Grant.parse text
  if let some kept := node.verbatim then Logged.log (.verbatimGrant kept)
  return .grant node

/-- A statement of the grammar: encoded, parsed, built and restored.  The inner result says why it
has no tree. -/
def ordinary (language : Language) (text : List Char) :
    Logged Error (Except Cause (List Statement)) := do
  if let some keyword := Placeholder.encodeNote? text then Logged.log (.unclosedClause keyword)
  let encoded ← Logged.ofExcept ((Placeholder.encode text).mapError .encoding)
  unless encoded.records.isEmpty do
    Logged.log (.encoded encoded.records.length (String.ofList encoded.text))
  let (result, events) := (language.trees encoded.text).events
  Logged.logAll events
  match result with
  | .error cause => return .error cause
  | .ok built =>
    let restored := Placeholder.restore encoded.records built
    Logged.logAll (restored.unapplied.map .unapplied)
    return .ok restored.statements

/-- Comment lines at the start of a statement. -/
def commentLines : Pattern :=
  .many1 (.all [.many (.one fun c => c == ' ' || c == '\t'), .char '-', .char '-',
    .many (.one (· != '\n')), .alt (.char '\n') .atEnd, .blanks])

/-- A text without the semicolons at its end. -/
def dropTerminators (text : List Char) : List Char :=
  Text.dropEndWhile (· == ';') text

/-- The comment lines in front of a statement, if there are any, and the statement itself. -/
def splitComments (statement : List Char) : Option (List Char) × List Char :=
  match commentLines.matchStart statement with
  | some found =>
    (some (Text.strip (statement.take found.stop)), Text.strip (statement.drop found.stop))
  | none => (none, statement)

/-- The trees of one piece of a text: its comment lines, then its statement. -/
def piece (language : Language) (alone : Bool) (statement : List Char) :
    Logged Error (List Statement) := do
  let (comment, body) := splitComments statement
  match comment with
  | some comment =>
    if (Text.strip (dropTerminators body)).isEmpty then
      let text := Text.dropEndWhile Text.isBlank (dropTerminators comment)
      return [.comment { text := String.ofList text }]
  | none => pure ()
  let comments : List Statement :=
    (comment.map fun c => .comment { text := String.ofList c }).toList
  if Grant.isGrant body then return comments ++ [← grant body]
  match ← ordinary language body with
  | .ok statements => return comments ++ statements
  | .error cause => throw (.unparsed (String.ofList statement) alone cause)

/-- Parses a text into a document. -/
def parse (language : Language) (text : List Char) : Logged Error Document := do
  let document : Document := { text := text, span := Source.Span.ofText text, statements := [] }
  let trimmed := Text.strip text
  let pieces := Source.statements trimmed
  if pieces.length > 1 then
    Logged.log (.manyStatements pieces.length)
    let statements ← pieces.mapM (piece language false)
    return { document with statements := statements.flatten }
  else if trimmed.isEmpty then return document
  else if Grant.isGrant trimmed then
    return { document with statements := [← grant trimmed], alone := true }
  else
    let statements ← piece language true trimmed
    return { document with statements := statements, alone := statements.length == 1 }

end Document

end SqlLayout
