import SqlLayout.Placeholder.Record
import SqlLayout.Settings.Basic

/-!
# Log events

What happens on the way from a text to its layout, besides the result.  Events are kept in order,
and those before a failure are kept too.
-/

namespace SqlLayout

open Settings (Level)

/-- Something worth a message. -/
inductive Event where
  /-- Several statements are parsed one after the other. -/
  | manyStatements (count : Nat)
  /-- A grant of another shape is kept as it is written. -/
  | verbatimGrant (text : String)
  /-- A pivot clause is not closed, so it is left alone. -/
  | unclosedClause (keyword : String)
  /-- Parts of a statement were replaced by placeholders. -/
  | encoded (count : Nat) (text : String)
  /-- The grammar kept a statement as it is written. -/
  | keptAsCommand (warning : String)
  /-- A text was parsed. -/
  | parsed (count : Nat) (dialect : Option String)
  /-- A statement has no layout. -/
  | withoutLayout (kind : String)
  /-- A placeholder was not found again. -/
  | unapplied (record : Placeholder.Record)
  /-- A statement is left out. -/
  | dropped (kind sql : String)

/-- The level of an event. -/
def Event.level : Event → Level
  | .keptAsCommand _ | .unapplied _ | .dropped _ _ => .warning
  | .manyStatements _ | .verbatimGrant _ | .unclosedClause _ | .encoded _ _ | .parsed _ _
  | .withoutLayout _ => .debug

/-- The message of an event. -/
def Event.message : Event → String
  | .manyStatements count => "Parsing " ++ toString count ++ " statements"
  | .verbatimGrant text => "GRANT statement kept verbatim: " ++ text
  | .unclosedClause keyword => "Unbalanced " ++ keyword ++ " clause left unchanged"
  | .encoded count text =>
    "Rewrote statement with " ++ toString count ++ " placeholder(s): " ++ text
  | .keptAsCommand warning => warning
  | .parsed count dialect =>
    "Parsed " ++ toString count ++ " statement(s) with dialect " ++ Settings.showOption dialect
  | .withoutLayout kind => "No renderer for " ++ kind ++ " statement"
  | .unapplied record => "Restoration record was not applied: " ++ record.shown
  | .dropped kind sql => "Dropping " ++ kind ++ " statement without a renderer: " ++ sql

/-- A computation that logs events and can fail; a failure keeps the events before it. -/
abbrev Logged (ε : Type) := ExceptT ε (StateM (List Event))

namespace Logged

/-- Adds an event. -/
def log (event : Event) : Logged ε Unit :=
  modify (· ++ [event])

/-- Adds several events. -/
def logAll (events : List Event) : Logged ε Unit :=
  modify (· ++ events)

/-- A result without events. -/
def ofExcept (result : Except ε α) : Logged ε α :=
  ExceptT.mk (pure result)

/-- The same computation with another kind of error. -/
def mapError (f : ε → ε') (action : Logged ε α) : Logged ε' α :=
  ExceptT.mk do return (← action.run).mapError f

/-- Runs a computation; gives its result and its events. -/
def events (action : Logged ε α) : Except ε α × List Event :=
  action.run []

end Logged

end SqlLayout
