import SqlLayout.Document
import SqlLayout.Layout.Statement

/-!
# Formatting

A text is parsed into a document, and the document is printed by the settings.
-/

namespace SqlLayout

open SqlLayout.Tree (Statement)

/-- Prints statements.  Those without a layout are left out, or refused when the settings are
strict. -/
def printStatements (settings : Settings) (statements : List Statement) : Logged Error String :=
  match Layout.print settings.tabWidth settings.strict statements with
  | .error node => throw (.unrendered node.kind.upperCase node.sql)
  | .ok text => do
    Logged.logAll ((Layout.dropped statements).map fun node =>
      .dropped node.kind.upperCase node.sql)
    return text

/-- Formats a text in a language. -/
def formatIn (language : Language) (settings : Settings) (text : String) : Logged Error String := do
  let document ← Document.parse language text.toList
  printStatements settings document.statements

/-- Formats a text in the language that the settings name. -/
def format (settings : Settings) (text : String) : Logged Error String := do
  let language ← Logged.ofExcept (Language.named settings.dialect)
  formatIn language settings text

end SqlLayout
