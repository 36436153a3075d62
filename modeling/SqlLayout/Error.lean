import SqlLayout.Tree.Build

/-!
# Errors

The ways in which formatting can fail, and the wording of each.
-/

namespace SqlLayout

/-- Why a statement has no tree. -/
inductive Cause where
  /-- The statement is not in the language. -/
  | grammar (fault : Grammar.Fault)
  /-- Something that is no query stands in the place of one. -/
  | unsupported (found : Tree.Unsupported)
  deriving DecidableEq, Repr

/-- Why a text could not be formatted. -/
inductive Error where
  /-- The settings name a dialect that does not exist. -/
  | unknownDialect (name : String)
  /-- A statement has no tree; `alone` says that it is the only one of its text. -/
  | unparsed (statement : String) (alone : Bool) (cause : Cause)
  /-- A statement has no layout, and leaving it out is not allowed. -/
  | unrendered (kind sql : String)
  /-- A custom type or an object kind is spelled in a way that only looks right. -/
  | encoding (fault : Placeholder.Fault)
  deriving DecidableEq, Repr

namespace Error

/-- The wording for a kind of statement that is not supported. -/
def unsupportedMessage (kind sql : String) : String :=
  "Unsupported statement kind " ++ kind.shown ++ ": " ++ sql

/-- The first line about a statement that has no tree. -/
def heading (alone : Bool) : String :=
  if alone then "Failed to parse SQL" else "Failed to parse statement"

/-- The wording for a statement that has no tree. -/
def unparsedMessage (statement : String) (alone : Bool) (reason : String) : String :=
  heading alone ++ ":\n\n" ++ statement ++ "\n\nError: " ++ reason

end Error

/-- The wording of a fault of the grammar. -/
def Grammar.Fault.message : Grammar.Fault → String
  | .unterminated => "A literal, a quoted name or a comment has no end"
  | .unexpected wanted => "Expected " ++ wanted

/-- The wording of a cause. -/
def Cause.message : Cause → String
  | .grammar fault => fault.message
  | .unsupported found => Error.unsupportedMessage found.kind found.sql

/-- The wording for an unknown dialect. -/
def Error.dialectMessage (name : String) : String :=
  "Unknown SQL dialect: " ++ name.shown

/-- The wording of an error. -/
def Error.message : Error → String
  | .unknownDialect name => Error.dialectMessage name
  | .unparsed statement alone cause => Error.unparsedMessage statement alone cause.message
  | .unrendered kind sql => Error.unsupportedMessage kind sql
  | .encoding fault => fault.message

end SqlLayout
