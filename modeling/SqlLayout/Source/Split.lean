import SqlLayout.Source.Mask

/-!
# Splitting outside literals

A text is cut at the separators that are visible in its masked copy.
-/

namespace SqlLayout.Source

/-- Cuts `text` wherever the view beside it shows the separator. -/
def cut (separator : Char) : List Char → List Char → List (List Char)
  | c :: text, v :: view =>
    if v == separator then [] :: cut separator text view
    else match cut separator text view with
      | [] => [[c]]
      | piece :: pieces => (c :: piece) :: pieces
  | text, _ => [text]

/-- The pieces of a text between the separators outside literals and comments. -/
def splitOutside (separator : Char) (text : List Char) : List (List Char) :=
  cut separator text (mask text)

/-- The statements of a text: the non-blank pieces between semicolons, trimmed and terminated. -/
def statements (text : List Char) : List (List Char) :=
  (splitOutside ';' text).filterMap fun piece =>
    let trimmed := Text.strip piece
    if trimmed.isEmpty then none else some (trimmed ++ [';'])

end SqlLayout.Source
