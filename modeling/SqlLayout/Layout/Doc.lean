import SqlLayout.Text.Basic

/-!
# Layout documents

A document is made of texts, forced line breaks, indented parts and joined parts.  The renderer
never wraps text: every line break of the output is a forced one, and no line ends in spaces.
-/

namespace SqlLayout.Layout

/-- A layout document. -/
inductive Doc where
  | text (s : String)
  /-- A forced line break; the next line starts at the current indentation. -/
  | hardline
  /-- Contents one indentation level deeper. -/
  | indent (contents : Doc)
  /-- Parts with a separator between them. -/
  | join (separator : Doc) (parts : List Doc)
  /-- Parts one after the other. -/
  | concat (parts : List Doc)

/-- The items of a flattened document: texts, and line breaks with the level of the next line. -/
inductive Item where
  | text (s : String)
  | newline (level : Nat)
  deriving DecidableEq, Repr

mutual

/-- The items of a document at an indentation level. -/
def Doc.items (level : Nat) : Doc → List Item
  | .text s => [.text s]
  | .hardline => [.newline level]
  | .indent contents => contents.items (level + 1)
  | .join separator parts => joinItems level (separator.items level) parts
  | .concat parts => concatItems level parts

/-- The items of parts one after the other. -/
def concatItems (level : Nat) : List Doc → List Item
  | [] => []
  | part :: rest => part.items level ++ concatItems level rest

/-- The items of parts with the items of a separator between them. -/
def joinItems (level : Nat) (separator : List Item) : List Doc → List Item
  | [] => []
  | part :: rest =>
    part.items level ++
      match rest with
      | [] => []
      | _ => separator ++ joinItems level separator rest

end

/-- Drops the spaces at the end of a text that is kept in reverse. -/
def trimSpaces (reversed : List Char) : List Char :=
  reversed.dropWhile (· == ' ')

/-- Writes items behind a text that is kept in reverse. -/
def writeItems (tabWidth : Nat) : List Char → List Item → List Char
  | out, [] => trimSpaces out
  | out, .text s :: rest => writeItems tabWidth (s.toList.reverse ++ out) rest
  | out, .newline level :: rest =>
    writeItems tabWidth (List.replicate (level * tabWidth) ' ' ++ '\n' :: trimSpaces out) rest

/-- Renders a document with the given number of spaces per level. -/
def Doc.render (doc : Doc) (tabWidth : Nat := 4) : String :=
  String.ofList (writeItems tabWidth [] (doc.items 0)).reverse

/-- Parts separated by a comma and a space. -/
def Doc.commas (parts : List Doc) : Doc :=
  .join (.text ", ") parts

end SqlLayout.Layout
