import SqlLayout.Text.Basic

/-!
# Environment files

A file of `NAME=value` lines.  A name may follow the word `export` and may stand in single quotes.
A value can stand in single or double quotes; without quotes it ends before a comment.  A name
without a value takes back the value it had before.  A line that is not understood is left out.

Values may refer to names: `${NAME}` stands for the value of a name, and `${NAME:-text}` for a text
when there is no such name.
-/

namespace SqlLayout.Settings

/-- A name with its value, if it has one. -/
structure Binding where
  name : String
  value : Option String
  deriving DecidableEq, Repr

/-- Ends of lines. -/
def isBreak (c : Char) : Bool :=
  c == '\n' || c == '\r'

/-- Blanks that do not end a line. -/
def isSpace (c : Char) : Bool :=
  Text.isBlank c && !isBreak c

/-! ## Quoted values -/

/-- The meaning of a character after a backslash in double quotes. -/
def escaped? (c : Char) : Option Char :=
  match c with
  | '\\' => some '\\'
  | '\x27' => some '\x27'
  | '\x22' => some '\x22'
  | 'a' => some '\x07'
  | 'b' => some '\x08'
  | 'f' => some '\x0c'
  | 'n' => some '\n'
  | 'r' => some '\r'
  | 't' => some '\t'
  | 'v' => some '\x0b'
  | _ => none

/-- The meaning of a character after a backslash in the given quotes. -/
def escapedIn? (quote c : Char) : Option Char :=
  if quote == '\x22' then escaped? c
  else if c == '\\' || c == '\x27' then some c else none

/-- Reads up to the closing quote; gives what stands before it and the rest of the text.  A quote
after a backslash closes only when no other one does. -/
def upToQuote (quote : Char) : List Char → Option (List Char × List Char)
  | [] => none
  | '\\' :: '\\' :: rest =>
    (upToQuote quote rest).map fun (value, after) => ('\\' :: '\\' :: value, after)
  | '\\' :: c :: rest =>
    if c == quote then
      match upToQuote quote rest with
      | some (value, after) => some ('\\' :: c :: value, after)
      | none => some (['\\'], rest)
    else (upToQuote quote rest).map fun (value, after) => ('\\' :: c :: value, after)
  | c :: rest =>
    if c == quote then some ([], rest)
    else (upToQuote quote rest).map fun (value, after) => (c :: value, after)

/-- A text with its escapes replaced by what they mean. -/
def unescaped (quote : Char) : List Char → List Char
  | [] => []
  | '\\' :: c :: rest =>
    match escapedIn? quote c with
    | some meaning => meaning :: unescaped quote rest
    | none => '\\' :: unescaped quote (c :: rest)
  | c :: rest => c :: unescaped quote rest

/-! ## Lines -/

/-- The characters of the current line. -/
def thisLine (text : List Char) : List Char :=
  text.takeWhile (!isBreak ·)

/-- The text after the end of the current line. -/
def nextLine (text : List Char) : List Char :=
  (text.dropWhile (!isBreak ·)).drop 1

/-- An unquoted value up to a comment, which a blank precedes. -/
def plainValue : List Char → List Char
  | [] => []
  | c :: rest =>
    if Text.isBlank c && (rest.dropWhile Text.isBlank).head? == some '#' then []
    else c :: plainValue rest

/-- The text after the word `export`, if it is there. -/
def dropExport (text : List Char) : List Char :=
  match text with
  | 'e' :: 'x' :: 'p' :: 'o' :: 'r' :: 't' :: c :: rest =>
    if isSpace c then rest.dropWhile isSpace else text
  | _ => text

/-- Reads a name; gives it and the rest of the text, or nothing when there is none. -/
def bindingName (text : List Char) : Option (List Char × List Char) :=
  match text with
  | '\x27' :: rest =>
    let name := rest.takeWhile (· != '\x27')
    if name.isEmpty || name.length == rest.length then none else some (name,
      rest.drop (name.length + 1))
  | text =>
    let name := text.takeWhile fun c => c != '=' && c != '#' && !Text.isBlank c
    if name.isEmpty then none else some (name, text.drop name.length)

/-- Reads a value after its equals sign; gives it and the rest of the text. -/
def bindingValue (text : List Char) : Option (List Char × List Char) :=
  match text.dropWhile isSpace with
  | [] => some ([], [])
  | c :: rest =>
    if c == '\x27' || c == '\x22' then
      (upToQuote c rest).map fun (value, after) => (unescaped c value, after)
    else
      let line := thisLine (c :: rest)
      some (Text.dropEndWhile Text.isBlank (plainValue line), (c :: rest).drop line.length)

/-- What is left after blanks and a comment, when the line ends there. -/
def endOfLine (text : List Char) : Option (List Char) :=
  let rest := text.dropWhile isSpace
  let rest := if rest.head? == some '#' then rest.dropWhile (!isBreak ·) else rest
  match rest with
  | [] => some []
  | '\r' :: '\n' :: after => some after
  | c :: after => if isBreak c then some after else none

/-- Reads one binding at the start of a text, with the rest of the text. -/
def binding (text : List Char) : Option Binding × List Char :=
  let line := dropExport text
  if line.head? == some '#' then (none, nextLine line)
  else match bindingName line with
    | none => (none, nextLine line)
    | some (name, rest) =>
      let found (value : Option (List Char)) (after : List Char) : Option Binding × List Char :=
        match endOfLine after with
        | some after => (some ⟨String.ofList name, value.map String.ofList⟩, after)
        | none => (none, nextLine after)
      match rest.dropWhile isSpace with
      | '=' :: afterSign =>
        match bindingValue afterSign with
        | some (value, after) => found (some value) after
        | none => (none, nextLine afterSign)
      | after => found none after

/-- The bindings of a text; `rounds` bounds the number of lines. -/
def bindingsFrom : Nat → List Char → List Binding
  | 0, _ => []
  | rounds + 1, text =>
    match text.dropWhile Text.isBlank with
    | [] => []
    | rest =>
      let (found, after) := binding rest
      found.toList ++ bindingsFrom rounds after

/-! ## References -/

/-- A reference after its opening: the name, the text that stands in for it, and the rest. -/
def reference? (text : List Char) : Option (List Char × List Char × List Char) :=
  let name := text.takeWhile fun c => c != '\x7d' && c != ':'
  match text.drop name.length with
  | '\x7d' :: rest => some (name, [], rest)
  | ':' :: '-' :: rest =>
    let standIn := rest.takeWhile (· != '\x7d')
    match rest.drop standIn.length with
    | _ :: after => some (name, standIn, after)
    | [] => none
  | _ => none

/-- A value with its references replaced; `rounds` bounds the number of characters. -/
def resolveFrom (lookup : String → Option String) : Nat → List Char → List Char
  | 0, _ => []
  | _, [] => []
  | rounds + 1, '$' :: '\x7b' :: rest =>
    match reference? rest with
    | some (name, standIn, after) =>
      ((lookup (String.ofList name)).map String.toList).getD standIn ++
        resolveFrom lookup rounds after
    | none => '$' :: resolveFrom lookup rounds ('\x7b' :: rest)
  | rounds + 1, c :: rest => c :: resolveFrom lookup rounds rest

/-- A value with its references replaced. -/
def resolve (lookup : String → Option String) (value : String) : String :=
  String.ofList (resolveFrom lookup value.length value.toList)

/-- Puts a binding among others; a name keeps its first place and takes the new value. -/
def bind (found : List Binding) (binding : Binding) : List Binding :=
  if found.any (·.name == binding.name) then
    found.map fun other => if other.name == binding.name then binding else other
  else found ++ [binding]

/-- Resolves a binding by the bindings before it and by the environment, and puts it among them.  A
name that was bound without a value stands for nothing. -/
def bindResolved (env : List (String × String)) (found : List Binding) (binding : Binding) :
    List Binding :=
  let lookup (name : String) : Option String :=
    match found.find? (·.name == name) with
    | some other => some (other.value.getD "")
    | none => env.lookup name
  bind found { binding with value := binding.value.map (resolve lookup) }

/-- The bindings of an environment file; each name is there once, with its last value. -/
def dotEnv (env : List (String × String)) (text : String) : List Binding :=
  (bindingsFrom (text.length + 1) text.toList).foldl (bindResolved env) []

end SqlLayout.Settings
