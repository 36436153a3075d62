import SqlLayout.Text.Classes

/-!
# Paths into documents

A path leads from a document to a part of it: by keys, by positions, or to all parts at once.
-/

namespace SqlLayout.Grammar

/-- One step of a path. -/
inductive PathStep where
  /-- The part under a key. -/
  | key (name : String)
  /-- The part at a position, which can be counted from the end. -/
  | index (position : String)
  /-- The parts under all keys. -/
  | everyKey
  /-- The parts at all positions. -/
  | everyIndex
  deriving DecidableEq, Repr

/-- Whether a name can be written without quotes. -/
def isPlainName (name : String) : Bool :=
  match name.toList with
  | [] => false
  | c :: rest => (c == '_' || Text.isAsciiLetter c) && rest.all Text.isWord

/-- Whether a character is a mark of its own in a path. -/
def isPathMark (c : Char) : Bool :=
  "()[]:,-.?@$*'\x22".toList.contains c

/-- Whether a character can stand in a key without quotes. -/
def isKeyChar (c : Char) : Bool :=
  !isPathMark c && !Text.isBlank c

/-- Reads up to a closing quote; a backslash escapes a quote and itself. -/
def readKey (quote : Char) : List Char → Option (List Char × List Char)
  | [] => none
  | '\\' :: d :: rest =>
    if d == quote || d == '\\' then
      (readKey quote rest).map fun (key, after) =>
        (if d == quote then d :: key else '\\' :: d :: key, after)
    else (readKey quote (d :: rest)).map fun (key, after) => ('\\' :: key, after)
  | c :: rest =>
    if c == quote then some ([], rest)
    else (readKey quote rest).map fun (key, after) => (c :: key, after)

/-- The key at the start of a text, plain or between quotation marks; keys do not start with a
digit. -/
def readKeyStep? (text : List Char) : Option (PathStep × List Char) :=
  match text with
  | '\x22' :: rest =>
    (readKey '\x22' rest).map fun (key, after) => (.key (String.ofList key), after)
  | '*' :: rest => some (.everyKey, rest)
  | c :: _ =>
    if isKeyChar c && !Text.isNumeral c then
      some (.key (String.ofList (text.takeWhile isKeyChar)), text.dropWhile isKeyChar)
    else none
  | [] => none

/-- The step between brackets, after the opening one. -/
def readBracketStep? (text : List Char) : Option (PathStep × List Char) :=
  let trim := List.dropWhile Text.isBlank
  let closed (step : PathStep) (rest : List Char) : Option (PathStep × List Char) :=
    match trim rest with
    | ']' :: after => some (step, after)
    | _ => none
  let number (sign : String) (text : List Char) : Option (PathStep × List Char) :=
    let digits := text.takeWhile Text.isAsciiDigit
    if digits.isEmpty then none
    else closed (.index (sign ++ toString (Text.digitsValue digits)))
      (text.dropWhile Text.isAsciiDigit)
  match trim text with
  | '*' :: rest => closed .everyIndex rest
  | '-' :: rest => number "-" rest
  | c :: rest =>
    if c == '\x27' || c == '\x22' then
      match readKey c rest with
      | some (key, after) => closed (.key (String.ofList key)) after
      | none => none
    else number "" (c :: rest)
  | [] => none

/-- The steps of a path; `rounds` bounds their number. -/
def readSteps : Nat → List Char → Option (List PathStep)
  | 0, _ => none
  | rounds + 1, text =>
    let followedBy (found : Option (PathStep × List Char)) : Option (List PathStep) :=
      match found with
      | some (step, after) => (readSteps rounds after).map (step :: ·)
      | none => none
    match text.dropWhile Text.isBlank with
    | [] => some []
    | '[' :: rest => followedBy (readBracketStep? rest)
    | c :: rest =>
      if c == '.' || c == ':' then followedBy (readKeyStep? (rest.dropWhile Text.isBlank))
      else followedBy (readKeyStep? (c :: rest))

/-- The path that a text spells; a sign for the whole document can stand before it. -/
def readPath? (text : String) : Option (List PathStep) :=
  match text.toList.dropWhile Text.isBlank with
  | '$' :: rest => readSteps (rest.length + 1) rest
  | chars => readSteps (chars.length + 1) chars

/-- The canonical text of a step. -/
def PathStep.text : PathStep → String
  | .key name =>
    let escaped := String.ofList (name.toList.flatMap fun c => if c == '\x22' then ['\\', c]
      else [c])
    if isPlainName name then "." ++ name else "[\x22" ++ escaped ++ "\x22]"
  | .index position => "[" ++ position ++ "]"
  | .everyKey => ".*"
  | .everyIndex => "[*]"

/-- The canonical text of a path without a sign for the whole document. -/
def stepsText (steps : List PathStep) : String :=
  let text := String.join (steps.map PathStep.text)
  if text.startsWith "." then (text.drop 1).toString else text

/-- The canonical text of a path from the whole document on. -/
def pathText (steps : List PathStep) : String :=
  "$" ++ String.join (steps.map PathStep.text)

end SqlLayout.Grammar
