import SqlLayout.Console.Pictures

/-!
# Marked texts

Console texts may hold tags in brackets, which are not shown, and names of pictures between colons.
A tag after an odd number of backslashes is no tag but text.
-/

namespace SqlLayout.Console

/-- Characters that a tag can start with. -/
def startsTag (c : Char) : Bool :=
  ('a' ≤ c && c ≤ 'z') || c == '#' || c == '/' || c == '@'

/-- The tag at the start of a text, with the rest of the text. -/
def tag? : List Char → Option (List Char × List Char)
  | '[' :: c :: rest =>
    let body := rest.takeWhile fun d => d != '[' && d != ']'
    match rest.drop body.length with
    | ']' :: after => if startsTag c then some ('[' :: c :: body ++ [']'], after) else none
    | _ => none
  | _ => none

/-- The number of backslashes at the start of a text. -/
def slashes (text : List Char) : Nat :=
  (text.takeWhile (· == '\\')).length

/-- A text with its tags made plain, in the place where `rounds` characters are left. -/
def escapeFrom : Nat → List Char → List Char
  | 0, _ => []
  | _, [] => []
  | rounds + 1, c :: rest =>
    let count := slashes (c :: rest)
    match tag? ((c :: rest).drop count) with
    | some (tag, after) => List.replicate (2 * count + 1) '\\' ++ tag ++ escapeFrom rounds after
    | none => c :: escapeFrom rounds rest

/-- A text that is shown as it is written.  A single backslash at its end is doubled. -/
def escape (text : String) : String :=
  let chars := escapeFrom text.length text.toList
  match chars.reverse with
  | '\\' :: '\\' :: _ => String.ofList chars
  | '\\' :: _ => String.ofList (chars ++ ['\\'])
  | _ => String.ofList chars

/-- The parts of a marked text without its tags; `part` holds the current part in reverse. -/
def partsFrom : Nat → List Char → List Char → List (List Char)
  | 0, part, _ => [part.reverse]
  | _, part, [] => [part.reverse]
  | rounds + 1, part, c :: rest =>
    let count := slashes (c :: rest)
    match tag? ((c :: rest).drop count) with
    | some (tag, after) =>
      part.reverse :: List.replicate (count / 2) '\\' :: (if count % 2 == 1 then [tag] else []) ++
        partsFrom rounds [] after
    | none => partsFrom rounds (c :: part) rest

/-- A text in which no backslash stands before an opening bracket. -/
def bareBrackets : List Char → List Char
  | [] => []
  | '\\' :: '[' :: rest => '[' :: bareBrackets rest
  | c :: rest => c :: bareBrackets rest

/-- Endings of a picture name that choose how it is shown. -/
def pictureStyles : List (String × Char) :=
  [("-emoji", '\uFE0F'), ("-text", '\uFE0E')]

/-- The picture that a name between colons stands for. -/
def pictureOf? (name : List Char) : Option (List Char) :=
  let ending := pictureStyles.find? fun (ending, _) => ending.toList.isSuffixOf name
  let bare := name.take (name.length - (ending.map (·.1.length)).getD 0)
  (picture? (String.ofList bare).lowerCase).map fun shown => shown.toList ++
    (ending.map (·.2)).toList

/-- A text with names between colons replaced by their pictures; `rounds` bounds its characters. -/
def picturesFrom : Nat → List Char → List Char
  | 0, _ => []
  | _, [] => []
  | rounds + 1, ':' :: rest =>
    let name := rest.takeWhile fun c => c != ':' && !Text.isBlank c
    match rest.drop name.length with
    | ':' :: after => (pictureOf? name).getD (':' :: name ++ [':']) ++ picturesFrom rounds after
    | _ => ':' :: picturesFrom rounds rest
  | rounds + 1, c :: rest => c :: picturesFrom rounds rest

/-- A marked text as it is shown. -/
def shown (text : String) : String :=
  let parts := partsFrom (text.length + 1) [] text.toList
  String.ofList (parts.flatMap fun part =>
    let part := bareBrackets part
    picturesFrom part.length part)

end SqlLayout.Console
