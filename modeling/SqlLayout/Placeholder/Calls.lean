import SqlLayout.Pattern.Search
import SqlLayout.Placeholder.Record

/-!
# Placeholders for calls and casts

An index on a call is folded into the name of the call, and a cast with `::` becomes a marked call
around `CAST`.
-/

namespace SqlLayout.Placeholder

open Pattern (Match)

/-- The characters a plain name can start with. -/
def isNameStart (c : Char) : Bool :=
  Text.isAsciiLetter c || c == '_'

/-- A character that is no parenthesis. -/
def plainChar : Pattern :=
  .one fun c => c != '(' && c != ')'

/-- Text between parentheses in which parentheses are nested at most to the given depth. -/
def nestedText : Nat → Pattern
  | 0 => .many plainChar
  | depth + 1 => .many (.alt plainChar (.all [.char '(', nestedText depth, .char ')']))

/-- A call followed by an index in brackets. -/
def indexedCall : Pattern :=
  .all [.notAfter (fun c => Text.isWord c || c == '.'),
    .capture 1 (.seq (.one isNameStart) (.many (.one Text.isWord))),
    .char '(', .capture 2 (nestedText 1), .char ')',
    .char '[', .capture 3 .digits, .char ']']

/-- The record of one indexed call. -/
def readArrayAccess (text : List Char) (m : Match) : ArrayAccess :=
  let name := m.group text 1
  let index := Text.digitsValue (m.group text 3)
  { token := arrayAccessMark ++ toString index ++ "__" ++ String.ofList name
    callText := String.ofList (name ++ '(' :: m.group text 2 ++ [')'])
    index := index }

/-- Folds the index of every indexed call into the name of the call. -/
def encodeArrayAccess (text : List Char) : Encoded :=
  let found := indexedCall.findOutside text
  { text := Pattern.splice text 0 <| found.map fun m =>
      (m, (readArrayAccess text m).token.toList ++ '(' :: m.group text 2 ++ [')'])
    records := found.map fun m => .arrayAccess (readArrayAccess text m) }

/-- Identifier characters and the dollar sign. -/
def isNamePart (c : Char) : Bool :=
  Text.isWord c || c == '$'

/-- What can be cast with `::`: a call, a group in parentheses, a string, a number or a name. -/
def castOperand : Pattern :=
  .any [
    .all [.one isNameStart, .many (.one fun c => Text.isWord c || c == '.'),
      .char '(', nestedText 2, .char ')'],
    .all [.char '(', nestedText 1, .char ')'],
    .all [.char '\x27', .many (.one (· != '\x27')), .char '\x27'],
    .seq .digits (.optional (.seq (.char '.') .digits)),
    .all [.one isNameStart, .many (.one isNamePart),
      .many (.all [.char '.', .one isNameStart, .many (.one isNamePart)])]]

/-- The type after `::`, with at most two numeric parameters. -/
def castType : Pattern :=
  .all [.one isNameStart, .many (.one Text.isWord),
    .optional (.all [.blanks, .char '(', .blanks, .digits, .blanks,
      .optional (.all [.char ',', .blanks, .digits, .blanks]), .char ')'])]

/-- A cast with `::`. -/
def shorthandCast : Pattern :=
  .all [.notAfter (fun c => Text.isWord c || c == '$' || c == '.'),
    .capture 1 castOperand, .char ':', .char ':', .capture 2 castType]

/-- The record of one cast: its type is written without blanks and in upper case. -/
def readCast (text : List Char) (m : Match) : CastShorthand :=
  { token := castToken
    operand := String.ofList (m.group text 1)
    typeText := String.ofList (Text.upper ((m.group text 2).filter (!Text.isBlank ·))) }

/-- The marked call that takes the place of a cast. -/
def CastShorthand.expansion (record : CastShorthand) : List Char :=
  (record.token ++ "(CAST(" ++ record.operand ++ " AS " ++ record.typeText ++ "))").toList

/-- Expands the casts of a text, one pass for each link of the longest chain; `passes` bounds the
number of passes. -/
def expandCasts : Nat → List Char → Encoded
  | 0, text => { text := text }
  | passes + 1, text =>
    match shorthandCast.findOutside text with
    | [] => { text := text }
    | found =>
      let records := found.map (readCast text)
      let rest := expandCasts passes <|
        Pattern.splice text 0 (found.zip (records.map CastShorthand.expansion))
      { text := rest.text, records := records.map .castShorthand ++ rest.records }

/-- Expands every cast with `::`.  Each pass takes two colons away per cast, so the number of colons
bounds the passes. -/
def encodeCasts (text : List Char) : Encoded :=
  expandCasts (text.count ':') text

end SqlLayout.Placeholder
