import SqlLayout.Grammar.Lexer
import SqlLayout.Grammar.Text

/-!
# Parsers over tokens

A parser reads tokens from a position on.  It gives a value and the position after it, or a fault.
A parser of type `Parser (Option α)` gives `none`, and consumes nothing, when what it looks for is
not there.

## Implementation notes

The rules of the grammar refer to each other.  A rule takes the others as a `Rules` record; the
record is closed by recursion on a number that bounds the nesting.
-/

namespace SqlLayout.Grammar

/-- What is parsed: the tokens of one statement, the source text and the dialect. -/
structure Input where
  dialect : Dialect
  tokens : Array Token
  source : List Char

/-- What can have comments written at it. -/
class Noted (α : Type) where
  /-- The value with further comments. -/
  noted : List String → α → α

instance (priority := low) : Noted α where
  noted _ a := a

instance : Noted Term where
  noted := Term.noted

instance : Noted Ident where
  noted comments ident := { ident with comments := ident.comments ++ comments }

instance : Noted String where
  noted comments text := withComments text comments

instance : Noted Ordered where
  noted
    | more, .mk key descending nullsFirst nulls fill comments =>
      .mk key descending nullsFirst nulls fill (comments ++ more)

instance : Noted From where
  noted
    | comments, .table table => .table { table with comments := table.comments ++ comments }
    | comments, .query query => .query (query.noted comments)
    | comments, .raw kind text => .raw kind (withComments text comments)

instance : Noted SchemaItem where
  noted
    | more, .column ident type constraints comments =>
      .column ident type constraints (comments ++ more)
    | more, .primaryKey columns text => .primaryKey columns (withComments text more)
    | more, .name ident => .name { ident with comments := ident.comments ++ more }
    | more, .other text => .other (withComments text more)

instance : Noted Row where
  noted comments row := { row with comments := row.comments ++ comments }

/-- How far a parser has come, the comments of the last token that belong to nothing yet, and the
warnings it has given. -/
structure Progress where
  pos : Nat := 0
  pending : List String := []
  warnings : List String := []
  /-- Whether PRIOR is an operator, as it is among the conditions of a hierarchy. -/
  inHierarchy : Bool := false

/-- A parser over tokens. -/
abbrev Parser := ReaderT Input (StateT Progress (Except Fault))

/-- The comments of the token before a position. -/
def Input.commentsBefore (input : Input) : Nat → List String
  | 0 => []
  | pos + 1 => (input.tokens[pos]?.map (·.comments)).getD []

/-- Progress at a position, with the comments of the token before it. -/
def Progress.at (progress : Progress) (input : Input) (pos : Nat) : Progress :=
  { progress with pos := pos, pending := input.commentsBefore pos }

namespace Parser

/-- Gives up on the whole statement. -/
def fail (wanted : String) : Parser α :=
  throw (.unexpected wanted)

/-- The dialect of the statement. -/
def dialect : Parser Dialect := do
  return (← read).dialect

/-- The current position. -/
def position : Parser Nat := do
  return (← get).pos

/-- Goes to a position.  Whoever moves has the comments of the token before the new position. -/
def goTo (pos : Nat) : Parser Unit := do
  let input ← read
  modify fun progress => if progress.pos == pos then progress else progress.at input pos

/-- Moves over a number of tokens. -/
def advance (count : Nat := 1) : Parser Unit := do
  goTo ((← position) + count)

/-- The comments of the last token that belong to nothing yet. -/
def pending : Parser (List String) := do
  return (← get).pending

/-- Takes the comments of the last token that belong to nothing yet. -/
def claim : Parser (List String) := do
  let comments ← pending
  modify fun progress => { progress with pending := [] }
  return comments

/-- The given comments, or those of the last token when there are none. -/
def claimUnless (comments : List String) : Parser (List String) :=
  if comments.isEmpty then claim else return comments

/-- The token a number of places ahead. -/
def peekAt? (ahead : Nat) : Parser (Option Token) := do
  return (← read).tokens[(← position) + ahead]?

/-- The current token. -/
def peek? : Parser (Option Token) :=
  peekAt? 0

/-- The token before the current one. -/
def previous? : Parser (Option Token) := do
  match ← position with
  | 0 => return none
  | pos + 1 => return (← read).tokens[pos]?

/-- Whether the current token is of a kind. -/
def sees (kind : Kind) : Parser Bool := do
  return (← peek?).any (·.kind == kind)

/-- Whether the token a number of places ahead is of a kind. -/
def seesAt (ahead : Nat) (kind : Kind) : Parser Bool := do
  return (← peekAt? ahead).any (·.kind == kind)

/-- Consumes the current token if it is as asked. -/
def takeIf (p : Token → Bool) : Parser (Option Token) := do
  match ← peek? with
  | some token =>
    if p token then
      advance
      return some token
    else return none
  | none => return none

/-- Consumes the current token if it is of a kind. -/
def take (kind : Kind) : Parser Bool := do
  return (← takeIf (·.kind == kind)).isSome

/-- Consumes a punctuation mark. -/
def mark (text : String) : Parser Bool :=
  take (.symbol text)

/-- Consumes a keyword. -/
def word (text : String) : Parser Bool :=
  take (.keyword text)

/-- Whether the current token is a punctuation mark. -/
def seesMark (text : String) : Parser Bool :=
  sees (.symbol text)

/-- Whether the current token is a keyword. -/
def seesWord (text : String) : Parser Bool :=
  sees (.keyword text)

/-- Consumes one of several keywords. -/
def anyWord (texts : List String) : Parser (Option Token) :=
  takeIf fun token => match token.kind with
    | .keyword text => texts.contains text
    | _ => false

/-- Consumes one of several punctuation marks. -/
def anyMark (texts : List String) : Parser (Option Token) :=
  takeIf fun token => match token.kind with
    | .symbol text => texts.contains text
    | _ => false

/-- Whether a token reads as one of several texts, in any case. -/
def readsAs (texts : List String) (token : Token) : Bool :=
  token.kind != .string && texts.contains token.upper

/-- Consumes a token that reads as one of several texts. -/
def anyText (texts : List String) : Parser (Option Token) :=
  takeIf (readsAs texts)

/-- Whether the tokens ahead read as the given texts. -/
def seesTexts (texts : List String) : Parser Bool := do
  let input ← read
  let pos ← position
  return texts.zipIdx.all fun (text, index) =>
    input.tokens[pos + index]?.any (readsAs [text])

/-- Consumes tokens that read as the given texts, one after the other.  When only some of them are
there, the parser has moved and come back. -/
def texts (wanted : List String) : Parser Bool := do
  if ← seesTexts wanted then
    advance wanted.length
    return true
  if wanted.length > 1 && (← seesTexts (wanted.take 1)) then
    let input ← read
    modify fun progress => progress.at input progress.pos
  return false

/-- Consumes two tokens of the given kinds. -/
def pair (first second : Kind) : Parser Bool := do
  if (← sees first) && (← seesAt 1 second) then
    advance 2
    return true
  else return false

/-- Runs a test only when a condition holds. -/
def onlyIf (condition : Bool) (test : Parser Bool) : Parser Bool :=
  if condition then test else return false

/-- Requires a closing parenthesis. -/
def close : Parser Unit := do
  unless ← mark ")" do fail ")"

/-- Requires a closing parenthesis, whose comments belong to a term. -/
def closeTerm (term : Term) : Parser Term := do
  close
  return term.noted (← claim)

/-- A new term with the comments of the last token. -/
def made (term : Term) : Parser Term := do
  return term.noted (← claim)

/-- A new term with the given comments, or with those of the last token when there are none. -/
def madeWith (comments : List String) (term : Term) : Parser Term := do
  return term.noted (← claimUnless comments)

/-- Requires a value. -/
def need (wanted : String) (p : Parser (Option α)) : Parser α := do
  match ← p with
  | some a => return a
  | none => fail wanted

/-- Runs a parser; on a fault or when it gives nothing, goes back to where it started. -/
def attempt (p : Parser (Option α)) : Parser (Option α) := fun input progress =>
  match p input progress with
  | .ok (some a, after) => .ok (some a, after)
  | .ok (none, after) =>
    .ok (none, if after.pos == progress.pos then after else progress.at input progress.pos)
  | .error _ => .ok (none, progress.at input progress.pos)

/-- The first of several alternatives that gives something. -/
def firstOf : List (Parser (Option α)) → Parser (Option α)
  | [] => return none
  | p :: rest => do
    match ← p with
    | some a => return some a
    | none => firstOf rest

/-- The first of several phrases that comes next, as its words. -/
def phraseOf (phrases : List (List String)) : Parser (Option String) :=
  firstOf (phrases.map fun phrase => do
    if ← texts phrase then return some (" ".intercalate phrase) else return none)

/-- Repeats a step on a value until the step gives nothing; `rounds` bounds the repetition. -/
def iterateFor (step : α → Parser (Option α)) : Nat → α → Parser α
  | 0, a => return a
  | rounds + 1, a => do
    match ← step a with
    | some b => iterateFor step rounds b
    | none => return a

/-- Repeats a step on a value until the step gives nothing. -/
def iterate (step : α → Parser (Option α)) (a : α) : Parser α := do
  iterateFor step ((← read).tokens.size + 1) a

/-- All values that a parser gives one after the other. -/
def many (p : Parser (Option α)) : Parser (List α) := do
  let found ← iterate (fun (found : List α) => do
    match ← p with
    | some a => return some (a :: found)
    | none => return none) []
  return found.reverse

/-- Values with commas between them; places without a value are skipped.  The comments of a comma
belong to the value before it. -/
def commaList [Noted α] (p : Parser (Option α)) : Parser (List α) := do
  let first ← p
  let (last, found) ← iterate (fun ((last, found) : Option α × List α) => do
    if ← mark "," then
      let last ← match last with
        | some a => pure (some (Noted.noted (← claim) a))
        | none => pure none
      return some (← p, last.toList ++ found)
    else return none) (first, [])
  return (last.toList ++ found).reverse

/-- A comma list in parentheses. -/
def wrappedList [Noted α] (p : Parser (Option α)) : Parser (List α) := do
  unless ← mark "(" do fail "("
  let found ← commaList p
  close
  return found

/-- A comma list whose parentheses may be left out. -/
def optionallyWrappedList [Noted α] (p : Parser (Option α)) : Parser (List α) := do
  if ← mark "(" then
    let found ← commaList p
    close
    return found
  else commaList p

/-- The text of the source between two tokens. -/
def sourceBetween (first last : Token) : Parser String := do
  return String.ofList (((← read).source.drop first.start).take (last.stop - first.start))

/-- Leaves a warning. -/
def warn (message : String) : Parser Unit :=
  modify fun progress => { progress with warnings := progress.warnings ++ [message] }

/-- Takes the rest of the statement as it is written, from a token on, and warns about it. -/
def commandText (start : Token) : Parser String := do
  let tokens := (← read).tokens
  goTo tokens.size
  let last := tokens.back?.getD start
  if let some first := tokens[0]? then
    if tokens.size > 1 then
      let shown := ((← sourceBetween first last).toList).take 100
      warn ("'" ++ String.ofList shown ++
        "' contains unsupported syntax. Falling back to parsing as a 'Command'.")
  let text := (← sourceBetween start last).toList
  let size := start.text.length
  return String.ofList (text.take size) ++ " " ++ (String.ofList (text.drop size)).stripBlanks

/-! ## Names -/

/-- Whether a token can be a name wherever any word can: all but punctuation, SELECT and NOT. -/
def isAnyWord (token : Token) : Bool :=
  match token.kind with
  | .symbol mark => mark.length > 1
  | .keyword keyword => keyword != "SELECT" && keyword != "NOT"
  | .unknown => false
  | _ => true

/-- The name that the last token is. -/
def identOf (token : Token) : Parser Ident := do
  return { name := token.text, quoted := token.kind == .quotedName || token.kind == .string,
           comments := ← claim }

/-- The sign of a parameter as the dialect writes it. -/
def parameterSign (dialect : Dialect) : String :=
  if dialect.isOneOf ["snowflake", "duckdb"] || dialect.likePostgres then "$" else "@"

/-- The name of a parameter after its sign. -/
def parameterName : Parser (Option Ident) := do
  match ← takeIf fun token => token.kind == .quotedName || token.kind == .string ||
    isAnyWord token with
  | none => return none
  | some token =>
    let dialect ← dialect
    let shown := if token.kind == .string then literalText dialect token.text
      else ({ name := token.text, quoted := token.kind == .quotedName } : Ident).bareText dialect
    discard claim
    return some { name := token.text, shown := some shown }

/-- A place for a value that is given later, by its order or behind a colon. -/
def openPlace : Parser (Option Ident) := do
  if ← mark "?" then
    return some { name := "", shown := some "?", comments := ← claim }
  else if (← seesMark ":") && ((← seesAt 1 .number) || (← seesAt 1 .name)) then
    advance
    let sign := match (← dialect).name.getD "" with
      | "bigquery" => "@"
      | "duckdb" => "$"
      | _ => ":"
    match ← takeIf fun _ => true with
    | some token =>
      return some { name := token.text, shown := some (sign ++ token.text), comments := ← claim }
    | none => return none
  else return none

/-- A parameter of one or two names, possibly in braces, after its sign. -/
def bracedParameter : Parser (Option Ident) := do
  discard (mark "\x7b")
  match ← parameterName with
  | none => return none
  | some ident =>
    let second ← if ← mark ":" then parameterName else pure none
    discard (mark "\x7d")
    let shown (ident : Ident) : String := ident.shown.getD ident.name
    return some { ident with shown := some ("$\x7b" ++ shown ident ++
      (second.map fun ident => ":" ++ shown ident).getD "" ++ "\x7d") }

/-- A parameter after its first sign.  More signs can stand before its name. -/
def parameterAfterSign : Parser (Option Ident) := do
  if (← dialect).likeHive then return ← bracedParameter
  let more ← many (do if ← mark "@" then return some () else return none)
  let place ← openPlace
  let ident ← match place with
    | some place => pure (some place)
    | none => parameterName
  let signs := String.join (List.replicate (more.length + 1) (parameterSign (← dialect)))
  return ident.map fun ident =>
    { name := if more.isEmpty && place.isNone then ident.name else ""
      shown := some (signs ++ ident.shown.getD ident.name) }

/-- A place for a value that is given later, in the place of a name. -/
def placeholderName : Parser (Option Ident) := do
  if let some place ← openPlace then return some place
  if ← mark "@" then return some (← need "parameter" parameterAfterSign)
  else if (← seesMark "@@") && (← dialect).likeMysql then
    advance
    let name ← need "parameter" parameterName
    return some { name with shown := some ("@@" ++ name.name) }
  else return none

/-- A quoted name. -/
def quotedName : Parser (Option Ident) := do
  match ← takeIf (·.kind == .quotedName) with
  | some token => return some (← identOf token)
  | none => return none

/-- A name: quoted, a place for a value, or a token that may be one. -/
def nameIf (p : Token → Bool) : Parser (Option Ident) := do
  let dialect ← dialect
  let signs ← if dialect.isNamed "tsql" then many (takeIf (·.kind == .symbol "#")) else pure []
  let signed (ident : Ident) : Ident :=
    if signs.isEmpty then ident
    else { ident with shown := some (String.join (signs.map (·.text)) ++ ident.bareText dialect) }
  if let some ident ← quotedName then return some (signed ident)
  if let some ident ← placeholderName then return some ident
  match ← takeIf p with
  | some token => return some (signed (← identOf token))
  | none => return none

/-- A name, or any word when `any` says so. -/
def nameOr (any : Bool) (p : Token → Bool) : Parser (Option Ident) :=
  nameIf fun token => p token || (any && isAnyWord token)

/-- A name. -/
def name : Parser (Option Ident) :=
  nameIf (·.roles.isName)

/-- Any word as a name. -/
def anyName : Parser (Option Ident) :=
  nameOr true (·.roles.isName)

/-- A string literal as a quoted name. -/
def stringAsName : Parser (Option Ident) := do
  match ← takeIf (·.kind == .string) with
  | some token => return some (← identOf token)
  | none => return none

/-- A plain variable with its comments: a name that is no keyword, or any word when `any` says
so. -/
def plainVariable (any : Bool := false) : Parser (Option Ident) := do
  match ← takeIf fun token => token.kind == .name || (any && isAnyWord token) with
  | some token => return some { name := token.text, comments := ← claim }
  | none => placeholderName

/-- A plain variable: a name that is no keyword, or any word when `any` says so. -/
def plainWord (any : Bool := false) : Parser (Option String) := do
  return (← plainVariable any).map fun ident => ident.shown.getD ident.name

/-! ## Literals -/

/-- What stands before a string literal in the national character set. -/
def nationalMark (dialect : Dialect) : String :=
  if dialect.likeHive || dialect.likePresto || dialect.isNamed "bigquery" then "" else "N"

/-- A string literal without escapes as the dialect writes it. -/
def rawStringText (dialect : Dialect) (value : String) : String :=
  let write (c : Char) : List Char :=
    if c == '\x27' then [dialect.stringEscapes.headD c, c]
    else if c == '\\' then (if dialect.backslashEscapes then [c, c] else [c])
    else match if dialect.backslashEscapes then escapeLetter? c else none with
      | some letter => ['\\', letter]
      | none => [c]
  "'" ++ String.ofList (value.toList.flatMap write) ++ "'"

/-- The number that digits in a base spell, as the dialect writes it. -/
def basedText (marks : Option DigitMarks) (digits : String) : String :=
  match marks with
  | some marks => marks.opening ++ digits ++ marks.closing
  | none => digits

/-- The literal that a token is, if it is a string of any form. -/
def stringOf? (dialect : Dialect) (token : Token) : Option Term :=
  match token.kind with
  | .string => some (.string token.text [])
  | .nationalString =>
    some (.raw "National" (nationalMark dialect ++ literalText dialect token.text))
  | .rawString => some (.raw "RawString" (rawStringText dialect token.text))
  | .unicodeString => some (.raw "UnicodeString" ("U&" ++ literalText dialect token.text))
  | _ => none

/-- The literal that a token is, if it is the text of a number or of bytes. -/
def numeralOf? (dialect : Dialect) (token : Token) : Option Term :=
  match token.kind with
  | .number => some (.number token.text [])
  | .hexString => some (.raw "HexString" (basedText dialect.hexMarks token.text))
  | .bitString => some (.raw "BitString" (basedText dialect.bitMarks token.text))
  | .byteString =>
    some (.raw "ByteString" ((if dialect.isNamed "bigquery" then "b'" else "e'") ++
      token.text ++ "'"))
  | _ => none

/-- Consumes a token that is a term. -/
def literal (read : Dialect → Token → Option Term) : Parser (Option Term) := do
  let dialect ← dialect
  match ← takeIf fun token => (read dialect token).isSome with
  | some token =>
    match read dialect token with
    | some term => return some (← made term)
    | none => return none
  | none => return none

/-- The term that a place for a value is. -/
def placeholder : Parser (Option Term) := do
  match ← placeholderName with
  | some ident =>
    let shown := ident.shown.getD ident.name
    let kind := if shown.startsWith "?" || shown.startsWith ":" then "Placeholder" else "Parameter"
    return some ((Term.raw kind shown).noted ident.comments)
  | none => return none

/-- A string literal or a place for one. -/
def string : Parser (Option Term) := do
  match ← literal stringOf? with
  | some term => return some term
  | none => placeholder

end Parser

/-- How a query is looked for. -/
structure QueryMode where
  /-- A query in parentheses is allowed. -/
  nested : Bool := false
  /-- A table in parentheses is allowed. -/
  table : Bool := false
  /-- A query in parentheses may be followed by its label. -/
  label : Bool := true
  /-- Set operations after the query belong to it. -/
  setOps : Bool := true

/-- How a table is looked for. -/
structure TableMode where
  /-- The name alone is looked for, as a list of columns may follow it. -/
  schema : Bool := false
  /-- Joins after the table belong to it. -/
  joins : Bool := false
  /-- A label may not be the word SET. -/
  update : Bool := false

/-- How a type is looked for. -/
structure TypeMode where
  /-- A type with parameters must be followed by a string, as it may be a call. -/
  checkCall : Bool := false
  /-- The type belongs to a column definition. -/
  schema : Bool := false
  /-- Unknown names are types. -/
  names : Bool := true

/-- The rules that refer to each other. -/
structure Rules where
  expression : Parser (Option Term)
  assignment : Parser (Option Term)
  equality : Parser (Option Term)
  bitwise : Parser (Option Term)
  additive : Parser (Option Term)
  unary : Parser (Option Term)
  /-- A typed literal, an interval or a column. -/
  typed : Parser (Option Term)
  column : Parser (Option Term)
  /-- The type and the constraints after the name of a column. -/
  columnTail : Ident → Parser SchemaItem
  typeName : TypeMode → Parser (Option TypeName)
  query : QueryMode → Parser (Option Query)
  /-- Reads the clauses after a query. -/
  withClauses : Query → Parser Query
  /-- Reads the set operations after a query. -/
  withSetOps : Query → Parser Query
  table : TableMode → Parser (Option From)
  statement : Parser (Option Parsed)

/-- The rules that find nothing. -/
def Rules.none : Rules where
  expression := Parser.fail "nesting"
  assignment := Parser.fail "nesting"
  equality := Parser.fail "nesting"
  bitwise := Parser.fail "nesting"
  additive := Parser.fail "nesting"
  unary := Parser.fail "nesting"
  typed := Parser.fail "nesting"
  column := Parser.fail "nesting"
  columnTail _ := Parser.fail "nesting"
  typeName _ := Parser.fail "nesting"
  query _ := Parser.fail "nesting"
  withClauses _ := Parser.fail "nesting"
  withSetOps _ := Parser.fail "nesting"
  table _ := Parser.fail "nesting"
  statement := Parser.fail "nesting"

end SqlLayout.Grammar
