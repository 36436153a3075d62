import SqlLayout.Grammar.Token

/-!
# Reading tokens

A text is read into tokens from left to right.  Comments are no tokens: a comment on the line of the
token before it belongs to that token, every other one to the token after it.
-/

namespace SqlLayout.Grammar

/-- Why a text is not in the language. -/
inductive Fault where
  /-- A literal, a quoted name or a comment has no end. -/
  | unterminated
  /-- The tokens do not make a statement. -/
  | unexpected (wanted : String)
  deriving DecidableEq, Repr

/-- The progress of reading: tokens read so far in reverse, comments that wait for the next token,
the offset and the line reached, and the line of the last token.  While a statement is kept as
written, `body` is the text where it starts and `kept` the number of tokens before it. -/
structure LexState where
  tokens : List Token := []
  comments : List String := []
  pos : Nat := 0
  line : Nat := 1
  tokenLine : Nat := 0
  body : Option (List Char) := none
  kept : Nat := 0

/-- Number of line ends in a text; carriage return and line feed count once. -/
def lineEnds : List Char → Nat
  | [] => 0
  | '\r' :: '\n' :: rest => 1 + lineEnds rest
  | c :: rest => (if c == '\n' || c == '\r' then 1 else 0) + lineEnds rest

/-- Moves over consumed characters. -/
def LexState.skip (state : LexState) (used : List Char) : LexState :=
  { state with pos := state.pos + used.length, line := state.line + lineEnds used }

/-- Gives the waiting comments to the last token, if there is one. -/
def LexState.settle (state : LexState) : LexState :=
  match state.tokens with
  | token :: rest =>
    { state with
      tokens := { token with comments := token.comments ++ state.comments } :: rest
      comments := [] }
  | [] => state

/-- Adds a token that ends after the consumed characters.  Comments that wait when a statement ends
belong to the token before its end. -/
def LexState.add (state : LexState) (dialect : Dialect) (kind : Kind) (text : String)
    (used : List Char) :
    LexState :=
  let state := if kind == .symbol ";" then state.settle else state
  let after := state.skip used
  { after with
    tokens := { kind := kind, text := text, upper := text.upperCase, roles := dialect.roles kind,
                comments := state.comments, start := state.pos, stop := after.pos } :: state.tokens
    comments := []
    tokenLine := after.line }

/-- Adds a comment: to the last token when that stands on the same line, else to the next one. -/
def LexState.addComment (state : LexState) (comment : String) (used : List Char) : LexState :=
  let after := { state.skip used with comments := state.comments ++ [comment] }
  if !state.tokens.isEmpty && state.line == state.tokenLine then
    { after.settle with tokenLine := after.line }
  else after

/-! ## Quotes -/

/-- The meaning of a backslash escape, where escapes are read. -/
def escapeMeaning? (c : Char) : Option Char :=
  match c with
  | 'a' => some '\x07'
  | 'b' => some '\x08'
  | 'f' => some '\x0c'
  | 'n' => some '\n'
  | 'r' => some '\r'
  | 't' => some '\t'
  | 'v' => some '\x0b'
  | '\\' => some '\\'
  | _ => none

/-- How a quoted text is read. -/
structure Quoting where
  /-- What ends the text. -/
  close : List Char
  /-- The characters that escape the end and each other. -/
  escapes : List Char
  /-- Whether a backslash with a letter stands for a character. -/
  sequences : Bool
  /-- The quotes of strings, which escape only themselves. -/
  quotes : List Char

/-- Whether the first of two characters escapes the second. -/
def Quoting.escapesNext (quoting : Quoting) (c d : Char) : Bool :=
  quoting.escapes.contains c && ([d] == quoting.close || quoting.escapes.contains d) &&
    (!quoting.quotes.contains c || c == d)

/-- Reads up to the end of a quoted text; gives the value and the rest of the text. -/
def readQuoted (quoting : Quoting) : List Char → Option (List Char × List Char)
  | [] => none
  | [c] => if quoting.close == [c] then some ([], []) else none
  | c :: d :: rest =>
    let after (value : List Char) (found : Option (List Char × List Char)) :=
      found.map fun (more, rest) => (value ++ more, rest)
    match if quoting.sequences && c == '\\' then escapeMeaning? d else none with
    | some meaning => after [meaning] (readQuoted quoting rest)
    | none =>
      if quoting.escapesNext c d then
        if rest.isEmpty then none
        else after (if [d] == quoting.close then [d] else [c, d]) (readQuoted quoting rest)
      else if quoting.close.isPrefixOf (c :: d :: rest) then
        some ([], (c :: d :: rest).drop quoting.close.length)
      else after [c] (readQuoted quoting (d :: rest))

/-- How the strings of a dialect are read. -/
def Dialect.stringQuoting (dialect : Dialect) (close : List Char) : Quoting :=
  { close := close, escapes := dialect.stringEscapes, sequences := dialect.backslashEscapes,
    quotes := dialect.stringQuotes }

/-- How the quoted names of a dialect are read: a doubled end stands for itself. -/
def Dialect.nameQuoting (dialect : Dialect) (close : Char) : Quoting :=
  { dialect.stringQuoting [close] with escapes := [close] }

/-- How a text without escapes is read. -/
def plainQuoting (close : List Char) : Quoting :=
  { close := close, escapes := [], sequences := false, quotes := [] }

/-- The kind of the string whose quote follows a letter. -/
def Dialect.letterKind? (dialect : Dialect) (c : Char) : Option Kind :=
  match c with
  | 'n' | 'N' => some .nationalString
  | 'x' | 'X' => if dialect.hexMarks == some hexStrings then some .hexString else none
  | 'b' | 'B' =>
    if dialect.isNamed "bigquery" then some .byteString
    else if dialect.bitMarks == some bitStrings then some .bitString
    else none
  | 'e' | 'E' => if dialect.likePostgres then some .byteString else none
  | 'r' | 'R' =>
    if dialect.isOneOf ["bigquery", "databricks", "spark", "spark2"] then some .rawString else none
  | _ => none

/-- Whether a text spells a number in a base. -/
def spellsNumber (kind : Kind) (text : List Char) : Bool :=
  let digits := text.filter (· != '_')
  match kind with
  | .hexString => !digits.isEmpty && digits.all fun c =>
      Text.isAsciiDigit c || ('a' ≤ c && c ≤ 'f') || ('A' ≤ c && c ≤ 'F')
  | .bitString => !digits.isEmpty && digits.all fun c => c == '0' || c == '1'
  | _ => true

/-- The string at the start of a text: its kind, its value and the rest of the text.  The inner
`none` says that it has no end. -/
def readString? (dialect : Dialect) (text : List Char) :
    Option (Kind × Option (List Char × List Char)) :=
  let quotedBy (kind : Kind) (text : List Char) : Option (Kind × Option (List Char × List Char)) :=
    match text with
    | [] => none
    | quote :: rest =>
      let triple := List.replicate 3 quote
      let read (close rest : List Char) :=
        readQuoted
          (if kind == .rawString then { dialect.stringQuoting close with sequences := false }
            else dialect.stringQuoting close) rest
      if !dialect.stringQuotes.contains quote then none
      else if dialect.isNamed "bigquery" && triple.isPrefixOf text then
        some (kind, read triple (text.drop 3))
      else some (kind, read [quote] rest)
  match text with
  | [] => none
  | c :: rest =>
    match quotedBy .string text with
    | some found => some found
    | none =>
      match dialect.letterKind? c with
      | some kind => quotedBy kind rest
      | none => none

/-- The string between dollar signs at the start of a text, with or without tags. -/
def readDollars? (dialect : Dialect) (text : List Char) : Option (Option (List Char × List Char)) :=
  if dialect.dollarStrings && "$$".toList.isPrefixOf text then
    some (readQuoted (plainQuoting "$$".toList) (text.drop 2))
  else if dialect.taggedStrings && text.head? == some '$' then
    let tag := (text.drop 1).takeWhile (· != '$')
    let rest := text.drop (tag.length + 2)
    let isTag := tag.isEmpty || (!rest.isEmpty && !tag.all Text.isNumeral && !tag.any Text.isBlank)
    if isTag && text.length ≥ tag.length + 2 then
      some (readQuoted (plainQuoting ('$' :: tag ++ ['$'])) rest)
    else none
  else none

/-! ## Comments -/

/-- The pairs of characters around a comment of several lines. -/
structure BlockMarks where
  opening : Char × Char
  closing : Char × Char

/-- The marks of comments in statements. -/
def statementBlock : BlockMarks := ⟨('/', '*'), ('*', '/')⟩

/-- The marks of comments in templates. -/
def templateBlock : BlockMarks := ⟨('\x7b', '#'), ('#', '\x7d')⟩

/-- Whether a text starts with a pair of characters. -/
def startsWithPair (pair : Char × Char) : List Char → Bool
  | c :: d :: _ => (c, d) == pair
  | _ => false

/-- Reads a block comment after its opening; `depth` counts the comments inside each other.  A
comment cannot be opened directly after another opening, which `mayOpen` says. -/
def readBlock (marks : BlockMarks) (nested mayOpen : Bool) (depth : Nat) :
    List Char → Option (List Char × List Char)
  | c :: d :: rest =>
    if (c, d) == marks.closing then
      match depth with
      | 0 => some ([], rest)
      | outer + 1 =>
        (readBlock marks nested true outer (d :: rest)).map fun (body, after) => (c :: body, after)
    else if nested && mayOpen && (c, d) == marks.opening then
      (readBlock marks nested false (depth + 1) rest).map fun (body, after) =>
        (c :: d :: body, after)
    else (readBlock marks nested true depth (d :: rest)).map fun (body, after) => (c :: body, after)
  | _ => none

/-! ## Numbers and words -/

/-- Digits, at most one point and an exponent, as they follow each other in a number.  `sign` says
that a sign is still allowed, which is once after the exponent; `point` and `exponent` that they
were seen. -/
def numberTail (sign point exponent : Bool) : List Char → List Char
  | [] => []
  | c :: rest =>
    if Text.isNumeral c then c :: numberTail sign point exponent rest
    else if c == '.' && !point then c :: numberTail sign true exponent rest
    else if (c == '-' || c == '+') && sign then c :: numberTail false point exponent rest
    else if (c == 'e' || c == 'E') && !exponent then c :: numberTail true point true rest
    else []

/-- Whether a character ends what is read as one token. -/
def Dialect.endsToken (dialect : Dialect) (c : Char) : Bool :=
  Text.isBlank c || dialect.isPunctuation c || c == '\x27' || c == '\x22' || c == '\x60'

/-- Whether a character ends a word. -/
def Dialect.endsWord (dialect : Dialect) (c : Char) : Bool :=
  !dialect.nameMarks.contains c && dialect.endsToken c

/-- The types that letters behind a number stand for. -/
def Dialect.numberTypes (dialect : Dialect) : List (String × String) :=
  if dialect.likeHive then
    [("L", "BIGINT"), ("S", "SMALLINT"), ("Y", "TINYINT"), ("D", "DOUBLE"), ("F", "FLOAT"),
      ("BD", "DECIMAL")]
  else []

/-- The text after a phrase whose blanks stand for any blanks, in any case. -/
def dropPhrase : List Char → List Char → Option (List Char)
  | [], text => some text
  | ' ' :: phrase, text =>
    match text with
    | c :: rest => if Text.isBlank c then dropPhrase phrase (rest.dropWhile Text.isBlank) else none
    | [] => none
  | p :: phrase, c :: text => if (Text.upperChar c) == [p] then dropPhrase phrase text else none
  | _ :: _, [] => none

/-- The keyword of several words at the start of a text, with the rest. -/
def readPhrase? (dialect : Dialect) (text : List Char) : Option (String × String × List Char) :=
  (dialect.ownPhrases ++ phraseKeywords).findSome? fun (phrase, keyword) =>
    match dropPhrase phrase.toList text with
    | some rest =>
      if rest.head?.all dialect.endsToken then some (phrase, keyword, rest) else none
    | none => none

/-- The operator of several characters at the start of a text, with the rest. -/
def readOperator? (dialect : Dialect) (text : List Char) : Option (String × Kind × List Char) :=
  (dialect.ownOperators ++ operators).findSome? fun (mark, kind) =>
    if mark.toList.isPrefixOf (Text.upper (text.take mark.length)) then
      some (mark, kind, text.drop mark.length)
    else none

/-- Keywords that take the rest of their statement as it is written. -/
def Dialect.isCommandWord (dialect : Dialect) (kind : Kind) : Bool :=
  match kind with
  | .keyword "COMMAND" | .keyword "EXECUTE" | .keyword "FETCH" | .keyword "RENAME" => true
  | .keyword "SHOW" => !dialect.isNamed "snowflake" && !dialect.likeMysql
  | .keyword "REPLACE" => dialect.likeMysql || dialect.isNamed "sqlite"
  | .keyword "END" => dialect.isNamed "tsql"
  | _ => false

/-- Whether the last token starts a statement that is kept as written. -/
def Dialect.startsCommand (dialect : Dialect) (tokens : List Token) : Bool :=
  match tokens with
  | [token] => dialect.isCommandWord token.kind
  | token :: before :: _ =>
    dialect.isCommandWord token.kind &&
      (before.kind == .symbol ";" || before.kind == .keyword "BEGIN")
  | [] => false

/-- The characters of a text that are not in its rest. -/
def consumed (text rest : List Char) : List Char :=
  text.take (text.length - rest.length)

/-- Keywords after which a comment can be a hint. -/
def hintedKeywords : List Kind :=
  [.keyword "SELECT", .keyword "INSERT", .keyword "UPDATE", .keyword "DELETE"]

/-- Reads a number, with the letters behind it where they belong to it. -/
def readNumber (dialect : Dialect) (state : LexState) (text : List Char) : LexState × List Char :=
  let word := text.takeWhile fun c => !dialect.endsToken c
  let based (kind : Kind) : LexState × List Char :=
    let digits := word.drop 2
    let added := if spellsNumber kind digits then state.add dialect kind (String.ofList digits) word
      else state.add dialect .quotedName (String.ofList word) word
    (added, text.drop word.length)
  let lead := (Text.upper (text.take 2))
  if lead == ['0', 'X'] then
    if dialect.hexMarks.isSome then based .hexString
    else (state.add dialect .number "0" ['0'], text.drop 1)
  else if lead == ['0', 'B'] then
    if dialect.bitMarks.isSome then based .bitString
    else (state.add dialect .number "0" ['0'], text.drop 1)
  else
    let isParameter := state.tokens.head?.any (·.kind == .symbol "@")
    let number := text.take 1 ++ numberTail false isParameter false (text.drop 1)
    let number := if isParameter then number.takeWhile (· != '.') else number
    let rest := text.drop number.length
    let suffix := rest.takeWhile fun c => !dialect.endsToken c
    let start := rest.head?.any fun c => Text.isWord c && !Text.isNumeral c
    match dialect.numberTypes.lookup (String.ofList suffix).upperCase with
    | some type =>
      let state := state.add dialect .number (String.ofList number) number
      let state := state.add dialect (.symbol "::") "::" []
      (state.add dialect (.keyword type) (String.ofList suffix) suffix, rest.drop suffix.length)
    | none =>
      if start && dialect.digitNames then
        (state.add dialect .name (String.ofList (number ++ suffix)) (number ++ suffix),
          rest.drop suffix.length)
      else (state.add dialect .number (String.ofList number) number, rest)

/-- Reads a word, and starts the body of a statement that is kept as written. -/
def readWord (dialect : Dialect) (state : LexState) (text : List Char) : LexState × List Char :=
  let word := text.take 1 ++ (text.drop 1).takeWhile fun d => !dialect.endsWord d
  let spelled := String.ofList word
  let isParameter := state.tokens.head?.any (·.kind == .symbol "@")
  let kind := if isParameter then .name else dialect.wordKind spelled.upperCase
  (state.add dialect kind spelled word, text.drop word.length)

/-- Starts the body of a statement that is kept as written, if the last token asks for it. -/
def LexState.startBody (state : LexState) (dialect : Dialect) (rest : List Char) : LexState :=
  if state.body.isNone && dialect.startsCommand state.tokens && rest.head? != some ';' then
    { state with body := some rest, kept := state.tokens.length }
  else state

/-- Ends the body of a statement that is kept as written: its text becomes one string. -/
def LexState.endBody (state : LexState) (dialect : Dialect) (rest : List Char) : LexState :=
  match state.body with
  | none => state
  | some body =>
    let text := consumed body rest
    let trimmed := Text.strip text
    let before :=
      { state with body := none, tokens := state.tokens.drop (state.tokens.length - state.kept) }
    if trimmed.isEmpty then before
    else { before.add dialect .string (String.ofList trimmed) [] with comments := [] }

/-- Reads one token or comment at the start of a non-blank text. -/
def readToken (dialect : Dialect) (state : LexState) (text : List Char) :
    Except Fault (LexState × List Char) :=
  match text with
  | [] => .ok (state, [])
  | c :: rest =>
    let lineComment (size : Nat) :=
      let body := (text.drop size).takeWhile fun d => d != '\n' && d != '\r'
      let used := text.take (size + body.length)
      .ok (state.addComment (String.ofList body) used, text.drop used.length)
    let quotedToken (kind : Kind) (found : Option (List Char × List Char)) :=
      match found with
      | some (value, after) =>
        if spellsNumber kind value then
          .ok (state.add dialect kind (String.ofList value) (consumed text after), after)
        else .error .unterminated
      | none => .error .unterminated
    let added (kind : Kind) (shown : String) (after : List Char) :=
      let state := state.add dialect kind shown (consumed text after)
      .ok (state.startBody dialect after, after)
    if Text.isNumeral c then .ok (readNumber dialect state text)
    else if c == dialect.identifierQuotes.1 then
      quotedToken .quotedName (readQuoted (dialect.nameQuoting dialect.identifierQuotes.2) rest)
    else if let some close := dialect.extraIdentifierQuotes.lookup c then
      quotedToken .quotedName (readQuoted (dialect.nameQuoting close) rest)
    else if "--".toList.isPrefixOf text then lineComment 2
    else if dialect.slashComments && "//".toList.isPrefixOf text then lineComment 2
    else if let some marks :=
      [statementBlock, templateBlock].find? (startsWithPair ·.opening text) then
      let isHint := dialect.hints && "/*+".toList.isPrefixOf text
      match readBlock marks dialect.nestedComments false 0
        (text.drop (if isHint then 3 else 2)) with
      | some (body, after) =>
        let used := consumed text after
        if isHint && state.tokens.head?.any (hintedKeywords.contains ·.kind) then
          .ok (state.add dialect (.symbol "/*+") (String.ofList body) used, after)
        else .ok (state.addComment (String.ofList body) used, after)
      | none => .error .unterminated
    else if let some (kind, found) := readString? dialect text then quotedToken kind found
    else if let some found := readDollars? dialect text then quotedToken .rawString found
    else if let some (mark, kind, after) := readOperator? dialect text then added kind mark after
    else if dialect.hashComments && c == '#' then lineComment 1
    else if let some (phrase, keyword, after) := readPhrase? dialect text then
      added (.keyword keyword) phrase after
    else if dialect.isPunctuation c then
      .ok (state.add dialect (dialect.markKind c) (String.singleton c) [c], rest)
    else if c == '\x27' || c == '\x22' || c == '\x60' then
      .ok (state.add dialect .unknown (String.singleton c) [c], rest)
    else
      let (state, after) := readWord dialect state text
      .ok (state.startBody dialect after, after)

/-- Reads tokens; `rounds` bounds their number. -/
def readTokens (dialect : Dialect) : Nat → LexState → List Char → Except Fault LexState
  | 0, state, _ => .ok state
  | rounds + 1, state, text =>
    let blanks := text.takeWhile Text.isBlank
    let state := state.skip blanks
    let rest := text.drop blanks.length
    let state := if rest.isEmpty || rest.head? == some ';' then state.endBody dialect rest
      else state
    match rest with
    | [] => .ok state
    | rest => do
      let (state, rest) ← readToken dialect state rest
      readTokens dialect rounds state rest

/-- The tokens of a text.  Comments after the last token belong to it. -/
def tokenize (dialect : Dialect) (text : List Char) : Except Fault (List Token) := do
  let state ← readTokens dialect (text.length + 1) {} text
  return state.settle.tokens.reverse

end SqlLayout.Grammar
