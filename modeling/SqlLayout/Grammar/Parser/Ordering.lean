import SqlLayout.Grammar.Parser.Basic

/-!
# Orderings, limits and offsets
-/

namespace SqlLayout.Grammar

open SqlLayout.Grammar.Parser
open SqlLayout.Tree (NullsPlace)

/-- The direction after an ordering key; `some false` is a written `ASC`. -/
def direction : Parser (Option Bool) := do
  let asc ← word "ASC"
  let desc ← word "DESC"
  return if desc then some true else if asc then some false else none

/-- Whether missing values come first when nothing is written. -/
def nullsFirstByHabit (ordering : NullOrdering) (descending : Bool) : Bool :=
  match ordering with
  | .small => !descending
  | .large => descending
  | .last => false

/-- How missing keys are filled in, as text. -/
def fillClause (r : Rules) : Parser String := do
  unless ← texts ["WITH", "FILL"] do return ""
  let dialect ← dialect
  let part (keyword : String) (starts : Parser Bool) : Parser String := do
    if ← starts then
      return keyword ++ ((← r.bitwise).map (" " ++ ·.sql dialect)).getD ""
    else return ""
  let first ← part "FROM" (word "FROM")
  let last ← part "TO" (texts ["TO"])
  let step ← part "STEP" (texts ["STEP"])
  return words ["WITH FILL", first, last, step]

/-- One key of an ordering.  The place of missing values counts as written only at the very end. -/
def orderedKey (r : Rules) : Parser (Option Ordered) := do
  match ← r.assignment with
  | none => return none
  | some key =>
    let dialect ← dialect
    let descending ← direction
    let isFirst ← texts ["NULLS", "FIRST"]
    let isLast ← texts ["NULLS", "LAST"]
    let first := isFirst ||
      (!isLast && nullsFirstByHabit dialect.nullOrdering (descending == some true))
    let fill ← fillClause r
    let nulls := if !fill.isEmpty then none
      else if isLast then some NullsPlace.last
      else if isFirst then some .first
      else none
    return some (.mk key descending first nulls fill (← claim))

/-- The keys of an ordering after its keyword. -/
def orderKeys (r : Rules) : Parser (List Ordered) := do
  let keys ← commaList (orderedKey r)
  if keys.isEmpty then fail "ordering"
  return keys

/-- An ORDER BY clause. -/
def orderClause (r : Rules) : Parser (Option (List Ordered)) := do
  if ← word "ORDER BY" then return some (← orderKeys r)
  else return none

/-- What a limit or an offset counts for each of, as text. -/
def countedBy (r : Rules) : Parser String := do
  if ← texts ["BY"] then
    let terms ← commaList r.bitwise
    return "BY " ++ ", ".intercalate (termTexts (← dialect) terms)
  else return ""

/-- A limit with the offset that is written before it, and the text behind the offset. -/
structure LimitParts where
  count : Term
  tail : String
  offset : Option Term
  offsetTail : String

/-- A limit after its keyword, whose comments are given; `first` reads the number after it. -/
def limitAfter (r : Rules) (comments : List String) (first : Parser (Option Term)) :
    Parser LimitParts := do
  let value ← first
  let (offset, count) ← if ← mark "," then pure (value, ← r.additive) else pure (none, value)
  let counted ← countedBy r
  let count ← need "limit" (pure count)
  let comments := commentTexts (← claimUnless comments)
  if offset.isSome then
    return { count := count, tail := " ".intercalate comments, offset := offset,
             offsetTail := counted }
  else
    return { count := count, tail := words (counted :: comments), offset := none, offsetTail := "" }

/-- A LIMIT clause. -/
def limitClause (r : Rules) : Parser (Option LimitParts) := do
  if ← word "LIMIT" then return some (← limitAfter r (← pending) r.additive)
  else return none

/-- A FETCH clause, as text. -/
def fetchClause (r : Rules) : Parser (Option String) := do
  unless ← word "FETCH" do return none
  let dialect ← dialect
  let direction ← anyWord ["FIRST", "NEXT"]
  let count ← if (← seesWord "ROW") || (← seesWord "ROWS") then pure none else r.unary
  let percent ← word "PERCENT"
  discard (anyWord ["ROW", "ROWS"])
  let only ← texts ["ONLY"]
  let ties ← texts ["WITH", "TIES"]
  if only && ties then fail "end of limit"
  return some <| words ["FETCH", (direction.map (·.upper)).getD "FIRST",
    (count.map (·.sql dialect)).getD "", if percent then "PERCENT" else "", "ROWS",
    if ties then "WITH TIES" else "ONLY"]

/-- An OFFSET clause, with the text behind it. -/
def offsetClause (r : Rules) : Parser (Option (Term × String)) := do
  if ← word "OFFSET" then
    let count ← need "offset" r.additive
    discard (anyWord ["ROW", "ROWS"])
    return some (count, ← countedBy r)
  else return none

/-- The label after a table: a name, with a list of columns behind it. -/
def tableLabel (r : Rules) (any : Bool) (allowed : Token → Bool) : Parser (Option TableLabel) := do
  let explicit ← word "AS"
  let name ← firstOf [nameOr (explicit && any) allowed, stringAsName]
  let start ← position
  let columns ← if ← mark "(" then
      let columns ← commaList do
        match ← anyName with
        | none => return none
        | some ident => return some (← r.columnTail ident)
      if columns.isEmpty then
        goTo start
        pure []
      else
        close
        pure columns
    else pure []
  if name.isNone && columns.isEmpty then return none
  let dialect ← dialect
  let own ← claim
  let label (item : SchemaItem) : Ident :=
    match item with
    | .column ident _ _ _ => { ident with quoted := false }
    | .name ident => ident
    | .primaryKey _ text | .other text => { name := text }
  return some
    { name := name.map fun ident => { ident with comments := [] }
      columns := columns.map label
      columnTexts := columns.map (·.sql dialect)
      comments := own ++ (name.map (·.comments)).getD [] }

end SqlLayout.Grammar
