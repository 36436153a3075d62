import SqlLayout.Text.CaseTable

/-!
# Upper and lower case

Full case mappings: a character may become several (`ß` is written `SS`), and a capital sigma at the
end of a word gets its final form.
-/

namespace SqlLayout.Text

/-- The character a table of runs maps a code point to. -/
def mapRun (runs : List CaseRun) (c : Char) : Char :=
  match runs.find? fun run =>
      run.first ≤ c.toNat && c.toNat ≤ run.last && (c.toNat - run.first) % run.step == 0 with
  | some run => Char.ofNat (c.toNat + run.offset).toNat
  | none => c

/-- The mapping of one character beyond ASCII: an expansion if there is one, else a run. -/
def mapChar (expansions : List (Nat × List Nat)) (runs : List CaseRun) (c : Char) : List Char :=
  match expansions.lookup c.toNat with
  | some codes => codes.map Char.ofNat
  | none => [mapRun runs c]

/-- The upper-case form of one character. -/
def upperChar (c : Char) : List Char :=
  if c.toNat < 128 then
    [if 'a' ≤ c && c ≤ 'z' then Char.ofNat (c.toNat - 32) else c]
  else mapChar upperExpansions upperRuns c

/-- The lower-case form of one character on its own. -/
def lowerChar (c : Char) : List Char :=
  if c.toNat < 128 then
    [if 'A' ≤ c && c ≤ 'Z' then Char.ofNat (c.toNat + 32) else c]
  else mapChar lowerExpansions lowerRuns c

/-- The upper-case form of a text. -/
def upper (text : List Char) : List Char :=
  text.flatMap upperChar

/-- Whether the nearest character that is not ignorable is a cased letter. -/
def nextIsCased (text : List Char) : Bool :=
  match text.dropWhile fun c => caseIgnorableRanges.has c.toNat with
  | [] => false
  | c :: _ => casedRanges.has c.toNat

/-- The form of a sigma with the given text before it (nearest character first) and after it. -/
def lowerSigma (before after : List Char) : Char :=
  if nextIsCased before && !nextIsCased after then 'ς' else 'σ'

/-- Lower-cases a text; `before` holds the characters already read, nearest first. -/
def lowerFrom (before : List Char) : List Char → List Char
  | [] => []
  | c :: rest =>
    (if c == 'Σ' then [lowerSigma before rest] else lowerChar c) ++ lowerFrom (c :: before) rest

/-- The lower-case form of a text. -/
def lower (text : List Char) : List Char :=
  lowerFrom [] text

end SqlLayout.Text

namespace String

/-- The full upper-case form of a string. -/
def upperCase (s : String) : String :=
  String.ofList (SqlLayout.Text.upper s.toList)

/-- The full lower-case form of a string. -/
def lowerCase (s : String) : String :=
  String.ofList (SqlLayout.Text.lower s.toList)

end String
