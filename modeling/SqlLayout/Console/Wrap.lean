import SqlLayout.Console.Width

/-!
# Wrapped lines

A line that is too wide for its place is broken between words.  A word that is too wide for any line
is broken anywhere, or cut with an ellipsis.
-/

namespace SqlLayout.Console

/-- What happens to a word that is wider than a line. -/
inductive Overflow where
  | fold
  | ellipsis
  deriving DecidableEq, Repr

/-- The words of a line with the blanks after them; the first has the blanks before it too.  `word`
holds the current word in reverse, and `ended` says that a blank follows its letters. -/
def wordsFrom (word : List Char) (ended : Bool) : List Char → List (List Char)
  | [] => if word.isEmpty then [] else [word.reverse]
  | c :: rest =>
    if Text.isBlank c then wordsFrom (c :: word) (word.any (!Text.isBlank ·)) rest
    else if ended then word.reverse :: wordsFrom [c] false rest
    else wordsFrom (c :: word) false rest

/-- The words of a line, with the blanks around them. -/
def words (line : List Char) : List (List Char) :=
  wordsFrom [] false line

/-- Nothing is lost between words. -/
theorem flatten_wordsFrom (word : List Char) (ended : Bool) (line : List Char) :
    (wordsFrom word ended line).flatten = word.reverse ++ line := by
  induction line generalizing word ended with
  | nil => cases word <;> simp [wordsFrom]
  | cons c rest ih =>
    unfold wordsFrom
    split
    · simp [ih]
    · split <;> simp [ih]

/-- The words of a line make up the line. -/
theorem flatten_words (line : List Char) : (words line).flatten = line := by
  simp [words, flatten_wordsFrom]

/-- A text cut into parts of at most the given width; `part` holds the current part in reverse. -/
def chopFrom (columns : Nat) (part : List Char) : List Char → List (List Char)
  | [] => [part.reverse]
  | c :: rest =>
    if columns < width part.reverse + charWidth c then part.reverse :: chopFrom columns [c] rest
    else chopFrom columns (c :: part) rest

/-- Nothing is lost between the parts of a text. -/
theorem flatten_chopFrom (columns : Nat) (part text : List Char) :
    (chopFrom columns part text).flatten = part.reverse ++ text := by
  induction text generalizing part with
  | nil => simp [chopFrom]
  | cons c rest ih =>
    unfold chopFrom
    split <;> simp [ih]

/-- Breaks the words of a line into lines; `line` is the current line. -/
def fill (columns : Nat) (overflow : Overflow) (line : List Char) :
    List (List Char) → List (List Char)
  | [] => [line]
  | word :: rest =>
    let letters := width (Text.dropEndWhile Text.isBlank word)
    if width line + letters ≤ columns then fill columns overflow (line ++ word) rest
    else if columns < letters && overflow == .fold then
      let parts := chopFrom columns [] word
      let before := if line.isEmpty then [] else [line]
      before ++ parts.dropLast ++ fill columns overflow ((parts.getLast?).getD []) rest
    else if line.isEmpty then fill columns overflow word rest
    else line :: fill columns overflow word rest

/-- A text has at least one part. -/
theorem chopFrom_ne_nil (columns : Nat) (part text : List Char) :
    chopFrom columns part text ≠ [] := by
  induction text generalizing part with
  | nil => exact List.cons_ne_nil _ _
  | cons c rest ih =>
    unfold chopFrom
    split
    · exact List.cons_ne_nil _ _
    · exact ih _

/-- The last part of a text ends what stands before it. -/
theorem flatten_dropLast_chopFrom (columns : Nat) (text : List Char) :
    (chopFrom columns [] text).dropLast.flatten ++ (chopFrom columns [] text).getLast?.getD [] =
      text := by
  have hne := chopFrom_ne_nil columns [] text
  have htext := flatten_chopFrom columns [] text
  rw [← List.dropLast_concat_getLast hne] at htext
  simpa [List.getLast?_eq_some_getLast hne] using htext

/-- Nothing is lost between lines. -/
theorem flatten_fill (columns : Nat) (overflow : Overflow) (line : List Char)
    (words : List (List Char)) :
    (fill columns overflow line words).flatten = line ++ words.flatten := by
  induction words generalizing line with
  | nil => simp [fill]
  | cons word rest ih =>
    rw [List.flatten_cons]
    simp only [fill]
    split
    next => rw [ih, List.append_assoc]
    split
    -- a word that is too wide goes on in the last of its parts
    next =>
      have hparts := flatten_dropLast_chopFrom columns word
      cases line <;> simp [ih, ← List.append_assoc, hparts]
    split
    next hline => rw [ih, List.isEmpty_iff.1 hline, List.nil_append]
    next => rw [List.flatten_cons, ih]

/-- The lines that a line is broken into make up the line. -/
theorem flatten_fill_words (columns : Nat) (overflow : Overflow) (line : List Char) :
    (fill columns overflow [] (words line)).flatten = line := by
  rw [flatten_fill, flatten_words, List.nil_append]

/-- A line without the blanks at its end that stand beyond its place. -/
def dropExcess (columns : Nat) (line : List Char) : List Char :=
  let kept := Text.dropEndWhile Text.isBlank line
  line.take (max kept.length columns)

/-- A line cut to its place. -/
def cut (columns : Nat) (overflow : Overflow) (line : List Char) : List Char :=
  if width line ≤ columns then line
  else match overflow with
    | .fold => fit columns line
    | .ellipsis => fit (columns - 1) line ++ ['…']

/-- The lines of a text that is shown in the given columns. -/
def wrap (columns : Nat) (overflow : Overflow) (text : List Char) : List (List Char) :=
  (Text.splitOn '\n' (visible text)).flatMap fun line =>
    let line := expandTabs 0 line
    (fill columns overflow [] (words line)).map fun part =>
      cut columns overflow (dropExcess columns part)

/-- The columns of a console. -/
def columns : Nat := 1000

/-- A message on a console, with a line end. -/
def message (text : String) : String :=
  String.join ((wrap columns .fold text.toList).map fun line => String.ofList line ++ "\n")

/-- A log message on a console: the name of its level in a column of its own, then the message. -/
def logMessage (level text : String) : String :=
  let margin := 9
  let lines := (wrap (columns - margin) .fold text.toList).map String.ofList
  String.join (lines.zipIdx.map fun (line, index) =>
    String.ofList (fit margin (if index == 0 then level.toList else [])) ++ line ++ "\n")

end SqlLayout.Console
