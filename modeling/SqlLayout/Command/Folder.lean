import SqlLayout.Text.Basic
import SqlLayout.Text.Encoding

/-!
# Folders

The files that a command sees, and the places that paths lead to.

## Implementation notes

Folders have no entry of their own unless they are listed: a folder exists when a file lies in it.
Replacing the text of a file keeps the list of places, so it changes no other file and no path leads
elsewhere.  A file whose bytes are no text has a fault in place of a text, until a text is written
there; at a place with a text no fault counts.
-/

namespace SqlLayout.Command

/-- A place in the folder: the names on the way to it.  The first name is a slash or two if the way
starts at the root. -/
abbrev Place := List String

/-- A written path without the names that lead nowhere. -/
def placeOf (path : String) : Place :=
  let chars := path.toList
  let names := ((Text.splitOn '/' chars).map String.ofList).filter fun name => !name.isEmpty &&
    name != "."
  match (chars.takeWhile (· == '/')).length with
  | 0 => names
  | 2 => "//" :: names
  | _ => "/" :: names

/-- A place as a path. -/
def Place.path : Place → String
  | [] => "."
  | first :: rest =>
    if first.startsWith "/" then first ++ "/".intercalate rest else "/".intercalate (first :: rest)

/-- Why a path cannot be followed, or the file there cannot be read or written. -/
inductive PathFault where
  | missing
  | notFolder
  | isFolder
  | nameTooLong
  /-- The bytes of the file are no text. -/
  | notText (fault : Text.DecodeFault)
  deriving DecidableEq, Repr

/-- The wording of a fault at a path. -/
def PathFault.message (path : String) : PathFault → String
  | .missing => "[Errno 2] No such file or directory: " ++ path.shown
  | .notFolder => "[Errno 20] Not a directory: " ++ path.shown
  | .isFolder => "[Errno 21] Is a directory: " ++ path.shown
  | .nameTooLong => "[Errno 36] File name too long: " ++ path.shown
  | .notText fault => fault.message

/-- The most bytes that a name can have. -/
def maxNameSize : Nat := 255

/-- The most bytes that a path can have. -/
def maxPathSize : Nat := 4095

/-- Files with their texts, files whose bytes are no text, and further folders that exist. -/
structure Folder where
  files : List (Place × String) := []
  faults : List (Place × Text.DecodeFault) := []
  folders : List Place := []
  deriving Repr

namespace Folder

/-- The text of the file at a place. -/
def file? (folder : Folder) (place : Place) : Option String :=
  folder.files.lookup place

/-- What is wrong with the bytes of the file at a place. -/
def fault? (folder : Folder) (place : Place) : Option Text.DecodeFault :=
  folder.faults.lookup place

/-- Whether there is a file at a place. -/
def hasFile (folder : Folder) (place : Place) : Bool :=
  (folder.file? place).isSome || (folder.fault? place).isSome

/-- The places of the files. -/
def places (folder : Folder) : List Place :=
  folder.files.map (·.1) ++ folder.faults.map (·.1)

/-- Whether there is a folder at a place. -/
def hasFolder (folder : Folder) (place : Place) : Bool :=
  place.all (fun name => name == ".." || name.startsWith "/") ||
    folder.folders.contains place ||
    folder.places.any fun file => place.isPrefixOf file && file != place

/-- Goes one name further from a place. -/
def step (folder : Folder) (place : Place) (name : String) : Except PathFault Place :=
  if !folder.hasFolder place then
    .error (if folder.hasFile place then .notFolder else .missing)
  else if name == ".." then
    match place.getLast? with
    | none | some ".." => .ok (place ++ [name])
    | some last => .ok (if last.startsWith "/" then place else place.dropLast)
  else if name.utf8ByteSize > maxNameSize then .error .nameTooLong
  else .ok (place ++ [name])

/-- The place that a path leads to. -/
def locate (folder : Folder) (path : String) : Except PathFault Place :=
  if (placeOf path).path.utf8ByteSize > maxPathSize then .error .nameTooLong
  else (placeOf path).foldlM folder.step []

/-- The text of the file that a path leads to; a path that leads to no file has none. -/
def read (folder : Folder) (path : String) : Except PathFault (Option String) :=
  match folder.locate path with
  | .ok place =>
    match folder.file? place, folder.fault? place with
    | none, some fault => .error (.notText fault)
    | text, _ => .ok text
  | .error .nameTooLong => .error .nameTooLong
  | .error _ => .ok none

/-- Puts a text at a place: the file there gets the text, or a new file is made. -/
def put (folder : Folder) (place : Place) (text : String) : Folder :=
  if (folder.file? place).isSome then
    { folder with
      files := folder.files.map fun file => if file.1 = place then (place, text) else file }
  else
    { folder with
      files := folder.files ++ [(place, text)]
      faults := folder.faults.filter fun file => file.1 != place }

/-- Writes the file that a path leads to. -/
def write (folder : Folder) (path text : String) : Except PathFault Folder := do
  let place ← folder.locate path
  if folder.hasFolder place then throw .isFolder
  return folder.put place text

/-- Looking up a place after the text of a file was replaced. -/
theorem lookup_replace (files : List (Place × String)) (place other : Place) (text : String) :
    (files.map fun file => if file.1 = place then (place, text) else file).lookup other =
      if other = place then (files.lookup other).map fun _ => text else files.lookup other := by
  induction files with
  | nil => simp
  | cons file rest ih =>
    obtain ⟨here, old⟩ := file
    by_cases hp : here = place
    · by_cases ho : other = place
      · simp [hp, ho]
      · have hb : (other == place) = false := by simpa using ho
        simpa [List.lookup_cons, hp, hb, ho] using ih
    · by_cases ho : other = here
      · simp [hp, ho]
      · have hb : (other == here) = false := by simpa using ho
        simpa [List.lookup_cons, hp, hb] using ih

/-- Looking up a place in two lists of files. -/
theorem lookup_append (files more : List (Place × String)) (place : Place) :
    (files ++ more).lookup place = (files.lookup place).or (more.lookup place) := by
  induction files with
  | nil => simp
  | cons file rest ih =>
    obtain ⟨here, text⟩ := file
    by_cases h : (place == here) = true <;> simp [List.lookup_cons, h, ih]

/-- A text that was put at a place is found there, and nothing else changes. -/
theorem file?_put (folder : Folder) (place other : Place) (text : String) :
    (folder.put place text).file? other = if other = place then some text
      else folder.file? other := by
  unfold put
  split
  case isTrue h =>
    simp only [file?] at h ⊢
    rw [lookup_replace]
    split
    case isTrue ho =>
      subst ho
      obtain ⟨old, ho⟩ := Option.isSome_iff_exists.1 h
      simp [ho]
    case isFalse => rfl
  case isFalse h =>
    simp only [file?, Bool.not_eq_true, Option.isSome_eq_false_iff,
      Option.isNone_iff_eq_none] at h ⊢
    rw [lookup_append]
    by_cases ho : other = place
    · subst ho
      simp [h]
    · have : (other == place) = false := by simpa using ho
      simp [List.lookup_cons, this, ho]

end Folder

end SqlLayout.Command
