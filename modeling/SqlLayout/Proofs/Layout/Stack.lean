import SqlLayout.Proofs.Layout.Documents

/-!
# Rendering with a stack

A loop takes documents with their levels off a stack.  It puts the parts of a document back in its
place, and what is written in the end onto a list of pieces.  At a line break, and at the end, blank
pieces are taken off that list again and the last one that stays loses the spaces at its end.  The
loop ends for every document, with the rendered text.

## Implementation notes

The pieces are kept with the last one in front.  What the loop writes for a document is what it
writes for the items of the document, whatever stands below it on the stack.
-/

namespace SqlLayout.Layout

open Text (dropEndWhile)

/-- Takes the blank pieces off, and the spaces off the end of the last one that is not blank. -/
def trimPieces : List String → List String
  | [] => []
  | piece :: rest =>
    let trimmed := dropEndWhile (· == ' ') piece.toList
    if trimmed.isEmpty then trimPieces rest else String.ofList trimmed :: rest

/-- The piece that begins a line of a level. -/
def lineStart (tabWidth level : Nat) : String :=
  String.ofList ('\n' :: List.replicate (level * tabWidth) ' ')

/-- The loop, given the documents on the stack and the pieces that are written: what it returns in
the end. -/
inductive Renders (tabWidth : Nat) : List (Doc × Nat) → List String → String → Prop
  | done {out : List String} : Renders tabWidth [] out (String.join (trimPieces out).reverse)
  | text {s : String} {level : Nat} {stack : List (Doc × Nat)} {out : List String} {result : String}
      (h : Renders tabWidth stack (s :: out) result) :
        Renders tabWidth ((.text s, level) :: stack) out result
  | hardline {level : Nat} {stack : List (Doc × Nat)} {out : List String} {result : String}
      (h : Renders tabWidth stack (lineStart tabWidth level :: trimPieces out) result) :
      Renders tabWidth ((.hardline, level) :: stack) out result
  | indent {contents : Doc} {level : Nat} {stack : List (Doc × Nat)} {out : List String}
      {result : String}
      (h : Renders tabWidth ((contents, level + 1) :: stack) out result) :
      Renders tabWidth ((.indent contents, level) :: stack) out result
  | join {separator : Doc} {parts : List Doc} {level : Nat} {stack : List (Doc × Nat)}
      {out : List String}
      {result : String} (h : Renders tabWidth
        ((parts.intersperse separator).map (·, level) ++ stack) out result) :
      Renders tabWidth ((.join separator parts, level) :: stack) out result
  | concat {parts : List Doc} {level : Nat} {stack : List (Doc × Nat)} {out : List String}
      {result : String}
      (h : Renders tabWidth (parts.map (·, level) ++ stack) out result) :
      Renders tabWidth ((.concat parts, level) :: stack) out result

section

variable {tabWidth : Nat} {stack : List (Doc × Nat)} {out : List String} {result other : String}

/-- The loop returns one text. -/
theorem Renders.unique (h : Renders tabWidth stack out result)
    (h' : Renders tabWidth stack out other) :
    result = other := by
  induction h with
  | done => cases h'; rfl
  | text _ ih | hardline _ ih | indent _ ih | join _ ih | concat _ ih =>
      exact ih (by cases h'; assumption)

/-! ## Pieces -/

/-- The pieces after some items are written. -/
def pieces (tabWidth : Nat) (out : List String) : List Item → List String
  | [] => out
  | .text s :: rest => pieces tabWidth (s :: out) rest
  | .newline level :: rest => pieces tabWidth (lineStart tabWidth level :: trimPieces out) rest

theorem pieces_append (front back : List Item) :
    pieces tabWidth out (front ++ back) = pieces tabWidth (pieces tabWidth out front) back := by
  induction front generalizing out with
  | nil => rfl
  | cons item rest ih => cases item <;> exact ih

mutual

/-- A document on the stack has the loop write its items and go on. -/
theorem Renders.doc (doc : Doc) {level : Nat} {stack : List (Doc × Nat)} {out : List String}
    (h : Renders tabWidth stack (pieces tabWidth out (doc.items level)) result) :
    Renders tabWidth ((doc, level) :: stack) out result := by
  cases doc with
  | text s => exact .text h
  | hardline => exact .hardline h
  | indent contents => exact .indent (Renders.doc contents h)
  | join separator parts => exact .join (Renders.joined (fun h => Renders.doc separator h) parts h)
  | concat parts => exact .concat (Renders.parts parts h)

theorem Renders.parts (parts : List Doc) {level : Nat} {stack : List (Doc × Nat)}
    {out : List String}
    (h : Renders tabWidth stack (pieces tabWidth out (concatItems level parts)) result) :
    Renders tabWidth (parts.map (·, level) ++ stack) out result := by
  cases parts with
  | nil => exact h
  | cons part rest =>
      rw [concatItems, pieces_append] at h
      exact Renders.doc part (Renders.parts rest h)

theorem Renders.joined {separator : Doc} {level : Nat}
    (hseparator : ∀ {stack : List (Doc × Nat)} {out : List String},
      Renders tabWidth stack (pieces tabWidth out (separator.items level)) result →
        Renders tabWidth ((separator, level) :: stack) out result)
    (parts : List Doc) {stack : List (Doc × Nat)} {out : List String}
    (h : Renders tabWidth stack
      (pieces tabWidth out (joinItems level (separator.items level) parts)) result) :
    Renders tabWidth ((parts.intersperse separator).map (·, level) ++ stack) out result := by
  match parts with
  | [] => exact h
  | [part] =>
      rw [joinItems, pieces_append] at h
      exact Renders.doc part h
  | part :: next :: rest =>
      have h : Renders tabWidth stack (pieces tabWidth out (part.items level ++
        (separator.items level ++ joinItems level (separator.items level) (next :: rest))))
          result := h
      rw [pieces_append, pieces_append] at h
      exact Renders.doc part (hseparator (Renders.joined hseparator (next :: rest) h))

end

/-! ## Written texts -/

/-- The characters of pieces, the last one in front. -/
def reversedText (out : List String) : List Char :=
  out.flatMap fun piece => piece.toList.reverse

theorem toList_join_reverse (out : List String) :
    (String.join out.reverse).toList = (reversedText out).reverse := by
  induction out with
  | nil => rfl
  | cons piece rest ih =>
      rw [String.toList_join] at ih ⊢
      rw [List.reverse_cons, List.flatMap_append, ih]
      simp [reversedText]

theorem reversedText_trimPieces (out : List String) :
    reversedText (trimPieces out) = trimSpaces (reversedText out) := by
  induction out with
  | nil => rfl
  | cons piece rest ih =>
      have hdrop : trimSpaces (reversedText (piece :: rest)) =
        if (dropEndWhile (· == ' ') piece.toList).isEmpty then
          trimSpaces (reversedText rest) else (dropEndWhile (· == ' ') piece.toList).reverse ++
            reversedText rest := by
        rw [trimSpaces, reversedText, List.flatMap_cons, List.dropWhile_append]
        simp [dropEndWhile, reversedText, trimSpaces]
      rw [hdrop, trimPieces]
      split
      · exact ih
      · simp [reversedText]

theorem trimSpaces_pieces (items : List Item) (out : List String) :
    trimSpaces (reversedText (pieces tabWidth out items)) =
      writeItems tabWidth (reversedText out) items := by
  induction items generalizing out with
  | nil => rfl
  | cons item rest ih =>
      cases item with
      | text s => exact ih (s :: out)
      | newline level =>
          have hline : reversedText (lineStart tabWidth level :: trimPieces out) =
              List.replicate (level * tabWidth) ' ' ++ '\n' :: trimSpaces (reversedText out) := by
            rw [← reversedText_trimPieces]
            simp [reversedText, lineStart]
          rw [pieces, ih, hline, writeItems]

/-- The loop returns the rendered text of a document, and nothing else. -/
theorem renders_iff (doc : Doc) : Renders tabWidth [(doc, 0)] [] result ↔
    result = doc.render tabWidth := by
  have htext : String.join (trimPieces (pieces tabWidth [] (doc.items 0))).reverse =
      doc.render tabWidth := by
    rw [← String.toList_inj, toList_join_reverse, reversedText_trimPieces, trimSpaces_pieces,
      Doc.render, String.toList_ofList]
    rfl
  have hrenders : Renders tabWidth [(doc, 0)] [] (doc.render tabWidth) :=
    Renders.doc doc (htext ▸ .done)
  exact ⟨fun h => h.unique hrenders, fun h => h ▸ hrenders⟩

end

end SqlLayout.Layout
