import JsonApi.Text.Basic

/-!
# Cutting what was joined

Texts without the separator come back when they are joined and cut again
(`splitAt_joinWith`), so that joining them is injective.
-/

namespace JsonApi.Text

/-- No piece holds the separator. -/
theorem not_mem_of_mem_pieces
    {separator : Char}
    {characters piece : List Char}
    (member : piece ∈ pieces separator characters) :
    separator ∉ piece := by
  induction characters generalizing piece with
  | nil =>
      have empty : piece = [] := by simpa [pieces] using member
      simp [empty]
  | cons head tail induction =>
      rw [pieces] at member
      split at member
      · rcases List.mem_cons.mp member with first | later
        · simp [first]
        · exact induction later
      · rename_i different
        split at member
        · have only : piece = [head] := by simpa using member
          simpa [only] using Ne.symm different
        · rename_i first others cut
          rcases List.mem_cons.mp member with isFirst | later
          · subst isFirst
            have rest : separator ∉ first := induction (by simp [cut])
            simpa [rest] using Ne.symm different
          · exact induction (by simp [cut, later])

/-- A separator ends the pieces before it, and those behind it follow. -/
theorem pieces_append
    (separator : Char)
    (first second : List Char) :
    pieces separator (first ++ separator :: second) =
      pieces separator first ++ pieces separator second := by
  induction first with
  | nil => simp [pieces]
  | cons head tail induction =>
      rw [List.cons_append, pieces, pieces, induction]
      split
      · rfl
      · cases cut : pieces separator tail with
        | nil => exact absurd cut (pieces_ne_nil separator tail)
        | cons piece others => rfl

/-- A text without the separator is its own only piece. -/
theorem pieces_of_not_mem
    {separator : Char}
    {piece : List Char}
    (free : separator ∉ piece) :
    pieces separator piece = [piece] := by
  induction piece with
  | nil => rfl
  | cons head tail induction =>
      have headDiffers : head ≠ separator := by
        intro same
        exact free (by simp [same])
      have tailFree : separator ∉ tail := fun member =>
        free (List.mem_cons_of_mem head member)
      simp [pieces, headDiffers, induction tailFree]

/-- A text before a separator is the first piece. -/
theorem pieces_append_separator
    {separator : Char}
    {piece : List Char}
    (free : separator ∉ piece)
    (rest : List Char) :
    pieces separator (piece ++ separator :: rest) =
      piece :: pieces separator rest := by
  rw [pieces_append, pieces_of_not_mem free, List.singleton_append]

theorem pieces_joinPieces
    {separator : Char}
    {parts : List (List Char)}
    (nonempty : parts ≠ [])
    (free : ∀ part ∈ parts, separator ∉ part) :
    pieces separator (joinPieces separator parts) = parts := by
  induction parts with
  | nil => exact absurd rfl nonempty
  | cons first others induction =>
      have firstFree : separator ∉ first := free first List.mem_cons_self
      cases others with
      | nil => exact pieces_of_not_mem firstFree
      | cons second rest =>
          have tail :=
            induction (List.cons_ne_nil second rest)
              (fun part member => free part (List.mem_cons_of_mem first member))
          simp only [joinPieces]
          rw [pieces_append_separator firstFree, tail]

/-- The texts that a text is cut into do not hold the separator. -/
theorem not_mem_of_mem_splitAt
    {separator : Char}
    {text part : String}
    (member : part ∈ splitAt separator text) :
    separator ∉ part.toList := by
  rcases List.mem_map.mp member with ⟨piece, pieceMember, equal⟩
  subst equal
  simpa using not_mem_of_mem_pieces pieceMember

theorem splitAt_of_not_mem
    {separator : Char}
    {text : String}
    (free : separator ∉ text.toList) :
    splitAt separator text = [text] := by
  rw [splitAt, pieces_of_not_mem free, List.map_singleton, String.ofList_toList]

theorem splitAt_append
    (separator : Char)
    (first second : String) :
    splitAt separator (first ++ String.singleton separator ++ second) =
      splitAt separator first ++ splitAt separator second := by
  have characters :
      (first ++ String.singleton separator ++ second).toList =
        first.toList ++ separator :: second.toList := by
    simp
  rw [splitAt, characters, pieces_append, List.map_append, splitAt, splitAt]

theorem splitAt_joinWith
    {separator : Char}
    {texts : List String}
    (nonempty : texts ≠ [])
    (free : ∀ text ∈ texts, separator ∉ text.toList) :
    splitAt separator (joinWith separator texts) = texts := by
  have parts :
      pieces separator (joinPieces separator (texts.map String.toList)) =
        texts.map String.toList := by
    apply pieces_joinPieces (by simpa using nonempty)
    intro part member
    rcases List.mem_map.mp member with ⟨text, textMember, equal⟩
    subst equal
    exact free text textMember
  simp [splitAt, joinWith, parts, Function.comp_def]

/-- A joined text holds what its parts hold, and the separator. -/
theorem not_mem_joinPieces
    {separator character : Char}
    {parts : List (List Char)}
    (notSeparator : character ≠ separator)
    (free : ∀ part ∈ parts, character ∉ part) :
    character ∉ joinPieces separator parts := by
  induction parts with
  | nil => simp [joinPieces]
  | cons first others induction =>
      have firstFree := free first List.mem_cons_self
      cases others with
      | nil => exact firstFree
      | cons second others =>
          have later := induction fun part member =>
            free part (List.mem_cons_of_mem _ member)
          rw [joinPieces, List.mem_append, List.mem_cons, not_or, not_or]
          exact ⟨firstFree, notSeparator, later⟩

theorem mem_joinWith
    (separator : Char)
    {character : Char}
    {text : String}
    {texts : List String}
    (member : text ∈ texts)
    (inText : character ∈ text.toList) :
    character ∈ (joinWith separator texts).toList := by
  rw [joinWith, String.toList_ofList]
  induction texts with
  | nil => cases member
  | cons first others induction =>
      cases others with
      | nil =>
          rw [List.mem_singleton.mp member] at inText
          exact inText
      | cons second rest =>
          rw [List.map_cons, List.map_cons, joinPieces, List.mem_append,
            List.mem_cons]
          rcases List.mem_cons.mp member with isFirst | later
          · rw [isFirst] at inText
            exact Or.inl inText
          · exact Or.inr (Or.inr (induction later))

/-- Joining goes on behind a separator. -/
theorem joinPieces_append
    (separator : Char)
    {first second : List (List Char)}
    (nonempty : first ≠ [])
    (more : second ≠ []) :
    joinPieces separator (first ++ second) =
      joinPieces separator first ++
        separator :: joinPieces separator second := by
  induction first with
  | nil => exact absurd rfl nonempty
  | cons piece others induction =>
      cases others with
      | nil =>
          rcases List.exists_cons_of_ne_nil more with ⟨next, rest, rfl⟩
          rfl
      | cons another rest =>
          have tail := induction (List.cons_ne_nil another rest)
          simp only [List.cons_append] at tail ⊢
          simp only [joinPieces]
          rw [tail]
          simp

@[simp]
theorem joinWith_singleton
    (separator : Char)
    (text : String) :
    joinWith separator [text] = text := by
  simp [joinWith, joinPieces]

theorem joinWith_append
    (separator : Char)
    {first second : List String}
    (nonempty : first ≠ [])
    (more : second ≠ []) :
    joinWith separator (first ++ second) =
      joinWith separator first ++ String.singleton separator ++
        joinWith separator second := by
  have firstParts : first.map String.toList ≠ [] := by simpa using nonempty
  have secondParts : second.map String.toList ≠ [] := by simpa using more
  apply String.toList_injective
  simp [joinWith, joinPieces_append separator firstParts secondParts]

theorem joinWith_append_singleton
    (separator : Char)
    {texts : List String}
    (nonempty : texts ≠ [])
    (last : String) :
    joinWith separator (texts ++ [last]) =
      joinWith separator texts ++ String.singleton separator ++ last := by
  rw [joinWith_append separator nonempty (List.cons_ne_nil last []),
    joinWith_singleton]

/-- A text is the texts that it is cut into, joined again. -/
theorem joinWith_splitAt
    (separator : Char)
    (text : String) :
    joinWith separator (splitAt separator text) = text := by
  simp [joinWith, splitAt, Function.comp_def, joinPieces_pieces]

end JsonApi.Text
