import JsonApi.Proofs.Text.Percent
import JsonApi.Proofs.Text.Pieces
import JsonApi.Query.Parameters

/-!
# Query strings read back

The pairs of a query string that was written are the pairs it was written from
(`parse_print`), whatever characters their names and values hold.
-/

namespace JsonApi.Form

open JsonApi.Text

/-- The characters that a written name or value consists of. -/
def isWritten (character : Char) : Bool :=
  isKept character || character = '+' || character = '%'

theorem isKept_upperHexDigit
    {value : Nat}
    (small : value < 16) :
    isKept (upperHexDigit value) = true := by
  revert value
  decide

theorem toNat_lt_of_isKept
    {character : Char}
    (kept : isKept character = true) :
    character.toNat < 128 := by
  unfold isKept Char.isAlphanum Char.isAlpha Char.isUpper Char.isLower
    Char.isDigit at kept
  simp only [Bool.or_eq_true, Bool.and_eq_true, decide_eq_true_eq,
    UInt32.le_iff_toNat_le] at kept
  rcases kept with (((((upper | lower) | digit) | mark) | mark) | mark) | mark
  · exact Nat.lt_of_le_of_lt upper.2 (by decide)
  · exact Nat.lt_of_le_of_lt lower.2 (by decide)
  · exact Nat.lt_of_le_of_lt digit.2 (by decide)
  all_goals
    rw [mark]
    decide

theorem mem_percentByteText
    {byte : UInt8}
    {character : Char}
    (member : character ∈ percentByteText byte) :
    character = '%' ∨ isKept character = true := by
  have bounded := byte.toNat_lt
  simp only [percentByteText, List.mem_cons, List.not_mem_nil,
    or_false] at member
  rcases member with percent | high | low
  · exact Or.inl percent
  · rw [high]
    exact Or.inr (isKept_upperHexDigit (by omega))
  · rw [low]
    exact Or.inr (isKept_upperHexDigit (by omega))

theorem isWritten_of_mem_encode
    {text : String}
    {character : Char}
    (member : character ∈ encode text) :
    isWritten character = true := by
  rcases List.mem_flatMap.mp member with ⟨source, _, written⟩
  split at written
  · rw [List.mem_singleton.mp written]
    rfl
  · rw [percentEncodeCharacter] at written
    split at written
    · rename_i kept
      rw [List.mem_singleton.mp written, isWritten, kept]
      rfl
    · rcases List.mem_flatMap.mp written with ⟨byte, _, digit⟩
      rcases mem_percentByteText digit with percent | kept
      · rw [percent]
        rfl
      · rw [isWritten, kept]
        rfl

theorem not_mem_encode
    {character : Char}
    (special : isWritten character = false)
    (text : String) :
    character ∉ encode text := by
  intro member
  rw [isWritten_of_mem_encode member] at special
  cases special

/-! ## Names and values -/

/-- What is read for a character in a name or value before percent sequences
are. -/
def spaced (character : Char) : Char :=
  if character = '+' then ' ' else character

theorem map_spaced_of_not_mem
    {characters : List Char}
    (free : '+' ∉ characters) :
    characters.map spaced = characters := by
  have same : ∀ character ∈ characters, spaced character = character := by
    intro character member
    rw [spaced, if_neg]
    intro isPlus
    exact free (isPlus ▸ member)
  exact (List.map_congr_left same).trans (List.map_id' characters)

theorem percentDecode_encode (characters : List Char) :
    percentDecode
        (((characters.flatMap fun character =>
            if character = ' ' then ['+']
              else percentEncodeCharacter isKept character).map
          spaced).flatMap String.utf8EncodeChar) =
      characters.flatMap String.utf8EncodeChar := by
  induction characters with
  | nil => rfl
  | cons head tail induction =>
      rw [List.flatMap_cons, List.map_append, List.flatMap_append,
        List.flatMap_cons]
      split
      · rename_i isSpace
        rw [isSpace, ← induction]
        exact percentDecode_cons_of_ne (by decide) _
      · rw [percentEncodeCharacter]
        split
        · rename_i kept
          have ascii := toNat_lt_of_isKept kept
          have notPlus : head ≠ '+' := by
            intro same
            rw [same] at kept
            cases kept
          have notPercent : UInt8.ofNat head.toNat ≠ percentByte := by
            intro same
            have code := congrArg UInt8.toNat same
            rw [toNat_ofNat_of_lt (by omega)] at code
            rw [← Char.ofNat_toNat head, code] at kept
            cases kept
          rw [List.map_singleton, spaced,
            if_neg notPlus, List.flatMap_singleton, utf8EncodeChar_of_lt ascii,
            List.singleton_append, percentDecode_cons_of_ne notPercent,
            induction]
          rfl
        · have free :
              '+' ∉ (String.utf8EncodeChar head).flatMap percentByteText := by
            intro member
            rcases List.mem_flatMap.mp member with ⟨byte, _, digit⟩
            rcases mem_percentByteText digit with
              absurdity | absurdity <;> cases absurdity
          rw [map_spaced_of_not_mem free, percentDecode_flatMap_percentByteText,
            induction]

/-- A written name or value is read as the text it was written from. -/
theorem decode_encode (text : String) : decode (encode text) = text := by
  show ofUtf8
    (percentDecode (((encode text).map spaced).flatMap String.utf8EncodeChar)) =
    text
  rw [encode, percentDecode_encode]
  exact ofUtf8_utf8Bytes text

/-! ## Pairs -/

theorem decodePair_encodePair (pair : String × String) :
    decodePair (encodePair pair) = pair := by
  have free : ∀ character ∈ encode pair.1, decide (character ≠ '=') = true := by
    intro character member
    rw [decide_eq_true_eq]
    intro same
    exact not_mem_encode (by decide) pair.1 (same ▸ member)
  rw [decodePair, encodePair, List.takeWhile_append_of_pos free,
    List.dropWhile_append_of_pos free, List.takeWhile_cons_of_neg (by simp),
    List.dropWhile_cons_of_neg (by simp), List.append_nil, List.drop_one,
    List.tail_cons, decode_encode, decode_encode]

/-- The pairs of a written query string are those it was written from. -/
theorem parse_print (pairs : List (String × String)) :
    parse (print pairs) = pairs := by
  cases pairs with
  | nil => rfl
  | cons first others =>
      have free : ∀ piece ∈ (first :: others).map encodePair, '&' ∉ piece := by
        intro piece member
        rcases List.mem_map.mp member with ⟨pair, _, equal⟩
        rw [← equal, encodePair, List.mem_append, List.mem_cons, not_or, not_or]
        exact ⟨not_mem_encode (by decide) pair.1,
          by decide, not_mem_encode (by decide) pair.2⟩
      have filled : ∀ piece ∈ (first :: others).map encodePair,
          (!piece.isEmpty) = true := by
        intro piece member
        rcases List.mem_map.mp member with ⟨pair, _, equal⟩
        rw [← equal, encodePair]
        simp
      rw [parse, print, pieces_joinPieces (by simp) free,
        List.filter_eq_self.mpr filled, List.map_map]
      exact (List.map_congr_left fun pair _ => decodePair_encodePair pair).trans
        (List.map_id' _)

/-- A written query string holds written characters, ampersands and equals signs
only. -/
theorem not_mem_print
    {character : Char}
    (special : isWritten character = false)
    (notAmpersand : character ≠ '&')
    (notEquals : character ≠ '=')
    (pairs : List (String × String)) :
    character ∉ print pairs := by
  refine not_mem_joinPieces notAmpersand fun piece member => ?_
  rcases List.mem_map.mp member with ⟨pair, _, rfl⟩
  rw [encodePair, List.mem_append, List.mem_cons, not_or, not_or]
  exact ⟨not_mem_encode special pair.1, notEquals,
    not_mem_encode special pair.2⟩

theorem head?_print_ne (pairs : List (String × String)) :
    (print pairs).head? ≠ some '?' :=
  fun first =>
    not_mem_print (by decide) (by decide) (by decide) pairs
      (List.mem_of_mem_head? first)

end JsonApi.Form
