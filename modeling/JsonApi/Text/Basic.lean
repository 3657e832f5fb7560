/-!
# Texts

Texts are read and written character by character or byte by byte: as decimal
numbers, cut at a separator, trimmed, as UTF-8 and percent-encoded.
-/

/-!
## Whole numbers in decimal digits

Reading takes ASCII digits only, at least one of them, and any number of
leading zeros.  A sign is allowed where the reader says so.  The two bounded
readers refuse a number outside the signed or unsigned 64-bit range.
-/

namespace JsonApi.Text

/-- The value of an ASCII decimal digit. -/
def digitValue? (character : Char) : Option Nat :=
  if '0' ≤ character ∧
    character ≤ '9' then some (character.toNat - 48) else none

/-- The values of a run of decimal digits, or `none` when another character
occurs. -/
def digitValues? (characters : List Char) : Option (List Nat) :=
  characters.mapM digitValue?

/-- The number that decimal digits denote, most significant first. -/
def natOfDigits (digits : List Nat) : Nat :=
  digits.foldl (fun value digit => value * 10 + digit) 0

/-- Reads one or more decimal digits. -/
def readNat? (characters : List Char) : Option Nat :=
  if characters.isEmpty then none else (digitValues? characters).map natOfDigits

/-- The least number outside the unsigned 64-bit range. -/
def wordLimit : Nat := Nat.pow 2 64

/-- The greatest signed 64-bit number. -/
def int64Max : Int := Int.pow 2 63 - 1

/-- The least signed 64-bit number. -/
def int64Min : Int := -Int.pow 2 63

/-- Whether a number lies in the signed 64-bit range. -/
def isInt64 (value : Int) : Bool :=
  int64Min ≤ value && value ≤ int64Max

/-- Reads an optionally signed number of the signed 64-bit range. -/
def readInt64? (characters : List Char) : Option Int :=
  let value? : Option Int :=
    match characters with
    | '-' :: digits => (readNat? digits).map fun value => -(value : Int)
    | '+' :: digits => (readNat? digits).map fun value => (value : Int)
    | digits => (readNat? digits).map fun value => (value : Int)
  value?.filter isInt64

/-- Reads a number of the unsigned 64-bit range; a plus sign may stand in
front. -/
def readWord? (characters : List Char) : Option Nat :=
  let value? :=
    match characters with
    | '+' :: digits => readNat? digits
    | digits => readNat? digits
  value?.filter fun value => value < wordLimit

/-- The sum of two 64-bit counts, stopped at the greatest of them. -/
def saturatingAdd (left right : Nat) : Nat :=
  min (left + right) (wordLimit - 1)

/-- The product of two 64-bit counts, stopped at the greatest of them. -/
def saturatingMul (left right : Nat) : Nat :=
  min (left * right) (wordLimit - 1)

/-- The value of a hexadecimal digit of either case. -/
def hexValue? (character : Char) : Option Nat :=
  if '0' ≤ character ∧ character ≤ '9' then some (character.toNat - 48)
  else if 'a' ≤ character ∧ character ≤ 'f' then some (character.toNat - 87)
  else if 'A' ≤ character ∧ character ≤ 'F' then some (character.toNat - 55)
  else none

/-- The number that hexadecimal digits denote, or `none` when another character
occurs. -/
def hexNumber? (characters : List Char) : Option Nat :=
  (characters.mapM hexValue?).map fun digits =>
    digits.foldl (fun value digit => value * 16 + digit) 0

/-- A number in lower-case hexadecimal digits, without leading zeros. -/
def hexText (value : Nat) : String :=
  String.ofList (Nat.toDigits 16 value)

/-- A number in at least `width` lower-case hexadecimal digits. -/
def paddedHexText (width value : Nat) : String :=
  let digits := Nat.toDigits 16 value
  String.ofList (List.replicate (width - digits.length) '0' ++ digits)

/-!
## Cutting a text at a separator

`pieces` cuts a list of characters at every occurrence of a separator.  There
is always at least one piece, pieces may be empty, and joining them with the
separator gives the text back (`joinPieces_pieces`).
-/

/-- The pieces of a text between the occurrences of `separator`. -/
def pieces (separator : Char) : List Char → List (List Char)
  | [] => [[]]
  | head :: tail =>
    if head = separator then [] :: pieces separator tail
    else
      match pieces separator tail with
      | [] => [[head]]
      | first :: others => (head :: first) :: others

/-- The pieces written one after the other with `separator` between them. -/
def joinPieces (separator : Char) : List (List Char) → List Char
  | [] => []
  | [piece] => piece
  | piece :: next :: others =>
      piece ++ separator :: joinPieces separator (next :: others)

/-- The texts between the occurrences of `separator` in `text`. -/
def splitAt (separator : Char) (text : String) : List String :=
  (pieces separator text.toList).map String.ofList

/-- The texts written one after the other with `separator` between them. -/
def joinWith (separator : Char) (texts : List String) : String :=
  String.ofList (joinPieces separator (texts.map String.toList))

/-- Cutting always yields at least one piece. -/
theorem pieces_ne_nil
    (separator : Char)
    (characters : List Char) :
    pieces separator characters ≠ [] := by
  cases characters with
  | nil => simp [pieces]
  | cons head tail =>
    unfold pieces
    split
    · simp
    · split <;> simp

/-- Joining the pieces of a text gives the text back. -/
theorem joinPieces_pieces
    (separator : Char)
    (characters : List Char) :
    joinPieces separator (pieces separator characters) = characters := by
  induction characters with
  | nil => rfl
  | cons head tail hypothesis =>
    unfold pieces
    split
    · rename_i isSeparator
      cases parts : pieces separator tail with
      | nil => exact absurd parts (pieces_ne_nil separator tail)
      | cons first others =>
        rw [parts] at hypothesis
        simp [joinPieces, hypothesis, isSeparator]
    · cases parts : pieces separator tail with
      | nil => exact absurd parts (pieces_ne_nil separator tail)
      | cons first others =>
        rw [parts] at hypothesis
        cases others with
        | nil => simpa [joinPieces] using hypothesis
        | cons second rest =>
          simp only [joinPieces, List.cons_append] at hypothesis ⊢
          rw [hypothesis]

/-!
## Blank characters and trimming

A character is blank when it has the Unicode property White_Space, which
holds of twenty-five characters.  Trimming removes the blank characters at
both ends of a text and keeps those inside it.
-/

/-- The characters with the property White_Space, as closed ranges of code
points. -/
def blankRanges : List (Nat × Nat) :=
  [(0x09, 0x0D), (0x20, 0x20), (0x85, 0x85), (0xA0, 0xA0), (0x1680, 0x1680),
    (0x2000, 0x200A), (0x2028, 0x2029), (0x202F, 0x202F), (0x205F, 0x205F),
    (0x3000, 0x3000)]

/-- Whether a code point lies in one of the closed ranges. -/
def inRanges (ranges : List (Nat × Nat)) (codePoint : Nat) : Bool :=
  ranges.any fun range => range.1 ≤ codePoint && codePoint ≤ range.2

/-- Whether a character has the property White_Space. -/
def isBlank (character : Char) : Bool :=
  inRanges blankRanges character.toNat

/-- The characters without the blank ones at either end. -/
def trimCharacters (characters : List Char) : List Char :=
  ((characters.dropWhile isBlank).reverse.dropWhile isBlank).reverse

/-- The text without the blank characters at either end. -/
def trim (text : String) : String :=
  String.ofList (trimCharacters text.toList)

/-- A text without blank characters at its ends is its own trimming. -/
theorem trimCharacters_eq_self
    {characters : List Char}
    (firstSolid : ∀ character, characters.head? = some character →
      isBlank character = false)
    (lastSolid : ∀ character, characters.getLast? = some character →
      isBlank character = false) :
    trimCharacters characters = characters := by
  cases characters with
  | nil => rfl
  | cons head tail =>
    have headSolid := firstSolid head rfl
    unfold trimCharacters
    rw [List.dropWhile_cons_of_neg (by simp [headSolid])]
    cases reversed : (head :: tail).reverse with
    | nil => simp at reversed
    | cons last rest =>
      have lastIs : (head :: tail).getLast? = some last := by
        rw [← List.head?_reverse, reversed]; rfl
      rw [List.dropWhile_cons_of_neg (by simp [lastSolid last lastIs]),
        ← reversed, List.reverse_reverse]

/-!
## Texts as bytes

Texts are written as UTF-8.  Reading bytes never fails: a byte sequence that
is not UTF-8 gives one replacement character for each longest run of bytes
that begins a character without completing it, and one for every other byte
that fits nowhere.
-/

/-- The bytes of a text. -/
def utf8Bytes (text : String) : List UInt8 :=
  text.toList.flatMap String.utf8EncodeChar

/-- The number of bytes of a text. -/
def byteLength (text : String) : Nat :=
  (utf8Bytes text).length

/-- A character begun: the number of bytes to come, the range of the next one,
and the bits so far. -/
structure PartialCharacter where
  missing : Nat
  low : Nat
  high : Nat
  bits : Nat

/-- What a byte is at the beginning of a character. -/
inductive FirstByte where
  | whole (character : Char)
  | begun (character : PartialCharacter)
  | misplaced

/-- Stands for bytes that are no character. -/
def replacementCharacter : Char := '\ufffd'

/-- Reads the first byte of a character. -/
def firstByte (byte : Nat) : FirstByte :=
  if byte < 0x80 then .whole (Char.ofNat byte)
  else if byte < 0xC2 then .misplaced
  else if byte < 0xE0 then .begun ⟨1, 0x80, 0xBF, byte - 0xC0⟩
  else if byte = 0xE0 then .begun ⟨2, 0xA0, 0xBF, 0⟩
  else if byte = 0xED then .begun ⟨2, 0x80, 0x9F, 0xD⟩
  else if byte < 0xF0 then .begun ⟨2, 0x80, 0xBF, byte - 0xE0⟩
  else if byte = 0xF0 then .begun ⟨3, 0x90, 0xBF, 0⟩
  else if byte < 0xF4 then .begun ⟨3, 0x80, 0xBF, byte - 0xF0⟩
  else if byte = 0xF4 then .begun ⟨3, 0x80, 0x8F, 4⟩
  else .misplaced

/-- Reads bytes, possibly in the middle of a character. -/
def charactersFrom : Option PartialCharacter → List UInt8 → List Char
  | none, [] => []
  | some _, [] => [replacementCharacter]
  | none, byte :: bytes =>
    match firstByte byte.toNat with
    | .whole character => character :: charactersFrom none bytes
    | .begun begun => charactersFrom (some begun) bytes
    | .misplaced => replacementCharacter :: charactersFrom none bytes
  | some begun, byte :: bytes =>
    if begun.low ≤ byte.toNat ∧ byte.toNat ≤ begun.high then
      let bits := begun.bits * 64 + (byte.toNat - 0x80)
      if begun.missing ≤ 1 then Char.ofNat bits :: charactersFrom none bytes
      else charactersFrom (some ⟨begun.missing - 1, 0x80, 0xBF, bits⟩) bytes
    else
      replacementCharacter ::
        match firstByte byte.toNat with
        | .whole character => character :: charactersFrom none bytes
        | .begun next => charactersFrom (some next) bytes
        | .misplaced => replacementCharacter :: charactersFrom none bytes

/-- The text of a sequence of bytes. -/
def ofUtf8 (bytes : List UInt8) : String :=
  String.ofList (charactersFrom none bytes)

/-- The text in the first bytes of a text. -/
def beginning (text : String) (bytes : Nat) : String :=
  ofUtf8 ((utf8Bytes text).take bytes)

/-!
## Percent encoding

A byte is written as a percent sign and two hexadecimal digits, upper-case
ones when writing and of either case when reading.  A percent sign without two
such digits behind it stands for itself.
-/

/-- The percent sign as a byte. -/
def percentByte : UInt8 := 0x25

/-- The byte that two hexadecimal digits denote. -/
def hexByte? (high low : UInt8) : Option UInt8 := do
  let highValue ← hexValue? (Char.ofNat high.toNat)
  let lowValue ← hexValue? (Char.ofNat low.toNat)
  pure (UInt8.ofNat (highValue * 16 + lowValue))

/-- The bytes with every percent sequence read. -/
def percentDecode : List UInt8 → List UInt8
  | first :: second :: third :: bytes =>
    if first = percentByte then
      match hexByte? second third with
      | some byte => byte :: percentDecode bytes
      | none => first :: percentDecode (second :: third :: bytes)
    else first :: percentDecode (second :: third :: bytes)
  | bytes => bytes

/-- The upper-case hexadecimal digit of a value below sixteen. -/
def upperHexDigit (value : Nat) : Char :=
  if value < 10 then Char.ofNat (48 + value) else Char.ofNat (55 + value)

/-- A byte as a percent sequence. -/
def percentByteText (byte : UInt8) : List Char :=
  ['%', upperHexDigit (byte.toNat / 16), upperHexDigit (byte.toNat % 16)]

/-- One character, as itself when it is kept and as its bytes in percent form
otherwise. -/
def percentEncodeCharacter
    (kept : Char → Bool)
    (character : Char) : List Char :=
  if kept character then [character]
  else (String.utf8EncodeChar character).flatMap percentByteText

end JsonApi.Text
