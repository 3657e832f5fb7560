import JsonApi.Text.Basic

/-!
# Reading written bytes back

The bytes of a text are read as that text (`ofUtf8_utf8Bytes`), and a byte in
percent form is read as that byte (`percentDecode_percentByteText`).
-/

namespace JsonApi.Text

/-! ## UTF-8 -/

theorem toNat_ofNat_of_lt
    {value : Nat}
    (small : value < 256) :
    (UInt8.ofNat value).toNat = value := by
  rw [UInt8.toNat_ofNat', Nat.mod_eq_of_lt (by omega)]

theorem charactersFrom_whole
    {value : Nat}
    (ascii : value < 128)
    (rest : List UInt8) :
    charactersFrom none (UInt8.ofNat value :: rest) =
      Char.ofNat value :: charactersFrom none rest := by
  rw [charactersFrom, toNat_ofNat_of_lt (by omega), firstByte, if_pos ascii]

theorem charactersFrom_begun
    {value : Nat}
    {begun : PartialCharacter}
    (small : value < 256)
    (first : firstByte value = .begun begun)
    (rest : List UInt8) :
    charactersFrom none (UInt8.ofNat value :: rest) =
      charactersFrom (some begun) rest := by
  rw [charactersFrom, toNat_ofNat_of_lt small, first]

section

variable {low high bits six : Nat} (small : six < 64) (above : low ≤ six + 128)
  (below : six + 128 ≤ high) (rest : List UInt8)

include small above below

/-- A byte with six bits continues a character. -/
theorem charactersFrom_more (missing : Nat) :
    charactersFrom (some ⟨missing + 2, low, high, bits⟩)
      (UInt8.ofNat (six + 128) :: rest) =
      charactersFrom (some ⟨missing + 1, 0x80, 0xBF, bits * 64 + six⟩)
        rest := by
  rw [charactersFrom, toNat_ofNat_of_lt (by omega)]
  simp only [above, below, and_self, if_true, Nat.add_sub_cancel]
  rw [if_neg (by omega)]
  rfl

theorem charactersFrom_last :
    charactersFrom (some ⟨1, low, high, bits⟩)
      (UInt8.ofNat (six + 128) :: rest) =
      Char.ofNat (bits * 64 + six) :: charactersFrom none rest := by
  rw [charactersFrom, toNat_ofNat_of_lt (by omega)]
  simp only [above, below, and_self, if_true, Nat.add_sub_cancel]
  rw [if_pos (by omega)]

end

theorem firstByte_two
    (bits : Nat)
    (above : 2 ≤ bits)
    (below : bits < 32) :
    firstByte (bits + 192) = .begun ⟨1, 0x80, 0xBF, bits⟩ := by
  rw [firstByte, if_neg (by omega), if_neg (by omega), if_pos (by omega),
    Nat.add_sub_cancel]

/-- Of three bytes, the second one is restricted after the least first byte, so
that no shorter form exists, and before the surrogates. -/
theorem firstByte_three
    (bits : Nat)
    (below : bits < 16) :
    firstByte (bits + 224) =
      .begun ⟨2, if bits = 0 then 0xA0 else 0x80,
          if bits = 13 then 0x9F else 0xBF, bits⟩ := by
  rw [firstByte, if_neg (by omega), if_neg (by omega), if_neg (by omega)]
  by_cases least : bits = 0
  · simp [least]
  · by_cases surrogate : bits = 13
    · simp [surrogate]
    · rw [if_neg (by omega), if_neg (by omega), if_pos (by omega), if_neg least,
        if_neg surrogate, Nat.add_sub_cancel]

theorem firstByte_four
    (bits : Nat)
    (below : bits < 5) :
    firstByte (bits + 240) =
      .begun ⟨3, if bits = 0 then 0x90 else 0x80,
          if bits = 4 then 0x8F else 0xBF, bits⟩ := by
  rw [firstByte, if_neg (by omega), if_neg (by omega), if_neg (by omega),
    if_neg (by omega), if_neg (by omega), if_neg (by omega)]
  by_cases least : bits = 0
  · simp [least]
  · by_cases greatest : bits = 4
    · simp [greatest]
    · rw [if_neg (by omega), if_pos (by omega), if_neg least, if_neg greatest,
        Nat.add_sub_cancel]

/-- The bytes of a character are read as that character. -/
theorem charactersFrom_utf8EncodeChar
    (character : Char)
    (rest : List UInt8) :
    charactersFrom none (String.utf8EncodeChar character ++ rest) =
      character :: charactersFrom none rest := by
  have valid : character.toNat < 0xD800 ∨ 0xDFFF < character.toNat ∧
      character.toNat < 0x110000 :=
    character.valid
  have back := Char.ofNat_toNat character
  have encoded :
      String.utf8EncodeChar character =
        let value := character.toNat
        if value ≤ 127 then [UInt8.ofNat value]
        else if value ≤ 2047 then
          [UInt8.ofNat (value / 64 % 32 + 192), UInt8.ofNat (value % 64 + 128)]
        else if value ≤ 65535 then
          [UInt8.ofNat (value / 4096 % 16 + 224),
            UInt8.ofNat (value / 64 % 64 + 128), UInt8.ofNat (value % 64 + 128)]
        else
          [UInt8.ofNat (value / 262144 % 8 + 240),
            UInt8.ofNat (value / 4096 % 64 + 128),
            UInt8.ofNat (value / 64 % 64 + 128),
              UInt8.ofNat (value % 64 + 128)] :=
    rfl
  rw [encoded]
  generalize character.toNat = value at valid back
  dsimp only
  split
  · rw [List.singleton_append, charactersFrom_whole (by omega), back]
  · split
    · have first := firstByte_two (value / 64 % 32) (by omega) (by omega)
      have whole : value / 64 % 32 * 64 + value % 64 = value := by omega
      simp only [List.cons_append, List.nil_append]
      rw [charactersFrom_begun (by omega) first,
        charactersFrom_last (by omega) (by omega) (by omega), whole, back]
    · split
      · have first := firstByte_three (value / 4096 % 16) (by omega)
        have whole :
            (value / 4096 % 16 * 64 + value / 64 % 64) * 64 + value % 64 =
              value := by
          omega
        simp only [List.cons_append, List.nil_append]
        rw [charactersFrom_begun (by omega) first,
          charactersFrom_more (by omega) (by split <;> omega)
            (by split <;> omega),
          charactersFrom_last (by omega) (by omega) (by omega), whole, back]
      · have first := firstByte_four (value / 262144 % 8) (by omega)
        have whole :
            ((value / 262144 % 8 * 64 + value / 4096 % 64) * 64 +
                value / 64 % 64) * 64 +
              value % 64 = value := by
          omega
        simp only [List.cons_append, List.nil_append]
        rw [charactersFrom_begun (by omega) first,
          charactersFrom_more (by omega) (by split <;> omega)
            (by split <;> omega),
          charactersFrom_more (by omega) (by omega) (by omega),
          charactersFrom_last (by omega) (by omega) (by omega), whole, back]

theorem charactersFrom_flatMap_utf8EncodeChar (characters : List Char) :
    charactersFrom none (characters.flatMap String.utf8EncodeChar) =
      characters := by
  induction characters with
  | nil => rfl
  | cons head tail induction =>
      rw [List.flatMap_cons, charactersFrom_utf8EncodeChar, induction]

theorem ofUtf8_utf8Bytes (text : String) : ofUtf8 (utf8Bytes text) = text := by
  rw [ofUtf8, utf8Bytes, charactersFrom_flatMap_utf8EncodeChar,
    String.ofList_toList]

theorem utf8Bytes_append (first second : String) :
    utf8Bytes (first ++ second) = utf8Bytes first ++ utf8Bytes second := by
  rw [utf8Bytes, String.toList_append, List.flatMap_append, ← utf8Bytes,
    ← utf8Bytes]

theorem byteLength_append (first second : String) :
    byteLength (first ++ second) = byteLength first + byteLength second := by
  rw [byteLength, utf8Bytes_append, List.length_append, ← byteLength,
    ← byteLength]

/-- Cutting a text behind the bytes of its first part gives that part. -/
theorem beginning_append (first second : String) :
    beginning (first ++ second) (byteLength first) = first := by
  rw [beginning, utf8Bytes_append, byteLength, List.take_left, ofUtf8_utf8Bytes]

theorem utf8EncodeChar_of_lt
    {character : Char}
    (ascii : character.toNat < 128) :
    String.utf8EncodeChar character = [UInt8.ofNat character.toNat] := by
  have small : character.val.toNat ≤ 127 := Nat.le_of_lt_succ ascii
  simp only [String.utf8EncodeChar, if_pos small]
  rfl

/-! ## Percent form -/

theorem percentDecode_cons_of_ne
    {byte : UInt8}
    (different : byte ≠ percentByte)
    (bytes : List UInt8) :
    percentDecode (byte :: bytes) = byte :: percentDecode bytes := by
  match bytes with
  | [] => rfl
  | [_] => rfl
  | _ :: _ :: _ => rw [percentDecode, if_neg different]

theorem hexValue?_upperHexDigit
    {value : Nat}
    (small : value < 16) :
    hexValue? (upperHexDigit value) = some value ∧
      (upperHexDigit value).toNat < 128 := by
  revert value
  decide

theorem hexByte?_upperHexDigit (byte : UInt8) :
    hexByte? (UInt8.ofNat (upperHexDigit (byte.toNat / 16)).toNat)
        (UInt8.ofNat (upperHexDigit (byte.toNat % 16)).toNat) = some byte := by
  have bounded := byte.toNat_lt
  rcases hexValue?_upperHexDigit (by omega : byte.toNat / 16 < 16) with
    ⟨high, highAscii⟩
  rcases hexValue?_upperHexDigit (by omega : byte.toNat % 16 < 16) with
    ⟨low, lowAscii⟩
  have whole : byte.toNat / 16 * 16 + byte.toNat % 16 = byte.toNat := by omega
  rw [hexByte?, toNat_ofNat_of_lt (by omega), toNat_ofNat_of_lt (by omega),
    Char.ofNat_toNat, Char.ofNat_toNat, high, low]
  show some (UInt8.ofNat (byte.toNat / 16 * 16 + byte.toNat % 16)) = some byte
  rw [whole, UInt8.ofNat_toNat]

/-- A byte in percent form is read as that byte. -/
theorem percentDecode_percentByteText
    (byte : UInt8)
    (bytes : List UInt8) :
    percentDecode
      ((percentByteText byte).flatMap String.utf8EncodeChar ++ bytes) =
      byte :: percentDecode bytes := by
  have bounded := byte.toNat_lt
  have high := (hexValue?_upperHexDigit (by omega : byte.toNat / 16 < 16)).2
  have low := (hexValue?_upperHexDigit (by omega : byte.toNat % 16 < 16)).2
  have written :
      (percentByteText byte).flatMap String.utf8EncodeChar ++ bytes =
        percentByte :: UInt8.ofNat (upperHexDigit (byte.toNat / 16)).toNat ::
          UInt8.ofNat (upperHexDigit (byte.toNat % 16)).toNat :: bytes := by
    simp only [percentByteText, List.flatMap_cons, List.flatMap_nil,
      utf8EncodeChar_of_lt (by decide : '%'.toNat < 128),
      utf8EncodeChar_of_lt high, utf8EncodeChar_of_lt low]
    rfl
  rw [written, percentDecode, if_pos rfl, hexByte?_upperHexDigit]

theorem percentDecode_flatMap_percentByteText (written bytes : List UInt8) :
    percentDecode ((written.flatMap percentByteText).flatMap
        String.utf8EncodeChar ++ bytes) =
      written ++ percentDecode bytes := by
  induction written with
  | nil => rfl
  | cons byte written induction =>
      rw [List.flatMap_cons, List.flatMap_append, List.append_assoc,
        percentDecode_percentByteText, induction]
      rfl

end JsonApi.Text
