import JsonApi.Text.Basic

/-!
# Printed numbers read back

The decimal digits of a natural number are read as that number, with and
without the bounds of 64 bits, and so are those of an integer with its sign.
-/

namespace JsonApi.Text

variable {character : Char}

theorem toNat_bounds_of_isDigit (digit : character.isDigit = true) :
    48 ≤ character.toNat ∧ character.toNat ≤ 57 := by
  rw [Char.isDigit, Bool.and_eq_true, decide_eq_true_eq,
    decide_eq_true_eq] at digit
  exact ⟨UInt32.le_iff_toNat_le.mp digit.1, UInt32.le_iff_toNat_le.mp digit.2⟩

theorem digitValue?_of_isDigit (digit : character.isDigit = true) :
    digitValue? character = some (character.toNat - 48) := by
  rw [Char.isDigit, Bool.and_eq_true, decide_eq_true_eq,
    decide_eq_true_eq] at digit
  exact if_pos digit

theorem digitValues?_of_isDigit
    {characters : List Char}
    (digits : ∀ character ∈ characters, character.isDigit = true) :
    digitValues? characters =
      some (characters.map fun character => character.toNat - 48) := by
  induction characters with
  | nil => rfl
  | cons head tail induction =>
      rcases List.forall_mem_cons.mp digits with ⟨headDigit, tailDigits⟩
      rw [digitValues?, List.mapM_cons, digitValue?_of_isDigit headDigit]
      have rest := induction tailDigits
      rw [digitValues?] at rest
      rw [rest]
      rfl

theorem isDigit_of_mem_toDigits
    {number : Nat}
    (member : character ∈ Nat.toDigits 10 number) :
    character.isDigit = true :=
  Nat.isDigit_of_mem_toDigits (by decide) (by decide) member

theorem natOfDigits_toDigits (number : Nat) :
    natOfDigits
      ((Nat.toDigits 10 number).map fun character => character.toNat - 48) =
      number := by
  have value : Nat.ofDigitChars 10 (Nat.toDigits 10 number) 0 = number :=
    Nat.ofDigitChars_ten_toDigits
  rw [Nat.ofDigitChars_eq_foldl] at value
  have zero : '0'.toNat = 48 := rfl
  rw [natOfDigits, List.foldl_map]
  simpa only [Nat.mul_comm, zero] using value

/-- Printed digits are read as the number that was printed. -/
theorem readNat?_toDigits (number : Nat) :
    readNat? (Nat.toDigits 10 number) = some number := by
  have nonempty : (Nat.toDigits 10 number).isEmpty = false := by
    rw [List.isEmpty_eq_false_iff]
    exact Nat.toDigits_ne_nil
  rw [readNat?, nonempty,
    digitValues?_of_isDigit fun _ => isDigit_of_mem_toDigits]
  simp [natOfDigits_toDigits]

theorem toList_toString_nat (number : Nat) :
    (toString number).toList = Nat.toDigits 10 number := by
  rw [Nat.toString_eq_ofList_toDigits, String.toList_ofList]

theorem toList_toString_ofNat (number : Nat) :
    (toString (Int.ofNat number)).toList = Nat.toDigits 10 number :=
  toList_toString_nat number

theorem toList_toString_negSucc (number : Nat) :
    (toString (Int.negSucc number)).toList =
      '-' :: Nat.toDigits 10 (number + 1) := by
  show ("-" ++ toString (number + 1)).toList = _
  rw [String.toList_append, toList_toString_nat]
  rfl

theorem head_toDigits_ne
    {number : Nat}
    {other : Char}
    {rest : List Char}
    (notDigit : other.isDigit = false) :
    Nat.toDigits 10 number ≠ other :: rest := by
  intro equal
  have member : other ∈ Nat.toDigits 10 number := by
    rw [equal]
    exact List.mem_cons_self
  rw [isDigit_of_mem_toDigits member] at notDigit
  cases notDigit

theorem readWord?_toString
    {number : Nat}
    (bounded : number < wordLimit) :
    readWord? (toString number).toList = some number := by
  rw [toList_toString_nat, readWord?, readNat?_toDigits]
  · simp [bounded]
  · intro rest signed
    exact head_toDigits_ne (by decide) signed

theorem readInt64?_toString
    {number : Int}
    (bounded : isInt64 number = true) :
    readInt64? (toString number).toList = some number := by
  cases number with
  | ofNat number =>
      rw [toList_toString_ofNat, readInt64?, readNat?_toDigits]
      · exact Option.filter_some_pos bounded
      · intro rest signed
        exact head_toDigits_ne (by decide) signed
      · intro rest signed
        exact head_toDigits_ne (by decide) signed
  | negSucc number =>
      rw [toList_toString_negSucc, readInt64?, readNat?_toDigits]
      exact Option.filter_some_pos bounded

theorem isBlank_of_isDigit (digit : character.isDigit = true) :
    isBlank character = false := by
  rcases toNat_bounds_of_isDigit digit with ⟨above, below⟩
  simp only [isBlank, inRanges, blankRanges, List.any_cons,
    List.any_nil, Bool.or_false, Bool.or_eq_false_iff, Bool.and_eq_false_iff,
    decide_eq_false_iff_not]
  omega

theorem solid_of_mem_toString
    {number : Int}
    (member : character ∈ (toString number).toList) :
    isBlank character = false := by
  cases number with
  | ofNat number =>
      rw [toList_toString_ofNat] at member
      exact isBlank_of_isDigit (isDigit_of_mem_toDigits member)
  | negSucc number =>
      rw [toList_toString_negSucc] at member
      rcases List.mem_cons.mp member with sign | digit
      · rw [sign]
        decide
      · exact isBlank_of_isDigit (isDigit_of_mem_toDigits digit)

/-- Trimming leaves a printed number as it is. -/
theorem trimCharacters_toString (number : Int) :
    trimCharacters (toString number).toList = (toString number).toList := by
  apply trimCharacters_eq_self
  · intro character first
    exact solid_of_mem_toString (List.mem_of_mem_head? first)
  · intro character last
    exact solid_of_mem_toString (List.mem_of_mem_getLast? last)

end JsonApi.Text
