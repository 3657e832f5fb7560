import JsonApi.Proofs.Binary64.Exactness

/-!
# Rounding keeps the order of integers

An integer is rounded to fifty-three binary digits and an exponent.  Rounding
may make two integers equal, but it never turns them around
(`signedMagnitude_ofInt_mono`). It tells an integer of magnitude below `2 ^ 53`
apart from every other integer (`tellsApart_of_natAbs_lt`).
-/

namespace JsonApi.Binary64

/-! ## Rounded quotients -/

theorem roundedQuotient_eq (numerator denominator : Nat) :
    roundedQuotient numerator denominator =
      numerator / denominator +
        if denominator < 2 * (numerator % denominator) ∨
            denominator = 2 * (numerator % denominator) ∧
              numerator / denominator % 2 = 1
        then 1 else 0 := by
  rw [roundedQuotient]
  rcases lt_trichotomy (2 * (numerator % denominator)) denominator with
    less | same | greater
  · simp only [compare_lt_iff_lt.mpr less]
    rw [if_neg (by omega), Nat.add_zero]
  · simp only [compare_eq_iff_eq.mpr same]
    split
    · rw [if_neg (by omega), Nat.add_zero]
    · rw [if_pos (by omega)]
  · simp only [compare_gt_iff_gt.mpr greater]
    rw [if_pos (Or.inl greater)]

theorem div_le_roundedQuotient (numerator denominator : Nat) :
    numerator / denominator ≤ roundedQuotient numerator denominator := by
  rw [roundedQuotient_eq]
  exact Nat.le_add_right _ _

theorem roundedQuotient_le (numerator denominator : Nat) :
    roundedQuotient numerator denominator ≤ numerator / denominator + 1 := by
  rw [roundedQuotient_eq]
  split
  · exact le_rfl
  · exact Nat.le_succ _

theorem roundedQuotient_mono
    {less greater : Nat}
    (ordered : less ≤ greater)
    (denominator : Nat) :
    roundedQuotient less denominator ≤ roundedQuotient greater denominator := by
  rcases Nat.lt_or_eq_of_le (Nat.div_le_div_right (c := denominator) ordered)
    with below | same
  · calc
      roundedQuotient less denominator ≤ less / denominator + 1 :=
        roundedQuotient_le _ _
      _ ≤ greater / denominator := below
      _ ≤ roundedQuotient greater denominator := div_le_roundedQuotient _ _
  · -- With one quotient the greater number has the greater remainder.
    have lessParts := Nat.div_add_mod less denominator
    have greaterParts := Nat.div_add_mod greater denominator
    rw [same] at lessParts
    rw [roundedQuotient_eq, roundedQuotient_eq, same]
    split_ifs <;> omega

/-! ## Natural numbers -/

/-- The first fifty-three binary digits of a number, rounded. -/
def leadingDigits (value : Nat) : Nat :=
  if value.log2 ≤ 52 then value * 2 ^ (52 - value.log2)
  else roundedQuotient value (2 ^ (value.log2 - 52))

theorem unitExponent_large
    {value : Nat}
    (large : 53 ≤ value.log2) :
    unitExponent value 1 = (value.log2 : Int) - 52 := by
  have positive : value ≠ 0 := by
    intro zero
    rw [zero] at large
    exact absurd large (by decide)
  have guess : max ((value.log2 : Int) - Nat.log2 1 - 53) leastExponent =
      value.log2 - 53 := by
    have log2_one : Nat.log2 1 = 0 := by decide
    rw [log2_one, leastExponent]
    omega
  have none : (-((value.log2 : Int) - 53)).toNat = 0 := by omega
  have fewer : ((value.log2 : Int) - 53).toNat = value.log2 - 53 := by omega
  have enough : 2 ^ 53 ≤ value / 2 ^ (value.log2 - 53) := by
    rw [Nat.le_div_iff_mul_le (Nat.two_pow_pos _), ← Nat.pow_add,
      Nat.add_sub_cancel' large]
    exact Nat.log2_self_le positive
  simp only [unitExponent, guess, inUnits, none, fewer, Nat.pow_eq,
    Nat.pow_zero, Nat.mul_one, Nat.one_mul, if_neg (not_lt.mpr enough)]
  omega

/-- The magnitude of a natural number is made of its exponent and its leading
digits. -/
theorem roundedMagnitude_eq_leadingDigits
    {value : Nat}
    (positive : 0 < value) :
    roundedMagnitude value 1 =
      min infiniteMagnitude
        ((value.log2 + 1022) * 2 ^ 52 + leadingDigits value) := by
  rcases Nat.lt_or_ge 52 value.log2 with large | small
  · have none : (-((value.log2 : Int) - 52)).toNat = 0 := by omega
    have dropped : ((value.log2 : Int) - 52).toNat = value.log2 - 52 := by omega
    have above : ((value.log2 : Int) - 52 - leastExponent).toNat =
        value.log2 + 1022 := by
      rw [leastExponent]
      omega
    simp only [roundedMagnitude, if_neg positive.ne', unitExponent_large large,
      inUnits, none, dropped, above, Nat.pow_eq, Nat.pow_zero, Nat.mul_one,
      Nat.one_mul, exponentWeight, leadingDigits, if_neg (not_le.mpr large)]
  · have bounded : value < 2 ^ 53 := (Nat.log2_lt positive.ne').mp (by omega)
    rcases mul_pow_log2_bounds positive bounded with ⟨_, _, upper⟩
    rw [roundedMagnitude_natural positive bounded, leadingDigits, if_pos small]
    apply (Nat.min_eq_right _).symm
    simp only [infiniteMagnitude, exponentWeight, Nat.pow_eq]
    omega

theorem leadingDigits_bounds
    {value : Nat}
    (positive : 0 < value) :
    2 ^ 52 ≤ leadingDigits value ∧ leadingDigits value ≤ 2 ^ 53 := by
  rw [leadingDigits]
  split
  · rename_i small
    have bounded : value < 2 ^ 53 := (Nat.log2_lt positive.ne').mp (by omega)
    rcases mul_pow_log2_bounds positive bounded with ⟨_, lower, upper⟩
    exact ⟨lower, upper.le⟩
  · rename_i notSmall
    have width : 52 ≤ value.log2 := by omega
    have lower : 2 ^ 52 ≤ value / 2 ^ (value.log2 - 52) := by
      rw [Nat.le_div_iff_mul_le (Nat.two_pow_pos _), ← Nat.pow_add,
        Nat.add_sub_cancel' width]
      exact Nat.log2_self_le positive.ne'
    have upper : value / 2 ^ (value.log2 - 52) < 2 ^ 53 := by
      rw [Nat.div_lt_iff_lt_mul (Nat.two_pow_pos _), ← Nat.pow_add]
      have exponent : 53 + (value.log2 - 52) = value.log2 + 1 := by omega
      rw [exponent]
      exact Nat.lt_log2_self
    exact ⟨lower.trans (div_le_roundedQuotient _ _),
      (roundedQuotient_le _ _).trans upper⟩

theorem leadingDigits_mono
    {less greater : Nat}
    (ordered : less ≤ greater)
    (same : less.log2 = greater.log2) :
    leadingDigits less ≤ leadingDigits greater := by
  rw [leadingDigits, leadingDigits, same]
  split
  · exact Nat.mul_le_mul_right _ ordered
  · exact roundedQuotient_mono ordered _

/-- Rounding never turns natural numbers around. -/
theorem roundedMagnitude_mono
    {less greater : Nat}
    (ordered : less ≤ greater) :
    roundedMagnitude less 1 ≤ roundedMagnitude greater 1 := by
  rcases Nat.eq_zero_or_pos less with zero | positive
  · rw [zero]
    exact Nat.zero_le _
  · have greaterPositive : 0 < greater := positive.trans_le ordered
    rw [roundedMagnitude_eq_leadingDigits positive,
      roundedMagnitude_eq_leadingDigits greaterPositive]
    apply min_le_min_left
    have shorter : less.log2 ≤ greater.log2 :=
      (Nat.le_log2 greaterPositive.ne').mpr
        ((Nat.log2_self_le positive.ne').trans ordered)
    rcases Nat.lt_or_eq_of_le shorter with fewer | same
    · -- One binary digit more outweighs all leading digits.
      have upper := (leadingDigits_bounds positive).2
      have lower := (leadingDigits_bounds greaterPositive).1
      omega
    · have digits := leadingDigits_mono ordered same
      rw [same]
      omega

theorem roundedMagnitude_pos
    {value : Nat}
    (positive : 0 < value) :
    0 < roundedMagnitude value 1 := by
  have digits := (leadingDigits_bounds positive).1
  rw [roundedMagnitude_eq_leadingDigits positive]
  apply lt_min
  · decide
  · omega

/-! ## Integers -/

/-- Rounding never turns integers around. -/
theorem signedMagnitude_ofInt_mono
    {less greater : Int}
    (ordered : less ≤ greater) :
    (ofInt less).signedMagnitude ≤ (ofInt greater).signedMagnitude := by
  rw [signedMagnitude_ofInt, signedMagnitude_ofInt]
  rcases lt_or_ge less 0 with lessNegative | lessNatural
  · rcases lt_or_ge greater 0 with greaterNegative | greaterNatural
    · have reversed :=
        roundedMagnitude_mono (show greater.natAbs ≤ less.natAbs by omega)
      rw [if_pos lessNegative, if_pos greaterNegative]
      omega
    · rw [if_pos lessNegative, if_neg (not_lt.mpr greaterNatural)]
      omega
  · have greaterNatural : 0 ≤ greater := lessNatural.trans ordered
    have magnitudes :=
      roundedMagnitude_mono (show less.natAbs ≤ greater.natAbs by omega)
    rw [if_neg (not_lt.mpr lessNatural), if_neg (not_lt.mpr greaterNatural)]
    omega

/-- Integers whose floating point numbers have one signed magnitude have one
floating point number. -/
theorem ofInt_eq_of_signedMagnitude_eq
    {left right : Int}
    (same : (ofInt left).signedMagnitude = (ofInt right).signedMagnitude) :
    ofInt left = ofInt right := by
  have positive : ∀ {value : Int}, value < 0 →
      0 < roundedMagnitude value.natAbs 1 :=
    fun negative => roundedMagnitude_pos (by omega)
  rw [signedMagnitude_ofInt, signedMagnitude_ofInt] at same
  have signs : left < 0 ↔ right < 0 := by
    constructor
    · intro leftNegative
      have leftPositive := positive leftNegative
      by_contra rightNatural
      rw [if_pos leftNegative, if_neg rightNatural] at same
      omega
    · intro rightNegative
      have rightPositive := positive rightNegative
      by_contra leftNatural
      rw [if_neg leftNatural, if_pos rightNegative] at same
      omega
  have magnitudes :
      roundedMagnitude left.natAbs 1 = roundedMagnitude right.natAbs 1 := by
    by_cases rightNegative : right < 0
    · rw [if_pos (signs.mpr rightNegative), if_pos rightNegative] at same
      omega
    · rw [if_neg fun leftNegative => rightNegative (signs.mp leftNegative),
        if_neg rightNegative] at same
      omega
  simp only [ofInt, ofRatio, magnitudes, signs]

/-- The integers are equal if their floating point numbers are. -/
def TellsApart (left right : Int) : Prop :=
  ofInt left = ofInt right → left = right

/-- Below `2 ^ 53` no integer shares its floating point number with another
one. -/
theorem tellsApart_of_natAbs_lt
    {left right : Int}
    (small : left.natAbs < 2 ^ 53 ∨ right.natAbs < 2 ^ 53) :
    TellsApart left right := by
  have general : ∀ {inner other : Int}, inner.natAbs < 2 ^ 53 →
      ofInt inner = ofInt other →
      inner = other := by
    intro inner other innerSmall same
    have magnitudes :
        (ofInt inner).signedMagnitude = (ofInt other).signedMagnitude :=
      congrArg signedMagnitude same
    by_contra different
    -- Between the two, or at the other one, stands an integer that rounding
    -- leaves as it is.
    rcases lt_or_gt_of_ne different with less | greater
    · have first := signedMagnitude_ofInt_lt
        (show inner < min other (2 ^ 53) by omega) (by omega) (by omega)
      have second :=
        signedMagnitude_ofInt_mono (show min other (2 ^ 53) ≤ other by omega)
      omega
    · have first := signedMagnitude_ofInt_lt
        (show max other (-2 ^ 53) < inner by omega) (by omega) (by omega)
      have second :=
        signedMagnitude_ofInt_mono (show other ≤ max other (-2 ^ 53) by omega)
      omega
  intro same
  rcases small with leftSmall | rightSmall
  · exact general leftSmall same
  · exact (general rightSmall same.symm).symm

/-- Integers compare like their floating point numbers unless these are
equal. -/
theorem compare?_ofInt (left right : Int) :
    (ofInt left).compare? (ofInt right) =
      some (if ofInt left = ofInt right then .eq else compare left right) := by
  have numbers : ((ofInt left).isNaN || (ofInt right).isNaN) = false := by
    rw [isNaN_ofInt, isNaN_ofInt, Bool.or_self]
  rw [compare?, numbers, if_neg Bool.false_ne_true]
  apply congrArg some
  split
  · rename_i same
    rw [same]
    exact compare_eq_iff_eq.mpr rfl
  · rename_i different
    have magnitudes :
        (ofInt left).signedMagnitude ≠ (ofInt right).signedMagnitude :=
      fun same => different (ofInt_eq_of_signedMagnitude_eq same)
    rcases lt_trichotomy left right with less | equal | greater
    · rw [compare_lt_iff_lt.mpr less, compare_lt_iff_lt]
      exact lt_of_le_of_ne (signedMagnitude_ofInt_mono less.le) magnitudes
    · rw [equal] at different
      exact absurd rfl different
    · rw [compare_gt_iff_gt.mpr greater, compare_gt_iff_gt]
      exact lt_of_le_of_ne (signedMagnitude_ofInt_mono greater.le)
        magnitudes.symm

end JsonApi.Binary64
