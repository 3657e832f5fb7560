import JsonApi.Binary64
import Mathlib.Algebra.Order.Group.Nat
import Mathlib.Algebra.Order.Ring.Nat
import Mathlib.Order.Compare
import Mathlib.Order.Monotone.Basic

/-!
# Integers with an exact floating point number

Rounding leaves an integer of magnitude at most `2 ^ 53` as it is, and so the
floating point numbers of two such integers are ordered as the integers are.
-/

namespace JsonApi.Binary64

theorem roundedQuotient_one (numerator : Nat) :
    roundedQuotient numerator 1 = numerator := by
  simp [roundedQuotient, Nat.mod_one, compare, compareOfLessAndEq]

/-- Below `2 ^ 53` a number can be shifted to exactly fifty-three digits. -/
theorem mul_pow_log2_bounds
    {value : Nat}
    (positive : 0 < value)
    (small : value < 2 ^ 53) :
    value.log2 ≤ 52 ∧ 2 ^ 52 ≤ value * 2 ^ (52 - value.log2) ∧
      value * 2 ^ (52 - value.log2) < 2 ^ 53 := by
  have lower : 2 ^ value.log2 ≤ value := Nat.log2_self_le positive.ne'
  have upper : value < 2 ^ (value.log2 + 1) := Nat.lt_log2_self
  have bounded : value.log2 ≤ 52 := by
    have below := (Nat.log2_lt positive.ne').mpr small
    omega
  refine ⟨bounded, ?_, ?_⟩
  · calc
      2 ^ 52 = 2 ^ value.log2 * 2 ^ (52 - value.log2) := by
        rw [← Nat.pow_add, Nat.add_sub_cancel' bounded]
      _ ≤ value * 2 ^ (52 - value.log2) := Nat.mul_le_mul_right _ lower
  · calc
      value * 2 ^ (52 - value.log2) <
        2 ^ (value.log2 + 1) * 2 ^ (52 - value.log2) :=
        Nat.mul_lt_mul_of_pos_right upper (Nat.two_pow_pos _)
      _ = 2 ^ 53 := by
        rw [← Nat.pow_add]
        congr 1
        omega

theorem unitExponent_natural
    {value : Nat}
    (positive : 0 < value)
    (small : value < 2 ^ 53) :
    unitExponent value 1 = (value.log2 : Int) - 52 := by
  rcases mul_pow_log2_bounds positive small with ⟨bounded, lower, _⟩
  have guess : max ((value.log2 : Int) - Nat.log2 1 - 53) leastExponent =
      value.log2 - 53 := by
    have log2_one : Nat.log2 1 = 0 := by decide
    rw [log2_one, leastExponent]
    omega
  have more : (-((value.log2 : Int) - 53)).toNat = (52 - value.log2) + 1 := by
    omega
  have none : ((value.log2 : Int) - 53).toNat = 0 := by omega
  have wide : ¬value * 2 ^ ((52 - value.log2) + 1) / (1 * 2 ^ 0) < 2 ^ 53 := by
    rw [Nat.pow_succ, ← Nat.mul_assoc]
    omega
  simp only [unitExponent, guess, inUnits, more, none, Nat.pow_eq, if_neg wide]
  omega

/-- The magnitude of a natural number that has at most fifty-three digits. -/
theorem roundedMagnitude_natural
    {value : Nat}
    (positive : 0 < value)
    (small : value < 2 ^ 53) :
    roundedMagnitude value 1 = (value.log2 + 1022) * 2 ^ 52 +
      value * 2 ^ (52 - value.log2) := by
  rcases mul_pow_log2_bounds positive small with ⟨bounded, _, upper⟩
  have shift : (-((value.log2 : Int) - 52)).toNat = 52 - value.log2 := by omega
  have none : ((value.log2 : Int) - 52).toNat = 0 := by omega
  have above :
      ((value.log2 : Int) - 52 - leastExponent).toNat = value.log2 + 1022 := by
    rw [leastExponent]
    omega
  simp only [roundedMagnitude, if_neg positive.ne',
    unitExponent_natural positive small, inUnits, shift, none, above,
    Nat.pow_eq, Nat.pow_zero, Nat.mul_one, roundedQuotient_one]
  apply Nat.min_eq_right
  simp only [infiniteMagnitude, exponentWeight, Nat.pow_eq]
  omega

theorem roundedMagnitude_limit :
  roundedMagnitude (2 ^ 53) 1 = 1076 * 2 ^ 52 := by
  decide

/-- Up to `2 ^ 53` rounding keeps natural numbers apart, and in order. -/
theorem roundedMagnitude_lt
    {less greater : Nat}
    (ordered : less < greater)
    (bounded : greater ≤ 2 ^ 53) :
    roundedMagnitude less 1 < roundedMagnitude greater 1 := by
  have lessSmall : less < 2 ^ 53 := by omega
  rcases Nat.eq_zero_or_pos less with zero | positive
  · subst zero
    rcases Nat.lt_or_eq_of_le bounded with small | limit
    · rw [roundedMagnitude_natural ordered small]
      show 0 < _
      omega
    · rw [limit, roundedMagnitude_limit]
      decide
  · rcases mul_pow_log2_bounds positive lessSmall with
      ⟨lessBounded, _, lessUpper⟩
    rw [roundedMagnitude_natural positive lessSmall]
    rcases Nat.lt_or_eq_of_le bounded with small | limit
    · have greaterPositive : 0 < greater := by omega
      rcases mul_pow_log2_bounds greaterPositive small with ⟨_, greaterLower, _⟩
      rw [roundedMagnitude_natural greaterPositive small]
      -- With as many digits both are shifted alike; with fewer the exponent is
      -- less.
      rcases Nat.lt_or_ge less.log2 greater.log2 with fewer | notFewer
      · omega
      · have same : less.log2 = greater.log2 := by
          apply Nat.le_antisymm _ notFewer
          exact (Nat.le_log2 greaterPositive.ne').mpr
            ((Nat.log2_self_le positive.ne').trans ordered.le)
        rw [same]
        have shifted := Nat.mul_lt_mul_of_pos_right ordered
          (Nat.two_pow_pos (52 - greater.log2))
        omega
    · rw [limit, roundedMagnitude_limit]
      omega

/-! ## Integers -/

theorem magnitude_ofMagnitude
    (negative : Bool)
    {magnitude : Nat}
    (small : magnitude < signWeight) :
    (ofMagnitude negative magnitude).magnitude = magnitude ∧
      (ofMagnitude negative magnitude).isNegative = negative := by
  have weight : signWeight = 2 ^ 63 := rfl
  rw [weight] at small
  constructor
  · cases negative <;> simp [Binary64.magnitude, ofMagnitude, weight] <;> omega
  · cases negative <;> simp [isNegative, ofMagnitude, weight] <;> omega

theorem roundedMagnitude_le (numerator denominator : Nat) :
    roundedMagnitude numerator denominator ≤ infiniteMagnitude := by
  rw [roundedMagnitude]
  split
  · exact Nat.zero_le _
  · exact Nat.min_le_left _ _

theorem roundedMagnitude_lt_signWeight (numerator denominator : Nat) :
    roundedMagnitude numerator denominator < signWeight :=
  (roundedMagnitude_le numerator denominator).trans_lt (by decide)

theorem signedMagnitude_ofInt (value : Int) :
    (ofInt value).signedMagnitude =
      if value < 0 then -(roundedMagnitude value.natAbs 1 : Int)
      else roundedMagnitude value.natAbs 1 := by
  rcases magnitude_ofMagnitude (decide (value < 0))
    (roundedMagnitude_lt_signWeight value.natAbs 1) with ⟨magnitude, negative⟩
  simp only [signedMagnitude, ofInt, ofRatio, magnitude, negative,
    decide_eq_true_eq]

theorem isNaN_ofInt (value : Int) : (ofInt value).isNaN = false := by
  rw [isNaN, ofInt, ofRatio,
    (magnitude_ofMagnitude _ (roundedMagnitude_lt_signWeight value.natAbs 1)).1,
    decide_eq_false_iff_not]
  exact not_lt.mpr (roundedMagnitude_le _ _)

/-- Integers of magnitude at most `2 ^ 53` are ordered as their floating point
numbers. -/
theorem signedMagnitude_ofInt_lt
    {less greater : Int}
    (ordered : less < greater)
    (lessBounded : less.natAbs ≤ 2 ^ 53)
    (greaterBounded : greater.natAbs ≤ 2 ^ 53) :
    (ofInt less).signedMagnitude < (ofInt greater).signedMagnitude := by
  rw [signedMagnitude_ofInt, signedMagnitude_ofInt]
  rcases lt_or_ge less 0 with lessNegative | lessNatural
  · rcases lt_or_ge greater 0 with greaterNegative | greaterNatural
    · have reversed : greater.natAbs < less.natAbs := by omega
      have apart := roundedMagnitude_lt reversed lessBounded
      rw [if_pos lessNegative, if_pos greaterNegative]
      omega
    · have positive : 0 < less.natAbs := by omega
      have apart := roundedMagnitude_lt positive lessBounded
      rw [if_pos lessNegative, if_neg (not_lt.mpr greaterNatural)]
      omega
  · have greaterNatural : 0 ≤ greater := by omega
    have apart := roundedMagnitude_lt (by omega : less.natAbs < greater.natAbs)
      greaterBounded
    rw [if_neg (not_lt.mpr lessNatural), if_neg (not_lt.mpr greaterNatural)]
    omega

end JsonApi.Binary64
