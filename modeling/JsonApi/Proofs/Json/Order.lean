import JsonApi.Json.Basic
import JsonApi.Proofs.Binary64.Exactness
import JsonApi.Proofs.Sorting.StableSort
import Mathlib.Data.Prod.Lex
import Mathlib.Data.String.Basic

/-!
# When the order of values is a total preorder

The order of values can always be turned around.  It is not transitive among all
values: two integers beyond `2 ^ 53` may equal one floating point number without
being equal to each other.  It is a total preorder among values whose numbers
are all 64-bit integers, and among values whose integers all have an exact
floating point number.
-/

namespace JsonApi

namespace Binary64

theorem signedMagnitude_lt (number : Binary64) :
    number.signedMagnitude < signWeight := by
  have below : number.magnitude < signWeight :=
    Nat.mod_lt _ (Nat.two_pow_pos 63)
  rw [signedMagnitude]
  split
  · omega
  · omega

/-- The place of a number among all numbers, "not a number" being the last. -/
def place (number : Binary64) : Int :=
  if number.isNaN then signWeight else number.signedMagnitude

end Binary64

namespace Number

def IsInt64 (number : Number) : Prop :=
  number.toInt64?.isSome = true

/-- A number of magnitude at most `2 ^ 53`, or any that is not compared as an
integer. -/
def IsExact (number : Number) : Prop :=
  ∀ value, number.toInt64? = some value → value.natAbs ≤ 2 ^ 53

def Consistent (numbers : Number → Prop) : Prop :=
  (∀ number, numbers number → number.IsInt64) ∨ ∀ number, numbers number →
    number.IsExact

end Number

theorem compare?_eq_compare_place (left right : Binary64) :
    (left.compare? right).getD (compareFlags left.isNaN right.isNaN) =
      compare left.place right.place := by
  have leftBelow := left.signedMagnitude_lt
  have rightBelow := right.signedMagnitude_lt
  rw [Binary64.compare?, Binary64.place, Binary64.place]
  cases left.isNaN with
  | false =>
      cases right.isNaN with
      | false => rfl
      | true => exact (compare_lt_iff_lt.mpr leftBelow).symm
  | true =>
      cases right.isNaN with
      | false => exact (compare_gt_iff_gt.mpr rightBelow).symm
      | true => exact (compare_eq_iff_eq.mpr rfl).symm

theorem Number.toBinary64_of_toInt64?
    {number : Number}
    {value : Int}
    (isInteger : number.toInt64? = some value) :
    number.toBinary64 = Binary64.ofInt value := by
  cases number with
  | binary held => cases isInteger
  | integer held =>
      rw [toInt64?] at isInteger
      split at isInteger
      · cases isInteger
        rfl
      · cases isInteger

theorem place_ofInt (value : Int) :
    (Binary64.ofInt value).place = (Binary64.ofInt value).signedMagnitude := by
  rw [Binary64.place, Binary64.isNaN_ofInt]
  rfl

theorem compare_place_ofInt
    {left right : Int}
    (leftBounded : left.natAbs ≤ 2 ^ 53)
    (rightBounded : right.natAbs ≤ 2 ^ 53) :
    compare (Binary64.ofInt left).place (Binary64.ofInt right).place =
      compare left right := by
  rw [place_ofInt, place_ofInt]
  rcases lt_trichotomy left right with less | equal | greater
  · rw [compare_lt_iff_lt.mpr less, compare_lt_iff_lt]
    exact Binary64.signedMagnitude_ofInt_lt less leftBounded rightBounded
  · rw [equal, compare_eq_iff_eq.mpr rfl, compare_eq_iff_eq.mpr rfl]
  · rw [compare_gt_iff_gt.mpr greater, compare_gt_iff_gt]
    exact Binary64.signedMagnitude_ofInt_lt greater rightBounded leftBounded

/-- Unless both are 64-bit integers, numbers are compared by their floating
point places. -/
theorem compareNumbers_eq_compare_place
    {left right : Number}
    (mixed : ∀ leftValue rightValue,
      left.toInt64? = some leftValue → right.toInt64? ≠ some rightValue) :
    compareNumbers left right =
      compare left.toBinary64.place right.toBinary64.place := by
  rw [compareNumbers]
  split
  · rename_i leftValue rightValue isLeft isRight
    exact absurd isRight (mixed leftValue rightValue isLeft)
  · exact compare?_eq_compare_place _ _

theorem compareNumbers_of_toInt64?
    {left right : Number}
    {leftValue rightValue : Int}
    (isLeft : left.toInt64? = some leftValue)
    (isRight : right.toInt64? = some rightValue) :
    compareNumbers left right = compare leftValue rightValue := by
  simp only [compareNumbers, isLeft, isRight]

theorem compareNumbers_swap (left right : Number) :
    compareNumbers right left = (compareNumbers left right).swap := by
  by_cases whole : ∃ leftValue rightValue,
      left.toInt64? = some leftValue ∧ right.toInt64? = some rightValue
  · rcases whole with ⟨leftValue, rightValue, isLeft, isRight⟩
    rw [compareNumbers_of_toInt64? isLeft isRight,
      compareNumbers_of_toInt64? isRight isLeft]
    exact Std.OrientedOrd.eq_swap
  · have mixed : ∀ leftValue rightValue,
        left.toInt64? = some leftValue → right.toInt64? ≠ some rightValue :=
      fun leftValue rightValue isLeft isRight =>
        whole ⟨leftValue, rightValue, isLeft, isRight⟩
    rw [compareNumbers_eq_compare_place mixed,
      compareNumbers_eq_compare_place fun rightValue leftValue isRight isLeft =>
        mixed leftValue rightValue isLeft isRight]
    exact Std.OrientedOrd.eq_swap

/-- Consistent numbers stand on a scale. -/
theorem Number.Consistent.exists_scale
    {numbers : Number → Prop}
    (consistent : Consistent numbers) :
    ∃ scale : Number → Int, ∀ {left right : Number}, numbers left →
      numbers right →
      compareNumbers left right = compare (scale left) (scale right) := by
  rcases consistent with integers | exact
  · refine ⟨fun number => number.toInt64?.getD 0, ?_⟩
    intro left right isLeft isRight
    rcases Option.isSome_iff_exists.mp (integers left isLeft) with
      ⟨leftValue, leftIs⟩
    rcases Option.isSome_iff_exists.mp (integers right isRight) with
      ⟨rightValue, rightIs⟩
    show compareNumbers left right =
      compare (left.toInt64?.getD 0) (right.toInt64?.getD 0)
    rw [compareNumbers_of_toInt64? leftIs rightIs, leftIs, rightIs,
      Option.getD_some, Option.getD_some]
  · refine ⟨fun number => number.toBinary64.place, ?_⟩
    intro left right isLeft isRight
    by_cases whole : ∃ leftValue rightValue,
        left.toInt64? = some leftValue ∧ right.toInt64? = some rightValue
    · rcases whole with ⟨leftValue, rightValue, leftIs, rightIs⟩
      show compareNumbers left right =
        compare left.toBinary64.place right.toBinary64.place
      rw [compareNumbers_of_toInt64? leftIs rightIs,
        toBinary64_of_toInt64? leftIs, toBinary64_of_toInt64? rightIs]
      exact (compare_place_ofInt (exact left isLeft leftValue leftIs)
        (exact right isRight rightValue rightIs)).symm
    · exact compareNumbers_eq_compare_place
        fun leftValue rightValue leftIs rightIs =>
        whole ⟨leftValue, rightValue, leftIs, rightIs⟩

namespace Json

/-- Two values are of one kind, or their kinds tell them apart. -/
@[elab_as_elim]
theorem pair_cases
    {motive : Json → Json → Prop}
    (left right : Json)
    (apart : ∀ left right, left.rank ≠ right.rank → motive left right)
    (nulls : motive .null .null)
    (flags : ∀ left right, motive (.bool left) (.bool right))
    (numbers : ∀ left right, motive (.number left) (.number right))
    (texts : ∀ left right, motive (.string left) (.string right))
    (arrays : ∀ left right, motive (.array left) (.array right))
    (objects : ∀ left right, motive (.object left) (.object right)) :
    motive left right := by
  by_cases same : left.rank = right.rank
  · cases left <;> cases right <;> try cases same
    · exact nulls
    · exact flags _ _
    · exact numbers _ _
    · exact texts _ _
    · exact arrays _ _
    · exact objects _ _
  · exact apart left right same

theorem order_of_rank_ne
    {left right : Json}
    (different : left.rank ≠ right.rank) :
    left.order right = compare left.rank right.rank := by
  unfold order
  split
  · exact absurd rfl different
  · exact absurd rfl different
  · exact absurd rfl different
  · rfl

theorem order_swap (left right : Json) :
    right.order left = (left.order right).swap := by
  cases left, right using pair_cases with
  | apart left right different =>
      rw [order_of_rank_ne different, order_of_rank_ne different.symm]
      exact Std.OrientedOrd.eq_swap
  | nulls => rfl
  | flags left right =>
      show compare right.toNat left.toNat =
        (compare left.toNat right.toNat).swap
      exact Std.OrientedOrd.eq_swap
  | numbers left right => exact compareNumbers_swap left right
  | texts left right =>
      show compare right left = (compare left right).swap
      exact Std.OrientedOrd.eq_swap
  | arrays left right => rfl
  | objects left right => rfl

/-- The place of a value among all values, when its number has one on a
scale. -/
def place (scale : Number → Int) (value : Json) : Nat ×ₗ Int ×ₗ String :=
  toLex (value.rank, toLex (
    match value with
    | .bool flag => (flag.toNat, "")
    | .number value => (scale value, "")
    | .string text => (0, text)
    | _ => (0, "")))

theorem compare_place
    (scale : Number → Int)
    (left right : Json) :
    compare (left.place scale) (right.place scale) =
      (compare left.rank right.rank).then
        (compare (ofLex (left.place scale)).2 (ofLex (right.place scale)).2) :=
  rfl

theorem order_eq_compare_place
    {scale : Number → Int}
    {left right : Json}
    (agrees : ∀ leftNumber rightNumber, left = .number leftNumber →
      right = .number rightNumber →
      compareNumbers leftNumber rightNumber =
        compare (scale leftNumber) (scale rightNumber)) :
    left.order right = compare (left.place scale) (right.place scale) := by
  rw [compare_place]
  cases left, right using pair_cases with
  | apart left right different =>
      rw [order_of_rank_ne different]
      cases ordering : compare left.rank right.rank with
      | lt => rfl
      | gt => rfl
      | eq => exact absurd (compare_eq_iff_eq.mp ordering) different
  | nulls => rfl
  | flags left right => cases left <;> cases right <;> rfl
  | numbers left right =>
      rw [order, agrees left right rfl rfl]
      exact Ordering.then_eq.symm
  | texts left right => rfl
  | arrays left right => rfl
  | objects left right => rfl

/-- The number of a value, if it is one, is among some numbers. -/
def NumberIn (numbers : Number → Prop) (value : Json) : Prop :=
  ∀ number, value = .number number → numbers number

/-- Among consistent numbers the order of values is a total preorder. -/
theorem isPreorderOn_order
    {numbers : Number → Prop}
    (consistent : Number.Consistent numbers) :
    IsPreorderOn order (NumberIn numbers) := by
  rcases consistent.exists_scale with ⟨scale, agrees⟩
  apply IsPreorderOn.of_place (place scale)
  intro left right leftIn rightIn
  rw [cmp_eq_compare]
  apply order_eq_compare_place
  intro leftNumber rightNumber isLeft isRight
  exact agrees (leftIn leftNumber isLeft) (rightIn rightNumber isRight)

/-- The order can be turned around, and among consistent numbers it is a total
preorder. -/
theorem order_totalPreorder (first second third : Json) :
    second.order first = (first.order second).swap ∧
      ∀ numbers, Number.Consistent numbers → NumberIn numbers first →
        NumberIn numbers second →
        NumberIn numbers third →
          (first.order second ≠ .gt → second.order third ≠ .gt →
              first.order third ≠ .gt) ∧
            first.order first = .eq ∧
              (first.order second = .eq → second.order third = .eq →
                first.order third = .eq) := by
  refine ⟨order_swap first second, ?_⟩
  intro numbers consistent firstIn secondIn thirdIn
  have preorder := isPreorderOn_order consistent
  refine ⟨preorder.trans firstIn secondIn thirdIn, preorder.refl firstIn, ?_⟩
  intro below above
  rw [preorder.congr_left firstIn secondIn thirdIn below]
  exact above

/-- An integer, the floating point number it equals, and an integer of more than
63 bits. -/
theorem order_totalPreorder_mixed :
    let first := ofInt 9007199254740992
    let second := Json.number (.binary ⟨0x4340000000000000⟩)
    let third := ofInt 18446744073709551615
    Number.Consistent Number.IsExact ∧ NumberIn Number.IsExact first ∧
      NumberIn Number.IsExact second ∧ NumberIn Number.IsExact third ∧
        first.order second = .eq ∧ second.order third = .lt ∧
          first.order third ≠ .gt := by
  intro first second third
  have consistent : Number.Consistent Number.IsExact :=
    Or.inr fun number exact => exact
  have firstIn : NumberIn Number.IsExact (ofInt 9007199254740992) := by
    intro number isNumber value isValue
    cases isNumber
    cases isValue
    decide
  have secondIn :
      NumberIn Number.IsExact (.number (.binary ⟨0x4340000000000000⟩)) := by
    intro number isNumber value isValue
    cases isNumber
    cases isValue
  have thirdIn : NumberIn Number.IsExact (ofInt 18446744073709551615) := by
    intro number isNumber value isValue
    cases isNumber
    cases isValue
  have equal : first.order second = .eq := by decide
  have less : second.order third = .lt := by decide
  refine ⟨consistent, firstIn, secondIn, thirdIn, equal, less, ?_⟩
  exact ((order_totalPreorder first second third).2 Number.IsExact consistent
      firstIn secondIn thirdIn).1 (by simp [equal]) (by simp [less])

/-- The integers are different, and both of them equal the floating point
number. -/
theorem order_not_transitive :
    (ofInt 9007199254740993).order (.number (.binary ⟨0x4340000000000000⟩)) =
      .eq ∧
      order (.number (.binary ⟨0x4340000000000000⟩)) (ofInt 9007199254740992) =
        .eq ∧
      (ofInt 9007199254740993).order (ofInt 9007199254740992) = .gt := by
  decide

end Json

end JsonApi
