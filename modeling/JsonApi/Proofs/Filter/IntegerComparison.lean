import JsonApi.Filter.Predicate
import JsonApi.Proofs.Binary64.Monotonicity
import JsonApi.Proofs.Json.Order

/-!
# Integers in filters and in sort keys

Sorting compares two 64-bit integers exactly, and a filter compares a stored
integer with an operand by their floating point numbers.  The two agree exactly
where rounding tells the integers apart, and where it does not the filter takes
them for equal; a filter never turns two integers around.  Wherever rounding
tells the stored integer apart from the operands, the relations, membership and
ranges decide by its exact value (`FieldPredicate.decides_integers`).
-/

namespace JsonApi

/-- The relation holds between two integers. -/
def Relation.Orders : Relation → Int → Int → Prop
  | .eq, left, right => left = right
  | .neq, left, right => left ≠ right
  | .lt, left, right => left < right
  | .lte, left, right => left ≤ right
  | .gt, left, right => right < left
  | .gte, left, right => right ≤ left

theorem Relation.admits_compare_iff
    (relation : Relation)
    (left right : Int) :
    relation.admits (compare left right) = true ↔
      relation.Orders left right := by
  rcases lt_trichotomy left right with less | equal | greater
  · rw [compare_lt_iff_lt.mpr less]
    cases relation <;> simp [Relation.admits, Relation.Orders] <;> omega
  · rw [compare_eq_iff_eq.mpr equal]
    cases relation <;> simp [Relation.admits, Relation.Orders] <;> omega
  · rw [compare_gt_iff_gt.mpr greater]
    cases relation <;> simp [Relation.admits, Relation.Orders] <;> omega

variable {stored operand low high : Int}

/-- An integer is compared exactly, unless the operand has the same floating
point number. -/
theorem compareOperand_ofInt (stored operand : Int) :
    compareOperand (.ofInt stored) (.int operand) =
      some (if Binary64.ofInt stored = Binary64.ofInt operand then .eq
        else compare stored operand) :=
  Binary64.compare?_ofInt stored operand

theorem compareOperand_of_tellsApart
    (apart : Binary64.TellsApart stored operand) :
    compareOperand (.ofInt stored) (.int operand) =
      some (compare stored operand) := by
  rw [compareOperand_ofInt]
  split
  · rename_i same
    rw [compare_eq_iff_eq.mpr (apart same)]
  · rfl

theorem Json.order_ofInt
    (storedFits : Text.isInt64 stored = true)
    (operandFits : Text.isInt64 operand = true) :
    (ofInt stored).order (ofInt operand) = compare stored operand :=
  compareNumbers_of_toInt64? (if_pos storedFits) (if_pos operandFits)

/-- Filters compare like sort keys exactly where rounding tells the integers
apart. -/
theorem compareOperand_eq_order_iff
    (storedFits : Text.isInt64 stored = true)
    (operandFits : Text.isInt64 operand = true) :
    compareOperand (.ofInt stored) (.int operand) =
        some ((Json.ofInt stored).order (.ofInt operand)) ↔
      Binary64.TellsApart stored operand := by
  rw [Json.order_ofInt storedFits operandFits]
  constructor
  · intro exact same
    rw [compareOperand_ofInt, if_pos same] at exact
    exact compare_eq_iff_eq.mp (Option.some.inj exact).symm
  · exact compareOperand_of_tellsApart

/-! ## Operators -/

theorem equalsOperand_ofInt (apart : Binary64.TellsApart stored operand) :
    equalsOperand (.ofInt stored) (.int operand) =
      decide (stored = operand) := by
  rw [equalsOperand, compareOperand_of_tellsApart apart, Bool.eq_iff_iff,
    beq_iff_eq, Option.some.injEq, compare_eq_iff_eq, decide_eq_true_iff]

theorem Relation.holds_ofInt_iff
    (relation : Relation)
    (apart : Binary64.TellsApart stored operand) :
    relation.holds (.ofInt stored) (.int operand) = true ↔
      relation.Orders stored operand := by
  rw [Relation.holds, compareOperand_of_tellsApart apart]
  exact relation.admits_compare_iff stored operand

theorem FieldPredicate.compareHolds_ofInt_iff
    (relation : Relation)
    (apart : Binary64.TellsApart stored operand) :
    compareHolds [.ofInt stored] relation (.int operand) = true ↔
      relation.Orders stored operand := by
  have equality := equalsOperand_ofInt apart
  have ordering := relation.holds_ofInt_iff apart
  cases relation with
  | eq => simp [compareHolds, equality, Relation.Orders]
  | neq => simp [compareHolds, equality, Relation.Orders]
  | lt => simpa [compareHolds] using ordering
  | lte => simpa [compareHolds] using ordering
  | gt => simpa [compareHolds] using ordering
  | gte => simpa [compareHolds] using ordering

theorem any_equalsOperand_ofInt
    {operands : List Int}
    (apart : ∀ operand ∈ operands, Binary64.TellsApart stored operand) :
    (operands.map Operand.int).any (equalsOperand (.ofInt stored)) =
      decide (stored ∈ operands) := by
  induction operands with
  | nil => rfl
  | cons operand operands induction =>
      rcases List.forall_mem_cons.mp apart with ⟨first, rest⟩
      rw [List.map_cons, List.any_cons, equalsOperand_ofInt first,
        induction rest]
      simp only [List.mem_cons, Bool.decide_or]

/-- A filter on an integer either decides by its exact value or takes it for an
operand that has the same floating point number; it does the former for operands
that rounding tells apart from it. -/
theorem FieldPredicate.decides_integers
    (storedFits : Text.isInt64 stored = true) :
    (∀ operand, Text.isInt64 operand = true →
      (compareOperand (.ofInt stored) (.int operand) = some .eq ∨
          compareOperand (.ofInt stored) (.int operand) =
            some ((Json.ofInt stored).order (.ofInt operand))) ∧
        (compareOperand (.ofInt stored) (.int operand) =
            some ((Json.ofInt stored).order (.ofInt operand)) ↔
          Binary64.TellsApart stored operand) ∧
        (stored.natAbs < 2 ^ 53 ∨ operand.natAbs < 2 ^ 53 →
          Binary64.TellsApart stored operand)) ∧
      ∀ (lookup : FieldLookup) (field : String),
        lookup field = [.ofInt stored] →
        (∀ relation operand, Binary64.TellsApart stored operand →
          ((FieldPredicate.compare field relation (.int operand)).holds lookup =
              true ↔
            relation.Orders stored operand)) ∧
          (∀ (operands : List Int) (negated : Bool),
            (∀ operand ∈ operands, Binary64.TellsApart stored operand) →
            (FieldPredicate.isIn field (operands.map .int) negated).holds
              lookup =
              (decide (stored ∈ operands) != negated)) ∧
          ∀ low high, Binary64.TellsApart stored low →
            Binary64.TellsApart stored high →
            ((FieldPredicate.between field (.int low) (.int high)).holds
                lookup = true ↔
              low ≤ stored ∧ stored ≤ high) := by
  refine ⟨?_, ?_⟩
  · intro operand operandFits
    refine ⟨?_, compareOperand_eq_order_iff storedFits operandFits,
      Binary64.tellsApart_of_natAbs_lt⟩
    rw [compareOperand_ofInt, Json.order_ofInt storedFits operandFits]
    split
    · exact Or.inl rfl
    · exact Or.inr rfl
  · intro lookup field reads
    have values : valuesOf lookup field = [.ofInt stored] := by
      rw [valuesOf, reads]
    refine ⟨?_, ?_, ?_⟩
    · intro relation operand apart
      rw [holds, values]
      exact compareHolds_ofInt_iff relation apart
    · intro operands negated apart
      rw [holds, values, List.any_cons, List.any_nil, Bool.or_false,
        any_equalsOperand_ofInt apart]
    · intro low high lowApart highApart
      rw [holds, values, List.any_cons, List.any_nil,
        Bool.or_false, Bool.and_eq_true, Relation.gte.holds_ofInt_iff lowApart,
        Relation.lte.holds_ofInt_iff highApart]
      rfl

/-- An integer beyond `2 ^ 53`, with operands on both sides of that limit. -/
theorem FieldPredicate.decides_integers_large :
    Text.isInt64 9007199254740993 = true ∧
      compareOperand (.ofInt 9007199254740993) (.int 9007199254740991) =
        some ((Json.ofInt 9007199254740993).order (.ofInt 9007199254740991)) ∧
      (FieldPredicate.between "serial" (.int 7) (.int 9007199254740996)).holds
        (fun _ => [.ofInt 9007199254740993]) = true := by
  have fits : Text.isInt64 9007199254740993 = true := by decide
  rcases FieldPredicate.decides_integers fits with ⟨comparisons, predicates⟩
  rcases comparisons 9007199254740991 (by decide) with ⟨_, agree, small⟩
  rcases predicates (fun _ => [.ofInt 9007199254740993]) "serial" rfl with
    ⟨_, _, ranges⟩
  refine ⟨fits, agree.mpr (small (Or.inr (by decide))), ?_⟩
  apply (ranges 7 9007199254740996
      (Binary64.tellsApart_of_natAbs_lt (Or.inr (by decide))) ?_).mpr
  · decide
  · intro same
    exact absurd same (by decide)

/-- Sorting tells the integers apart, and the filter for equality does not. -/
theorem FieldPredicate.equal_holds_of_different_integer :
    (Json.ofInt 9007199254740993).order (.ofInt 9007199254740992) = .gt ∧
      compareOperand (.ofInt 9007199254740993) (.int 9007199254740992) =
        some .eq ∧
      (FieldPredicate.compare "serial" .eq (.int 9007199254740992)).holds
        (fun _ => [.ofInt 9007199254740993]) = true := by
  decide

end JsonApi
