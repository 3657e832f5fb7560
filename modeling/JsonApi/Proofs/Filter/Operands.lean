import JsonApi.Filter.Reading
import JsonApi.Proofs.Outcome
import Mathlib.Data.List.Basic

/-!
# Operands of an arity

`Arity.Admits` says which lists of operands an arity allows, and
`Operator.Takes` which of them an operator takes that accepts null or does not.
Normalization yields such lists only, whatever was written behind the operator
(`Operator.takes_of_normalize`).
-/

namespace JsonApi

/-- The lists of operands of an arity; `limit` bounds those of a list
operator. -/
def Arity.Admits
    (arity : Arity)
    (limit : Nat)
    (operands : List Operand) : Prop :=
  match arity with
  | .single => ∃ operand, operands = [operand]
  | .list => 1 ≤ operands.length ∧ operands.length ≤ limit
  | .pair => ∃ first second, operands = [first, second]
  | .flag => ∃ flag, operands = [.bool flag]

namespace Operator

/-- The operand of an operator that takes one scalar is the scalar that was
written. -/
theorem normalizeSingle_eq_ok
    {acceptsNull : Bool}
    {input : FilterInput}
    {operands : List Operand}
    (normalized : normalizeSingle acceptsNull input = .ok operands) :
    ∃ value, input = .scalar value ∧ operands = [value] := by
  cases input with
  | scalar value =>
      dsimp only [normalizeSingle] at normalized
      split at normalized
      · cases normalized
      · cases normalized
        exact ⟨value, rfl, rfl⟩
  | list items => cases normalized
  | map entries => cases normalized

theorem normalizeFlag_eq_ok
    {input : FilterInput}
    {operands : List Operand}
    (normalized : normalizeFlag input = .ok operands) :
    ∃ flag, operands = [.bool flag] := by
  unfold normalizeFlag at normalized
  split at normalized
  · split at normalized
    · cases normalized
      exact ⟨_, rfl⟩
    · cases normalized
  · cases normalized

theorem normalizePair_eq_ok
    {input : FilterInput}
    {operands : List Operand}
    (normalized : normalizePair input = .ok operands) :
    ∃ first second, operands = [first, second] := by
  rcases Outcome.bind_eq_ok_iff.mp normalized with ⟨found, _, checked⟩
  split at checked
  · cases checked
  · rename_i isPair
    split at checked
    · cases checked
    · cases checked
      exact List.length_eq_two.mp (not_not.mp isPair)

theorem normalizeList_eq_ok
    {operator : Operator}
    {field : String}
    {limit : Nat}
    {input : FilterInput}
    {operands : List Operand}
    (normalized : operator.normalizeList field limit input = .ok operands) :
    1 ≤ operands.length ∧ operands.length ≤ limit := by
  rw [normalizeList] at normalized
  dsimp only at normalized
  split at normalized
  · cases normalized
  · split at normalized
    · cases normalized
    · rename_i notEmpty
      split at normalized
      · cases normalized
      · rename_i notTooMany
        split at normalized
        · cases normalized
        · cases normalized
          refine ⟨?_, Nat.le_of_not_lt notTooMany⟩
          cases operands with
          | nil => exact absurd rfl notEmpty
          | cons first rest => simp

/-! ## Null among operands -/

theorem any_isNull_of_mem
    {operands : List Operand}
    (hasNull : .null ∈ operands) :
    operands.any Operand.isNull = true :=
  List.any_eq_true.mpr ⟨.null, hasNull, rfl⟩

theorem acceptsNull_of_normalizeSingle
    {acceptsNull : Bool}
    {input : FilterInput}
    {operands : List Operand}
    (normalized : normalizeSingle acceptsNull input = .ok operands)
    (hasNull : .null ∈ operands) :
    acceptsNull = true := by
  rcases normalizeSingle_eq_ok normalized with ⟨value, rfl, rfl⟩
  cases List.mem_singleton.mp hasNull
  cases acceptsNull with
  | true => rfl
  | false => cases normalized

theorem null_not_mem_of_normalizePair
    {input : FilterInput}
    {operands : List Operand}
    (normalized : normalizePair input = .ok operands) :
    .null ∉ operands := by
  rcases Outcome.bind_eq_ok_iff.mp normalized with ⟨found, _, checked⟩
  split at checked
  · cases checked
  · split at checked
    · cases checked
    · rename_i noNull
      cases checked
      exact fun hasNull => noNull (any_isNull_of_mem hasNull)

theorem acceptsNull_of_normalizeList
    {operator : Operator}
    {field : String}
    {limit : Nat}
    {input : FilterInput}
    {operands : List Operand}
    (normalized : operator.normalizeList field limit input = .ok operands)
    (hasNull : .null ∈ operands) :
    operator.acceptsNull = true := by
  rw [normalizeList] at normalized
  dsimp only at normalized
  split at normalized
  · cases normalized
  · split at normalized
    · cases normalized
    · split at normalized
      · cases normalized
      · split at normalized
        · cases normalized
        · rename_i admitted
          cases normalized
          simpa [any_isNull_of_mem hasNull] using admitted

/-! ## What normalization yields -/

/-- The operands are such as an operator takes: as many as its arity says, and
null among them only where a single or list operator accepts it. -/
def Takes
    (operator : Operator)
    (limit : Nat)
    (operands : List Operand) : Prop :=
  match operator.arity with
  | .single =>
      ∃ operand, operands = [operand] ∧
        (operand = .null → operator.acceptsNull = true)
  | .list =>
    1 ≤ operands.length ∧ operands.length ≤ limit ∧
      (.null ∈ operands → operator.acceptsNull = true)
  | .pair =>
      ∃ first second, operands = [first, second] ∧ first ≠ .null ∧
        second ≠ .null
  | .flag => ∃ flag, operands = [.bool flag]

/-- Normalization yields operands that the operator takes. -/
theorem takes_of_normalize
    {operator : Operator}
    {field : String}
    {limit : Nat}
    {input : FilterInput}
    {operands : List Operand}
    (normalized : operator.normalize field limit input = .ok operands) :
    operator.Takes limit operands := by
  rw [normalize] at normalized
  rw [Takes]
  cases arity : operator.arity with
  | single =>
      rw [arity] at normalized
      have accepted := Outcome.mapError_eq_ok_iff.mp normalized
      rcases normalizeSingle_eq_ok accepted with ⟨value, _, isOnly⟩
      refine ⟨value, isOnly, ?_⟩
      rintro rfl
      exact acceptsNull_of_normalizeSingle accepted (by simp [isOnly])
  | list =>
      rw [arity] at normalized
      rcases normalizeList_eq_ok normalized with ⟨nonempty, bounded⟩
      exact ⟨nonempty, bounded, acceptsNull_of_normalizeList normalized⟩
  | pair =>
      rw [arity] at normalized
      have accepted := Outcome.mapError_eq_ok_iff.mp normalized
      rcases normalizePair_eq_ok accepted with ⟨first, second, isPair⟩
      have noNull := null_not_mem_of_normalizePair accepted
      rw [isPair] at noNull
      refine ⟨first, second, isPair, ?_, ?_⟩
      · rintro rfl
        simp at noNull
      · rintro rfl
        simp at noNull
  | flag =>
      rw [arity] at normalized
      exact normalizeFlag_eq_ok (Outcome.mapError_eq_ok_iff.mp normalized)

theorem Takes.admits
    {operator : Operator}
    {limit : Nat}
    {operands : List Operand}
    (takes : operator.Takes limit operands) :
    operator.arity.Admits limit operands := by
  rw [Takes] at takes
  cases arity : operator.arity with
  | single =>
      rw [arity] at takes
      rcases takes with ⟨operand, isOnly, _⟩
      exact ⟨operand, isOnly⟩
  | list =>
      rw [arity] at takes
      exact ⟨takes.1, takes.2.1⟩
  | pair =>
      rw [arity] at takes
      rcases takes with ⟨first, second, isPair, _, _⟩
      exact ⟨first, second, isPair⟩
  | flag =>
      rw [arity] at takes
      exact takes

/-- Normalization yields operands of the operator's arity. -/
theorem admits_of_normalize
    {operator : Operator}
    {field : String}
    {limit : Nat}
    {input : FilterInput}
    {operands : List Operand}
    (normalized : operator.normalize field limit input = .ok operands) :
    operator.arity.Admits limit operands :=
  (takes_of_normalize normalized).admits

/-! ## Refusals -/

/-- Normalization is refused for a stated reason or for want of operands. -/
theorem normalize_eq_error
    {operator : Operator}
    {field : String}
    {limit : Nat}
    {input : FilterInput}
    {error : ValidationError}
    (refused : operator.normalize field limit input = .error error) :
    (∃ reason, error = .invalidOperand field operator.name reason) ∨
      error = .emptyOperandList field operator.name := by
  have stated {computation : Except String (List Operand)}
      (failed : computation.mapError
        (ValidationError.invalidOperand field operator.name) =
        .error error) :
      ∃ reason, error = .invalidOperand field operator.name reason := by
    rcases Outcome.mapError_eq_error_iff.mp failed with ⟨reason, _, isError⟩
    exact ⟨reason, isError.symm⟩
  rw [normalize] at refused
  cases arity : operator.arity with
  | single =>
      rw [arity] at refused
      exact Or.inl (stated refused)
  | flag =>
      rw [arity] at refused
      exact Or.inl (stated refused)
  | pair =>
      rw [arity] at refused
      exact Or.inl (stated refused)
  | list =>
      rw [arity] at refused
      dsimp only at refused
      rw [normalizeList] at refused
      dsimp only at refused
      split at refused
      · cases refused
        exact Or.inl ⟨_, rfl⟩
      · split at refused
        · cases refused
          exact Or.inr rfl
        · split at refused
          · cases refused
            exact Or.inl ⟨_, rfl⟩
          · split at refused
            · cases refused
              exact Or.inl ⟨_, rfl⟩
            · cases refused

end Operator

end JsonApi
