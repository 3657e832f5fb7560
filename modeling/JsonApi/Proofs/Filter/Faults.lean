import JsonApi.Proofs.Filter.Operands
import JsonApi.Proofs.Filter.Scopes

/-!
# What can be wrong with a filter input

`FilterInput.Fault` lists the faults that reading a filter input reports, with
what each of them says about the registered operators.  Every error that is
reported is one of these (`FilterInput.fault_of_read`), however deep it was
found.
-/

namespace JsonApi

namespace FilterInput

/-- A fault that reading reports. -/
inductive Fault (rules : Rules) : ValidationError → Prop where
  /-- The input is no map. -/
  | notMap (reason : String) : Fault rules (.malformedParameter "filter" reason)
  /-- What stands under a key does not have the shape that the key calls for. -/
  | shape
      (scope : Option String)
      (key reason : String) :
      Fault rules (.malformedParameter (scopeParameter scope key) reason)
  | emptyGroup
      {key : String}
      (isGroup : IsGroupKey key) :
      Fault rules (.emptyFilterGroup key)
  | unknownOperator
      {field name : String}
      (unregistered : rules.operators.find? name = none) :
      Fault rules (.unknownOperator field name)
  | invalidOperand
      {field name reason : String}
      (registered : rules.operators.contains name = true) :
      Fault rules (.invalidOperand field name reason)
  | emptyOperandList
      {field name : String}
      (registered : rules.operators.contains name = true) :
      Fault rules (.emptyOperandList field name)

variable {rules : Rules}

theorem fault_of_readOperator
    {field name : String}
    {input : FilterInput} :
    ∀ error ∈ (readOperator rules field name input).errors,
      Fault rules error := by
  rw [readOperator]
  split
  · rename_i unregistered
    exact List.forall_mem_singleton.mpr (.unknownOperator unregistered)
  · rename_i operator found
    have registered : rules.operators.contains operator.name = true := by
      rw [OperatorRegistry.contains, name_of_find? found, found]
      rfl
    split
    · rename_i error refused
      intro reported member
      rw [List.mem_singleton.mp member]
      rcases Operator.normalize_eq_error refused with
        ⟨reason, isError⟩ | isError
      · rw [isError]
        exact .invalidOperand registered
      · rw [isError]
        exact .emptyOperandList registered
    · split <;> exact List.forall_mem_nil _

/-- Putting readings together adds no errors but those of empty groups. -/
theorem collective_faults (rules : Rules) :
    Reading.Collective fun reading =>
      ∀ error ∈ reading.errors, Fault rules error where
  nothing := List.forall_mem_nil _
  malformed := fun scope key reason =>
    List.forall_mem_singleton.mpr (.shape scope key reason)
  append := fun first second => List.forall_mem_append.mpr ⟨first, second⟩
  conjoined := fun faults => faults
  closeGroup := by
    intro members key isGroup faults
    rcases closeGroup_cases key members with ⟨_, closed⟩ | ⟨_, _, _, closed⟩
    · rw [closed]
      exact List.forall_mem_append.mpr
        ⟨faults, List.forall_mem_singleton.mpr (.emptyGroup isGroup)⟩
    · rw [closed]
      exact faults

/-- Every error of a refused input is one of the listed faults. -/
theorem fault_of_read
    {input : FilterInput}
    {report : ValidationErrors}
    (refused : input.read rules = .error report) :
    ∀ error ∈ report.errors, Fault rules error := by
  cases input with
  | scalar value =>
      cases refused
      exact List.forall_mem_singleton.mpr (.notMap _)
  | list items =>
      cases refused
      exact List.forall_mem_singleton.mpr (.notMap _)
  | map entries =>
      have faults : ∀ error ∈ (readScope rules none entries).errors,
          Fault rules error :=
        (collective_faults rules).readScope fun _ _ _ _ => fault_of_readOperator
      rw [read, ValidationErrors.unlessAny_eq_error_iff] at refused
      rw [refused.2]
      exact faults

end FilterInput

end JsonApi
