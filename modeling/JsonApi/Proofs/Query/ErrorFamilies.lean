import JsonApi.Proofs.Filter.Faults
import JsonApi.Proofs.Query.Soundness

/-!
# Errors and the families they are about

Each part of a request has its own family of query parameters, and every error
with which a part is refused names a parameter of that family
(`ValidationError.Concerns`).  Since no family name begins another one, an
error of one part is never mistaken for an error of another.
-/

namespace JsonApi

namespace ValidationError

/-- The parameter that an error names belongs to a family. -/
def Concerns (error : ValidationError) (family : String) : Prop :=
  ∃ rest, error.parameter = family ++ rest

/-- No error is about two families of which neither name begins the other. -/
theorem Concerns.exclusive
    {error : ValidationError}
    {first second : String}
    (concernsFirst : error.Concerns first)
    (concernsSecond : error.Concerns second)
    (apart : ¬first.toList <+: second.toList ∧
      ¬second.toList <+: first.toList) :
    False := by
  rcases concernsFirst with ⟨firstRest, named⟩
  rcases concernsSecond with ⟨secondRest, alsoNamed⟩
  have inFirst : first.toList <+: error.parameter.toList := by
    rw [named, String.toList_append]
    exact List.prefix_append _ _
  have inSecond : second.toList <+: error.parameter.toList := by
    rw [alsoNamed, String.toList_append]
    exact List.prefix_append _ _
  rcases List.prefix_or_prefix_of_prefix inFirst inSecond with begins | begins
  · exact apart.1 begins
  · exact apart.2 begins

theorem concerns_of_bracketed
    {error : ValidationError}
    {family begun name : String}
    (opened : begun = family ++ "[")
    (named : error.parameter = begun ++ name ++ "]") :
    error.Concerns family :=
  ⟨"[" ++ name ++ "]", by rw [named, opened]; simp only [String.append_assoc]⟩

end ValidationError

namespace QuerySpecification

@[simp]
theorem errorsOf_unlessAny
    {α : Type}
    (errors : List ValidationError)
    (value : α) :
    errorsOf (ValidationErrors.unlessAny errors value) = errors := by
  cases errors <;> rfl

/-- A computation without errors has a value. -/
theorem errorsOf_eq_nil_iff
    {α : Type}
    {outcome : Except ValidationErrors α} :
    errorsOf outcome = [] ↔ ∃ value, outcome = .ok value := by
  cases outcome with
  | ok value => simp [errorsOf]
  | error report => simp [errorsOf, report.nonempty]

end QuerySpecification

open QuerySpecification (errorsOf)

/-! ## The parts that are checked independently -/

theorem FieldSelection.concerns_of_mem_errors
    {schema : Schema}
    {maxTotal : Nat}
    {requested : List (String × List String)}
    {error : ValidationError}
    (member :
      error ∈ QuerySpecification.errorsOf (resolve schema maxTotal requested)) :
    error.Concerns "fields" := by
  rw [resolve, QuerySpecification.errorsOf_unlessAny] at member
  rcases List.mem_append.mp member with ofNames | ofTotal
  · rcases List.mem_flatMap.mp ofNames with ⟨entry, _, ofEntry⟩
    dsimp only at ofEntry
    rw [FieldSelection.errorsOf] at ofEntry
    split at ofEntry
    · rcases List.mem_map.mp ofEntry with ⟨_, _, isError⟩
      rw [← isError]
      exact ValidationError.concerns_of_bracketed (by decide) rfl
    · rw [List.mem_singleton.mp ofEntry]
      exact ValidationError.concerns_of_bracketed (by decide) rfl
  · split at ofTotal
    · rw [List.mem_singleton.mp ofTotal]
      exact ⟨"", rfl⟩
    · cases ofTotal

theorem SortKey.concerns_of_mem_errors
    {settings : SortSettings}
    {schema : Schema}
    {resourceType : String}
    {requested : List SortKey}
    {error : ValidationError}
    (member :
      error ∈ errorsOf (resolve settings schema resourceType requested)) :
    error.Concerns "sort" := by
  rw [resolve, QuerySpecification.errorsOf_unlessAny] at member
  rcases List.mem_map.mp member with ⟨_, _, isError⟩
  rw [← isError]
  exact ⟨"", rfl⟩

theorem Page.concerns_of_mem_errors
    {settings : PageSettings}
    {request : PageRequest}
    {error : ValidationError}
    (member : error ∈
      errorsOf ((resolve settings request).mapError ValidationErrors.single)) :
    error.Concerns "page" := by
  rw [resolve] at member
  dsimp only at member
  split at member
  · rw [List.mem_singleton.mp member]
    exact ⟨"[number]", rfl⟩
  · cases member

theorem IncludeTree.concerns_of_mem_errors
    {schema : Schema}
    {maxDepth maxPaths : Nat}
    {resourceType : String}
    {requested : List String}
    {error : ValidationError}
    (member : error ∈
      errorsOf (resolve schema maxDepth maxPaths resourceType requested)) :
    error.Concerns "include" := by
  rw [resolve, QuerySpecification.errorsOf_unlessAny] at member
  rcases List.mem_append.mp member with ofCount | ofPath
  · split at ofCount
    · rw [List.mem_singleton.mp ofCount]
      exact ⟨"", rfl⟩
    · cases ofCount
  · rcases List.mem_flatMap.mp ofPath with ⟨checked, isChecked, isError⟩
    rcases List.mem_map.mp isChecked with ⟨entry, _, isOutcome⟩
    rw [← isOutcome, checkPath] at isError
    split at isError
    · rw [List.mem_singleton.mp isError]
      exact ⟨"", rfl⟩
    · split at isError
      · rw [List.mem_singleton.mp isError]
        exact ⟨"", rfl⟩
      · split at isError
        · cases isError
        · rw [List.mem_singleton.mp isError]
          exact ⟨"", rfl⟩

/-! ## The filter -/

theorem FilterInput.Fault.concerns
    {rules : Rules}
    {error : ValidationError}
    (fault : Fault rules error) :
    error.Concerns "filter" := by
  cases fault with
  | notMap reason => exact ⟨"", rfl⟩
  | shape scope key reason =>
      cases scope with
      | none => exact ⟨_, rfl⟩
      | some outer =>
          exact ⟨bracketedPath outer ++ bracketedPath key, String.append_assoc⟩
  | emptyGroup _ => exact ValidationError.concerns_of_bracketed (by decide) rfl
  | unknownOperator _ => exact ⟨_, rfl⟩
  | invalidOperand _ => exact ⟨_, rfl⟩
  | emptyOperandList _ => exact ⟨_, rfl⟩

theorem Schema.concerns_of_fieldError?
    {schema : Schema}
    {resourceType field : String}
    {error : ValidationError}
    (isError : schema.fieldError? resourceType field = some error) :
    error.Concerns "filter" := by
  rw [fieldError?] at isError
  split at isError
  · cases isError
  · cases isError
    exact ⟨_, rfl⟩
  · cases isError
    exact ⟨_, rfl⟩

namespace QuerySpecification

/-- What a filter is refused for: a fault of reading, or else a fault of a field
or of the depth. -/
theorem mem_errorsOf_resolveFilter
    {schema : Schema}
    {operators : OperatorRegistry}
    {limits : Limits}
    {resourceType : String}
    {input : FilterInput}
    {error : ValidationError}
    (member : error ∈
      errorsOf (resolveFilter schema operators limits resourceType input)) :
    FilterInput.Fault ⟨operators, limits.filterMaxOperands⟩ error ∨
      ∃ filter,
        input.read ⟨operators, limits.filterMaxOperands⟩ = .ok (some filter) ∧
        ((∃ field ∈ filter.fields,
            schema.fieldError? resourceType field = some error) ∨
          error = .filterTooDeep filter.depth limits.filterMaxDepth) := by
  rw [resolveFilter] at member
  cases isRead : input.read ⟨operators, limits.filterMaxOperands⟩ with
  | error report =>
      rw [isRead] at member
      exact Or.inl (FilterInput.fault_of_read isRead error member)
  | ok filter? =>
      rw [isRead] at member
      cases filter? with
      | none => cases member
      | some filter =>
          have checked : error ∈ errorsOf (ValidationErrors.unlessAny
              (filterErrors schema limits resourceType filter) (some filter)) :=
                member
          rw [errorsOf_unlessAny] at checked
          refine Or.inr ⟨filter, rfl, ?_⟩
          rcases List.mem_append.mp checked with ofField | ofDepth
          · rcases List.mem_filterMap.mp ofField with ⟨field, isField, isError⟩
            exact Or.inl ⟨field, mem_firstOccurrences.mp isField, isError⟩
          · split at ofDepth
            · exact Or.inr (List.mem_singleton.mp ofDepth)
            · cases ofDepth

theorem concerns_of_mem_filterErrors
    {schema : Schema}
    {operators : OperatorRegistry}
    {limits : Limits}
    {resourceType : String}
    {input : FilterInput}
    {error : ValidationError}
    (member : error ∈
      errorsOf (resolveFilter schema operators limits resourceType input)) :
    error.Concerns "filter" := by
  rcases mem_errorsOf_resolveFilter member with
    fault | ⟨_, _, ⟨_, _, ofField⟩ | tooDeep⟩
  · exact fault.concerns
  · exact Schema.concerns_of_fieldError? ofField
  · rw [tooDeep]
    exact ⟨"", rfl⟩

end QuerySpecification

end JsonApi
