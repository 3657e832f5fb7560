import JsonApi.Proofs.Filter.Leaves
import JsonApi.Proofs.Query.Report
import JsonApi.Proofs.Text.Pieces

/-!
# Names reported as unknown operators

There are two ways to report a name as an unknown operator.  Reading looks the
name up among the registered ones.  The check of fields does not: it takes any
name behind an attribute for an operator that was not registered, since reading
opens a scope below a field only if no key of it is an operator.  That reason
holds for whole keys of such a scope.  Nothing is looked up for the names in a
dotted key, nor for the keys of a group below a field
(`FilterInput.Overlooked`), and there the check reports registered operators as
well (`QuerySpecification.build_reports_registered`).  Everywhere else a name
that is reported is not registered
(`QuerySpecification.unregistered_of_reported`).
-/

namespace JsonApi

open JsonApi.Text

/-! ## Names behind an attribute -/

namespace Schema

theorem resolveField_of_fieldError?
    {schema : Schema}
    {resourceType field reported operator : String}
    (isError : schema.fieldError? resourceType field =
      some (.unknownOperator reported operator)) :
    schema.resolveField resourceType field =
      .nameAfterAttribute reported operator := by
  rw [fieldError?] at isError
  split at isError
  · cases isError
  · rename_i resolved
    cases isError
    exact resolved
  · cases isError

end Schema

/-! ## Names that are not looked up -/

namespace FilterInput

/-- A name in a key that reading takes for part of a field without looking it up
among the operators, and the path of this key. -/
inductive Overlooked
    (rules : Rules)
    (top : List (String × FilterInput)) :
    String → String → Prop where
  /-- A name between the dots of a key. -/
  | dotted
      {scope : Option String}
      {grouped : Bool}
      {key name : String}
      {input : FilterInput}
      {entries : List (String × FilterInput)}
      (opened : Opened rules top scope grouped entries)
      (member : (key, input) ∈ entries)
      (isDotted : '.' ∈ key.toList)
      (isPiece : name ∈ splitAt '.' key) :
      Overlooked rules top (fieldPath scope key) name
  /-- A key in a group below a field. -/
  | grouped
      {field name : String}
      {input : FilterInput}
      {entries : List (String × FilterInput)}
      (opened : Opened rules top (some field) true entries)
      (member : (name, input) ∈ entries) :
      Overlooked rules top (fieldPath (some field) name) name

variable {rules : Rules} {top entries : List (String × FilterInput)}
  {scope : Option String} {grouped : Bool} {schema : Schema}
  {resourceType reported operator : String}
  (looked : ∀ path, Overlooked rules top path operator →
    schema.resolveField resourceType path ≠
      .nameAfterAttribute reported operator)

include looked

/-- A name that was not overlooked and is found behind an attribute at a key of
an opened scope is not registered, provided that this holds for the field of the
scope. -/
theorem unregistered_of_key
    (opened : Opened rules top scope grouped entries)
    (outside : ∀ outer, scope = some outer →
      schema.resolveField resourceType outer =
        .nameAfterAttribute reported operator →
        rules.operators.contains operator = false)
    {key : String}
    {input : FilterInput}
    (member : (key, input) ∈ entries)
    (behind : schema.resolveField resourceType (fieldPath scope key) =
      .nameAfterAttribute reported operator) :
    rules.operators.contains operator = false := by
  cases scope with
  | none =>
      have isLate : operator ∈ (splitAt '.' key).tail :=
        (Schema.resolveField_eq_iff.mp behind).mem_tail
      by_cases isDotted : '.' ∈ key.toList
      · have overlooked :=
          Overlooked.dotted opened member isDotted (List.mem_of_mem_tail isLate)
        exact absurd behind (looked _ overlooked)
      · rw [splitAt_of_not_mem isDotted] at isLate
        cases isLate
  | some outer =>
      have names : splitAt '.' (fieldPath (some outer) key) =
          splitAt '.' outer ++ splitAt '.' key :=
        splitAt_append '.' outer key
      have leads := Schema.resolveField_eq_iff.mp behind
      rw [names] at leads
      rcases leads.of_append with above | isPiece
      · exact outside outer rfl (Schema.resolveField_eq_iff.mpr above)
      · by_cases isDotted : '.' ∈ key.toList
        · exact absurd behind
            (looked _ (.dotted opened member isDotted isPiece))
        · -- The name is the key itself, which was looked up unless it stands in
          -- a group.
          rw [splitAt_of_not_mem isDotted] at isPiece
          cases List.mem_singleton.mp isPiece
          cases grouped with
          | false =>
              have noOperator := List.any_eq_false.mp opened.noOperator _ member
              simpa using noOperator
          | true => exact absurd behind (looked _ (.grouped opened member))

/-- The same for the field of an opened scope, which is the path of the keys
above it. -/
theorem Opened.unregistered (opened : Opened rules top scope grouped entries) :
    ∀ outer, scope = some outer →
      schema.resolveField resourceType outer =
        .nameAfterAttribute reported operator →
        rules.operators.contains operator = false := by
  induction opened with
  | whole => exact fun _ none => nomatch none
  | field opened member _ _ induction =>
      intro outer isPath behind
      cases isPath
      exact unregistered_of_key looked opened induction member behind
  | group _ _ _ induction => exact induction
  | item _ _ _ _ induction => exact induction

/-- The same for the fields of a filter that was read. -/
theorem unregistered_of_mem_fields
    {filter : Filter}
    (isRead : (map top).read rules = .ok (some filter))
    {field : String}
    (member : field ∈ filter.fields)
    (behind : schema.resolveField resourceType field =
      .nameAfterAttribute reported operator) :
    rules.operators.contains operator = false := by
  rcases applied_of_mem_fields isRead field member with ⟨_, _, applied⟩
  rcases applied.exists_opened with ⟨_, _, _, _, _, opened, isEntry, _, isPath⟩
  rw [isPath] at behind
  exact unregistered_of_key looked opened (Opened.unregistered looked opened)
    isEntry behind

end FilterInput

namespace QuerySpecification

open FilterInput (Opened Overlooked)

variable {schema : Schema} {operators : OperatorRegistry} {settings : Settings}
  {resourceType : String} {parameters : QueryParameters}

/-- The same for the errors of a filter on its own. -/
theorem unregistered_of_mem_errorsOf
    {field operator : String}
    {limits : Limits}
    {input : FilterInput}
    (looked : ∀ entries path, input = .map entries →
      Overlooked ⟨operators, limits.filterMaxOperands⟩ entries path operator →
        schema.resolveField resourceType path ≠
          .nameAfterAttribute field operator)
    (reported : .unknownOperator field operator ∈
      errorsOf (resolveFilter schema operators limits resourceType input)) :
    operators.contains operator = false := by
  rcases mem_errorsOf_resolveFilter reported with
    fault | ⟨filter, isRead, ⟨path, member, isError⟩ | tooDeep⟩
  · cases fault with
    | unknownOperator unregistered =>
        rw [OperatorRegistry.contains, unregistered]; rfl
  · cases input with
    | scalar value => cases isRead
    | list items => cases isRead
    | map entries =>
        exact FilterInput.unregistered_of_mem_fields
          (fun path overlooked => looked entries path rfl overlooked) isRead
            member
          (Schema.resolveField_of_fieldError? isError)
  · cases tooDeep

/-- An operator that a request is newly refused for as unknown is not
registered, except behind an attribute where reading did not look it up. -/
theorem unregistered_of_reported
    {field operator : String}
    (reported : .unknownOperator field operator ∈
      refusals (build schema operators settings resourceType parameters))
    (added : .unknownOperator field operator ∉ parameters.parseErrors)
    (looked : ∀ entries path, parameters.filter = .map entries →
      Overlooked ⟨operators, settings.limits.filterMaxOperands⟩ entries path
        operator →
        schema.resolveField resourceType path ≠
          .nameAfterAttribute field operator) :
    operators.contains operator = false := by
  have concernsFilter :
      (ValidationError.unknownOperator field operator).Concerns "filter" :=
    ⟨bracketedPath field, rfl⟩
  cases declared : schema.hasType resourceType with
  | false =>
      rw [build, declared] at reported
      cases List.mem_singleton.mp reported
  | true =>
      rw [refusals_build declared] at reported
      split at reported
      · exact unregistered_of_mem_errorsOf looked reported
      · rcases mem_partErrors reported with
          earlier | ofFields | ofSort | ofPage | ofInclusion
        · exact absurd earlier added
        · exact (concernsFilter.exclusive ofFields (by decide)).elim
        · exact (concernsFilter.exclusive ofSort (by decide)).elim
        · exact (concernsFilter.exclusive ofPage (by decide)).elim
        · exact (concernsFilter.exclusive ofInclusion (by decide)).elim

/-- Asks for articles by an operator that is not built in. -/
def approximateParameters : QueryParameters where
  filter := .map [("title", .map [("approx", .scalar (.string "Dune"))])]

theorem unregistered_of_reported_approximateParameters :
    .unknownOperator "title" "approx" ∈
        refusals (build library .builtins {} "articles" approximateParameters) ∧
      OperatorRegistry.builtins.contains "approx" = false := by
  have report :
      refusals (build library .builtins {} "articles" approximateParameters) =
        [.unknownOperator "title" "approx"] :=
    rfl
  have reported :
      .unknownOperator "title" "approx" ∈
        refusals
          (build library .builtins {} "articles" approximateParameters) := by
    rw [report]
    exact List.mem_singleton_self _
  -- Two scopes are opened, neither in a group and both without dots in their
  -- keys.
  have scopes {rules : FilterInput.Rules} {scope : Option String}
      {grouped : Bool}
      {entries : List (String × FilterInput)}
      (opened :
          Opened rules [("title", .map [("approx", .scalar (.string "Dune"))])]
          scope grouped entries) :
      grouped = false ∧
        (entries = [("title", .map [("approx", .scalar (.string "Dune"))])] ∨
          entries = [("approx", .scalar (.string "Dune"))]) := by
    induction opened with
    | whole => exact ⟨rfl, Or.inl rfl⟩
    | field _ member _ _ induction =>
        rcases induction.2 with rfl | rfl
        · cases List.mem_singleton.mp member
          exact ⟨rfl, Or.inr rfl⟩
        · cases List.mem_singleton.mp member
    | group _ member isGroup induction =>
        rcases induction.2 with rfl | rfl <;> cases List.mem_singleton.mp member
        rcases isGroup with isAnd | isOr
        · exact absurd isAnd (by decide)
        · exact absurd isOr (by decide)
    | item _ member _ _ induction =>
        rcases induction.2 with rfl | rfl <;> cases List.mem_singleton.mp member
  refine ⟨reported, unregistered_of_reported reported List.not_mem_nil ?_⟩
  intro entries path isFilter overlooked
  cases isFilter
  cases overlooked with
  | dotted opened member isDotted _ =>
      rcases (scopes opened).2 with
        rfl | rfl <;> cases List.mem_singleton.mp member
      · exact absurd isDotted (by decide)
      · exact absurd isDotted (by decide)
  | grouped opened _ => cases (scopes opened).1

/-- The operator for equality is registered and yet reported as unknown, behind
a dot in a key and in a group below a field. -/
theorem build_reports_registered :
    OperatorRegistry.builtins.contains "eq" = true ∧
      refusals (build library .builtins {} "articles"
          { filter := .map [("title.eq", .scalar (.string "Dune"))] }) =
        [.unknownOperator "title" "eq"] ∧
      refusals (build library .builtins {} "articles"
          { filter := .map
              [("title", .map [("and",
                  .list [.map [("eq", .scalar (.string "Dune"))]])])] }) =
        [.unknownOperator "title" "eq"] :=
  ⟨rfl, rfl, rfl⟩

end QuerySpecification

end JsonApi
