import JsonApi.Proofs.Filter.Canonical
import JsonApi.Proofs.Query.LeafPaths
import JsonApi.Proofs.Query.Soundness

/-!
# Specifications as requests

A specification is itself a request, for its sort keys, its page, its fieldsets,
the leaf paths of its include tree and its filter.  Each resolver leaves alone
what it has resolved: sort keys are for different fields, pages within the
bounds, fieldsets in ascending order, and the include tree and the filter are
determined by how they are written down.  Asking for a specification
therefore gives this specification again, with the same score
(`QuerySpecification.build_toParameters`).
-/

namespace JsonApi

/-! ## Fieldsets -/

namespace FieldSelection

/-- Types and the fields of each of them stand in ascending order. -/
structure Arranged (selection : FieldSelection) : Prop where
  types : Dictionary.Ascending selection.byType
  names : ∀ entry ∈ selection.byType, entry.2.Pairwise (· < ·)

theorem Arranged.insertKnown
    {selection : FieldSelection}
    (arranged : selection.Arranged)
    (schema : Schema)
    (requested : String × List String) :
    (insertKnown schema selection requested).Arranged := by
  rw [FieldSelection.insertKnown]
  split
  · refine ⟨arranged.types.insert _ _, ?_⟩
    intro entry member
    rcases Dictionary.mem_insert_cases member with inserted | old
    · rw [inserted]
      exact Names.pairwise_ofList _
    · exact arranged.names entry old
  · exact arranged

variable {schema : Schema} {maxTotal : Nat}
  {requested : List (String × List String)} {selection : FieldSelection}

theorem arranged_of_resolve
    (resolved : resolve schema maxTotal requested = .ok selection) :
    selection.Arranged := by
  rw [resolve, ValidationErrors.unlessAny_eq_ok_iff] at resolved
  have general :
      ∀ start : FieldSelection, start.Arranged →
        (requested.foldl (insertKnown schema) start).Arranged := by
    clear resolved
    induction requested with
    | nil => exact fun _ arranged => arranged
    | cons first rest induction =>
        exact fun start arranged =>
          induction _ (arranged.insertKnown schema first)
  rw [← resolved.2]
  exact general all ⟨.nil, List.forall_mem_nil _⟩

theorem Known.filter_isField
    (known : selection.Known schema)
    {entry : String × List String}
    (member : entry ∈ selection.byType) :
    entry.2.filter (isField schema entry.1) = entry.2 := by
  apply List.filter_eq_self.mpr
  intro name selected
  rw [isField, Bool.or_eq_true]
  exact (known entry member).2 name selected

theorem Known.errorsOf_eq_nil
    (known : selection.Known schema)
    {entry : String × List String}
    (member : entry ∈ selection.byType) :
    errorsOf schema entry.1 entry.2 = [] := by
  rw [errorsOf, if_pos (known entry member).1, List.map_eq_nil_iff,
    List.filter_eq_nil_iff]
  intro name selected
  have isField := (known entry member).2 name selected
  rw [← Bool.or_eq_true] at isField
  simp [FieldSelection.isField, isField]

/-- Known fields in ascending order are selected as they were requested. -/
theorem foldl_insertKnown
    (known : selection.Known schema)
    (arranged : selection.Arranged) :
    selection.byType.foldl (insertKnown schema) all = selection := by
  have general :
      ∀ entries before : List (String × List String),
        before ++ entries = selection.byType →
        entries.foldl (insertKnown schema) ⟨before⟩ = ⟨before ++ entries⟩ := by
    intro entries
    induction entries with
    | nil => simp
    | cons entry entries induction =>
        intro before whole
        -- The types selected before are less, and so the next one is put behind
        -- them.
        have member : entry ∈ selection.byType := by simp [← whole]
        have below : ∀ other ∈ before, other.1 < entry.1 := by
          have ascending := arranged.types
          rw [← whole] at ascending
          exact fun other earlier =>
            (List.pairwise_append.mp ascending).2.2 other earlier entry
              List.mem_cons_self
        have next :
            insertKnown schema ⟨before⟩ entry = ⟨before ++ [entry]⟩ := by
          rw [insertKnown,
            if_pos (known entry member).1, known.filter_isField member,
            Names.ofList_of_pairwise (arranged.names entry member), insert,
            Dictionary.insert_of_forall_gt _ below]
        rw [List.foldl_cons, next, induction _ (by rw [← whole]; simp)]
        simp
  exact general selection.byType [] rfl

/-- A resolved selection is resolved again from its fieldsets. -/
theorem resolve_byType
    (resolved : resolve schema maxTotal requested = .ok selection) :
    resolve schema maxTotal selection.byType = .ok selection := by
  rcases known_of_resolve resolved with ⟨known, few⟩
  have noErrors : selection.byType.flatMap
      (fun entry => errorsOf schema entry.1 entry.2) = [] :=
    List.flatMap_eq_nil_iff.mpr fun _ member => known.errorsOf_eq_nil member
  rw [resolve, ValidationErrors.unlessAny_eq_ok_iff,
    foldl_insertKnown known (arranged_of_resolve resolved), noErrors,
    if_neg (not_lt.mpr few)]
  exact ⟨rfl, rfl⟩

end FieldSelection

/-! ## Specifications -/

namespace QuerySpecification

/-- The parameters that ask for what a specification holds. -/
def toParameters
    (operators : OperatorRegistry)
    (specification : QuerySpecification) :
    QueryParameters where
  filter := FilterInput.ofFilter operators specification.filter
  sort := specification.sort
  page := ⟨some specification.page.number, some specification.page.size⟩
  fields := specification.fields.byType
  inclusions := specification.inclusion.leafPaths.map (Text.joinWith '.')

variable {schema : Schema} {operators : OperatorRegistry} {settings : Settings}
  {limits : Limits} {resourceType : String} {parameters : QueryParameters}

/-- A resolved filter is resolved again from the input that is written for
it. -/
theorem resolveFilter_ofFilter
    {input : FilterInput}
    {filter : Option Filter}
    (nullTest :
      ∀ operator, operators.find? Operator.isNullName = some operator →
      operator.arity = .flag)
    (resolved :
      resolveFilter schema operators limits resourceType input = .ok filter) :
    resolveFilter schema operators limits resourceType
      (FilterInput.ofFilter operators filter) =
      .ok filter := by
  rw [resolveFilter] at resolved ⊢
  rcases Outcome.bind_eq_ok_iff.mp resolved with ⟨found, isRead, checked⟩
  have same : found = filter := by
    cases found with
    | none => exact Except.ok.inj checked
    | some _ => exact (ValidationErrors.unlessAny_eq_ok_iff.mp checked).2
  subst same
  have again : (FilterInput.ofFilter operators found).read
      ⟨operators, limits.filterMaxOperands⟩ = .ok found :=
    FilterInput.read_ofFilter nullTest isRead
  rw [again]
  exact checked

/-- The parameters that ask for what a specification holds are resolved to the
specification. -/
theorem build_toParameters
    {specification : QuerySpecification}
    (built : build schema .builtins settings resourceType parameters =
      .ok specification) :
    build schema .builtins settings resourceType
      (specification.toParameters .builtins) =
      .ok specification := by
  rcases build_eq_ok built with
    ⟨parts, declared, partsOk, filterOk, withinBudget, equal⟩
  rcases resolveParts_eq_ok partsOk with ⟨fieldsOk, sortOk, pageOk, inclusionOk⟩
  have nullTest : ∀ operator,
      OperatorRegistry.builtins.find? Operator.isNullName = some operator →
        operator.arity = .flag := by
    intro operator found
    cases found
    rfl
  rw [equal] at filterOk withinBudget ⊢
  apply build_of_ok declared _ (resolveFilter_ofFilter nullTest filterOk)
    withinBudget
  exact resolveParts_of_ok rfl (FieldSelection.resolve_byType fieldsOk)
    (SortKey.resolve_keys sortOk)
    (Page.resolve_number (Page.bounds_of_resolve pageOk).1 pageOk)
    (IncludeTree.resolve_leafPaths inclusionOk)

/-- Articles by some authors, asked for a second time. -/
theorem build_toParameters_library :
    ∃ specification,
      build library .builtins {} "articles" libraryParameters =
        .ok specification ∧
        (specification.toParameters .builtins).inclusions = ["author"] ∧
        (specification.toParameters .builtins).page = ⟨some 1, some 100⟩ ∧
        build library .builtins {} "articles"
          (specification.toParameters .builtins) =
          .ok specification := by
  have built :
      ∃ specification,
        build library .builtins {} "articles" libraryParameters =
          .ok specification ∧
          (specification.toParameters .builtins).inclusions = ["author"] ∧
          (specification.toParameters .builtins).page = ⟨some 1, some 100⟩ :=
    ⟨_, rfl, rfl, rfl⟩
  rcases built with ⟨specification, isBuilt, inclusions, page⟩
  exact ⟨specification, isBuilt, inclusions, page, build_toParameters isBuilt⟩

end QuerySpecification

end JsonApi
