import JsonApi.Proofs.Query.Decoding
import JsonApi.Proofs.Query.ErrorFamilies

/-!
# The report on a refused request

Fieldsets, sort keys, page and include paths are checked independently of each
other: the errors of a request are those of decoding it, followed by those
that each of these parts has on its own.  Only where there are none do the
errors of the filter count, again those that the filter has on its own, and
only where these are none as well does the score
(`QuerySpecification.build_reports`).  No request is refused without a reason.
-/

namespace JsonApi

/-! ## Decoding gives its reasons -/

/-- A text is none that does not begin as it does. -/
theorem append_ne_of_not_prefix
    {begun rest whole : String}
    (differs : ¬begun.toList <+: whole.toList) :
    begun ++ rest ≠ whole := by
  rintro rfl
  exact differs (by rw [String.toList_append]; exact List.prefix_append _ _)

namespace QueryParameters

/-- Whatever was wrong so far, a reason was given for it. -/
def Reasoned (parameters : QueryParameters) : Prop :=
  .unspecific ∉ parameters.parseErrors

variable {parameters : QueryParameters}

theorem Reasoned.append
    {error : ValidationError}
    (reasoned : parameters.Reasoned)
    (specific : error ≠ .unspecific) :
    Reasoned { parameters with
        parseErrors := parameters.parseErrors ++ [error] } := by
  intro member
  rcases List.mem_append.mp member with earlier | last
  · exact reasoned earlier
  · exact specific (List.mem_singleton.mp last).symm

theorem Reasoned.addError
    (reasoned : parameters.Reasoned)
    {reason : String}
    (stated : reason ≠ "rejected without a specific error")
    (name : String) :
    (parameters.addError name reason).Reasoned :=
  reasoned.append fun same =>
    stated (ValidationError.malformedParameter.inj same).2

theorem Reasoned.addSort
    (reasoned : parameters.Reasoned)
    (written : String) :
    (parameters.addSort written).Reasoned := by
  rw [QueryParameters.addSort]
  induction Text.splitAt ',' written generalizing parameters with
  | nil => exact reasoned
  | cons entry entries induction =>
      refine induction ?_
      rw [addSortEntry]
      split
      · exact reasoned
      · rename_i error refused
        refine reasoned.append ?_
        rw [SortKey.read] at refused
        split at refused <;> cases refused <;> exact fun same => nomatch same

theorem Reasoned.addInclusions
    (reasoned : parameters.Reasoned)
    (written : String) :
    (parameters.addInclusions written).Reasoned := by
  rw [QueryParameters.addInclusions]
  split
  · exact reasoned
  · exact reasoned

theorem Reasoned.addPage
    (reasoned : parameters.Reasoned)
    (name written : String) :
    (parameters.addPage name written).Reasoned := by
  rw [QueryParameters.addPage]
  split
  · split
    · exact reasoned
    · exact reasoned
  · exact reasoned.addError
      (String.append_assoc ▸ append_ne_of_not_prefix (by decide)) _

theorem Reasoned.add
    {decoding : Decoding}
    (reasoned : decoding.parameters.Reasoned)
    (pair : String × String) :
    (decoding.add pair).parameters.Reasoned := by
  rcases Decoding.add_cases pair with
    ⟨path, _, _, added⟩ | ⟨change, effect, changed⟩
  · rw [added, Decoding.addFilter]
    split
    · exact reasoned
    · exact reasoned.addError
        (String.append_assoc ▸ append_ne_of_not_prefix (by decide)) _
  · rw [changed]
    cases effect with
    | ignored => exact reasoned
    | refused name reason known =>
        have stated : ∀ reason ∈ nameFaults,
            reason ≠ "rejected without a specific error" := by
          decide
        exact reasoned.addError (stated reason known) name
    | sort => exact reasoned.addSort _
    | page isPage known => exact reasoned.addPage _ _
    | fields resourceType => exact reasoned
    | inclusions => exact reasoned.addInclusions _

theorem reasoned_ofPairs (pairs : List (String × String)) :
    (ofPairs pairs).Reasoned := by
  have general :
      ∀ decoding : Decoding, decoding.parameters.Reasoned →
        (pairs.foldl Decoding.add decoding).parameters.Reasoned := by
    induction pairs with
    | nil => exact fun _ reasoned => reasoned
    | cons pair rest induction =>
        exact fun decoding reasoned => induction _ (reasoned.add pair)
  have decoded := general {} List.not_mem_nil
  rw [ofPairs, Decoding.finish]
  split
  · exact decoded
  · exact decoded

/-- A query string is never found at fault without a reason. -/
theorem reasoned_ofQueryString (query : String) :
    (ofQueryString query).Reasoned := by
  rw [ofQueryString]
  split
  · exact reasoned_ofPairs _
  · exact reasoned_ofPairs _

end QueryParameters

namespace QuerySpecification

variable {schema : Schema} {operators : OperatorRegistry} {settings : Settings}
  {resourceType : String} {parameters : QueryParameters}

/-! ## The parts -/

/-- What is wrong with the parts that are checked independently, in the order of
the report. -/
def partErrors
    (schema : Schema)
    (settings : Settings)
    (resourceType : String)
    (parameters : QueryParameters) : List ValidationError :=
  parameters.parseErrors ++
    errorsOf (FieldSelection.resolve schema settings.limits.fieldsMaxTotal
        parameters.fields) ++
    errorsOf
      (SortKey.resolve settings.sorting schema resourceType parameters.sort) ++
    errorsOf ((Page.resolve settings.pages parameters.page).mapError
        ValidationErrors.single) ++
    errorsOf (IncludeTree.resolve schema settings.limits.includeMaxDepth
      settings.limits.includeMaxPaths resourceType parameters.inclusions)

/-- Without errors, every part is resolved. -/
theorem resolveParts_of_sound
    (sound : partErrors schema settings resourceType parameters = []) :
    ∃ parts,
      resolveParts schema settings resourceType parameters = .ok parts := by
  simp only [partErrors, List.append_eq_nil_iff, errorsOf_eq_nil_iff] at sound
  rcases sound with
    ⟨⟨⟨⟨noErrors, fields, fieldsOk⟩, sort, sortOk⟩, page, pageOk⟩,
    inclusion, inclusionOk⟩
  exact ⟨⟨fields, sort, page, inclusion⟩,
    resolveParts_of_ok noErrors fieldsOk sortOk
      (Outcome.mapError_eq_ok_iff.mp pageOk) inclusionOk⟩

/-- With errors, all of them are reported, whichever parts could be resolved. -/
theorem resolveParts_of_faulty
    (faulty : partErrors schema settings resourceType parameters ≠ []) :
    resolveParts schema settings resourceType parameters =
      .error
        (.collected (partErrors schema settings resourceType parameters)) := by
  have someErrors :
      (partErrors schema settings resourceType parameters).isEmpty = false := by
    simpa using faulty
  unfold partErrors at someErrors
  unfold resolveParts
  dsimp only
  split
  · rw [someErrors, if_neg Bool.false_ne_true]
    rfl
  · rfl

theorem mem_partErrors
    {error : ValidationError}
    (member : error ∈ partErrors schema settings resourceType parameters) :
    error ∈ parameters.parseErrors ∨ error.Concerns "fields" ∨
      error.Concerns "sort" ∨
      error.Concerns "page" ∨ error.Concerns "include" := by
  simp only [partErrors, List.mem_append] at member
  rcases member with (((ofDecoding | ofFields) | ofSort) | ofPage) | ofInclusion
  · exact Or.inl ofDecoding
  · exact Or.inr (Or.inl (FieldSelection.concerns_of_mem_errors ofFields))
  · exact Or.inr (Or.inr (Or.inl (SortKey.concerns_of_mem_errors ofSort)))
  · exact Or.inr (Or.inr (Or.inr (Or.inl (Page.concerns_of_mem_errors ofPage))))
  · exact Or.inr (Or.inr
        (Or.inr (Or.inr (IncludeTree.concerns_of_mem_errors ofInclusion))))

/-- A filter that is resolved is the one that was read. -/
theorem read_of_resolveFilter
    {limits : Limits}
    {input : FilterInput}
    {filter : Option Filter}
    (resolved :
      resolveFilter schema operators limits resourceType input = .ok filter) :
    input.read ⟨operators, limits.filterMaxOperands⟩ = .ok filter := by
  rw [resolveFilter] at resolved
  rcases Outcome.bind_eq_ok_iff.mp resolved with ⟨found, isRead, checked⟩
  cases found with
  | none =>
      cases checked
      exact isRead
  | some found =>
      rw [← (ValidationErrors.unlessAny_eq_ok_iff.mp checked).2]
      exact isRead

/-! ## The whole request -/

/-- The validation errors with which a request was refused. -/
def refusals : Except QueryError QuerySpecification → List ValidationError
  | .ok _ => []
  | .error error => error.validationErrors

theorem build_of_faulty
    (declared : schema.hasType resourceType = true)
    (faulty : partErrors schema settings resourceType parameters ≠ []) :
    build schema operators settings resourceType parameters =
      .error (.validation
        (.collected (partErrors schema settings resourceType parameters))) := by
  rw [build, declared, resolveParts_of_faulty faulty]
  rfl

/-- Once the parts are resolved, the filter decides, and after it the score. -/
theorem build_of_parts
    {parts : Parts}
    (declared : schema.hasType resourceType = true)
    (partsOk :
      resolveParts schema settings resourceType parameters = .ok parts) :
    build schema operators settings resourceType parameters =
      match resolveFilter schema operators settings.limits resourceType
        parameters.filter with
      | .error report => .error (.validation report)
      | .ok filter =>
        let score := ComplexityScore.ofParts settings.limits.weights
          parts.inclusion parts.fields filter
        if settings.limits.complexityBudget < score.total then
          .error (.overBudget score.total settings.limits.complexityBudget)
        else
          .ok ⟨resourceType, filter, parts.sort, parts.page, parts.fields,
            parts.inclusion, score⟩ := by
  rw [build, declared, partsOk]
  cases resolveFilter schema operators settings.limits resourceType
    parameters.filter with
  | error report => rfl
  | ok filter =>
      show ((ComplexityScore.enforce _ _).bind fun _ => _) = _
      rw [ComplexityScore.enforce]
      dsimp only
      split <;> rfl

/-- The errors of a request are those of its parts, or else those of its
filter. -/
theorem refusals_build (declared : schema.hasType resourceType = true) :
    refusals (build schema operators settings resourceType parameters) =
      if partErrors schema settings resourceType parameters = [] then
        errorsOf (resolveFilter schema operators settings.limits resourceType
          parameters.filter)
      else partErrors schema settings resourceType parameters := by
  split
  · rename_i sound
    rcases resolveParts_of_sound sound with ⟨parts, partsOk⟩
    rw [build_of_parts declared partsOk]
    cases resolveFilter schema operators settings.limits resourceType
      parameters.filter with
    | error report => rfl
    | ok filter =>
        dsimp only
        split <;> rfl
  · rename_i faulty
    rw [build_of_faulty declared faulty]
    exact ValidationErrors.errors_collected faulty

/-- The score is reported exactly where all parts and the filter are
resolved. -/
theorem build_eq_overBudget_iff
    {score budget : Nat}
    (declared : schema.hasType resourceType = true) :
    build schema operators settings resourceType parameters =
        .error (.overBudget score budget) ↔
      ∃ parts filter,
        resolveParts schema settings resourceType parameters = .ok parts ∧
          resolveFilter schema operators settings.limits resourceType
            parameters.filter =
            .ok filter ∧
          score = (ComplexityScore.ofParts settings.limits.weights
              parts.inclusion parts.fields filter).total ∧
          budget = settings.limits.complexityBudget ∧ budget < score := by
  by_cases sound : partErrors schema settings resourceType parameters = []
  · rcases resolveParts_of_sound sound with ⟨parts, partsOk⟩
    rw [build_of_parts declared partsOk, partsOk]
    cases resolveFilter schema operators settings.limits resourceType
      parameters.filter with
    | error report => simp
    | ok filter =>
        dsimp only
        constructor
        · intro refused
          split at refused
          · rename_i exceeded
            cases refused
            exact ⟨parts, filter, rfl, rfl, rfl, rfl, exceeded⟩
          · cases refused
        · rintro ⟨_, _, sameParts, sameFilter, isScore, isBudget, exceeded⟩
          cases sameParts
          cases sameFilter
          rw [isBudget, isScore] at exceeded
          rw [if_pos exceeded, isScore, isBudget]
  · rw [build_of_faulty declared sound, resolveParts_of_faulty sound]
    simp

/-- A reason is given for every error that was not there before. -/
theorem unspecific_mem_refusals
    (declared : schema.hasType resourceType = true)
    (member : .unspecific ∈
      refusals (build schema operators settings resourceType parameters)) :
    .unspecific ∈ parameters.parseErrors := by
  have concernsQuery : ValidationError.unspecific.Concerns "query" := ⟨"", rfl⟩
  rw [refusals_build declared] at member
  split at member
  · exact (concernsQuery.exclusive (concerns_of_mem_filterErrors member)
        (by decide)).elim
  · rcases mem_partErrors member with earlier | ofFields | ofSort | ofPage |
      ofInclusion
    · exact earlier
    · exact (concernsQuery.exclusive ofFields (by decide)).elim
    · exact (concernsQuery.exclusive ofSort (by decide)).elim
    · exact (concernsQuery.exclusive ofPage (by decide)).elim
    · exact (concernsQuery.exclusive ofInclusion (by decide)).elim

/-! ## Each family on its own -/

theorem errorsOf_fields_nil (maxTotal : Nat) :
    errorsOf (FieldSelection.resolve schema maxTotal []) = [] := by
  rw [FieldSelection.resolve, errorsOf_unlessAny, List.foldl_nil,
    List.flatMap_nil, List.nil_append]
  exact if_neg (Nat.not_lt_zero maxTotal)

theorem errorsOf_sort_nil :
    errorsOf (SortKey.resolve settings.sorting schema resourceType []) = [] :=
  rfl

theorem errorsOf_page_default :
    errorsOf
      ((Page.resolve settings.pages {}).mapError ValidationErrors.single) =
      [] :=
  rfl

theorem errorsOf_inclusions_nil (maxDepth maxPaths : Nat) :
    errorsOf (IncludeTree.resolve schema maxDepth maxPaths resourceType []) =
      [] := by
  rw [IncludeTree.resolve, errorsOf_unlessAny, firstOccurrences,
    List.length_nil, if_neg (Nat.not_lt_zero maxPaths)]
  rfl

/-- An absent filter is resolved to no filter. -/
theorem errorsOf_filter_empty :
    errorsOf
      (resolveFilter schema operators settings.limits resourceType .empty) =
      [] := by
  rw [resolveFilter, FilterInput.empty, FilterInput.read, FilterInput.readScope]
  rfl

/-- Without a filter, the errors of a request are those of its parts. -/
theorem refusals_build_of_noFilter
    (declared : schema.hasType resourceType = true)
    (noFilter : parameters.filter = .empty) :
    refusals (build schema operators settings resourceType parameters) =
      partErrors schema settings resourceType parameters := by
  rw [refusals_build declared, noFilter, errorsOf_filter_empty]
  split
  · rename_i sound
    rw [sound]
  · rfl

/-- The errors of decoding, followed by those with which each part is refused
when the request asks for nothing else. -/
def familyErrors
    (schema : Schema)
    (operators : OperatorRegistry)
    (settings : Settings)
    (resourceType : String)
    (parameters : QueryParameters) : List ValidationError :=
  let alone := fun part =>
    refusals (build schema operators settings resourceType part)
  parameters.parseErrors ++ alone { fields := parameters.fields } ++
    alone { sort := parameters.sort } ++ alone { page := parameters.page } ++
    alone { inclusions := parameters.inclusions }

theorem familyErrors_eq_partErrors
    (declared : schema.hasType resourceType = true) :
    familyErrors schema operators settings resourceType parameters =
      partErrors schema settings resourceType parameters := by
  unfold familyErrors
  dsimp only
  repeat rw [refusals_build_of_noFilter declared rfl]
  simp only [partErrors, errorsOf_fields_nil, errorsOf_sort_nil,
    errorsOf_page_default, errorsOf_inclusions_nil, List.nil_append,
    List.append_nil]

/-- A filter on its own is refused for its own errors only. -/
theorem refusals_build_filter
    (declared : schema.hasType resourceType = true)
    (filter : FilterInput) :
    refusals
      (build schema operators settings resourceType { filter := filter }) =
      errorsOf (resolveFilter schema operators settings.limits resourceType
          filter) := by
  have sound :
      partErrors schema settings resourceType { filter := filter } = [] := by
    simp only [partErrors, errorsOf_fields_nil, errorsOf_sort_nil,
      errorsOf_page_default, errorsOf_inclusions_nil, List.append_nil]
  rw [refusals_build declared, if_pos sound]

/-- How a request for a declared type is refused.  The errors that fieldsets,
sort keys, page and include paths have on their own are reported together,
behind those of decoding; else the filter has the errors that it has on its own;
else the score may exceed the budget.  No error is reported without a reason. -/
theorem build_reports (declared : schema.hasType resourceType = true) :
    (familyErrors schema operators settings resourceType parameters ≠ [] →
      ∃ report,
        build schema operators settings resourceType parameters =
            .error (.validation report) ∧
          report.errors =
            familyErrors schema operators settings resourceType parameters) ∧
    (familyErrors schema operators settings resourceType parameters = [] →
      refusals (build schema operators settings resourceType parameters) =
        refusals (build schema operators settings resourceType
          { filter := parameters.filter })) ∧
    (∀ score budget,
      build schema operators settings resourceType parameters =
          .error (.overBudget score budget) ↔
        familyErrors schema operators settings resourceType parameters = [] ∧
          refusals (build schema operators settings resourceType
            { filter := parameters.filter }) = [] ∧
          ∃ fields inclusion filter,
            FieldSelection.resolve schema settings.limits.fieldsMaxTotal
              parameters.fields =
                .ok fields ∧
              IncludeTree.resolve schema settings.limits.includeMaxDepth
                  settings.limits.includeMaxPaths resourceType
                    parameters.inclusions =
                .ok inclusion ∧
              parameters.filter.read
                ⟨operators, settings.limits.filterMaxOperands⟩ =
                .ok filter ∧
              score =
                (ComplexityScore.ofParts settings.limits.weights inclusion
                    fields filter).total ∧
              budget = settings.limits.complexityBudget ∧ budget < score) ∧
    (.unspecific ∈
        refusals (build schema operators settings resourceType parameters) →
      .unspecific ∈ parameters.parseErrors) ∧
    ∀ query, .unspecific ∉ refusals
      (ofQueryString schema operators settings resourceType query) := by
  rw [familyErrors_eq_partErrors declared, refusals_build_filter declared]
  refine ⟨?_, ?_, ?_, unspecific_mem_refusals declared, ?_⟩
  · intro faulty
    exact ⟨_, build_of_faulty declared faulty,
      ValidationErrors.errors_collected faulty⟩
  · intro sound
    rw [refusals_build declared, if_pos sound]
  · intro score budget
    rw [build_eq_overBudget_iff declared]
    constructor
    · rintro ⟨parts, filter, partsOk, filterOk, exceeded⟩
      rcases resolveParts_eq_ok partsOk with ⟨fieldsOk, _, _, inclusionOk⟩
      refine ⟨?_, errorsOf_eq_nil_iff.mpr ⟨filter, filterOk⟩,
        parts.fields, parts.inclusion, filter, fieldsOk, inclusionOk,
        read_of_resolveFilter filterOk, exceeded⟩
      by_contra faulty
      rw [resolveParts_of_faulty faulty] at partsOk
      cases partsOk
    · rintro ⟨sound, filterSound, fields, inclusion, filter, fieldsOk,
        inclusionOk, isRead, exceeded⟩
      rcases resolveParts_of_sound sound with ⟨parts, partsOk⟩
      rcases errorsOf_eq_nil_iff.mp filterSound with ⟨resolved, filterOk⟩
      rcases resolveParts_eq_ok partsOk with ⟨sameFields, _, _, sameInclusion⟩
      cases fieldsOk.symm.trans sameFields
      cases inclusionOk.symm.trans sameInclusion
      cases isRead.symm.trans (read_of_resolveFilter filterOk)
      exact ⟨parts, filter, partsOk, filterOk, exceeded⟩
  · intro query member
    exact QueryParameters.reasoned_ofQueryString query
      (unspecific_mem_refusals declared member)

/-- Asks for articles with something wrong in every family. -/
def faultyParameters : QueryParameters where
  filter := .map [("colour", .scalar (.string "red"))]
  sort := [⟨"colour", true⟩]
  page := ⟨some 0, none⟩
  fields := [("articles", ["title", "colour"])]
  inclusions := ["reviewer"]

theorem build_reports_faultyParameters :
    ∃ report,
      build library .builtins {} "articles" faultyParameters =
        .error (.validation report) ∧
        report.errors =
          [.unknownField "articles" "colour",
            .unsupportedSortField "articles" "colour", .invalidPageNumber 0,
            .unknownRelationship "reviewer" "reviewer" "articles"] := by
  have reports :=
    @build_reports library .builtins {} "articles" faultyParameters rfl
  have listed :
      familyErrors library .builtins {} "articles" faultyParameters =
        [.unknownField "articles" "colour",
          .unsupportedSortField "articles" "colour", .invalidPageNumber 0,
          .unknownRelationship "reviewer" "reviewer" "articles"] :=
    rfl
  rw [← listed]
  exact reports.1 (by rw [listed]; exact List.cons_ne_nil _ _)

end QuerySpecification

end JsonApi
