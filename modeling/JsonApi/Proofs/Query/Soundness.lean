import JsonApi.Proofs.Filter.FieldPaths
import JsonApi.Proofs.Filter.Leaves
import JsonApi.Proofs.Filter.Operands
import JsonApi.Proofs.FirstOccurrences
import JsonApi.Proofs.Outcome
import JsonApi.Proofs.Query.Complexity
import JsonApi.Proofs.Query.IncludeResolution
import JsonApi.Proofs.Query.Page
import JsonApi.Proofs.Query.SortKeys
import JsonApi.Query.Specification

/-!
# Sound specifications

`QuerySpecification.Sound` collects what every later stage relies on in a
specification: each part fits the schema and keeps to the limits, and the
score is that of these parts.  Each resolver establishes its part, and a
specification that was built is sound, whatever operators are registered and
whether or not the settings are sensible (`QuerySpecification.sound_of_build`).
-/

namespace JsonApi

/-! ## Fieldsets -/

namespace FieldSelection

/-- The selected fields of declared types are attributes and relationships of
these. -/
def Known (schema : Schema) (selection : FieldSelection) : Prop :=
  ∀ entry ∈ selection.byType, schema.hasType entry.1 = true ∧
    ∀ name ∈ entry.2, schema.hasAttribute entry.1 name = true ∨
      (schema.relationship? entry.1 name).isSome = true

theorem Known.insertKnown
    {schema : Schema}
    {selection : FieldSelection}
    (known : Known schema selection)
    (requested : String × List String) :
    Known schema (insertKnown schema selection requested) := by
  rw [FieldSelection.insertKnown]
  split
  · rename_i declared
    intro entry member
    rcases Dictionary.mem_insert_cases member with inserted | old
    · subst inserted
      refine ⟨declared, ?_⟩
      intro name selected
      have isField := (List.mem_filter.mp (Names.mem_ofList.mp selected)).2
      simpa [FieldSelection.isField] using isField
    · exact known entry old
  · exact known

/-- Resolved fieldsets are known, and not too many fields are selected. -/
theorem known_of_resolve
    {schema : Schema}
    {maxTotal : Nat}
    {requested : List (String × List String)}
    {selection : FieldSelection}
    (resolved : resolve schema maxTotal requested = .ok selection) :
    Known schema selection ∧ selection.total ≤ maxTotal := by
  rw [resolve, ValidationErrors.unlessAny_eq_ok_iff] at resolved
  rcases resolved with ⟨noErrors, built⟩
  subst built
  constructor
  · have general :
        ∀ selection, Known schema selection →
          Known schema (requested.foldl (FieldSelection.insertKnown schema)
              selection) := by
      clear noErrors
      induction requested with
      | nil => exact fun _ known => known
      | cons first rest induction =>
          intro selection known
          exact induction _ (known.insertKnown first)
    exact general all fun entry member => nomatch member
  · have withinTotal := (List.append_eq_nil_iff.mp noErrors).2
    by_contra exceeded
    rw [if_pos (Nat.lt_of_not_le exceeded)] at withinTotal
    cases withinTotal

end FieldSelection

/-! ## Filters -/

namespace Filter

/-- A filter without field errors reads attributes and identifiers only. -/
theorem readable_of_fieldErrors
    {schema : Schema}
    {resourceType : String}
    {filter : Filter}
    (faultless : filter.fieldErrors schema resourceType = []) :
    ∀ field ∈ filter.fields,
      schema.Readable resourceType (Text.splitAt '.' field) := by
  intro field member
  have noFault :=
    List.filterMap_eq_nil_iff.mp faultless field
      (mem_firstOccurrences.mpr member)
  rw [Schema.fieldError?] at noFault
  split at noFault
  · rename_i isReadable
    exact (Schema.resolveField_eq_iff.mp isReadable).isReadable
  · cases noFault
  · cases noFault

end Filter

/-- In a filter that was read, operators that take a list have some operands. -/
theorem FilterInput.operandCount_of_read
    {rules : Rules}
    {input : FilterInput}
    {filter : Filter}
    (isRead : input.read rules = .ok (some filter)) :
    ∀ field name operands, .comparison field name operands ∈ filter.leaves →
      ∀ operator, rules.operators.find? name = some operator →
        operator.arity = .list →
        1 ≤ operands.length ∧ operands.length ≤ rules.maxOperands := by
  intro field name operands leaf operator found takesList
  have hereditary : Hereditary fun _ => True :=
    ⟨fun _ _ _ => True.intro, fun _ _ _ => True.intro⟩
  cases readFrom_of_mem_leaves hereditary True.intro isRead _ leaf with
  | comparison registered _ _ normalized =>
      rw [registered] at found
      cases found
      have admitted := Operator.admits_of_normalize normalized
      rw [takesList] at admitted
      exact admitted

namespace QuerySpecification

/-- What a specification for a resource type guarantees to the stages behind
it. -/
structure Sound
    (schema : Schema)
    (operators : OperatorRegistry)
    (settings : Settings)
    (resourceType : String)
    (specification : QuerySpecification) : Prop where
  sameType : specification.resourceType = resourceType
  declared : schema.hasType resourceType = true
  sortDistinct : (specification.sort.map SortKey.field).Nodup
  sortAllowed : ∀ key ∈ specification.sort,
    settings.sorting.allows schema resourceType key.field = true
  pageNumber : 1 ≤ specification.page.number
  pageSize : 1 ≤ specification.page.size ∧
    specification.page.size ≤ max 1 settings.pages.maxSize
  fieldsKnown : specification.fields.Known schema
  fieldsTotal : specification.fields.total ≤ settings.limits.fieldsMaxTotal
  /-- Every root path of the include tree is a chain of declared
  relationships. -/
  rootPaths : ∀ names, specification.inclusion.HasRootPath names →
    ∃ final, schema.Chain resourceType names final
  includeDepth : specification.inclusion.depth ≤ settings.limits.includeMaxDepth
  includePaths :
    specification.inclusion.leafPaths.length ≤ settings.limits.includeMaxPaths
  /-- Every field of the filter leads to an attribute or to the identifier. -/
  filterFields : ∀ filter, specification.filter = some filter →
    ∀ field ∈ filter.fields,
      schema.Readable resourceType (Text.splitAt '.' field)
  /-- The nodes of the filter stand inside fewer groups than the limit
  (`Filter.depth_le_iff`). -/
  filterDepth : ∀ filter, specification.filter = some filter →
    filter.depth ≤ settings.limits.filterMaxDepth
  /-- An operator that takes a list has some operands, and not too many. -/
  filterOperands : ∀ filter, specification.filter = some filter →
    ∀ field name operands, .comparison field name operands ∈ filter.leaves →
      ∀ operator, operators.find? name = some operator →
        operator.arity = .list →
        1 ≤ operands.length ∧
          operands.length ≤ settings.limits.filterMaxOperands
  complexity : specification.complexity =
    .ofParts settings.limits.weights specification.inclusion
      specification.fields specification.filter
  /-- The score is the weighted sum of the sizes, stopped at the greatest
  count. -/
  weighted : specification.complexity.total =
    min
      (settings.limits.weights.inclusion *
          ((specification.inclusion.leafPaths.map List.length).sum) +
        settings.limits.weights.field * specification.fields.total +
        settings.limits.weights.filter *
          (specification.filter.map Filter.nodeCount).getD 0)
      (Text.wordLimit - 1)
  withinBudget :
    specification.complexity.total ≤ settings.limits.complexityBudget

variable {schema : Schema} {operators : OperatorRegistry} {settings : Settings}
  {limits : Limits} {resourceType : String} {parameters : QueryParameters}

/-- Resolving the parts succeeds when each of them is resolved, and nothing was
wrong before. -/
theorem resolveParts_eq_ok
    {parts : Parts}
    (resolved :
      resolveParts schema settings resourceType parameters = .ok parts) :
    FieldSelection.resolve schema settings.limits.fieldsMaxTotal
      parameters.fields =
        .ok parts.fields ∧
      SortKey.resolve settings.sorting schema resourceType parameters.sort =
        .ok parts.sort ∧
      Page.resolve settings.pages parameters.page = .ok parts.page ∧
      IncludeTree.resolve schema settings.limits.includeMaxDepth
          settings.limits.includeMaxPaths resourceType parameters.inclusions =
        .ok parts.inclusion := by
  unfold resolveParts at resolved
  dsimp only at resolved
  split at resolved
  · rename_i fields sort page inclusion fieldsOk sortOk pageOk inclusionOk
    split at resolved
    · cases resolved
      exact ⟨fieldsOk, sortOk, Outcome.mapError_eq_ok_iff.mp pageOk,
        inclusionOk⟩
    · cases resolved
  · cases resolved

theorem resolveParts_of_ok
    {parts : Parts}
    (noErrors : parameters.parseErrors = [])
    (fields : FieldSelection.resolve schema settings.limits.fieldsMaxTotal
      parameters.fields =
      .ok parts.fields)
    (sort :
      SortKey.resolve settings.sorting schema resourceType parameters.sort =
      .ok parts.sort)
    (page : Page.resolve settings.pages parameters.page = .ok parts.page)
    (inclusion : IncludeTree.resolve schema settings.limits.includeMaxDepth
      settings.limits.includeMaxPaths resourceType parameters.inclusions =
        .ok parts.inclusion) :
    resolveParts schema settings resourceType parameters = .ok parts := by
  rw [resolveParts]
  simp only [noErrors, fields, sort, page, inclusion]
  rfl

/-- A resolved filter was read and has no faults. -/
theorem resolveFilter_eq_some
    {input : FilterInput}
    {filter : Filter}
    (resolved : resolveFilter schema operators limits resourceType input =
      .ok (some filter)) :
    input.read ⟨operators, limits.filterMaxOperands⟩ = .ok (some filter) ∧
      filter.fieldErrors schema resourceType = [] ∧
        filter.depth ≤ limits.filterMaxDepth := by
  rw [resolveFilter] at resolved
  rcases Outcome.bind_eq_ok_iff.mp resolved with ⟨filter?, isRead, checked⟩
  cases filter? with
  | none => cases checked
  | some found =>
      rcases ValidationErrors.unlessAny_eq_ok_iff.mp checked with
        ⟨faultless, equal⟩
      cases equal
      rcases List.append_eq_nil_iff.mp faultless with
        ⟨noFieldErrors, notTooDeep⟩
      refine ⟨isRead, noFieldErrors, ?_⟩
      by_contra exceeded
      rw [if_pos (Nat.lt_of_not_le exceeded)] at notTooDeep
      cases notTooDeep

/-- What a specification that was built is made of. -/
theorem build_eq_ok
    {specification : QuerySpecification}
    (built : build schema operators settings resourceType parameters =
      .ok specification) :
    ∃ parts,
      schema.hasType resourceType = true ∧
        resolveParts schema settings resourceType parameters = .ok parts ∧
        resolveFilter schema operators settings.limits resourceType
          parameters.filter =
          .ok specification.filter ∧
        specification.complexity.total ≤ settings.limits.complexityBudget ∧
        specification =
          ⟨resourceType, specification.filter, parts.sort, parts.page,
            parts.fields, parts.inclusion,
            .ofParts settings.limits.weights parts.inclusion parts.fields
              specification.filter⟩ := by
  rw [build] at built
  split at built
  · cases built
  · rename_i declared
    rcases Outcome.bind_eq_ok_iff.mp built with ⟨parts, partsOk, rest⟩
    rcases Outcome.bind_eq_ok_iff.mp rest with ⟨filter, filterOk, rest⟩
    rcases Outcome.bind_eq_ok_iff.mp rest with ⟨_, enforced, equal⟩
    cases equal
    refine ⟨parts, by simpa using declared, Outcome.mapError_eq_ok_iff.mp
      partsOk, Outcome.mapError_eq_ok_iff.mp filterOk, ?_, rfl⟩
    rw [ComplexityScore.enforce] at enforced
    split at enforced
    · cases enforced
    · rename_i withinBudget
      exact Nat.le_of_not_lt withinBudget

/-- A request is resolved when its parts and its filter are and its score is
within the budget. -/
theorem build_of_ok
    {parts : Parts}
    {filter : Option Filter}
    (declared : schema.hasType resourceType = true)
    (partsOk : resolveParts schema settings resourceType parameters = .ok parts)
    (filterOk : resolveFilter schema operators settings.limits resourceType
      parameters.filter =
      .ok filter)
    (withinBudget :
      (ComplexityScore.ofParts settings.limits.weights parts.inclusion
          parts.fields filter).total ≤
        settings.limits.complexityBudget) :
    build schema operators settings resourceType parameters =
      .ok ⟨resourceType, filter, parts.sort, parts.page, parts.fields,
        parts.inclusion,
        .ofParts settings.limits.weights parts.inclusion parts.fields
          filter⟩ := by
  rw [build, declared, partsOk, filterOk]
  show ((ComplexityScore.enforce _ _).bind fun _ => _) = _
  rw [ComplexityScore.enforce, if_neg (not_lt.mpr withinBudget)]
  rfl

/-- A specification that was built is sound. -/
theorem sound_of_build
    {specification : QuerySpecification}
    (built : build schema operators settings resourceType parameters =
      .ok specification) :
    Sound schema operators settings resourceType specification := by
  rcases build_eq_ok built with
    ⟨parts, declared, partsOk, filterOk, withinBudget, equal⟩
  rcases resolveParts_eq_ok partsOk with ⟨fieldsOk, sortOk, pageOk, inclusionOk⟩
  have fields := FieldSelection.known_of_resolve fieldsOk
  have sort := SortKey.allowed_of_resolve sortOk
  have page := Page.bounds_of_resolve pageOk
  have tree := IncludeTree.resolved_of_resolve inclusionOk
  have limits := IncludeTree.limits_of_resolve inclusionOk
  rw [equal] at filterOk withinBudget ⊢
  exact
    { sameType := rfl
      declared := declared
      sortDistinct := sort.1
      sortAllowed := sort.2
      pageNumber := page.1
      pageSize := page.2
      fieldsKnown := fields.1
      fieldsTotal := fields.2
      rootPaths := tree.declared
      includeDepth := limits.1
      includePaths := limits.2
      filterFields := by
        intro filter isFilter
        rw [isFilter] at filterOk
        exact Filter.readable_of_fieldErrors
          (resolveFilter_eq_some filterOk).2.1
      filterDepth := by
        intro filter isFilter
        rw [isFilter] at filterOk
        exact (resolveFilter_eq_some filterOk).2.2
      filterOperands := by
        intro filter isFilter
        rw [isFilter] at filterOk
        exact FilterInput.operandCount_of_read
          (resolveFilter_eq_some filterOk).1
      complexity := rfl
      weighted := by
        rw [← ComplexityScore.pathLengths_eq_sum]
        exact ComplexityScore.total_eq_min _ _ _ _
      withinBudget := withinBudget }

/-- Articles with a title, each with an author who has a name. -/
def library : Schema :=
  ((Schema.empty.withType "articles" ["title"]).withType "people"
      ["name"]).withRelationship "articles" "author" ⟨"people", false⟩

/-- Asks for articles by some authors, with their authors, sorted by title. -/
def libraryParameters : QueryParameters where
  filter := .map
    [("author", .map [("name",
        .list [.scalar (.string "Anna"), .scalar (.string "Ben")])])]
  sort := [⟨"title", true⟩, ⟨"id", false⟩, ⟨"title", false⟩]
  page := ⟨none, some 500⟩
  fields := [("articles", ["title", "author"])]
  inclusions := ["author"]

theorem sound_of_build_library :
    ∃ specification,
      build library .builtins {} "articles" libraryParameters =
        .ok specification ∧
        Sound library .builtins {} "articles" specification := by
  have built :
      ∃ specification,
        build library .builtins {} "articles" libraryParameters =
          .ok specification :=
    ⟨_, rfl⟩
  rcases built with ⟨specification, isBuilt⟩
  exact ⟨specification, isBuilt, sound_of_build isBuilt⟩

end QuerySpecification

end JsonApi
