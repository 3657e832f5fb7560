import JsonApi.Proofs.Document.Compound
import JsonApi.Proofs.Filter.Support
import JsonApi.Proofs.Query.QueryText
import JsonApi.Proofs.Query.Soundness
import JsonApi.Proofs.Store.Paging

/-!
# No late failure

What building a specification checks is enough for the stages behind it.  On
a store that was loaded with the schema, one kind of request only is refused
after that, namely one with a text pattern that is no text; a query string
cannot make such a request.  Everything else is answered, unless there are
many records and sorting them gives up, and whatever was found can be
assembled (`Store.answers_of_build`).
-/

namespace JsonApi

namespace QuerySpecification

variable {schema : Schema} {operators : OperatorRegistry} {settings : Settings}
  {resourceType : String} {parameters : QueryParameters}
  {specification : QuerySpecification}

/-- The include tree of a specification that was built is a resolved one. -/
theorem inclusion_of_build
    (built : build schema operators settings resourceType parameters =
      .ok specification) :
    specification.resourceType = resourceType ∧
      specification.inclusion.Resolved schema resourceType := by
  rcases build_eq_ok built with ⟨parts, _, partsOk, _, _, equal⟩
  rw [equal]
  exact ⟨rfl,
    IncludeTree.resolved_of_resolve (resolveParts_eq_ok partsOk).2.2.2⟩

/-- The leaves of a filter that was built are read from parts of the requested
one. -/
theorem readFrom_of_build
    (built : build schema operators settings resourceType parameters =
      .ok specification)
    {written : FilterInput → Prop}
    (hereditary : FilterInput.Hereditary written)
    (isWritten : written parameters.filter)
    {filter : Filter}
    (isFilter : specification.filter = some filter) :
    ∀ leaf ∈ filter.leaves,
      FilterInput.ReadFrom ⟨operators, settings.limits.filterMaxOperands⟩
        written leaf := by
  rcases build_eq_ok built with ⟨_, _, _, filterOk, _, _⟩
  rw [isFilter] at filterOk
  exact FilterInput.readFrom_of_mem_leaves hereditary isWritten
    (resolveFilter_eq_some filterOk).1

/-- The filter asks for a text pattern that is no text. -/
def HasBadPattern (specification : QuerySpecification) : Prop :=
  ∃ filter, specification.filter = some filter ∧ ∃ leaf ∈ filter.leaves,
    leaf.IsBadPattern

/-- A query string cannot ask for a text pattern that is no text. -/
theorem not_hasBadPattern_of_ofQueryString
    {query : String}
    (built :
      build schema .builtins settings resourceType
        (QueryParameters.ofQueryString query) =
        .ok specification) :
    ¬ specification.HasBadPattern := by
  rintro ⟨filter, isFilter, leaf, member, isBad⟩
  have isRead :=
    readFrom_of_build built FilterInput.hereditary_allText
      (QueryParameters.allText_ofQueryString query) isFilter
  exact FilterInput.not_isBadPattern_of_allText (isRead leaf member) isBad

end QuerySpecification

namespace Store

variable {schema : Schema} {store : Store} {specification : QuerySpecification}
  {limit : Nat} {written : FilterInput → Prop}

/-- How a search for the records of a type can fail: the filter has a bad
pattern, or sorting gives up.  The latter takes more than twenty records,
whose numbers under a sort key do not go together. -/
inductive FailsWith
    (store : Store)
    (resourceType : String)
    (specification : QuerySpecification) :
    CollectionFault → Prop where
  | badPattern
      {field reason : String}
      (bad : specification.HasBadPattern) :
      FailsWith store resourceType specification
        (.refused (.compile (.invalidOperand field "like" reason)))
  | disorder
      {disorder : Disorder}
      (noBadPattern : ¬specification.HasBadPattern)
      (many : 20 < ((store.recordsOf resourceType).filter
        (store.meets specification)).length)
      (inconsistent : ∃ key ∈ specification.sort,
        ¬Number.Consistent
          (Record.NumberUnder (store.recordsOf resourceType) key.field)) :
      FailsWith store resourceType specification (.disordered disorder)

/-- A filter without a bad pattern compiles. -/
theorem exists_predicate
    (isRead : ∀ filter, specification.filter = some filter →
      ∀ leaf ∈ filter.leaves,
        FilterInput.ReadFrom ⟨.builtins, limit⟩ written leaf)
    (noBadPattern : ¬specification.HasBadPattern)
    {filter : Filter}
    (isFilter : specification.filter = some filter) :
    ∃ predicate, filter.toPredicate = .ok predicate := by
  have compiled := Filter.toPredicate_outcome (isRead filter isFilter)
  cases result : filter.toPredicate with
  | ok predicate => exact ⟨predicate, rfl⟩
  | error error =>
      rw [result] at compiled
      exact absurd ⟨filter, isFilter, compiled.1⟩ noBadPattern

/-- A filter with a bad pattern is refused when it is compiled. -/
theorem findCollection_of_hasBadPattern
    {resourceType : String}
    (loaded : store.LoadedWith schema)
    (declared : schema.hasType resourceType = true)
    (isRead : ∀ filter, specification.filter = some filter →
      ∀ leaf ∈ filter.leaves,
        FilterInput.ReadFrom ⟨.builtins, limit⟩ written leaf)
    (bad : specification.HasBadPattern) :
    ∃ field reason,
      store.findCollection resourceType specification =
        .error (.refused (.compile (.invalidOperand field "like" reason))) := by
  rcases bad with ⟨filter, isFilter, leaf, member, isBad⟩
  have compiled := Filter.toPredicate_outcome (isRead filter isFilter)
  cases result : filter.toPredicate with
  | ok predicate =>
      rw [result] at compiled
      exact absurd isBad (compiled leaf member)
  | error error =>
      rw [result] at compiled
      rcases compiled with ⟨_, field, reason, isError⟩
      have sound := sound_of_loadedWith loaded
      rcases Dictionary.find?_of_contains
        (sound.complete resourceType declared) with ⟨records, found⟩
      refine ⟨field, reason, ?_⟩
      rw [findCollection, found]
      dsimp only
      rw [matching, isFilter]
      dsimp only
      rw [result, isError]
      rfl

/-- A search answers with records of the type, or it fails for a bad pattern or
because sorting gives up. -/
theorem findCollection_outcome
    {resourceType : String}
    (loaded : store.LoadedWith schema)
    (declared : schema.hasType resourceType = true)
    (isRead : ∀ filter, specification.filter = some filter →
      ∀ leaf ∈ filter.leaves,
        FilterInput.ReadFrom ⟨.builtins, limit⟩ written leaf) :
    Outcome
      (fun slice => ¬specification.HasBadPattern ∧
        ∀ record ∈ slice.items, record ∈ store.recordsOf resourceType)
      (FailsWith store resourceType specification)
      (store.findCollection resourceType specification) := by
  by_cases bad : specification.HasBadPattern
  · rcases findCollection_of_hasBadPattern loaded declared isRead bad with
      ⟨field, reason, failed⟩
    rw [failed]
    exact FailsWith.badPattern bad
  · have compiles : ∀ filter, specification.filter = some filter →
        ∃ predicate, filter.toPredicate = .ok predicate :=
      fun _ => exists_predicate isRead bad
    rw [findCollection_eq loaded declared compiles]
    cases answered : store.answer resourceType specification with
    | ok answer =>
        refine ⟨bad, ?_⟩
        intro record member
        have inAnswer := List.mem_of_mem_drop (List.mem_of_mem_take member)
        exact List.mem_of_mem_filter
          ((sortBy_perm answered).mem_iff.mp inAnswer)
    | error disorder =>
        rcases inconsistent_of_disorder answered with ⟨many, inconsistent⟩
        exact FailsWith.disorder bad many inconsistent

/-- Whatever was built is answered and assembled, unless its filter has a bad
pattern, or sorting gives up.  The latter takes more than twenty records,
whose numbers under a sort key do not go together. -/
theorem answers_of_build
    {settings : Settings}
    {resourceType : String}
    {parameters : QueryParameters}
    (loaded : store.LoadedWith schema)
    (built :
      QuerySpecification.build schema .builtins settings resourceType
        parameters = .ok specification) :
    ((∃ error,
        store.findCollection resourceType specification =
          .error (.refused error)) ↔
        specification.HasBadPattern) ∧
      (∀ error,
        store.findCollection resourceType specification =
            .error (.refused error) →
          ∃ field reason,
            error = .compile (.invalidOperand field "like" reason)) ∧
      (∀ query, parameters = QueryParameters.ofQueryString query →
        ∀ error,
          store.findCollection resourceType specification ≠
            .error (.refused error)) ∧
      (∀ disorder,
        store.findCollection resourceType specification =
            .error (.disordered disorder) →
          20 < ((store.recordsOf resourceType).filter
              (store.meets specification)).length ∧
            ∃ key ∈ specification.sort,
              ¬Number.Consistent
                (Record.NumberUnder (store.recordsOf resourceType)
                  key.field)) ∧
      (∀ id, ∃ record?, store.findOne resourceType id = .ok record?) ∧
      ∀ slice,
        store.findCollection resourceType specification = .ok slice →
          ∀ policy, ∃ document,
            (Assembler.ofStore schema store policy).assembleCollection
              specification slice.items = .ok document := by
  have sound := sound_of_loadedWith loaded
  rcases QuerySpecification.build_eq_ok built with ⟨_, declared, _⟩
  have everything : FilterInput.Hereditary fun _ => True :=
    ⟨fun _ _ _ => True.intro, fun _ _ _ => True.intro⟩
  have outcome :=
    findCollection_outcome loaded declared fun filter isFilter =>
      QuerySpecification.readFrom_of_build built everything True.intro isFilter
  refine ⟨⟨?_, ?_⟩, ?_, ?_, ?_, ?_, ?_⟩
  · rintro ⟨error, failed⟩
    rw [failed] at outcome
    cases outcome with
    | badPattern bad => exact bad
  · intro bad
    cases result : store.findCollection resourceType specification with
    | ok slice =>
        rw [result] at outcome
        exact absurd bad outcome.1
    | error fault =>
        rw [result] at outcome
        cases outcome with
        | badPattern _ => exact ⟨_, rfl⟩
        | disorder noBadPattern => exact absurd bad noBadPattern
  · intro error failed
    rw [failed] at outcome
    cases outcome with
    | badPattern _ => exact ⟨_, _, rfl⟩
  · intro query isQuery error failed
    rw [isQuery] at built
    rw [failed] at outcome
    cases outcome with
    | badPattern bad =>
        exact QuerySpecification.not_hasBadPattern_of_ofQueryString built bad
  · intro disorder failed
    rw [failed] at outcome
    cases outcome with
    | disorder _ many inconsistent => exact ⟨many, inconsistent⟩
  · intro id
    exact ⟨store.find? resourceType id,
      if_pos (sound.complete resourceType declared)⟩
  · intro slice found policy
    rcases QuerySpecification.inclusion_of_build built with
      ⟨sameType, resolved⟩
    rw [found] at outcome
    rw [← sameType] at outcome resolved
    rcases sound.assembleCollection_ok policy outcome.2 resolved with
      ⟨document, _, assembled, _⟩
    exact ⟨document, assembled⟩

/-- Articles whose authors are of a type that is not declared. -/
def anonymous : Schema :=
  (Schema.empty.withType "articles" ["title"]).withRelationship "articles"
    "author" ⟨"people", false⟩

def anonymousFixture : Fixture :=
  [("articles",
    [⟨.string "1", [("title", .string "Logic")], [("author", .string "7")]⟩,
      ⟨.string "2", [("title", .string "Algebra")], []⟩])]

def anonymousStore : Store :=
  (ofFixture anonymous anonymousFixture).toOption.getD ⟨[]⟩

/-- Asks for articles with a title that begins with an L, with their authors. -/
def anonymousParameters : QueryParameters where
  filter := .map [("title", .map [("like", .scalar (.string "L%"))])]
  inclusions := ["author"]

theorem answers_of_build_anonymous :
    ∃ specification slice,
      QuerySpecification.build anonymous .builtins {} "articles"
          anonymousParameters = .ok specification ∧
        anonymousStore.findCollection "articles" specification = .ok slice ∧
        (∀ id, ∃ record?,
          anonymousStore.findOne "articles" id = .ok record?) ∧
        ∀ policy, ∃ document,
          (Assembler.ofStore anonymous anonymousStore
            policy).assembleCollection specification slice.items =
              .ok document := by
  have loaded : anonymousStore.LoadedWith anonymous := ⟨anonymousFixture, rfl⟩
  have built :
      ∃ specification,
        QuerySpecification.build anonymous .builtins {} "articles"
            anonymousParameters = .ok specification ∧
          specification.filter =
            some (.comparison "title" "like" [.string "L%"]) :=
    ⟨_, rfl, rfl⟩
  rcases built with ⟨specification, isBuilt, isFilter⟩
  rcases answers_of_build loaded isBuilt with
    ⟨refused, _, _, disordered, one, assembled⟩
  cases found : anonymousStore.findCollection "articles" specification with
  | ok slice =>
      exact ⟨specification, slice, isBuilt, found, one,
        assembled slice found⟩
  | error fault =>
      cases fault with
      | refused error =>
          rcases refused.mp ⟨error, found⟩ with
            ⟨filter, isSome, leaf, member, field, operand, isLeaf, noText⟩
          rw [isFilter] at isSome
          cases isSome
          rw [isLeaf] at member
          cases List.mem_singleton.mp member
          cases noText
      | disordered disorder =>
          have few : ((anonymousStore.recordsOf "articles").filter
              (anonymousStore.meets specification)).length ≤ 2 :=
            List.length_filter_le _ _
          have many := (disordered disorder found).1
          omega

/-- A number for a pattern is noticed only when the records are filtered. -/
example :
    (QuerySpecification.build anonymous .builtins {} "articles"
        { filter := .map [("title",
            .map [("like", .scalar (.int 3))])] }).toOption.map
      (fun specification =>
        (anonymousStore.findCollection "articles"
            specification).toOption.isSome) =
      some false := by
  rfl

/-- Nothing is wrong with the query, and still it is not answered. -/
theorem answers_of_build_ranked :
    rankedStore.LoadedWith ranking ∧
      ∃ specification,
        QuerySpecification.build ranking .builtins {} "books"
            (QueryParameters.ofQueryString "sort=rank") = .ok specification ∧
          specification.filter = none ∧
          rankedStore.findCollection "books" specification =
            .error (.disordered .crossedEnds) :=
  ⟨⟨rankedFixture, rfl⟩, _, rfl, rfl, rfl⟩

end Store

end JsonApi
