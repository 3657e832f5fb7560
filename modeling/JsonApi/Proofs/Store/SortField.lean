import JsonApi.Config
import JsonApi.Proofs.Query.Soundness
import JsonApi.Proofs.Store.Paging

/-!
# What a sort field stands for

Under a sound configuration a resource type is sorted by its identifier, by its
attributes, or by paths that begin with one of its relationships.  The records
are put in the order of the values that they have themselves under the name of
the field.  For a name without dots these are the values that filters read; a
path, which filters follow, is not followed here.  As long as no record has an
attribute of that very name, sorting by a path leaves the records in the order
of the fixture.
-/

namespace JsonApi

/-- What a sound configuration lets a type be sorted by, its validation knows as
a field. -/
theorem Configuration.isSortable_of_allows
    {configuration : Configuration}
    (sound : configuration.fault? = none)
    {resourceType field : String}
    (allowed : configuration.settings.sorting.allows configuration.schema
      resourceType field =
      true) :
    Settings.isSortable configuration.schema resourceType field = true := by
  rw [SortSettings.allows] at allowed
  split at allowed
  · rename_i names found
    have noFault :
        configuration.settings.faultAgainst? configuration.schema = none :=
      (Option.or_eq_none_iff.mp (Option.or_eq_none_iff.mp sound).2).2
    have entrySound :=
      List.findSome?_eq_none_iff.mp noFault _ (Dictionary.mem_of_find? found)
    rw [Settings.sortFault?] at entrySound
    split at entrySound
    · have noneUnknown :=
        List.find?_eq_none.mp (Option.map_eq_none_iff.mp entrySound)
      simpa using noneUnknown field (List.contains_iff_mem.mp allowed)
    · cases entrySound
  · rw [Settings.isSortable, Bool.or_eq_true]
    exact Or.inl allowed

namespace Store

variable {store : Store} {resourceType : String}
  {specification : QuerySpecification} {key : SortKey}

/-- The first value that filters read for a field of a record, or null. -/
def readValue (store : Store) (record : Record) (field : String) : Json :=
  (store.fieldValues record field).headD .null

theorem fieldValues_of_not_mem
    {field : String}
    (undotted : '.' ∉ field.toList)
    (record : Record) :
    store.fieldValues record field = (record.field? field).toList := by
  rw [fieldValues, Text.splitAt_of_not_mem undotted, valuesAlong,
    List.filterMap_cons]
  cases record.field? field <;> rfl

/-- For a name without dots, sorting and filtering look at the same value. -/
theorem readValue_of_not_mem
    {field : String}
    (undotted : '.' ∉ field.toList)
    (record : Record) :
    store.readValue record field = record.sortValue field := by
  rw [readValue, fieldValues_of_not_mem undotted, Record.sortValue]
  cases record.field? field <;> rfl

theorem comesAfter_singleton_iff {earlier later : Record} :
    Record.ComesAfter [key] earlier later ↔
      Record.IsBehind key earlier later := by
  rw [← compareByKeys_eq_gt_iff, ← compareByKey_eq_gt_iff, compareByKeys,
    compareByKeys, Ordering.then_eq]

/-- A field that no record has does not change the order of the records. -/
theorem stableSort_of_field?_eq_none
    {records : List Record}
    (absent : ∀ record ∈ records, record.field? key.field = none) :
    stableSort (compareByKeys [key]) records = records := by
  apply stableSort_of_pairwise
  apply List.pairwise_of_forall_mem_list
  intro earlier isEarlier later isLater comesAfter
  have behind :=
    comesAfter_singleton_iff.mp (compareByKeys_eq_gt_iff.mp comesAfter)
  rw [Record.IsBehind, Record.sortValue, Record.sortValue,
    absent earlier isEarlier, absent later isLater] at behind
  cases descending : key.descending <;>
    simp [descending, Json.order] at behind

/-- A collection sorted by one field is in the order of the values that the
records have under its name.  If the name has no dots, these are the values that
filters read; if no record has an attribute of that name, the order is that of
the fixture. -/
theorem findCollection_sortField
    {configuration : Configuration}
    {operators : OperatorRegistry}
    {parameters : QueryParameters}
    (sound : configuration.fault? = none)
    (loaded : store.LoadedWith configuration.schema)
    (built : QuerySpecification.build configuration.schema operators
        configuration.settings resourceType parameters = .ok specification)
    (single : specification.sort = [key])
    (compiles : ∀ filter, specification.filter = some filter →
      ∃ predicate, filter.toPredicate = .ok predicate)
    (consistent :
      Number.Consistent
        (Record.NumberUnder (store.recordsOf resourceType) key.field)) :
    Settings.isSortable configuration.schema resourceType key.field = true ∧
      ∃ slice, store.findCollection resourceType specification = .ok slice ∧
        (slice.items.Pairwise fun earlier later =>
            ¬Record.IsBehind key earlier later) ∧
        ('.' ∉ key.field.toList →
          slice.items.Pairwise fun earlier later =>
            (store.readValue earlier key.field).order
              (store.readValue later key.field) ≠
              if key.descending then .lt else .gt) ∧
        ((∀ record ∈ store.recordsOf resourceType,
            record.field? key.field = none) →
          slice.items = specification.page.cut
            ((store.recordsOf resourceType).filter
                (store.meets specification))) := by
  have guarantees := QuerySpecification.sound_of_build built
  have consistentKeys : ∀ other ∈ specification.sort,
      Number.Consistent
        (Record.NumberUnder (store.recordsOf resourceType) other.field) := by
    intro other member
    rw [single] at member
    rw [List.mem_singleton.mp member]
    exact consistent
  rcases exists_answer_of_consistent consistentKeys with
    ⟨answer, answered, whole⟩
  have ordered :
      (specification.page.cut answer).Pairwise
        fun earlier later => ¬Record.IsBehind key earlier later := by
    simp only [single, comesAfter_singleton_iff] at whole
    exact whole.sublist
      ((List.take_sublist _ _).trans (List.drop_sublist _ _))
  have found := findCollection_eq loaded guarantees.declared compiles
  rw [answered] at found
  refine ⟨Configuration.isSortable_of_allows sound
      (guarantees.sortAllowed key (by simp [single])),
    _, found, ordered, ?_, ?_⟩
  · intro undotted
    apply ordered.imp
    intro earlier later notBehind
    rw [readValue_of_not_mem undotted, readValue_of_not_mem undotted]
    exact notBehind
  · intro absent
    rw [Store.answer, sortBy_eq_ok_of_consistent consistentKeys, single,
      stableSort_of_field?_eq_none fun record member =>
        absent record (List.mem_of_mem_filter member)] at answered
    cases answered
    rfl

/-! ## Articles by title and by author -/

/-- Articles may be sorted by their titles and by the names of their authors. -/
def bylines : Configuration where
  settings := { sorting := ⟨[("articles", ["title", "author.name"])]⟩ }
  schema := QuerySpecification.library

/-- The first article is by Ben and the second one by Anna. -/
def bylinesFixture : Fixture :=
  [("articles",
    [⟨.string "1", [("title", .string "Emma")], [("author", .string "b")]⟩,
      ⟨.string "2", [("title", .string "Dune")], [("author", .string "a")]⟩]),
    ("people",
      [⟨.string "a", [("name", .string "Anna")], []⟩,
        ⟨.string "b", [("name", .string "Ben")], []⟩])]

def bylinesStore : Store :=
  (ofFixture bylines.schema bylinesFixture).toOption.getD ⟨[]⟩

/-- Asks for all articles, sorted by one field. -/
def bylinesParameters (field : String) : QueryParameters where
  sort := [⟨field, false⟩]

theorem findCollection_sortField_title :
    ∃ specification slice,
      QuerySpecification.build bylines.schema .builtins bylines.settings
        "articles" (bylinesParameters "title") = .ok specification ∧
        bylinesStore.findCollection "articles" specification = .ok slice ∧
        slice.items.Pairwise fun earlier later =>
          (bylinesStore.readValue earlier "title").order
            (bylinesStore.readValue later "title") ≠
            .gt := by
  have built :
      ∃ specification,
        QuerySpecification.build bylines.schema .builtins bylines.settings
          "articles" (bylinesParameters "title") = .ok specification ∧
            specification.sort = [⟨"title", false⟩] ∧
              specification.filter = none :=
    ⟨_, rfl, rfl, rfl⟩
  rcases built with ⟨specification, isBuilt, single, unfiltered⟩
  have consistent :
      Number.Consistent
        (Record.NumberUnder (bylinesStore.recordsOf "articles") "title") := by
    have texts : ∀ record ∈ bylinesStore.recordsOf "articles",
        (record.field? "title").all isWhole = true := by
      decide
    refine Or.inl ?_
    rintro number ⟨record, member, found⟩
    have isText := texts record member
    rw [found] at isText
    exact isText
  have loaded : bylinesStore.LoadedWith bylines.schema := ⟨bylinesFixture, rfl⟩
  rcases findCollection_sortField (by decide) loaded isBuilt single
    (by simp [unfiltered]) consistent with
    ⟨_, slice, found, _, ordered, _⟩
  exact ⟨specification, slice, isBuilt, found, ordered (by decide)⟩

/-- The names of the authors may be sorted by, and the articles are not sorted
by them. -/
theorem findCollection_unsorted_by_path :
    bylines.fault? = none ∧
      ∃ specification slice,
        QuerySpecification.build bylines.schema .builtins bylines.settings
          "articles" (bylinesParameters "author.name") = .ok specification ∧
          specification.sort = [⟨"author.name", false⟩] ∧
          bylinesStore.findCollection "articles" specification = .ok slice ∧
          slice.items.map (bylinesStore.readValue · "author.name") =
            [.string "Ben", .string "Anna"] ∧
          ¬slice.items.Pairwise fun earlier later =>
            (bylinesStore.readValue earlier "author.name").order
              (bylinesStore.readValue later "author.name") ≠ .gt := by
  refine ⟨by decide, _, _, rfl, rfl, rfl, rfl, ?_⟩
  decide

end Store

end JsonApi
