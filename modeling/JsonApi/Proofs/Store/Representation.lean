import JsonApi.Proofs.Store.Collection
import JsonApi.Proofs.Store.Contents
import JsonApi.Proofs.Store.Index
import JsonApi.Proofs.Text.Pieces

/-!
# Stores as representations of fixtures

A store that was loaded has a collection for each declared type, with the
records of the fixture in their order, and an index that finds exactly these
records (`IndexedStore.represents_of_ofFixture`).  Looking up an identifier
and filtering a collection by it are two ways to the same record.
-/

namespace JsonApi

/-! ## Filtering by identifier -/

namespace Store

variable {store : Store} {resourceType id : String}
  {specification : QuerySpecification}

/-- The filter for one identifier. -/
def idFilter (id : String) : Filter :=
  .comparison idField "eq" [.string id]

theorem fieldValues_idField
    (store : Store)
    (record : Record) :
    store.fieldValues record idField = [.string record.id] := by
  rw [fieldValues, Text.splitAt_of_not_mem (by decide)]
  rfl

theorem compareTexts_eq_eq_iff {left right : String} :
    compareTexts left right = .eq ↔ left = right := by
  rw [compareTexts]
  split
  · rename_i less
    simpa using less.ne
  · split
    · rename_i same
      simpa using same
    · rename_i different
      simpa using different

theorem satisfies_id
    (store : Store)
    (id : String)
    (record : Record) :
    store.satisfies (some (.compare idField .eq (.string id))) record =
      decide (record.id = id) := by
  show (FieldPredicate.valuesOf (store.fieldValues record) idField).any
    (fun value => equalsOperand value (.string id)) = _
  rw [FieldPredicate.valuesOf, fieldValues_idField]
  show (some (compareTexts record.id id) == some .eq || false) = _
  rw [Bool.or_false, Bool.eq_iff_iff, beq_iff_eq, Option.some_inj,
    compareTexts_eq_eq_iff,
    decide_eq_true_eq]

theorem filter_id_eq_toList
    {records : List Record}
    (distinct : (records.map Record.id).Nodup)
    (id : String) :
    (records.filter fun record => record.id = id) =
      (records.find? fun record => record.id = id).toList := by
  induction records with
  | nil => rfl
  | cons first others induction =>
      rcases List.nodup_cons.mp distinct with ⟨notRepeated, othersDistinct⟩
      by_cases same : first.id = id
      · have noOther : (others.filter fun record => record.id = id) = [] := by
          apply List.filter_eq_nil_iff.mpr
          intro record member
          rw [decide_eq_true_eq]
          intro sameId
          exact notRepeated
            (same.trans sameId.symm ▸ List.mem_map_of_mem member)
        rw [List.filter_cons_of_pos (by simpa using same), noOther,
          List.find?_cons_of_pos (by simpa using same), Option.toList_some]
      · rw [List.filter_cons_of_neg (by simpa using same),
          induction othersDistinct,
          List.find?_cons_of_neg (by simpa using same)]

theorem sortBy_toList
    (compare : Record → Record → Ordering)
    (record? : Option Record) :
    sortBy compare record?.toList = .ok record?.toList := by
  cases record? <;> rfl

/-- Of records with distinct identifiers, only the one that a search finds
matches. -/
theorem matching_idFilter
    {records : List Record}
    (distinct : (records.map Record.id).Nodup)
    (isFilter : specification.filter = some (idFilter id)) :
    store.matching records specification =
      .ok (records.find? fun record => record.id = id).toList := by
  have filtered : records.filter
      (store.satisfies (some (.compare idField .eq (.string id)))) =
      (records.find? fun record => record.id = id).toList := by
    rw [← filter_id_eq_toList distinct]
    exact List.filter_congr fun record _ => satisfies_id store id record
  rw [matching, isFilter]
  show (sortBy _ (records.filter
    (store.satisfies (some (.compare idField .eq (.string id)))))).mapError
      _ = _
  rw [filtered, sortBy_toList]
  rfl

/-- The first page of the records with one identifier has the record that is
looked up. -/
theorem findCollection_idFilter
    {schema : Schema}
    (sound : Sound schema store)
    (declared : schema.hasType resourceType = true)
    (isFilter : specification.filter = some (idFilter id))
    (firstPage : specification.page.number = 1)
    (sized : 1 ≤ specification.page.size) :
    store.findCollection resourceType specification =
      .ok ⟨(store.find? resourceType id).toList,
          (store.find? resourceType id).toList.length⟩ := by
  rcases Dictionary.find?_of_contains
    (sound.complete resourceType declared) with
    ⟨records, found⟩
  have same := recordsOf_of_find? found
  have distinct := (sound.records resourceType).distinct
  rw [same] at distinct
  rw [findCollection, found]
  show (store.matching records specification).bind _ = _
  rw [matching_idFilter distinct isFilter, ← same, ← find?]
  show Except.ok (CollectionSlice.mk (((store.find? resourceType id).toList.drop
    specification.page.offset).take specification.page.size) _) = _
  have start : specification.page.offset = 0 := by
    rw [Page.offset, firstPage]
    simp [Text.saturatingMul]
  have short :
      (store.find? resourceType id).toList.length ≤ specification.page.size :=
    Option.length_toList_le.trans sized
  rw [start, List.drop_zero, List.take_of_length_le short]

end Store

/-! ## The representation -/

namespace IndexedStore

variable {schema : Schema} {fixture : Fixture} {store : IndexedStore}

/-- A store with the collections of a fixture and an index that agrees with
them. -/
structure Represents
    (schema : Schema)
    (fixture : Fixture)
    (store : IndexedStore) : Prop where
  ascending : Dictionary.Ascending store.collections
  types : ∀ resourceType,
    resourceType ∈ Dictionary.keys store.collections ↔
      schema.hasType resourceType = true
  lookup : ∀ resourceType id record,
    store.get? resourceType id = some record ↔
      record ∈ store.toStore.recordsOf resourceType ∧ record.id = id
  distinct :
    ∀ resourceType, ((store.toStore.recordsOf resourceType).map Record.id).Nodup
  records : ∀ resourceType,
    List.Forall₂ (Record.LoadedFrom schema resourceType)
      ((Dictionary.find? fixture resourceType).getD [])
      (store.toStore.recordsOf resourceType)

/-- A search among the records finds what the index finds. -/
theorem Represents.find?_eq_get?
    (represents : Represents schema fixture store)
    (resourceType id : String) :
    store.toStore.find? resourceType id = store.get? resourceType id := by
  ext record
  rw [represents.lookup]
  constructor
  · exact Store.mem_of_find?
  · rintro ⟨member, sameId⟩
    have filtered : record ∈
        (store.toStore.recordsOf resourceType).filter fun record =>
          record.id = id :=
      List.mem_filter.mpr ⟨member, by simpa using sameId⟩
    rw [Store.filter_id_eq_toList (represents.distinct resourceType)]
      at filtered
    exact Option.mem_toList.mp filtered

theorem represents_of_ofFixture
    (ordered : fixture.Ordered)
    (loaded : ofFixture schema fixture = .ok store) :
    Store.ofFixture schema fixture = .ok store.toStore ∧
      Represents schema fixture store := by
  have storeLoaded : Store.ofFixture schema fixture = .ok store.toStore := by
    rw [← ofFixture_toStore ordered.types.nodup_keys, loaded]
    rfl
  have sound := Store.sound_of_loadedWith ⟨fixture, storeLoaded⟩
  refine ⟨storeLoaded,
    { ascending := Store.ascending_of_ofFixture storeLoaded
      types := fun resourceType => ?_
      lookup := agrees_of_ofFixture ordered.types.nodup_keys loaded
      distinct := fun resourceType => (sound.records resourceType).distinct
      records := Store.forall₂_recordsOf ordered storeLoaded }⟩
  rw [Dictionary.mem_keys_iff]
  exact ⟨sound.declared resourceType, sound.complete resourceType⟩

/-- A store that was loaded from a fixture represents it.  With the index and
without it the same record is looked up, and the first page of the records with
an identifier has this record alone. -/
theorem represents_fixture
    {limit : Option Nat}
    {written : Json.Written}
    (isRead : Fixture.ofWritten? limit written = some fixture)
    (loaded : ofFixture schema fixture = .ok store) :
    Store.ofFixture schema fixture = .ok store.toStore ∧
      Represents schema fixture store ∧
      ∀ resourceType id,
        store.toStore.findOne resourceType id = store.findOne resourceType id ∧
          ∀ specification : QuerySpecification,
            specification.filter = some (Store.idFilter id) →
              specification.page.number = 1 → 1 ≤ specification.page.size →
                (∀ record, store.findOne resourceType id = .ok (some record) ↔
                  store.toStore.findCollection resourceType specification =
                    .ok ⟨[record], 1⟩) ∧
                (store.findOne resourceType id = .ok none ↔
                  store.toStore.findCollection resourceType specification =
                    .ok ⟨[], 0⟩) := by
  have ordered := Fixture.ordered_of_ofWritten? isRead
  rcases represents_of_ofFixture ordered loaded with ⟨storeLoaded, represents⟩
  have sound := Store.sound_of_loadedWith ⟨fixture, storeLoaded⟩
  refine ⟨storeLoaded, represents, fun resourceType id => ⟨?_, ?_⟩⟩
  · rw [Store.findOne, represents.find?_eq_get?]
    rfl
  · intro specification isFilter firstPage sized
    cases present : Dictionary.contains store.collections resourceType with
    | true =>
        have declared := sound.declared resourceType present
        rw [Store.findCollection_idFilter sound declared isFilter firstPage
          sized, findOne, if_pos present, represents.find?_eq_get?]
        cases store.get? resourceType id with
        | none => simp
        | some found => simp
    | false =>
        have notFound :
            Dictionary.find? store.toStore.collections resourceType = none :=
          Dictionary.contains_eq_false_iff.mp present
        have absent :
            ¬Dictionary.contains store.collections resourceType = true := by
          simp [present]
        rw [findOne, if_neg absent, Store.findCollection, notFound]
        simp

/-- A book with a number for its identifier, by authors of whom one has a
number. -/
def numberedBooks : Json :=
  .object
    [("books", .array
      [.object
        [("id", .ofInt 1),
          ("relationships",
            .object [("authors", .array [.string "a", .ofInt 2])])]]),
      ("people",
        .array [.object [("id", .string "a")], .object [("id", .ofInt 2)]])]

theorem represents_fixture_numberedBooks :
    ∃ fixture store book,
      Fixture.ofWritten? none numberedBooks.toWritten = some fixture ∧
        ofFixture Store.bookshelf fixture = .ok store ∧
        store.findOne "books" "1" = .ok (some book) ∧
        book.relationships = [("authors", ⟨"people", .many ["a", "2"]⟩)] ∧
        store.toStore.findCollection "books"
            { Store.shelfSpecification with
                filter := some (Store.idFilter "1") } =
          .ok ⟨[book], 1⟩ := by
  have loaded : ∃ fixture store book,
      Fixture.ofWritten? none numberedBooks.toWritten = some fixture ∧
        ofFixture Store.bookshelf fixture = .ok store ∧
        store.findOne "books" "1" = .ok (some book) ∧
        book.relationships = [("authors", ⟨"people", .many ["a", "2"]⟩)] :=
    ⟨_, _, _, rfl, rfl, rfl, rfl⟩
  rcases loaded with ⟨fixture, store, book, isRead, isLoaded, found, authors⟩
  have answers := (represents_fixture isRead isLoaded).2.2 "books" "1"
  have onlyBook := (answers.2
      { Store.shelfSpecification with filter := some (Store.idFilter "1") }
    rfl rfl (by decide)).1 book
  exact ⟨fixture, store, book, isRead, isLoaded, found, authors,
    onlyBook.mp found⟩

end IndexedStore

end JsonApi
