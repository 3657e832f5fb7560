import JsonApi.Proofs.Store.Loading
import JsonApi.Store.Basic

/-!
# Index and collections

The index and the collections of a store are filled side by side, and every
step keeps them in agreement: the index finds exactly the records of the
collections (`IndexedStore.agrees_of_ofFixture`).  Searching the collections
therefore gives the same answers, and loading without an index loads the same
collections and fails with the same errors (`IndexedStore.ofFixture_toStore`).
-/

namespace JsonApi

namespace IndexedStore

variable {schema : Schema} {resourceType : String}

/-! ## The records of one type -/

/-- The index over the records of one type, and over what was there before. -/
structure Filling.Follows
    (resourceType : String)
    (before : List ((String × String) × Record))
    (filling : Filling) : Prop where
  own : ∀ id record,
    filling.index.lookup (resourceType, id) = some record ↔
      record ∈ filling.records ∧ record.id = id
  others : ∀ other, other ≠ resourceType → ∀ id,
    filling.index.lookup (other, id) = before.lookup (other, id)

variable {before : List ((String × String) × Record)} {filling : Filling}

theorem Filling.Follows.lookup_eq_none_iff
    (follows : filling.Follows resourceType before)
    (id : String) :
    filling.index.lookup (resourceType, id) = none ↔
      ∀ record ∈ filling.records, record.id ≠ id := by
  constructor
  · intro absent record member sameId
    rw [(follows.own id record).mpr ⟨member, sameId⟩] at absent
    cases absent
  · intro fresh
    cases found : filling.index.lookup (resourceType, id) with
    | none => rfl
    | some record =>
        rcases (follows.own id record).mp found with ⟨member, sameId⟩
        exact absurd sameId (fresh record member)

/-- A record with a new identifier is found from then on, and all others as
before. -/
theorem Filling.Follows.add
    (follows : filling.Follows resourceType before)
    {next : Record}
    (fresh : filling.index.lookup (resourceType, next.id) = none) :
    Filling.Follows resourceType before
      ⟨((resourceType, next.id), next) :: filling.index,
          filling.records ++ [next]⟩ where
  own := by
    intro id record
    have noneBefore := (follows.lookup_eq_none_iff next.id).mp fresh
    rw [Dictionary.lookup_cons_eq_if, List.mem_append, List.mem_singleton]
    split
    · rename_i same
      cases same
      rw [Option.some_inj]
      grind
    · rename_i different
      rw [follows.own]
      grind
  others := by
    intro other different id
    rw [Dictionary.lookup_cons_eq_if,
      if_neg fun same => different (congrArg Prod.fst same)]
    exact follows.others other different id

/-- A record that can be loaded is added unless its identifier was given
before. -/
theorem addRecord_of_load
    {source : FixtureRecord}
    {next : Record}
    (loaded : Record.load schema resourceType source = .ok next) :
    addRecord schema resourceType filling source =
      if (filling.index.lookup (resourceType, next.id)).isSome then
        .error (.invalidFixture (.duplicateRecord resourceType next.id))
      else
        .ok ⟨((resourceType, next.id), next) :: filling.index,
            filling.records ++ [next]⟩ := by
  rw [addRecord, loaded]
  rfl

theorem addRecord_eq_ok
    {filled : Filling}
    {source : FixtureRecord}
    (added : addRecord schema resourceType filling source = .ok filled) :
    ∃ next, Record.load schema resourceType source = .ok next ∧
      filling.index.lookup (resourceType, next.id) = none ∧
      filled =
        ⟨((resourceType, next.id), next) :: filling.index,
            filling.records ++ [next]⟩ := by
  cases loaded : Record.load schema resourceType source with
  | error error =>
      rw [addRecord, loaded] at added
      cases added
  | ok next =>
      rw [addRecord_of_load loaded] at added
      split at added
      · cases added
      · rename_i fresh
        cases added
        exact ⟨next, rfl, Option.not_isSome_iff_eq_none.mp fresh, rfl⟩

theorem Filling.Follows.addRecord
    (follows : filling.Follows resourceType before)
    {filled : Filling}
    {source : FixtureRecord}
    (added :
      IndexedStore.addRecord schema resourceType filling source = .ok filled) :
    filled.Follows resourceType before := by
  rcases addRecord_eq_ok added with ⟨next, _, fresh, rfl⟩
  exact follows.add fresh

theorem Filling.Follows.addRecords
    (follows : filling.Follows resourceType before)
    {filled : Filling}
    {sources : List FixtureRecord}
    (added :
      sources.foldlM (IndexedStore.addRecord schema resourceType) filling =
        .ok filled) :
    filled.Follows resourceType before := by
  have kept : Outcome (Filling.Follows resourceType before)
      (fun _ : StoreError => True) (sources.foldlM
        (IndexedStore.addRecord schema resourceType) filling) := by
    refine Outcome.foldlM (fun _ => Filling.Follows resourceType before) ?_
      follows
    intro _ source filling _ follows
    cases step : IndexedStore.addRecord schema resourceType filling source with
    | error error => exact True.intro
    | ok next => exact follows.addRecord step
  exact kept.of_ok added

/-- An index notices the same repeated identifiers as a search among the
records. -/
theorem Filling.Follows.isSome_lookup
    (follows : filling.Follows resourceType before)
    (id : String) :
    (filling.index.lookup (resourceType, id)).isSome =
      filling.records.reverse.any fun record => record.id = id := by
  rw [List.any_reverse]
  cases found : filling.index.lookup (resourceType, id) with
  | none =>
      have fresh := (follows.lookup_eq_none_iff id).mp found
      symm
      simpa using fresh
  | some record =>
      rcases (follows.own id record).mp found with ⟨member, sameId⟩
      symm
      simpa using ⟨record, member, sameId⟩

/-- With and without an index, the same records are loaded or the same error is
met. -/
theorem map_records_addRecords
    (follows : filling.Follows resourceType before)
    (sources : List FixtureRecord) :
    (sources.foldlM (addRecord schema resourceType) filling).map
      Filling.records =
      Store.loadRecords schema resourceType filling.records.reverse
        sources := by
  induction sources generalizing filling with
  | nil =>
      show Except.ok filling.records = .ok filling.records.reverse.reverse
      rw [List.reverse_reverse]
  | cons source sources induction =>
      rw [List.foldlM_cons, Store.loadRecords]
      cases loaded : Record.load schema resourceType source with
      | error error =>
          have failed :
              addRecord schema resourceType filling source = .error error := by
            rw [addRecord, loaded]
            rfl
          rw [failed]
          rfl
      | ok next =>
          rw [addRecord_of_load loaded, follows.isSome_lookup]
          show _ =
            if (filling.records.reverse.any fun record => record.id = next.id) =
            true then _ else _
          by_cases repeated :
            (filling.records.reverse.any fun record => record.id = next.id) =
            true
          · rw [if_pos repeated, if_pos repeated]
            rfl
          · have fresh : filling.index.lookup (resourceType, next.id) = none :=
              Option.not_isSome_iff_eq_none.mp (by rwa [follows.isSome_lookup])
            rw [if_neg repeated, if_neg repeated, ← List.reverse_concat]
            exact induction (follows.add fresh)

/-! ## All types -/

/-- The index finds exactly the records of the collections. -/
def Agrees (store : IndexedStore) : Prop :=
  ∀ resourceType id record,
    store.get? resourceType id = some record ↔
      record ∈ store.toStore.recordsOf resourceType ∧ record.id = id

theorem agrees_empty : Agrees {} := by
  intro resourceType id record
  constructor
  · intro found
    cases found
  · rintro ⟨member, _⟩
    cases member

variable {store : IndexedStore} {entry : String × List FixtureRecord}

theorem recordsOf_eq_nil
    (absent : Dictionary.contains store.collections resourceType = false) :
    store.toStore.recordsOf resourceType = [] :=
  congrArg (fun found => Option.getD found [])
    (Dictionary.contains_eq_false_iff.mp absent)

/-- A type without a collection has nothing in the index. -/
theorem Agrees.follows
    (agrees : store.Agrees)
    (absent : Dictionary.contains store.collections resourceType = false) :
    Filling.Follows resourceType store.index ⟨store.index, []⟩ where
  own := by
    intro id record
    rw [← recordsOf_eq_nil absent]
    exact agrees resourceType id record
  others := fun _ _ _ => rfl

theorem addType_eq_ok
    {filled : IndexedStore}
    (added : addType schema store entry = .ok filled) :
    schema.hasType entry.1 = true ∧
      ∃ filling, entry.2.foldlM (addRecord schema entry.1) ⟨store.index, []⟩ =
        .ok filling ∧
        filled =
          ⟨Dictionary.insert entry.1 filling.records store.collections,
              filling.index⟩ := by
  rw [addType] at added
  split at added
  · rename_i declared
    rcases Outcome.bind_eq_ok_iff.mp added with ⟨filling, isFilled, same⟩
    cases same
    exact ⟨declared, filling, isFilled, rfl⟩
  · cases added

/-- A type that is loaded is found in its collection and in the index alike. -/
theorem Agrees.addType
    {filled : IndexedStore}
    (agrees : store.Agrees)
    (absent : Dictionary.contains store.collections entry.1 = false)
    (added : IndexedStore.addType schema store entry = .ok filled) :
    filled.Agrees := by
  rcases addType_eq_ok added with ⟨_, filling, isFilled, rfl⟩
  have follows := (agrees.follows absent).addRecords isFilled
  intro resourceType id record
  by_cases same : resourceType = entry.1
  · subst same
    rw [toStore, Store.recordsOf, Dictionary.find?_insert_self]
    exact follows.own id record
  · rw [toStore, Store.recordsOf, Dictionary.find?_insert_of_ne same, get?,
      follows.others resourceType same id]
    exact agrees resourceType id record

theorem map_toStore_addType
    (agrees : store.Agrees)
    (absent : Dictionary.contains store.collections entry.1 = false) :
    (IndexedStore.addType schema store entry).map toStore =
      (Store.loadType schema entry).map fun loaded =>
        ⟨Dictionary.insert loaded.1 loaded.2 store.collections⟩ := by
  rw [IndexedStore.addType, Store.loadType]
  split
  · have sameRecords : _ = Store.loadRecords schema entry.1 [] entry.2 :=
      map_records_addRecords (agrees.follows absent) entry.2
    rw [← sameRecords]
    cases entry.2.foldlM (addRecord schema entry.1) ⟨store.index, []⟩ with
    | error error => rfl
    | ok filling => rfl
  · rfl

/-- The types of a fixture are distinct, and none of them was loaded before. -/
structure Awaits (store : IndexedStore) (fixture : Fixture) : Prop where
  distinct : (Dictionary.keys fixture).Nodup
  absent : ∀ entry ∈ fixture,
    Dictionary.contains store.collections entry.1 = false

variable {fixture : Fixture}

theorem Awaits.absent_head (awaits : store.Awaits (entry :: fixture)) :
    Dictionary.contains store.collections entry.1 = false :=
  awaits.absent entry List.mem_cons_self

theorem Awaits.addType
    {filled : IndexedStore}
    (awaits : store.Awaits (entry :: fixture))
    (added : IndexedStore.addType schema store entry = .ok filled) :
    filled.Awaits fixture := by
  rcases addType_eq_ok added with ⟨_, filling, _, rfl⟩
  rcases List.nodup_cons.mp awaits.distinct with ⟨notRepeated, distinct⟩
  refine ⟨distinct, fun other member => ?_⟩
  have different : other.1 ≠ entry.1 := by
    intro same
    exact notRepeated (same ▸ List.mem_map_of_mem member)
  rw [Dictionary.contains, Dictionary.find?_insert_of_ne different]
  exact awaits.absent other (List.mem_cons_of_mem entry member)

theorem Agrees.addTypes
    {filled : IndexedStore}
    (agrees : store.Agrees)
    (awaits : store.Awaits fixture)
    (added : fixture.foldlM (IndexedStore.addType schema) store = .ok filled) :
    filled.Agrees := by
  induction fixture generalizing store with
  | nil =>
      cases added
      exact agrees
  | cons entry fixture induction =>
      rw [List.foldlM_cons] at added
      rcases Outcome.bind_eq_ok_iff.mp added with ⟨next, isNext, isRest⟩
      exact induction (agrees.addType awaits.absent_head isNext)
        (awaits.addType isNext) isRest

/-- With and without an index, the same types are loaded or the same error is
met. -/
theorem map_toStore_addTypes
    (agrees : store.Agrees)
    (awaits : store.Awaits fixture) :
    (fixture.foldlM (IndexedStore.addType schema) store).map toStore =
      (fixture.mapM (Store.loadType schema)).map fun loaded =>
        ⟨Dictionary.union store.collections loaded⟩ := by
  induction fixture generalizing store with
  | nil => rfl
  | cons entry fixture induction =>
      have first : (IndexedStore.addType schema store entry).map toStore = _ :=
        map_toStore_addType agrees awaits.absent_head
      rw [List.foldlM_cons, List.mapM_cons]
      rcases Outcome.map_eq_map_cases first with
        ⟨error, notAdded, notLoaded⟩ | ⟨next, loaded, added, isLoaded, same⟩
      · rw [notAdded, notLoaded]
        rfl
      · have collections : next.collections =
            Dictionary.insert loaded.1 loaded.2 store.collections :=
          congrArg Store.collections same
        have rest := induction (agrees.addType awaits.absent_head added)
          (awaits.addType added)
        rw [added, isLoaded]
        show (fixture.foldlM (IndexedStore.addType schema) next).map toStore = _
        rw [rest, collections]
        cases fixture.mapM (Store.loadType schema) with
        | error error => rfl
        | ok others => rfl

/-! ## Whole fixtures -/

theorem find?_withCollection
    (collections : List (String × List Record))
    (name key : String) :
    Dictionary.find? (withCollection collections name) key =
      (Dictionary.find? collections key).or
        (if key = name then some [] else none) := by
  rw [withCollection]
  split
  · rename_i present
    split
    · rename_i same
      rcases Dictionary.find?_of_contains present with ⟨records, found⟩
      rw [same, found, Option.some_or]
    · rw [Option.or_none]
  · rename_i absent
    split
    · rename_i same
      have notFound : Dictionary.find? collections name = none :=
        Dictionary.contains_eq_false_iff.mp (eq_false_of_ne_true absent)
      rw [same, Dictionary.find?_insert_self, notFound, Option.none_or]
    · rename_i different
      rw [Dictionary.find?_insert_of_ne different, Option.or_none]

/-- The types without records get empty collections. -/
theorem find?_withCollections
    (collections : List (String × List Record))
    (names : List String)
    (key : String) :
    Dictionary.find? (names.foldl withCollection collections) key =
      (Dictionary.find? collections key).or
        (if key ∈ names then some [] else none) := by
  induction names generalizing collections with
  | nil => simp
  | cons name names induction =>
      rw [List.foldl_cons, induction, find?_withCollection, Option.or_assoc]
      congr 1
      by_cases isFirst : key = name <;> simp [isFirst]

theorem ascending_withCollections
    {collections : List (String × List Record)}
    (ascending : Dictionary.Ascending collections)
    (names : List String) :
    Dictionary.Ascending (names.foldl withCollection collections) := by
  induction names generalizing collections with
  | nil => exact ascending
  | cons name names induction =>
      refine induction ?_
      rw [withCollection]
      split
      · exact ascending
      · exact ascending.insert name []

/-- Empty collections hold no records. -/
theorem recordsOf_withCollections
    (store : IndexedStore)
    (names : List String)
    (resourceType : String) :
    Store.recordsOf ⟨names.foldl withCollection store.collections⟩
      resourceType =
      store.toStore.recordsOf resourceType := by
  rw [Store.recordsOf, find?_withCollections, Store.recordsOf, toStore]
  cases Dictionary.find? store.collections resourceType with
  | none =>
      rw [Option.none_or]
      split <;> rfl
  | some records => rfl

/-- Without an index, the collections are made in another order and are the
same. -/
theorem withCollections_union
    {loaded : List (String × List Record)}
    (distinct : (Dictionary.keys loaded).Nodup)
    (names : List String) :
    names.foldl withCollection (Dictionary.union [] loaded) =
      Dictionary.union (Dictionary.ofList (names.map fun name => (name, [])))
        loaded := by
  have ascending : Dictionary.Ascending (Dictionary.union [] loaded) :=
    Dictionary.Ascending.nil.union loaded
  have otherAscending : Dictionary.Ascending (Dictionary.union
      (Dictionary.ofList (names.map fun name => (name, ([] : List Record))))
        loaded) :=
    (Dictionary.ascending_ofList _).union loaded
  refine (ascending_withCollections ascending names).ext otherAscending
    fun key => ?_
  rw [find?_withCollections, Dictionary.find?_union distinct,
    Dictionary.find?_union distinct, Dictionary.find?_ofList_map]
  simp [Dictionary.find?]

/-- Loading with an index gives the same store as loading without one, or the
same error. -/
theorem ofFixture_toStore (distinct : (Dictionary.keys fixture).Nodup) :
    (ofFixture schema fixture).map toStore =
      Store.ofFixture schema fixture := by
  have awaits : Awaits {} fixture := ⟨distinct, fun _ _ => rfl⟩
  have sameTypes :
      (fixture.foldlM (IndexedStore.addType schema) {}).map toStore = _ :=
    map_toStore_addTypes agrees_empty awaits
  rw [ofFixture, Store.ofFixture]
  rcases Outcome.map_eq_map_cases sameTypes with
    ⟨error, notFilled, notLoaded⟩ | ⟨store, loaded, filled, typesLoaded, same⟩
  · rw [notFilled, notLoaded]
    rfl
  · have sameKeys : Dictionary.keys loaded = Dictionary.keys fixture :=
      Dictionary.keys_of_mapM (fun _ _ => Store.key_of_loadType) typesLoaded
    have collections : store.collections = Dictionary.union [] loaded :=
      congrArg Store.collections same
    rw [filled, typesLoaded]
    show Except.ok
      (toStore ⟨schema.typeNames.foldl withCollection store.collections, _⟩) =
      .ok _
    rw [collections]
    exact congrArg (fun collections => Except.ok (Store.mk collections))
      (withCollections_union (sameKeys ▸ distinct) schema.typeNames)

/-- The index of a store that was loaded finds exactly the records of the
collections. -/
theorem agrees_of_ofFixture
    (distinct : (Dictionary.keys fixture).Nodup)
    (loaded : ofFixture schema fixture = .ok store) :
    store.Agrees := by
  rw [ofFixture] at loaded
  rcases Outcome.bind_eq_ok_iff.mp loaded with ⟨filled, isFilled, same⟩
  cases same
  have awaits : Awaits {} fixture := ⟨distinct, fun _ _ => rfl⟩
  have agrees := agrees_empty.addTypes awaits isFilled
  intro resourceType id record
  rw [toStore, recordsOf_withCollections]
  exact agrees resourceType id record

end IndexedStore

end JsonApi
