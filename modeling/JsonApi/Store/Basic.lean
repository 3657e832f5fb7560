import JsonApi.Filter.Predicate
import JsonApi.Query.Specification
import JsonApi.Store.Record

/-!
# Record stores

A store holds the records of every declared type in the order of the fixture.
It answers a specification by filtering the records of a type, sorting those
that match, and cutting out the page.  A field path is read by following
links; links to records that do not exist lead nowhere.

Whole numbers and decimal ones may compare in a way that is no order.  Then
sorting more than twenty records may give up, and the search with it.
-/

namespace JsonApi

/-- Objects on the other end of a relationship. -/
inductive Related (α : Type) where
  | toOne (object : Option α)
  | toMany (objects : List α)

/-- The related objects in order. -/
def Related.objects {α : Type} : Related α → List α
  | toOne object => object.toList
  | toMany objects => objects

/-- A page of a collection, with the number of matches on all pages. -/
structure CollectionSlice (α : Type) where
  items : List α
  total : Nat

/-- Why a collection has no page. -/
inductive CollectionFault where
  /-- The store answers with an error. -/
  | refused (error : StoreError)
  /-- Sorting the records gave up, and there is no answer at all. -/
  | disordered (disorder : Disorder)

/-- Records by resource type. -/
structure Store where
  collections : List (String × List Record)

namespace Store

/-- The records of a type, in the order of the fixture. -/
def recordsOf (store : Store) (resourceType : String) : List Record :=
  (Dictionary.find? store.collections resourceType).getD []

/-- The record of a type with the given identifier. -/
def find? (store : Store) (resourceType id : String) : Option Record :=
  (store.recordsOf resourceType).find? fun record => record.id = id

/-- Loads records one after the other; a record must load before its identifier
is compared. -/
def loadRecords
    (schema : Schema)
    (resourceType : String) :
    List Record → List FixtureRecord → Except StoreError (List Record)
  | loaded, [] => .ok loaded.reverse
  | loaded, record :: records => do
    let next ← Record.load schema resourceType record
    if loaded.any fun earlier => earlier.id = next.id then
      .error (.invalidFixture (.duplicateRecord resourceType next.id))
    else loadRecords schema resourceType (next :: loaded) records

/-- Loads the records of one type. -/
def loadType
    (schema : Schema)
    (entry : String × List FixtureRecord) :
    Except StoreError (String × List Record) :=
  if schema.hasType entry.1 then
    (loadRecords schema entry.1 [] entry.2).map fun records =>
      (entry.1, records)
  else .error (.invalidFixture (.undeclaredType entry.1))

/-- Loads a fixture; a declared type that it leaves out has no records. -/
def ofFixture
    (schema : Schema)
    (fixture : Fixture) : Except StoreError Store := do
  let loaded ← fixture.mapM (loadType schema)
  let declared := schema.typeNames.map fun resourceType =>
    (resourceType, ([] : List Record))
  pure ⟨Dictionary.union (Dictionary.ofList declared) loaded⟩

/-- Loads a fixture from its JSON value. -/
def ofJson (schema : Schema) (value : Json) : Except StoreError Store :=
  match Fixture.ofJson? value with
  | some fixture => ofFixture schema fixture
  | none => .error .malformed

/-- Loads a fixture from its JSON text. -/
def ofText (schema : Schema) (text : String) : Except StoreError Store :=
  match Fixture.read? text with
  | some fixture => ofFixture schema fixture
  | none => .error .malformed

/-- The records that a relationship leads to. -/
def follow
    (store : Store)
    (relationship : StoredRelationship) : Related Record :=
  match relationship.link with
  | .one id => .toOne (id.bind (store.find? relationship.target))
  | .many ids => .toMany (ids.filterMap (store.find? relationship.target))

/-- The records that a record is linked to by the relationship of the given
name. -/
def linked (store : Store) (record : Record) (name : String) : List Record :=
  match Dictionary.find? record.relationships name with
  | some relationship => (store.follow relationship).objects
  | none => []

/-- The values that the names of a path reach from some records. -/
def valuesAlong (store : Store) : List Record → List String → List Json
  | _, [] => []
  | records, [name] => records.filterMap fun record => record.field? name
  | records, name :: next :: names =>
    store.valuesAlong (records.flatMap fun record => store.linked record name)
      (next :: names)

/-- The values that a dotted field path reaches from a record. -/
def fieldValues (store : Store) (record : Record) (path : String) : List Json :=
  store.valuesAlong [record] (Text.splitAt '.' path)

/-- The objects that a relationship of a record leads to. -/
def resolve
    (store : Store)
    (resourceType : String)
    (record : Record)
    (name : String) :
    Except StoreError (Related Record) :=
  match Dictionary.find? record.relationships name with
  | some relationship => .ok (store.follow relationship)
  | none => .error (.unknownRelationship resourceType name)

/-- Compares two records by one sort key; a record without the field counts as
null. -/
def compareByKey (key : SortKey) (left right : Record) : Ordering :=
  let ordering := ((left.field? key.field).getD .null).order
    ((right.field? key.field).getD .null)
  if key.descending then ordering.swap else ordering

/-- Compares two records by sort keys, the first key that tells them apart
deciding. -/
def compareByKeys (keys : List SortKey) (left right : Record) : Ordering :=
  match keys with
  | [] => .eq
  | key :: keys =>
      (compareByKey key left right).then (compareByKeys keys left right)

/-- Whether a record satisfies a compiled filter, if there is one. -/
def satisfies
    (store : Store)
    (predicate : Option FieldPredicate)
    (record : Record) : Bool :=
  match predicate with
  | some predicate => predicate.holds (store.fieldValues record)
  | none => true

/-- All records of a type that match a specification, in its order. -/
def matching
    (store : Store)
    (records : List Record)
    (specification : QuerySpecification) :
    Except CollectionFault (List Record) := do
  let predicate ←
    match specification.filter with
    | some filter =>
      (filter.toPredicate.mapError fun error =>
        .refused (.compile error)).map some
    | none => pure none
  (sortBy (compareByKeys specification.sort)
    (records.filter (store.satisfies predicate))).mapError .disordered

/-- The page of a type that a specification asks for. -/
def findCollection
    (store : Store)
    (resourceType : String)
    (specification : QuerySpecification) :
    Except CollectionFault (CollectionSlice Record) :=
  match Dictionary.find? store.collections resourceType with
  | none => .error (.refused (.unknownResourceType resourceType))
  | some records => do
    let found ← store.matching records specification
    let page := specification.page
    pure ⟨(found.drop page.offset).take page.size, found.length⟩

/-- The record of a type with the given identifier, if the type is declared. -/
def findOne
    (store : Store)
    (resourceType id : String) : Except StoreError (Option Record) :=
  if Dictionary.contains store.collections resourceType then
    .ok (store.find? resourceType id)
  else .error (.unknownResourceType resourceType)

end Store

/-!
## Indexed stores

While a fixture is loaded, each of its records goes to the list of its type and
to an index by type and identifier.  The index tells whether an identifier was
given before, and it alone is read when a record is looked up.
-/

/-- Records by resource type, and by resource type and identifier. -/
structure IndexedStore where
  collections : List (String × List Record) := []
  /-- The latest record first. -/
  index : List ((String × String) × Record) := []

namespace IndexedStore

/-- The store without its index. -/
def toStore (store : IndexedStore) : Store :=
  ⟨store.collections⟩

/-- The record of a type with the given identifier. -/
def get? (store : IndexedStore) (resourceType id : String) : Option Record :=
  store.index.lookup (resourceType, id)

/-- The record of a type with the given identifier, if the type is declared. -/
def findOne
    (store : IndexedStore)
    (resourceType id : String) :
    Except StoreError (Option Record) :=
  if Dictionary.contains store.collections resourceType
    then .ok (store.get? resourceType id)
  else .error (.unknownResourceType resourceType)

/-- The index, and the records of one type in the order of the fixture. -/
structure Filling where
  index : List ((String × String) × Record)
  records : List Record

/-- Loads one more record of a type. -/
def addRecord
    (schema : Schema)
    (resourceType : String)
    (filling : Filling)
    (record : FixtureRecord) : Except StoreError Filling := do
  let next ← Record.load schema resourceType record
  if (filling.index.lookup (resourceType, next.id)).isSome then
    .error (.invalidFixture (.duplicateRecord resourceType next.id))
  else pure ⟨((resourceType, next.id), next) :: filling.index,
      filling.records ++ [next]⟩

/-- Loads the records of one more type. -/
def addType
    (schema : Schema)
    (store : IndexedStore)
    (entry : String × List FixtureRecord) :
    Except StoreError IndexedStore :=
  if schema.hasType entry.1 then do
    let filled ← entry.2.foldlM (addRecord schema entry.1) ⟨store.index, []⟩
    pure ⟨Dictionary.insert entry.1 filled.records store.collections,
        filled.index⟩
  else .error (.invalidFixture (.undeclaredType entry.1))

/-- The collections with one for the given type, which is empty unless there was
one. -/
def withCollection
    (collections : List (String × List Record))
    (resourceType : String) :
    List (String × List Record) :=
  if Dictionary.contains collections resourceType then collections
  else Dictionary.insert resourceType [] collections

/-- Loads a fixture; a declared type that it leaves out has no records. -/
def ofFixture
    (schema : Schema)
    (fixture : Fixture) : Except StoreError IndexedStore := do
  let loaded ← fixture.foldlM (addType schema) {}
  pure ⟨schema.typeNames.foldl withCollection loaded.collections, loaded.index⟩

end IndexedStore

end JsonApi
