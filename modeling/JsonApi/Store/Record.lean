import JsonApi.Fault
import JsonApi.Filter.Predicate
import JsonApi.Json.Basic
import JsonApi.Json.Written
import JsonApi.Schema

/-!
# Fixtures and records

A fixture lists records as they are written, and a store holds them with all
relationships of their types.
-/

/-!
## Fixtures

A fixture lists records by resource type.  A record is an object with an `id`
and, both optional, `attributes` and `relationships`; other members are
ignored, whatever stands in them.  A record may also be the array of these
three in that order, of which the last ones may be left out.  A record that
names one of the three twice is refused, while of two values for one type, one
attribute or one relationship the last one counts.
-/

namespace JsonApi

open JsonApi.Json

/-- A record as it stands in a fixture. -/
structure FixtureRecord where
  id : Json
  attributes : List (String × Json)
  relationships : List (String × Json)

/-- Records by resource type, in ascending order of types. -/
abbrev Fixture := List (String × List FixtureRecord)

namespace FixtureRecord

/-- The members of a record that were read so far. -/
structure Fields where
  id : Option Json := none
  attributes : Option (List (String × Json)) := none
  relationships : Option (List (String × Json)) := none

/-- Reads a member of a record, unless it was read before. -/
def Fields.add?
    (limit : Option Nat)
    (fields : Fields)
    (name : String)
    (value : Written) :
    Option Fields :=
  if name = "id" then
    if fields.id.isSome then none
    else do pure { fields with id := some (← value.toJson? limit) }
  else if name = "attributes" then
    if fields.attributes.isSome then none
    else do pure { fields with
        attributes := some (← (← value.toJson? limit).members?) }
  else if name = "relationships" then
    if fields.relationships.isSome then none
    else do pure { fields with
        relationships := some (← (← value.toJson? limit).members?) }
  else some fields

/-- The record of the members that were read, which must include the
identifier. -/
def Fields.finish? (fields : Fields) : Option FixtureRecord :=
  fields.id.map fun id =>
    ⟨id, fields.attributes.getD [], fields.relationships.getD []⟩

/-- Reads the members of a record one after the other. -/
def addMembers? (limit : Option Nat) :
    Fields → List (Option String × Written) → Option Fields
  | fields, [] => some fields
  | fields, (name?, value) :: members => do
    let name ← name?
    addMembers? limit (← fields.add? limit name value) members

/-- Reads a record whose containers nest less deep than `limit`. -/
def ofWritten?
    (limit : Option Nat)
    (written : Written) : Option FixtureRecord := do
  let inner ← innerLimit? limit
  match written with
  | .object members => (← addMembers? inner {} members).finish?
  | .array items =>
    if items.length ≤ 3 then
      (← addMembers? inner {}
        (["id", "attributes", "relationships"].map some |>.zip items)).finish?
    else none
  | _ => none

end FixtureRecord

namespace Fixture

/-- Reads the records of a type. -/
def recordsOfWritten? (limit : Option Nat) :
    Written → Option (List FixtureRecord)
  | .array items => do
    let inner ← innerLimit? limit
    items.mapM (FixtureRecord.ofWritten? inner)
  | _ => none

/-- Reads a fixture whose containers nest less deep than `limit`. -/
def ofWritten? (limit : Option Nat) : Written → Option Fixture
  | .object members => do
    let inner ← innerLimit? limit
    let types ← members.mapM fun (name?, value) => do
      pure (← name?, ← recordsOfWritten? inner value)
    pure (Dictionary.ofList types)
  | _ => none

/-- Reads a fixture from a text. -/
def read? (text : String) : Option Fixture :=
  (Written.read? text).bind (ofWritten? (some nestingLimit))

/-- Reads a fixture from a JSON value. -/
def ofJson? (value : Json) : Option Fixture :=
  ofWritten? none value.toWritten

end Fixture

end JsonApi

/-!
## Stored records

A stored record has every relationship declared for its type, empty unless the
fixture fills it.  Identifiers are texts; a number in the place of an
identifier stands for its JSON text.
-/

namespace JsonApi

/-- The identifiers that a relationship of a record leads to. -/
inductive StoredLink where
  | one (id : Option String)
  | many (ids : List String)
deriving DecidableEq

/-- The identifiers of a link in order. -/
def StoredLink.ids : StoredLink → List String
  | one id => id.toList
  | many ids => ids

/-- A relationship of a record. -/
structure StoredRelationship where
  target : String
  link : StoredLink
deriving DecidableEq

/-- A record of a store. -/
structure Record where
  resourceType : String
  id : String
  attributes : List (String × Json)
  relationships : List (String × StoredRelationship)

/-- How a fixture contradicts the schema. -/
inductive FixtureFault where
  | undeclaredType (resourceType : String)
  | duplicateRecord (resourceType id : String)
  | nonScalarId (resourceType : String) (held : Json)
  | nonScalarLink (resourceType id relationship : String) (held : Json)
  | wrongCardinality
      (resourceType id relationship : String)
      (toMany : Bool)
      (held : Json)

/-- The message of a fault. -/
def FixtureFault.message : FixtureFault → String
  | undeclaredType resourceType =>
      s!"resource type '{resourceType}' is not declared"
  | duplicateRecord resourceType id => s!"duplicate record {resourceType}/{id}"
  | nonScalarId resourceType held =>
    s!"{resourceType} record has a non-scalar id: {held.compact}"
  | nonScalarLink resourceType id relationship held =>
    s!"{resourceType}/{id} relationship '{relationship}' holds {held.compact}"
  | wrongCardinality resourceType id relationship toMany held =>
    let expected := if toMany then "a list" else "a single identifier"
    s!"{resourceType}/{id} relationship '{relationship}' expects {expected}, got {held.compact}"

/-- Why a store could not be loaded or read. -/
inductive StoreError where
  /-- The fixture file could not be read. -/
  | unreadable (path : String) (fault : FileFault)
  /-- The fixture is no JSON text of the expected shape. -/
  | malformed
  | invalidFixture (fault : FixtureFault)
  | unknownResourceType (resourceType : String)
  | unknownRelationship (resourceType relationship : String)
  /-- The filter could not be compiled. -/
  | compile (error : CompileError)

/-- The message of an error. -/
def StoreError.message : StoreError → String
  | unreadable path fault => s!"failed to read fixture {path}: {fault.message}"
  | malformed => "failed to parse fixture"
  | invalidFixture fault => s!"invalid fixture: {fault.message}"
  | unknownResourceType resourceType =>
      s!"unknown resource type '{resourceType}'"
  | unknownRelationship resourceType relationship =>
    s!"'{relationship}' is not a relationship of '{resourceType}'"
  | compile error => error.message

namespace Record

/-- The identifier that a JSON value stands for. -/
def identifier? : Json → Option String
  | .string id => some id
  | .number number => some (Json.numberText number)
  | _ => none

/-- The value of a field that may be sorted or filtered by. -/
def field? (record : Record) (name : String) : Option Json :=
  if name = idField then some (.string record.id)
  else Dictionary.find? record.attributes name

/-- The empty link of a declared relationship. -/
def emptyLink (declared : Relationship) : StoredRelationship :=
  ⟨declared.target, if declared.toMany then .many [] else .one none⟩

/-- The link that a JSON value stands for. -/
def readLink
    (resourceType id name : String)
    (toMany : Bool)
    (held : Json) :
    Except FixtureFault StoredLink :=
  let identifierOf (item : Json) : Except FixtureFault String :=
    match identifier? item with
    | some linked => .ok linked
    | none => .error (.nonScalarLink resourceType id name item)
  match held, toMany with
  | .null, true => .ok (.many [])
  | .null, false => .ok (.one none)
  | .array items, true => (items.mapM identifierOf).map .many
  | .array _, false =>
      .error (.wrongCardinality resourceType id name toMany held)
  | _, true => .error (.wrongCardinality resourceType id name toMany held)
  | _, false => (identifierOf held).map fun linked => .one (some linked)

/-- Fills one relationship of a record from the fixture. -/
def fillRelationship
    (resourceType id : String)
    (relationships : List (String × StoredRelationship))
    (held : String × Json) :
    Except StoreError (List (String × StoredRelationship)) :=
  match Dictionary.find? relationships held.1 with
  | none => .error (.unknownRelationship resourceType held.1)
  | some declared =>
    let toMany :=
      match declared.link with
      | .many _ => true
      | .one _ => false
    match readLink resourceType id held.1 toMany held.2 with
    | .error fault => .error (.invalidFixture fault)
    | .ok link =>
      .ok (Dictionary.modify held.1 (fun present => ⟨present.target, link⟩)
          relationships)

/-- Loads a record of a declared type. -/
def load
    (schema : Schema)
    (resourceType : String)
    (record : FixtureRecord) :
    Except StoreError Record :=
  match identifier? record.id with
  | none => .error (.invalidFixture (.nonScalarId resourceType record.id))
  | some id => do
    let declared := (schema.relationshipsOf? resourceType).getD []
    let relationships
        ← record.relationships.foldlM (fillRelationship resourceType id)
        (Dictionary.mapValues emptyLink declared)
    pure ⟨resourceType, id, record.attributes, relationships⟩

end Record

end JsonApi
