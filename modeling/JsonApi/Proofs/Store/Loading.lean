import JsonApi.Proofs.Dictionary
import JsonApi.Proofs.Outcome
import JsonApi.Store.Basic
import Mathlib.Data.List.Nodup

/-!
# Loaded stores

A store that was loaded with a schema holds records of declared types only.
Each of them has exactly the relationships declared for its type, with the
declared target and cardinality, and no two records of one type share an
identifier (`sound_of_loadedWith`).  A declared relationship can therefore be
followed from every record, and it leads to records of its target type.
-/

namespace JsonApi

/-- The declaration that a stored relationship follows. -/
def StoredRelationship.declaration (stored : StoredRelationship) :
    Relationship where
  target := stored.target
  toMany :=
    match stored.link with
    | .many _ => true
    | .one _ => false

namespace Record

/-- The relationships are the ones declared for the type. -/
def Follows
    (schema : Schema)
    (resourceType : String)
    (relationships : List (String × StoredRelationship)) : Prop :=
  ∀ name,
    (Dictionary.find? relationships name).map StoredRelationship.declaration =
      schema.relationship? resourceType name

/-- A record of a type has the relationships declared for it. -/
structure Conforms
    (schema : Schema)
    (resourceType : String)
    (record : Record) : Prop where
  typed : record.resourceType = resourceType
  follows : Follows schema resourceType record.relationships

theorem declaration_emptyLink (declared : Relationship) :
    (emptyLink declared).declaration = declared := by
  obtain ⟨target, toMany⟩ := declared
  cases toMany <;> rfl

/-- A link that was read has the declared cardinality. -/
theorem declaration_readLink
    {resourceType id name target : String}
    {toMany : Bool}
    {held : Json}
    {link : StoredLink}
    (read : readLink resourceType id name toMany held = .ok link) :
    (StoredRelationship.mk target link).declaration = ⟨target, toMany⟩ := by
  unfold readLink at read
  split at read
  · cases read
    rfl
  · cases read
    rfl
  · rcases Outcome.map_eq_ok_iff.mp read with ⟨ids, _, equal⟩
    rw [← equal]
    rfl
  · cases read
  · cases read
  · rcases Outcome.map_eq_ok_iff.mp read with ⟨linked, _, equal⟩
    rw [← equal]
    rfl

theorem fillRelationship_eq_ok
    {relationships filled : List (String × StoredRelationship)}
    {resourceType id : String}
    {held : String × Json}
    (succeeded :
      fillRelationship resourceType id relationships held = .ok filled) :
    ∃ stored link, Dictionary.find? relationships held.1 = some stored ∧
      readLink resourceType id held.1 stored.declaration.toMany held.2 =
        .ok link ∧
      filled =
        Dictionary.modify held.1 (fun present => ⟨present.target, link⟩)
          relationships := by
  rw [fillRelationship] at succeeded
  split at succeeded
  · cases succeeded
  · rename_i stored found
    simp only at succeeded
    split at succeeded
    · cases succeeded
    · rename_i link isRead
      cases succeeded
      exact ⟨stored, link, found, isRead, rfl⟩

/-- Filling a relationship changes what it links to and not its declaration. -/
theorem follows_fillRelationship
    {schema : Schema}
    {resourceType id : String}
    {relationships filled : List (String × StoredRelationship)}
    {held : String × Json}
    (follows : Follows schema resourceType relationships)
    (succeeded :
      fillRelationship resourceType id relationships held = .ok filled) :
    Follows schema resourceType filled := by
  rcases fillRelationship_eq_ok succeeded with
    ⟨stored, link, found, isRead, rfl⟩
  intro name
  rw [Dictionary.find?_modify, ← follows name]
  split
  · rename_i same
    subst same
    rw [found]
    simp only [Option.map_some, Option.some.injEq]
    exact declaration_readLink isRead
  · rfl

/-- The links that a record begins with are the declared ones. -/
theorem follows_emptyLinks
    (schema : Schema)
    (resourceType : String) :
    Follows schema resourceType
      (Dictionary.mapValues emptyLink
          ((schema.relationshipsOf? resourceType).getD [])) := by
  intro name
  rw [Dictionary.find?_mapValues, Option.map_map, Schema.relationship?]
  cases schema.relationshipsOf? resourceType with
  | none => rfl
  | some declared => simp [Function.comp_def, declaration_emptyLink]

/-- A loaded record conforms to the schema. -/
theorem conforms_of_load
    {schema : Schema}
    {resourceType : String}
    {fixture : FixtureRecord}
    {record : Record}
    (loaded : load schema resourceType fixture = .ok record) :
    Conforms schema resourceType record := by
  rw [load] at loaded
  split at loaded
  · cases loaded
  · rename_i id _
    simp only at loaded
    rcases Outcome.bind_eq_ok_iff.mp loaded with ⟨relationships, filled, equal⟩
    cases equal
    refine ⟨rfl, ?_⟩
    have kept :
        Outcome (Follows schema resourceType) (fun _ : StoreError => True)
          (fixture.relationships.foldlM (fillRelationship resourceType id)
            (Dictionary.mapValues emptyLink
              ((schema.relationshipsOf? resourceType).getD []))) := by
      apply Outcome.foldlM (fun _ => Follows schema resourceType) _
        (follows_emptyLinks schema resourceType)
      intro _ held relationships _ follows
      cases step : fillRelationship resourceType id relationships held with
      | error error => exact True.intro
      | ok filled => exact follows_fillRelationship follows step
    exact kept.of_ok filled

end Record

namespace Store

/-- The store was loaded from some fixture with the schema. -/
def LoadedWith (store : Store) (schema : Schema) : Prop :=
  ∃ fixture, ofFixture schema fixture = .ok store

/-- What can be relied on in the records of a type. -/
structure SoundRecords
    (schema : Schema)
    (resourceType : String)
    (records : List Record) : Prop where
  conforms : ∀ record ∈ records, Record.Conforms schema resourceType record
  distinct : (records.map Record.id).Nodup

theorem soundRecords_nil
    (schema : Schema)
    (resourceType : String) :
    SoundRecords schema resourceType [] :=
  ⟨by simp, List.nodup_nil⟩

theorem soundRecords_of_loadRecords
    {schema : Schema}
    {resourceType : String}
    {before records : List Record}
    {fixtures : List FixtureRecord}
    (sound : SoundRecords schema resourceType before)
    (loaded : loadRecords schema resourceType before fixtures = .ok records) :
    SoundRecords schema resourceType records := by
  induction fixtures generalizing before with
  | nil =>
      cases loaded
      refine ⟨fun record member =>
        sound.conforms record (List.mem_reverse.mp member), ?_⟩
      rw [List.map_reverse]
      exact List.nodup_reverse.mpr sound.distinct
  | cons fixture fixtures induction =>
      rw [loadRecords] at loaded
      rcases Outcome.bind_eq_ok_iff.mp loaded with ⟨next, nextLoaded, rest⟩
      split at rest
      · cases rest
      · rename_i fresh
        apply induction _ rest
        refine ⟨?_, ?_⟩
        · intro record member
          rcases List.mem_cons.mp member with head | tail
          · subst head
            exact Record.conforms_of_load nextLoaded
          · exact sound.conforms record tail
        · rw [List.map_cons, List.nodup_cons]
          refine ⟨?_, sound.distinct⟩
          intro repeated
          rcases List.mem_map.mp repeated with ⟨earlier, member, sameId⟩
          exact fresh
            (List.any_eq_true.mpr ⟨earlier, member, by simpa using sameId⟩)

/-- What can be relied on in a store that was loaded with a schema. -/
structure Sound (schema : Schema) (store : Store) : Prop where
  /-- There are records of declared types only. -/
  declared :
    ∀ resourceType, Dictionary.contains store.collections resourceType = true →
    schema.hasType resourceType = true
  /-- Every declared type has a collection. -/
  complete : ∀ resourceType, schema.hasType resourceType = true →
    Dictionary.contains store.collections resourceType = true
  records : ∀ resourceType,
    SoundRecords schema resourceType (store.recordsOf resourceType)

theorem key_of_loadType
    {schema : Schema}
    {entry : String × List FixtureRecord}
    {loaded : String × List Record}
    (succeeded : loadType schema entry = .ok loaded) :
    loaded.1 = entry.1 := by
  rw [loadType] at succeeded
  split at succeeded
  · rcases Outcome.map_eq_ok_iff.mp succeeded with ⟨records, _, rfl⟩
    rfl
  · cases succeeded

theorem sound_of_loadType
    {schema : Schema}
    {entry : String × List FixtureRecord}
    {loaded : String × List Record}
    (succeeded : loadType schema entry = .ok loaded) :
    schema.hasType loaded.1 = true ∧ SoundRecords schema loaded.1 loaded.2 := by
  rw [loadType] at succeeded
  split at succeeded
  · rename_i declared
    rcases Outcome.map_eq_ok_iff.mp succeeded with
      ⟨records, recordsLoaded, equal⟩
    subst equal
    exact ⟨declared,
      soundRecords_of_loadRecords (soundRecords_nil schema entry.1)
        recordsLoaded⟩
  · cases succeeded

/-- What was loaded with a schema is sound. -/
theorem sound_of_loadedWith
    {schema : Schema}
    {store : Store}
    (loaded : store.LoadedWith schema) :
    Sound schema store := by
  rcases loaded with ⟨fixture, succeeded⟩
  rw [ofFixture] at succeeded
  rcases Outcome.bind_eq_ok_iff.mp succeeded with
    ⟨collections, typesLoaded, equal⟩
  cases equal
  have source :
      ∀ resourceType records,
        Dictionary.find?
            (Dictionary.union
              (Dictionary.ofList
                (schema.typeNames.map fun resourceType =>
                    (resourceType, ([] : List Record))))
              collections)
            resourceType = some records →
          schema.hasType resourceType = true ∧
            SoundRecords schema resourceType records := by
    intro resourceType records found
    rcases Dictionary.find?_union_cases found with fromFixture | fromSchema
    · rcases Outcome.mem_of_mapM_eq_ok typesLoaded fromFixture with
        ⟨entry, _, entryLoaded⟩
      exact sound_of_loadType entryLoaded
    · have empty : (resourceType, records) ∈
          schema.typeNames.map fun resourceType =>
            (resourceType, ([] : List Record)) := by
        rcases Dictionary.find?_union_cases fromSchema with listed | absurdity
        · exact listed
        · cases absurdity
      rcases List.mem_map.mp empty with ⟨name, member, pair⟩
      cases pair
      refine ⟨?_, soundRecords_nil schema resourceType⟩
      rcases List.mem_map.mp member with
        ⟨⟨key, declared⟩, entryMember, keyEqual⟩
      subst keyEqual
      exact Dictionary.contains_of_mem entryMember
  refine ⟨?_, ?_, ?_⟩
  · intro resourceType present
    rcases Dictionary.find?_of_contains present with ⟨records, found⟩
    exact (source resourceType records found).1
  · intro resourceType declared
    apply Dictionary.contains_union
    rcases Dictionary.find?_of_contains declared with ⟨held, found⟩
    have listed : resourceType ∈ schema.typeNames :=
      List.mem_map.mpr
        ⟨(resourceType, held), Dictionary.mem_of_find? found, rfl⟩
    exact Dictionary.contains_ofList
      (List.mem_map.mpr ⟨resourceType, listed, rfl⟩)
  · intro resourceType
    rw [recordsOf]
    cases found : Dictionary.find? _ resourceType with
    | none => exact soundRecords_nil schema resourceType
    | some records => exact (source resourceType records found).2

/-! ## Following relationships -/

/-- A record that is looked up is one of its type, with the identifier asked
for. -/
theorem mem_of_find?
    {store : Store}
    {resourceType id : String}
    {record : Record}
    (found : store.find? resourceType id = some record) :
    record ∈ store.recordsOf resourceType ∧ record.id = id := by
  refine ⟨List.mem_of_find?_eq_some found, ?_⟩
  simpa using List.find?_some found

/-- Records of one type with the same identifier are the same. -/
theorem Sound.eq_of_id_eq
    {schema : Schema}
    {store : Store}
    (sound : Sound schema store)
    {resourceType : String}
    {first second : Record}
    (firstMember : first ∈ store.recordsOf resourceType)
    (secondMember : second ∈ store.recordsOf resourceType)
    (sameId : first.id = second.id) :
    first = second :=
  List.inj_on_of_nodup_map (sound.records resourceType).distinct
    firstMember secondMember sameId

theorem recordsOf_of_find?
    {store : Store}
    {resourceType : String}
    {records : List Record}
    (found : Dictionary.find? store.collections resourceType = some records) :
    store.recordsOf resourceType = records := by
  rw [recordsOf, found, Option.getD_some]

/-- The type of a record is declared. -/
theorem Sound.hasType_of_mem
    {schema : Schema}
    {store : Store}
    (sound : Sound schema store)
    {resourceType : String}
    {record : Record}
    (member : record ∈ store.recordsOf resourceType) :
    schema.hasType resourceType = true := by
  apply sound.declared
  rw [recordsOf] at member
  cases found : Dictionary.find? store.collections resourceType with
  | none =>
      rw [found] at member
      cases member
  | some records => exact Dictionary.contains_of_find? found

/-- A relationship leads to records of its target type. -/
theorem mem_recordsOf_follow
    {store : Store}
    {relationship : StoredRelationship}
    {record : Record}
    (member : record ∈ (store.follow relationship).objects) :
    record ∈ store.recordsOf relationship.target := by
  obtain ⟨target, link⟩ := relationship
  cases link with
  | one id =>
      rcases Option.mem_toList.mp member |> Option.bind_eq_some_iff.mp with
        ⟨linked, _, found⟩
      exact (mem_of_find? found).1
  | many ids =>
      rcases List.mem_filterMap.mp member with ⟨linked, _, found⟩
      exact (mem_of_find? found).1

/-- A declared relationship is resolved, to records of its target type. -/
theorem resolve_of_declared
    {schema : Schema}
    {store : Store}
    {resourceType name : String}
    {record : Record}
    {declared : Relationship}
    (conforms : Record.Conforms schema resourceType record)
    (isDeclared : schema.relationship? resourceType name = some declared)
    (given : String) :
    ∃ found, store.resolve given record name = .ok found ∧
      ∀ next ∈ found.objects, next ∈ store.recordsOf declared.target := by
  have follows := conforms.follows name
  rw [isDeclared, Option.map_eq_some_iff] at follows
  rcases follows with ⟨stored, found, declaration⟩
  refine ⟨store.follow stored, ?_, ?_⟩
  · simp [resolve, found]
  · intro next member
    rw [← declaration]
    exact mem_recordsOf_follow member

/-- A relationship that is declared to lead to one record does not lead to a
list. -/
theorem toOne_of_resolve
    {schema : Schema}
    {store : Store}
    {resourceType name given : String}
    {record : Record}
    {found : Related Record}
    {declared : Relationship}
    (conforms : Record.Conforms schema resourceType record)
    (isDeclared : schema.relationship? resourceType name = some declared)
    (resolved : store.resolve given record name = .ok found)
    (single : declared.toMany = false) :
    ∃ object, found = .toOne object := by
  have follows := conforms.follows name
  rw [isDeclared, Option.map_eq_some_iff] at follows
  rcases follows with ⟨⟨target, link⟩, isStored, declaration⟩
  rw [resolve, isStored] at resolved
  cases resolved
  cases link with
  | one id => exact ⟨_, rfl⟩
  | many ids =>
      rw [← declaration] at single
      cases single

/-- A relationship that is resolved is declared. -/
theorem declared_of_resolve
    {schema : Schema}
    {store : Store}
    {resourceType name given : String}
    {record : Record}
    {found : Related Record}
    (conforms : Record.Conforms schema resourceType record)
    (resolved : store.resolve given record name = .ok found) :
    ∃ declared, schema.relationship? resourceType name = some declared := by
  rw [resolve] at resolved
  split at resolved
  · rename_i stored isStored
    refine ⟨stored.declaration, ?_⟩
    rw [← conforms.follows name, isStored]
    rfl
  · cases resolved

end Store

end JsonApi
