import JsonApi.Proofs.Store.FixtureOrder
import JsonApi.Proofs.Store.Loading
import JsonApi.Store.Basic

/-!
# What a store holds of its fixture

Every record of a loaded store is that of one fixture record, in the same place:
it has its identifier and its attributes, and of each declared relationship it
has the identifiers that the fixture record gives, in their order.
-/

namespace JsonApi

/-! ## Relationships -/

namespace Record

/-- The values that stand for the records on the other end of a relationship. -/
def heldValues : Option Json → List Json
  | none => []
  | some .null => []
  | some (.array items) => items
  | some value => [value]

/-- A relationship that is stored as declared, with the identifiers of the held
values. -/
structure Holds
    (declared : Relationship)
    (held : Option Json)
    (stored : StoredRelationship) : Prop where
  declaration : stored.declaration = declared
  identifiers : (heldValues held).map identifier? = stored.link.ids.map some

theorem holds_emptyLink (declared : Relationship) :
    Holds declared none (emptyLink declared) where
  declaration := declaration_emptyLink declared
  identifiers := by
    obtain ⟨target, toMany⟩ := declared
    cases toMany <;> rfl

variable {resourceType id name : String}

theorem map_identifier?_of_mapM
    {items : List Json}
    {ids : List String}
    {step : Json → Except FixtureFault String}
    (identifies : ∀ item linked, step item = .ok linked →
      identifier? item = some linked)
    (isRead : items.mapM step = .ok ids) :
    items.map identifier? = ids.map some := by
  induction items generalizing ids with
  | nil =>
      cases isRead
      rfl
  | cons item items induction =>
      rw [List.mapM_cons] at isRead
      rcases Outcome.bind_eq_ok_iff.mp isRead with ⟨linked, isLinked, isRest⟩
      rcases Outcome.bind_eq_ok_iff.mp isRest with ⟨others, areLinked, same⟩
      cases same
      rw [List.map_cons, List.map_cons, identifies item linked isLinked,
        induction areLinked]

/-- A link that was read has the identifiers of the values that it was read
from. -/
theorem holds_of_readLink
    {declared : Relationship}
    {held : Json}
    {link : StoredLink}
    (isRead : readLink resourceType id name declared.toMany held = .ok link) :
    Holds declared (some held) ⟨declared.target, link⟩ where
  declaration := declaration_readLink isRead
  identifiers := by
    rw [readLink.eq_def] at isRead
    dsimp only at isRead
    split at isRead
    · cases isRead
      rfl
    · cases isRead
      rfl
    · rcases Outcome.map_eq_ok_iff.mp isRead with ⟨ids, areRead, rfl⟩
      refine map_identifier?_of_mapM (fun item linked isLinked => ?_) areRead
      split at isLinked
      · rename_i found
        cases isLinked
        exact found
      · cases isLinked
    · cases isRead
    · cases isRead
    · rename_i scalar _ _ _ _ _
      rcases Outcome.map_eq_ok_iff.mp isRead with ⟨linked, isLinked, rfl⟩
      cases scalar with
      | string | number =>
          cases isLinked
          rfl
      | null | bool | array | object => cases isLinked

/-! ## Records -/

/-- A relationship before and after the values of a record were filled in. -/
def Filled
    (resourceType id name : String)
    (held : Option Json)
    (before after : StoredRelationship) : Prop :=
  match held with
  | none => after = before
  | some held => ∃ link,
    readLink resourceType id name before.declaration.toMany held = .ok link ∧
      after = ⟨before.target, link⟩

/-- Every relationship is filled with the value that is held for it, and the
others are left as they are. -/
theorem filled_of_foldlM
    {relationships filled : List (String × StoredRelationship)}
    {held : List (String × Json)}
    (distinct : (Dictionary.keys held).Nodup)
    (succeeded :
      held.foldlM (fillRelationship resourceType id) relationships =
        .ok filled) :
    Dictionary.keys filled = Dictionary.keys relationships ∧
      ∀ name before, Dictionary.find? relationships name = some before →
        ∃ after, Dictionary.find? filled name = some after ∧
          Filled resourceType id name (Dictionary.find? held name) before
            after := by
  induction held generalizing relationships with
  | nil =>
      cases succeeded
      exact ⟨rfl, fun name before found => ⟨before, found, rfl⟩⟩
  | cons first held induction =>
      obtain ⟨filledName, value⟩ := first
      rcases List.nodup_cons.mp distinct with ⟨notRepeated, restDistinct⟩
      rw [List.foldlM_cons] at succeeded
      rcases Outcome.bind_eq_ok_iff.mp succeeded with ⟨next, isNext, isRest⟩
      rcases fillRelationship_eq_ok isNext with
        ⟨stored, link, isStored, isRead, rfl⟩
      rcases induction restDistinct isRest with ⟨sameKeys, later⟩
      refine ⟨sameKeys.trans (Dictionary.keys_modify _ _ _), ?_⟩
      intro name before found
      by_cases same : name = filledName
      · subst same
        cases isStored.symm.trans found
        have changed : Dictionary.find? (Dictionary.modify name
            (fun present => ⟨present.target, link⟩) relationships) name =
              some ⟨stored.target, link⟩ := by
          rw [Dictionary.find?_modify, if_pos rfl, found, Option.map_some]
        rcases later name _ changed with ⟨after, isAfter, isFilled⟩
        rw [Dictionary.find?_eq_none notRepeated] at isFilled
        refine ⟨after, isAfter, ?_⟩
        rw [Dictionary.find?_cons, if_pos rfl]
        exact ⟨link, isRead, isFilled⟩
      · have unchanged : Dictionary.find? (Dictionary.modify filledName
            (fun present => ⟨present.target, link⟩) relationships) name =
              some before := by
          rw [Dictionary.find?_modify, if_neg same, found]
        rw [Dictionary.find?_cons, if_neg same]
        exact later name before unchanged

/-- A record of a store with the fixture record that it was loaded from. -/
structure LoadedFrom
    (schema : Schema)
    (resourceType : String)
    (source : FixtureRecord)
    (record : Record) : Prop where
  typed : record.resourceType = resourceType
  identified : identifier? source.id = some record.id
  attributes : record.attributes = source.attributes
  names : Dictionary.keys record.relationships =
    Dictionary.keys ((schema.relationshipsOf? resourceType).getD [])
  holds : ∀ name declared,
    schema.relationship? resourceType name = some declared →
    ∃ stored, Dictionary.find? record.relationships name = some stored ∧
      Holds declared (Dictionary.find? source.relationships name) stored

theorem loadedFrom_of_load
    {schema : Schema}
    {source : FixtureRecord}
    {record : Record}
    (ascending : Dictionary.Ascending source.relationships)
    (loaded : load schema resourceType source = .ok record) :
    LoadedFrom schema resourceType source record := by
  rw [load] at loaded
  split at loaded
  · cases loaded
  · rename_i id identified
    simp only at loaded
    rcases Outcome.bind_eq_ok_iff.mp loaded with ⟨relationships, isFilled, same⟩
    cases same
    rcases filled_of_foldlM ascending.nodup_keys isFilled with
      ⟨sameKeys, filled⟩
    refine ⟨rfl, identified, rfl,
      sameKeys.trans (Dictionary.keys_mapValues _ _), ?_⟩
    intro name declared isDeclared
    have isEmpty : Dictionary.find? (Dictionary.mapValues emptyLink
        ((schema.relationshipsOf? resourceType).getD [])) name =
          some (emptyLink declared) := by
      rw [Dictionary.find?_mapValues]
      rcases Option.bind_eq_some_iff.mp isDeclared with
        ⟨declarations, areDeclared, found⟩
      rw [areDeclared, Option.getD_some, found, Option.map_some]
    rcases filled name _ isEmpty with ⟨stored, isStored, isFilled⟩
    refine ⟨stored, isStored, ?_⟩
    cases isHeld : Dictionary.find? source.relationships name with
    | none =>
        rw [isHeld] at isFilled
        rw [show stored = emptyLink declared from isFilled]
        exact holds_emptyLink declared
    | some held =>
        rw [isHeld] at isFilled
        rcases isFilled with ⟨link, isRead, rfl⟩
        rw [declaration_emptyLink] at isRead
        exact holds_of_readLink isRead

end Record

/-! ## Stores -/

namespace Store

variable {schema : Schema} {resourceType : String}

theorem forall₂_of_loadRecords
    {before records : List Record}
    {sources : List FixtureRecord}
    (ascending : ∀ source ∈ sources, Dictionary.Ascending source.relationships)
    (loaded : loadRecords schema resourceType before sources = .ok records) :
    ∃ later, records = before.reverse ++ later ∧
      List.Forall₂ (Record.LoadedFrom schema resourceType) sources later := by
  induction sources generalizing before with
  | nil =>
      cases loaded
      exact ⟨[], (List.append_nil _).symm, .nil⟩
  | cons source sources induction =>
      rw [loadRecords] at loaded
      rcases Outcome.bind_eq_ok_iff.mp loaded with ⟨next, isNext, isRest⟩
      split at isRest
      · cases isRest
      · rcases List.forall_mem_cons.mp ascending with ⟨first, others⟩
        rcases induction others isRest with ⟨later, rfl, each⟩
        exact ⟨next :: later,
          by simp, .cons (Record.loadedFrom_of_load first isNext) each⟩

theorem find?_of_ofFixture
    {fixture : Fixture}
    {store : Store}
    (distinct : (Dictionary.keys fixture).Nodup)
    (loaded : ofFixture schema fixture = .ok store) :
    ∃ collections, fixture.mapM (loadType schema) = .ok collections ∧
      ∀ resourceType, Dictionary.find? store.collections resourceType =
        (Dictionary.find? collections resourceType).or
          (if resourceType ∈ schema.typeNames then some [] else none) := by
  rw [ofFixture] at loaded
  rcases Outcome.bind_eq_ok_iff.mp loaded with ⟨collections, typesLoaded, same⟩
  have sameKeys : Dictionary.keys collections = Dictionary.keys fixture :=
    Dictionary.keys_of_mapM (fun _ _ => key_of_loadType) typesLoaded
  cases same
  refine ⟨collections, typesLoaded, fun resourceType => ?_⟩
  rw [Dictionary.find?_union (sameKeys ▸ distinct), Dictionary.find?_ofList_map]

theorem ascending_of_ofFixture
    {fixture : Fixture}
    {store : Store}
    (loaded : ofFixture schema fixture = .ok store) :
    Dictionary.Ascending store.collections := by
  rw [ofFixture] at loaded
  rcases Outcome.bind_eq_ok_iff.mp loaded with ⟨collections, _, same⟩
  cases same
  exact (Dictionary.ascending_ofList _).union collections

/-- The records of a type are those of the fixture, in the same places. -/
theorem forall₂_recordsOf
    {fixture : Fixture}
    {store : Store}
    (ordered : fixture.Ordered)
    (loaded : ofFixture schema fixture = .ok store)
    (resourceType : String) :
    List.Forall₂ (Record.LoadedFrom schema resourceType)
      ((Dictionary.find? fixture resourceType).getD [])
        (store.recordsOf resourceType) := by
  rcases find?_of_ofFixture ordered.types.nodup_keys loaded with
    ⟨collections, typesLoaded, isFound⟩
  rw [recordsOf, isFound]
  cases given : Dictionary.find? fixture resourceType with
  | none =>
      have notLoaded : Dictionary.find? collections resourceType = none := by
        cases found : Dictionary.find? collections resourceType with
        | none => rfl
        | some records =>
            rcases (Dictionary.find?_of_mapM (fun _ _ => key_of_loadType)
                typesLoaded).mp found with ⟨sources, areGiven, _⟩
            cases given.symm.trans areGiven
      rw [notLoaded, Option.none_or]
      split <;> exact .nil
  | some sources =>
      have member := Dictionary.mem_of_find? given
      rcases Outcome.exists_of_mapM_eq_ok typesLoaded member with
        ⟨⟨key, records⟩, typeLoaded⟩
      cases key_of_loadType typeLoaded
      rw [(Dictionary.find?_of_mapM (fun _ _ => key_of_loadType)
          typesLoaded).mpr ⟨sources, given, typeLoaded⟩]
      rw [loadType] at typeLoaded
      split at typeLoaded
      · rcases Outcome.map_eq_ok_iff.mp typeLoaded with ⟨_, recordsLoaded, same⟩
        cases same
        rcases forall₂_of_loadRecords (ordered.relationships _ member)
          recordsLoaded with
          ⟨later, rfl, each⟩
        exact each
      · cases typeLoaded

end Store

end JsonApi
