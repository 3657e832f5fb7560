import JsonApi.Proofs.Store.Collection
import JsonApi.Proofs.Store.Index

/-!
# Fixtures that fit a schema

`Fixture.Fits` says, without loading anything, that a fixture agrees with a
schema: its types are declared, its identifiers are texts or numbers and are
not repeated within a type, and its relationships are declared and hold what
their cardinality allows.  `Fixture.FirstOffence` says of an error that it is
about the first type, in the order of their names, and there about the first
record that does not fit.  Loading succeeds on the fixtures that fit, and on
all others it fails with that error (`IndexedStore.loads_iff_fits`).
-/

namespace JsonApi

/-! ## What fits -/

/-- The values that may stand for an identifier. -/
inductive Json.IsIdentifier : Json → Prop where
  | string (text : String) : IsIdentifier (.string text)
  | number (number : Number) : IsIdentifier (.number number)

/-- The values that a fixture may give for a relationship. -/
inductive Relationship.Admits (declared : Relationship) : Json → Prop where
  | null : Admits declared .null
  | identifiers
      {items : List Json}
      (toMany : declared.toMany = true)
      (each : ∀ item ∈ items, item.IsIdentifier) :
      Admits declared (.array items)
  | identifier
      {value : Json}
      (toOne : declared.toMany = false)
      (single : value.IsIdentifier) :
      Admits declared value

/-- A value of a record is one of a declared relationship and admitted by it. -/
def Schema.Admits
    (schema : Schema)
    (resourceType : String)
    (held : String × Json) : Prop :=
  ∃ declared, schema.relationship? resourceType held.1 = some declared ∧
    declared.Admits held.2

/-- A record that can be loaded as one of a type. -/
structure FixtureRecord.Fits
    (schema : Schema)
    (resourceType : String)
    (record : FixtureRecord) : Prop where
  identified : record.id.IsIdentifier
  related : ∀ held ∈ record.relationships, schema.Admits resourceType held

namespace Fixture

/-- The identifier of a record as it is printed. -/
def printedId (record : FixtureRecord) : Option String :=
  Record.identifier? record.id

/-- Records that can be loaded together. -/
structure RecordsFit
    (schema : Schema)
    (resourceType : String)
    (records : List FixtureRecord) : Prop where
  each : ∀ record ∈ records, record.Fits schema resourceType
  distinct : (records.map printedId).Nodup

/-- A type of a fixture with its records. -/
structure EntryFits
    (schema : Schema)
    (entry : String × List FixtureRecord) : Prop where
  declared : schema.hasType entry.1 = true
  records : RecordsFit schema entry.1 entry.2

/-- A fixture that agrees with a schema. -/
def Fits (schema : Schema) (fixture : Fixture) : Prop :=
  ∀ entry ∈ fixture, EntryFits schema entry

end Fixture

/-! ## What is wrong where something does not fit -/

/-- What is wrong with a value that a relationship does not admit. -/
inductive Relationship.Misfit
    (declared : Relationship)
    (resourceType id name : String) :
    Json → FixtureFault → Prop where
  /-- The first item that is no identifier. -/
  | items
      {items : List Json}
      {fault : FixtureFault}
      (toMany : declared.toMany = true)
      (first :
        FirstFault (fun earlier => ∀ item ∈ earlier, Json.IsIdentifier item)
        (fun _ item fault =>
          ¬item.IsIdentifier ∧
            fault = .nonScalarLink resourceType id name item) items fault) :
      Misfit declared resourceType id name (.array items) fault
  /-- Several identifiers where one is expected. -/
  | several
      {items : List Json}
      (toOne : declared.toMany = false) :
      Misfit declared resourceType id name (.array items)
        (.wrongCardinality resourceType id name false (.array items))
  /-- Something else where a list is expected. -/
  | single
      {value : Json}
      (toMany : declared.toMany = true)
      (notNull : value ≠ .null)
      (noList : ∀ items, value ≠ .array items) :
      Misfit declared resourceType id name value
        (.wrongCardinality resourceType id name true value)
  /-- Something else where an identifier is expected. -/
  | value
      {value : Json}
      (toOne : declared.toMany = false)
      (notNull : value ≠ .null)
      (noList : ∀ items, value ≠ .array items)
      (notIdentifier : ¬value.IsIdentifier) :
      Misfit declared resourceType id name value
        (.nonScalarLink resourceType id name value)

/-- What is wrong with a value of a record that the schema does not admit. -/
inductive Schema.Misfit
    (schema : Schema)
    (resourceType id : String) :
    String × Json → StoreError → Prop where
  | undeclared
      {name : String}
      {value : Json}
      (undeclared : schema.relationship? resourceType name = none) :
      Misfit schema resourceType id (name, value)
        (.unknownRelationship resourceType name)
  | value
      {name : String}
      {value : Json}
      {declared : Relationship}
      {fault : FixtureFault}
      (isDeclared : schema.relationship? resourceType name = some declared)
      (misfit : declared.Misfit resourceType id name value fault) :
      Misfit schema resourceType id (name, value) (.invalidFixture fault)

/-- What is wrong with a record that does not fit by itself. -/
inductive FixtureRecord.Misfit
    (schema : Schema)
    (resourceType : String)
    (record : FixtureRecord) : StoreError → Prop where
  | unidentified (notIdentifier : ¬record.id.IsIdentifier) :
      Misfit schema resourceType record
        (.invalidFixture (.nonScalarId resourceType record.id))
  /-- The first relationship that is not admitted. -/
  | related
      {id : String}
      {error : StoreError}
      (printed : Fixture.printedId record = some id)
      (first : FirstFault
          (fun earlier => ∀ held ∈ earlier, schema.Admits resourceType held)
          (fun _ => schema.Misfit resourceType id) record.relationships error) :
      Misfit schema resourceType record error

namespace Fixture

/-- What is wrong with a record that does not fit behind earlier ones. -/
inductive RecordMisfit
    (schema : Schema)
    (resourceType : String)
    (earlier : List FixtureRecord)
    (record : FixtureRecord) : StoreError → Prop where
  | alone
      {error : StoreError}
      (misfit : record.Misfit schema resourceType error) :
      RecordMisfit schema resourceType earlier record error
  /-- A record that fits by itself and has the printed identifier of an earlier
  one. -/
  | repeated
      {id : String}
      (fits : record.Fits schema resourceType)
      (printed : printedId record = some id)
      (given : ∃ other ∈ earlier, printedId other = some id) :
      RecordMisfit schema resourceType earlier record
        (.invalidFixture (.duplicateRecord resourceType id))

/-- What is wrong with a type that does not fit: it is not declared, or its
first record that does not fit. -/
inductive EntryMisfit
    (schema : Schema)
    (entry : String × List FixtureRecord) :
    StoreError → Prop where
  | undeclared (undeclared : schema.hasType entry.1 = false) :
      EntryMisfit schema entry (.invalidFixture (.undeclaredType entry.1))
  | record
      {error : StoreError}
      (declared : schema.hasType entry.1 = true)
      (first : FirstFault (RecordsFit schema entry.1)
          (RecordMisfit schema entry.1) entry.2 error) :
      EntryMisfit schema entry error

/-- What is wrong with the type that comes first, by its name, among those that
do not fit. -/
def FirstOffence
    (schema : Schema)
    (fixture : Fixture)
    (error : StoreError) : Prop :=
  ∃ entry ∈ fixture,
    (∀ other ∈ fixture, other.1 < entry.1 → EntryFits schema other) ∧
    EntryMisfit schema entry error

end Fixture

/-! ## What does not fit has one fault -/

namespace Record

theorem identifier?_eq_none_iff {value : Json} :
    identifier? value = none ↔ ¬value.IsIdentifier := by
  cases value with
  | string text =>
      exact iff_of_false (fun absent => nomatch absent)
        (not_not_intro (.string text))
  | number number =>
      exact iff_of_false (fun absent => nomatch absent)
        (not_not_intro (.number number))
  | null | bool | array | object =>
      exact iff_of_true rfl fun isIdentifier => nomatch isIdentifier

theorem isIdentifier_of_identifier?
    {value : Json}
    {printed : String}
    (found : identifier? value = some printed) :
    value.IsIdentifier := by
  by_contra notIdentifier
  rw [identifier?_eq_none_iff.mpr notIdentifier] at found
  cases found

end Record

namespace Relationship.Misfit

variable {declared : Relationship} {resourceType id name : String}
  {value : Json} {fault other : FixtureFault}

theorem not_admits (misfit : declared.Misfit resourceType id name value fault) :
    ¬declared.Admits value := by
  intro admits
  cases misfit with
  | items toMany first =>
      cases admits with
      | identifiers _ each =>
          exact first.not_sound
            (fun _ item _ _ isFault sound => isFault.1 (sound item (by simp)))
              each
      | identifier toOne _ => exact absurd toMany (by simp [toOne])
  | several toOne =>
      cases admits with
      | identifiers toMany _ => exact absurd toMany (by simp [toOne])
      | identifier _ single => cases single
  | single toMany notNull noList =>
      cases admits with
      | null => exact notNull rfl
      | identifiers _ _ => exact noList _ rfl
      | identifier toOne _ => exact absurd toMany (by simp [toOne])
  | value toOne notNull noList notIdentifier =>
      cases admits with
      | null => exact notNull rfl
      | identifiers _ _ => exact noList _ rfl
      | identifier _ single => exact notIdentifier single

theorem unique
    (misfit : declared.Misfit resourceType id name value fault)
    (another : declared.Misfit resourceType id name value other) :
    fault = other := by
  cases misfit with
  | items toMany first =>
      cases another with
      | items _ second =>
          exact first.unique
            (fun _ item _ _ isFault sound => isFault.1 (sound item (by simp)))
            (fun _ _ _ _ isFault isOther => isFault.2.trans isOther.2.symm)
              second
      | several toOne => exact absurd toMany (by simp [toOne])
      | single _ _ noList => exact absurd rfl (noList _)
      | value _ _ noList _ => exact absurd rfl (noList _)
  | several toOne =>
      cases another with
      | items toMany _ => exact absurd toMany (by simp [toOne])
      | several _ => rfl
      | single _ _ noList => exact absurd rfl (noList _)
      | value _ _ noList _ => exact absurd rfl (noList _)
  | single toMany _ noList =>
      cases another with
      | items _ _ => exact absurd rfl (noList _)
      | several _ => exact absurd rfl (noList _)
      | single _ _ _ => rfl
      | value toOne _ _ _ => exact absurd toMany (by simp [toOne])
  | value toOne _ noList _ =>
      cases another with
      | items _ _ => exact absurd rfl (noList _)
      | several _ => exact absurd rfl (noList _)
      | single toMany _ _ => exact absurd toMany (by simp [toOne])
      | value _ _ _ _ => rfl

end Relationship.Misfit

variable {schema : Schema} {resourceType id : String} {error other : StoreError}

namespace Schema.Misfit

variable {held : String × Json}

theorem not_admits (misfit : schema.Misfit resourceType id held error) :
    ¬schema.Admits resourceType held := by
  rintro ⟨declared, isDeclared, admits⟩
  cases misfit with
  | undeclared undeclared => cases undeclared.symm.trans isDeclared
  | value declaredAs misfit =>
      cases declaredAs.symm.trans isDeclared
      exact misfit.not_admits admits

theorem unique
    (misfit : schema.Misfit resourceType id held error)
    (another : schema.Misfit resourceType id held other) :
    error = other := by
  cases misfit with
  | undeclared undeclared =>
      cases another with
      | undeclared _ => rfl
      | value isDeclared _ => cases undeclared.symm.trans isDeclared
  | value isDeclared misfit =>
      cases another with
      | undeclared undeclared => cases undeclared.symm.trans isDeclared
      | value declaredAs another =>
          cases declaredAs.symm.trans isDeclared
          rw [misfit.unique another]

theorem exclusive
    (earlier : List (String × Json))
    (held : String × Json)
    (later : List (String × Json))
    (error : StoreError)
    (misfit : schema.Misfit resourceType id held error) :
    ¬∀ other ∈ earlier ++ held :: later, schema.Admits resourceType other :=
  fun sound => misfit.not_admits (sound held (by simp))

end Schema.Misfit

namespace FixtureRecord.Misfit

variable {record : FixtureRecord}

theorem not_fits (misfit : record.Misfit schema resourceType error) :
    ¬record.Fits schema resourceType := by
  intro fits
  cases misfit with
  | unidentified notIdentifier => exact notIdentifier fits.identified
  | related _ first =>
      exact first.not_sound Schema.Misfit.exclusive fits.related

theorem unique
    (misfit : record.Misfit schema resourceType error)
    (another : record.Misfit schema resourceType other) :
    error = other := by
  cases misfit with
  | unidentified notIdentifier =>
      cases another with
      | unidentified _ => rfl
      | related printed _ =>
          exact absurd (Record.isIdentifier_of_identifier? printed)
            notIdentifier
  | related printed first =>
      cases another with
      | unidentified notIdentifier =>
          exact absurd (Record.isIdentifier_of_identifier? printed)
            notIdentifier
      | related alsoPrinted second =>
          cases printed.symm.trans alsoPrinted
          exact first.unique Schema.Misfit.exclusive
            (fun _ _ _ _ misfit another => misfit.unique another) second

end FixtureRecord.Misfit

namespace Fixture

theorem RecordMisfit.exclusive
    (earlier : List FixtureRecord)
    (record : FixtureRecord)
    (later : List FixtureRecord)
    (error : StoreError)
    (misfit : RecordMisfit schema resourceType earlier record error) :
    ¬RecordsFit schema resourceType (earlier ++ record :: later) := by
  intro fit
  cases misfit with
  | alone misfit => exact misfit.not_fits (fit.each record (by simp))
  | repeated _ printed given =>
      rcases given with ⟨other, member, sameId⟩
      have distinct := fit.distinct
      rw [List.map_append, List.nodup_append] at distinct
      exact distinct.2.2 _ (List.mem_map_of_mem member) _ List.mem_cons_self
        (sameId.trans printed.symm)

theorem RecordMisfit.unique
    (earlier : List FixtureRecord)
    (record : FixtureRecord)
    (error other : StoreError)
    (misfit : RecordMisfit schema resourceType earlier record error)
    (another : RecordMisfit schema resourceType earlier record other) :
    error = other := by
  cases misfit with
  | alone misfit =>
      cases another with
      | alone another => exact misfit.unique another
      | repeated fits _ _ => exact absurd fits misfit.not_fits
  | repeated fits printed _ =>
      cases another with
      | alone another => exact absurd fits another.not_fits
      | repeated _ alsoPrinted _ =>
          cases printed.symm.trans alsoPrinted
          rfl

variable {entry : String × List FixtureRecord} {fixture : Fixture}

theorem EntryMisfit.not_fits (misfit : EntryMisfit schema entry error) :
    ¬EntryFits schema entry := by
  intro fits
  cases misfit with
  | undeclared undeclared => exact absurd fits.declared (by simp [undeclared])
  | record _ first => exact first.not_sound RecordMisfit.exclusive fits.records

theorem EntryMisfit.unique
    (misfit : EntryMisfit schema entry error)
    (another : EntryMisfit schema entry other) :
    error = other := by
  cases misfit with
  | undeclared undeclared =>
      cases another with
      | undeclared _ => rfl
      | record declared _ => exact absurd declared (by simp [undeclared])
  | record declared first =>
      cases another with
      | undeclared undeclared => exact absurd declared (by simp [undeclared])
      | record _ second =>
          exact first.unique RecordMisfit.exclusive RecordMisfit.unique second

theorem FirstOffence.not_fits (first : fixture.FirstOffence schema error) :
    ¬fixture.Fits schema := by
  rcases first with ⟨entry, member, _, misfit⟩
  exact fun fits => misfit.not_fits (fits entry member)

/-- Types that ascend are gone through in the order of their names. -/
theorem firstOffence_of_firstFault
    (ascending : Dictionary.Ascending fixture)
    (first :
      FirstFault (Fits schema) (fun _ => EntryMisfit schema) fixture error) :
    fixture.FirstOffence schema error := by
  rcases first with ⟨earlier, entry, later, rfl, fit, misfit⟩
  rcases List.pairwise_append.mp ascending with ⟨_, rest, _⟩
  refine ⟨entry, by simp, ?_, misfit⟩
  intro other member before
  rcases List.mem_append.mp member with isEarlier | isRest
  · exact fit other isEarlier
  · rcases List.mem_cons.mp isRest with isEntry | isLater
    · exact absurd before (isEntry ▸ lt_irrefl _)
    · exact absurd before
        (lt_asymm ((List.pairwise_cons.mp rest).1 other isLater))

theorem FirstOffence.unique
    (ascending : Dictionary.Ascending fixture)
    (first : fixture.FirstOffence schema error)
    (second : fixture.FirstOffence schema other) :
    error = other := by
  rcases first with ⟨entry, member, fit, misfit⟩
  rcases second with ⟨otherEntry, otherMember, otherFit, another⟩
  rcases lt_trichotomy entry.1 otherEntry.1 with before | same | after
  · exact absurd (otherFit entry member before) misfit.not_fits
  · have sameRecords : Dictionary.find? fixture entry.1 = some entry.2 :=
      ascending.find?_of_mem member
    have found : Dictionary.find? fixture otherEntry.1 = some otherEntry.2 :=
      ascending.find?_of_mem otherMember
    rw [← same, sameRecords] at found
    have sameEntry : entry = otherEntry := Prod.ext same (Option.some.inj found)
    rw [← sameEntry] at another
    exact misfit.unique another
  · exact absurd (fit otherEntry otherMember after) another.not_fits

end Fixture

/-! ## Links -/

namespace Record

variable {resourceType id name : String}

/-- Where an identifier is expected, anything else is at fault. -/
theorem identifierOf_outcome
    (resourceType id name : String)
    (item : Json) :
    Outcome (fun _ => item.IsIdentifier)
      (fun fault : FixtureFault =>
        ¬item.IsIdentifier ∧ fault = .nonScalarLink resourceType id name item)
      (match identifier? item with
        | some linked => .ok linked
        | none => .error (.nonScalarLink resourceType id name item)) := by
  cases found : identifier? item with
  | some linked => exact isIdentifier_of_identifier? found
  | none => exact ⟨identifier?_eq_none_iff.mp found, rfl⟩

/-- A value is read as a link, or something is wrong with it. -/
theorem readLink_outcome
    (declared : Relationship)
    (held : Json) :
    Outcome (fun _ => declared.Admits held)
      (declared.Misfit resourceType id name held)
      (readLink resourceType id name declared.toMany held) := by
  cases toMany : declared.toMany with
  | true =>
      cases held with
      | null => exact .null
      | array items =>
          rw [readLink]
          have read := Outcome.mapM_firstFault fun item (_ : item ∈ items) =>
            identifierOf_outcome resourceType id name item
          exact read.map_imp (fun _ each => .identifiers toMany each)
            fun _ first => .items toMany first
      | string | number | bool | object =>
          exact .single toMany (fun isNull => nomatch isNull)
            (fun _ isList => nomatch isList)
  | false =>
      cases held with
      | null => exact .null
      | array items => exact .several toMany
      | string text => exact .identifier toMany (.string text)
      | number number => exact .identifier toMany (.number number)
      | bool | object =>
          exact .value toMany (fun isNull => nomatch isNull) (fun _ isList =>
              nomatch isList) (fun isIdentifier => nomatch isIdentifier)

/-- A declared relationship is filled with a value that it admits, and nothing
else. -/
theorem fillRelationship_outcome
    {schema : Schema}
    {relationships : List (String × StoredRelationship)}
    (follows : Follows schema resourceType relationships)
    (held : String × Json) :
    Outcome (fun filled => Follows schema resourceType filled ∧
        schema.Admits resourceType held) (schema.Misfit resourceType id held)
      (fillRelationship resourceType id relationships held) := by
  have declaration := follows held.1
  cases filled : fillRelationship resourceType id relationships held with
  | ok next =>
      rcases fillRelationship_eq_ok filled with ⟨stored, link, found, isRead, _⟩
      rw [found] at declaration
      exact ⟨follows_fillRelationship follows filled,
        stored.declaration, declaration.symm,
        (readLink_outcome stored.declaration held.2).of_ok isRead⟩
  | error error =>
      rw [fillRelationship] at filled
      split at filled
      · rename_i absent
        cases filled
        rw [absent] at declaration
        exact .undeclared declaration.symm
      · rename_i stored found
        rw [found] at declaration
        have read : Outcome _ _
            (readLink resourceType id held.1 stored.declaration.toMany
                held.2) :=
          readLink_outcome stored.declaration held.2
        dsimp only at filled
        split at filled
        · rename_i fault refused
          cases filled
          have misfit : stored.declaration.Misfit resourceType id held.1 held.2
              fault := by
            have same : readLink resourceType id held.1
                stored.declaration.toMany held.2 =
              .error fault := refused
            rw [same] at read
            exact read
          exact .value declaration.symm misfit
        · cases filled

/-! ## Records -/

/-- A record is loaded if it fits, or something is wrong with it. -/
theorem load_outcome
    (schema : Schema)
    (resourceType : String)
    (source : FixtureRecord) :
    Outcome
      (fun record => Fixture.printedId source = some record.id ∧
          source.Fits schema resourceType)
      (source.Misfit schema resourceType)
        (load schema resourceType source) := by
  rw [load]
  cases printed : identifier? source.id with
  | none => exact .unidentified (identifier?_eq_none_iff.mp printed)
  | some id =>
      dsimp only
      have filled : Outcome
          (fun relationships => Follows schema resourceType relationships ∧
            ∀ held ∈ source.relationships, schema.Admits resourceType held)
          (FirstFault
              (fun earlier => ∀ held ∈ earlier, schema.Admits resourceType held)
              (fun _ => schema.Misfit resourceType id) source.relationships)
          (source.relationships.foldlM (fillRelationship resourceType id)
            (Dictionary.mapValues emptyLink
              ((schema.relationshipsOf? resourceType).getD []))) := by
        refine Outcome.foldlM_firstFault
          (fun earlier relationships =>
              Follows schema resourceType relationships ∧
            ∀ held ∈ earlier,
              schema.Admits resourceType held) ?_ (fun _ _ held => held.2)
          ⟨follows_emptyLinks schema resourceType, List.forall_mem_nil _⟩
        rintro earlier held later relationships _ ⟨follows, admitted⟩
        refine (fillRelationship_outcome follows held).imp ?_ fun _ misfit =>
          misfit
        rintro next ⟨kept, admits⟩
        exact ⟨kept, List.forall_mem_append.mpr
          ⟨admitted, List.forall_mem_singleton.mpr admits⟩⟩
      refine filled.map_imp ?_ fun _ first => .related printed first
      rintro relationships ⟨_, admitted⟩
      exact ⟨printed, isIdentifier_of_identifier? printed, admitted⟩

end Record

namespace IndexedStore

variable {schema : Schema} {resourceType : String}

/-! ## Records of one type -/

/-- The records loaded so far fit, and are those that were given. -/
structure Filling.Holds
    (schema : Schema)
    (resourceType : String)
    (before : List ((String × String) × Record))
    (earlier : List FixtureRecord)
    (filling : Filling) : Prop where
  follows : filling.Follows resourceType before
  fit : Fixture.RecordsFit schema resourceType earlier
  printed : earlier.map Fixture.printedId = filling.records.map fun record =>
    some record.id

variable {before : List ((String × String) × Record)}
  {earlier : List FixtureRecord} {filling : Filling}

theorem Filling.Holds.mem_printed_iff
    (holds : filling.Holds schema resourceType before earlier)
    (id : String) :
    some id ∈ earlier.map Fixture.printedId ↔
      (filling.index.lookup (resourceType, id)).isSome = true := by
  rw [holds.printed, holds.follows.isSome_lookup, List.any_reverse]
  simp

/-- A record is added if it fits and its identifier is new. -/
theorem Filling.Holds.addRecord_outcome
    (holds : filling.Holds schema resourceType before earlier)
    (source : FixtureRecord) :
    Outcome (Filling.Holds schema resourceType before (earlier ++ [source]))
      (Fixture.RecordMisfit schema resourceType earlier source)
      (addRecord schema resourceType filling source) := by
  have loads := Record.load_outcome schema resourceType source
  cases loaded : Record.load schema resourceType source with
  | error error =>
      rw [loaded] at loads
      rw [addRecord, loaded]
      exact .alone loads
  | ok next =>
      rw [loaded] at loads
      rcases loads with ⟨printed, fits⟩
      rw [addRecord_of_load loaded]
      split
      · rename_i repeated
        -- The index holds the printed identifiers of the records before, and no
        -- others of this type.
        have given := (holds.mem_printed_iff next.id).mpr repeated
        exact .repeated fits printed (List.mem_map.mp given)
      · rename_i fresh
        refine ⟨holds.follows.add (Option.not_isSome_iff_eq_none.mp fresh),
          ⟨?_, ?_⟩, ?_⟩
        · exact List.forall_mem_append.mpr
            ⟨holds.fit.each, List.forall_mem_singleton.mpr fits⟩
        · rw [List.map_append, List.nodup_append]
          refine ⟨holds.fit.distinct, List.nodup_singleton _, ?_⟩
          intro id given other isNew same
          rw [List.map_singleton, List.mem_singleton] at isNew
          rw [same, isNew, printed] at given
          exact fresh ((holds.mem_printed_iff next.id).mp given)
        · rw [List.map_append, List.map_append, holds.printed,
            List.map_singleton, printed]
          rfl

theorem addRecords_outcome
    (follows : Filling.Follows resourceType before ⟨before, []⟩)
    (sources : List FixtureRecord) :
    Outcome (Filling.Holds schema resourceType before sources)
      (FirstFault (Fixture.RecordsFit schema resourceType)
        (Fixture.RecordMisfit schema resourceType) sources)
      (sources.foldlM (addRecord schema resourceType) ⟨before, []⟩) := by
  apply Outcome.foldlM_firstFault (Filling.Holds schema resourceType before)
  · intro earlier source _ filling _ holds
    exact holds.addRecord_outcome source
  · exact fun _ _ holds => holds.fit
  · exact ⟨follows, ⟨List.forall_mem_nil _, List.nodup_nil⟩, rfl⟩

/-! ## Types -/

/-- A type is added if it is declared and its records fit. -/
theorem addType_outcome
    {store : IndexedStore}
    {entry : String × List FixtureRecord}
    (agrees : store.Agrees)
    (absent : Dictionary.contains store.collections entry.1 = false) :
    Outcome (fun _ => Fixture.EntryFits schema entry)
      (Fixture.EntryMisfit schema entry) (addType schema store entry) := by
  rw [addType]
  split
  · rename_i declared
    exact (addRecords_outcome (agrees.follows absent) entry.2).map_imp
      (fun _ holds => ⟨declared, holds.fit⟩) fun _ first =>
        .record declared first
  · rename_i undeclared
    exact .undeclared (Bool.eq_false_iff.mpr undeclared)

/-- The types loaded so far fit, and no others have a collection. -/
structure HoldsTypes
    (schema : Schema)
    (earlier : Fixture)
    (store : IndexedStore) : Prop where
  agrees : store.Agrees
  loaded :
    ∀ resourceType, Dictionary.contains store.collections resourceType = true →
    resourceType ∈ Dictionary.keys earlier
  fit : Fixture.Fits schema earlier

theorem HoldsTypes.addType_outcome
    {earlier : Fixture}
    {store : IndexedStore}
    (holds : HoldsTypes schema earlier store)
    {entry : String × List FixtureRecord}
    (new : entry.1 ∉ Dictionary.keys earlier) :
    Outcome (HoldsTypes schema (earlier ++ [entry]))
      (Fixture.EntryMisfit schema entry) (addType schema store entry) := by
  have absent : Dictionary.contains store.collections entry.1 = false :=
    Bool.eq_false_iff.mpr fun present => new (holds.loaded entry.1 present)
  have added : Outcome _ (Fixture.EntryMisfit schema entry)
      (addType schema store entry) :=
    IndexedStore.addType_outcome holds.agrees absent
  cases result : addType schema store entry with
  | error error =>
      rw [result] at added
      exact added
  | ok next =>
      rw [result] at added
      refine ⟨holds.agrees.addType absent result, ?_, ?_⟩
      · intro resourceType present
        rcases addType_eq_ok result with ⟨_, filling, _, rfl⟩
        rw [Dictionary.keys, List.map_append, List.mem_append,
          List.map_singleton, List.mem_singleton]
        by_cases same : resourceType = entry.1
        · exact Or.inr same
        · rw [Dictionary.contains,
            Dictionary.find?_insert_of_ne same] at present
          exact Or.inl (holds.loaded resourceType present)
      · exact List.forall_mem_append.mpr
          ⟨holds.fit, List.forall_mem_singleton.mpr added⟩

/-! ## Fixtures -/

/-- Loading goes through the types in their order, up to the first that does not
fit. -/
theorem ofFixture_outcome
    {fixture : Fixture}
    (distinct : (Dictionary.keys fixture).Nodup) :
    Outcome (fun _ => fixture.Fits schema)
      (FirstFault (Fixture.Fits schema) (fun _ => Fixture.EntryMisfit schema)
          fixture)
      (ofFixture schema fixture) := by
  have loaded : Outcome (HoldsTypes schema fixture)
      (FirstFault (Fixture.Fits schema) (fun _ => Fixture.EntryMisfit schema)
          fixture)
      (fixture.foldlM (addType schema) {}) := by
    apply Outcome.foldlM_firstFault (HoldsTypes schema)
    · intro earlier entry later store split holds
      apply holds.addType_outcome
      rw [split, Dictionary.keys, List.map_append,
        List.nodup_append] at distinct
      exact fun given => distinct.2.2 _ given _ List.mem_cons_self rfl
    · exact fun _ _ holds => holds.fit
    · refine ⟨agrees_empty, ?_, List.forall_mem_nil _⟩
      intro resourceType present
      cases present
  rw [ofFixture]
  exact loaded.map_imp (fun _ holds => holds.fit) fun _ first => first

/-- A fixture is loaded exactly when it fits the schema, with an index and
without; and if it does not fit, the error is that of the first type or record
that is at fault. -/
theorem loads_iff_fits
    {fixture : Fixture}
    (ascending : Dictionary.Ascending fixture) :
    ((∃ store, ofFixture schema fixture = .ok store) ↔ fixture.Fits schema) ∧
      (∀ error, ofFixture schema fixture = .error error ↔
          fixture.FirstOffence schema error) ∧
      (ofFixture schema fixture).map toStore =
        Store.ofFixture schema fixture := by
  have distinct := ascending.nodup_keys
  have outcome : Outcome (fun _ => fixture.Fits schema)
      (fixture.FirstOffence schema) (ofFixture schema fixture) :=
    (ofFixture_outcome distinct).imp (fun _ fits => fits)
      fun _ first => Fixture.firstOffence_of_firstFault ascending first
  refine ⟨?_, ?_, ofFixture_toStore distinct⟩
  · exact outcome.exists_ok_iff fun _ first => first.not_fits
  · exact outcome.eq_error_iff (fun _ _ fits first => first.not_fits fits)
      fun _ _ first second => first.unique ascending second

/-- A book repeats the printed identifier of another.  Behind it stand a book
with an undeclared relationship and an undeclared type. -/
def repeatedBooks : Fixture :=
  [("books",
    [⟨.ofInt 1, [], [("authors", .array [.string "a", .ofInt 2])]⟩,
      ⟨.string "2", [], [("authors", .null)]⟩,
      ⟨.string "1", [], []⟩,
      ⟨.string "3", [], [("editor", .string "a")]⟩]),
    ("films", [])]

theorem loads_iff_fits_repeatedBooks :
    Dictionary.Ascending repeatedBooks ∧
      Dictionary.Ascending Store.shelfFixture ∧
      repeatedBooks.FirstOffence Store.bookshelf
        (.invalidFixture (.duplicateRecord "books" "1")) ∧
      ¬repeatedBooks.Fits Store.bookshelf ∧
      Store.shelfFixture.Fits Store.bookshelf := by
  have ascending : Dictionary.Ascending repeatedBooks := by
    show List.Pairwise _ _
    decide
  have shelfAscending : Dictionary.Ascending Store.shelfFixture := by
    show List.Pairwise _ _
    decide
  have repeated := @loads_iff_fits Store.bookshelf repeatedBooks ascending
  have shelf :=
    @loads_iff_fits Store.bookshelf Store.shelfFixture shelfAscending
  have offence :=
    (repeated.2.1 (.invalidFixture (.duplicateRecord "books" "1"))).mp rfl
  exact ⟨ascending, shelfAscending, offence, offence.not_fits,
    shelf.1.mp ⟨_, rfl⟩⟩

end IndexedStore

end JsonApi
