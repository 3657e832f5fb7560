import JsonApi.Proofs.Dictionary
import JsonApi.Proofs.Outcome
import JsonApi.Store.Record

/-!
# Fixtures as dictionaries

A fixture that was read names every type once, and every record in it names
every relationship once, whatever was repeated where it was read from
(`Fixture.ordered_of_ofWritten?`).
-/

namespace JsonApi

open JsonApi.Json

/-- The members of a value that was read ascend. -/
theorem Json.ascending_of_members?
    {limit : Option Nat}
    {written : Written}
    {value : Json}
    {members : List (String × Json)}
    (isValue : written.toJson? limit = some value)
    (isObject : value.members? = some members) :
    Dictionary.Ascending members := by
  cases written with
  | null | bool _ =>
      cases isValue
      cases isObject
  | number number | string text =>
      rcases Option.map_eq_some_iff.mp isValue with ⟨_, _, rfl⟩
      cases isObject
  | array items =>
      rw [Written.toJson?] at isValue
      split at isValue
      · rcases Option.map_eq_some_iff.mp isValue with ⟨_, _, rfl⟩
        cases isObject
      · cases isValue
  | object written =>
      rw [Written.toJson?] at isValue
      split at isValue
      · rcases Option.map_eq_some_iff.mp isValue with ⟨pairs, _, rfl⟩
        cases isObject
        exact Dictionary.ascending_ofList pairs
      · cases isValue

namespace FixtureRecord

variable {limit : Option Nat} {fields : Fields} {record : FixtureRecord}

/-- The relationships that were read so far ascend. -/
def Fields.Ordered (fields : Fields) : Prop :=
  ∀ relationships, fields.relationships = some relationships →
    Dictionary.Ascending relationships

theorem Fields.Ordered.add?
    {added : Fields}
    {name : String}
    {value : Written}
    (ordered : fields.Ordered)
    (isAdded : fields.add? limit name value = some added) :
    added.Ordered := by
  rw [Fields.add?] at isAdded
  split at isAdded
  · split at isAdded
    · cases isAdded
    · rcases Option.bind_eq_some_iff.mp isAdded with ⟨id, _, same⟩
      cases same
      exact ordered
  · split at isAdded
    · split at isAdded
      · cases isAdded
      · rcases Option.bind_eq_some_iff.mp isAdded with ⟨json, _, isRest⟩
        rcases Option.bind_eq_some_iff.mp isRest with ⟨attributes, _, same⟩
        cases same
        exact ordered
    · split at isAdded
      · split at isAdded
        · cases isAdded
        · rcases Option.bind_eq_some_iff.mp isAdded with ⟨json, isValue, isRest⟩
          rcases Option.bind_eq_some_iff.mp isRest with
            ⟨relationships, isObject, same⟩
          cases same
          intro held isHeld
          cases isHeld
          exact Json.ascending_of_members? isValue isObject
      · cases isAdded
        exact ordered

theorem Fields.Ordered.addMembers?
    {members : List (Option String × Written)}
    {added : Fields}
    (ordered : fields.Ordered)
    (isAdded : FixtureRecord.addMembers? limit fields members = some added) :
    added.Ordered := by
  induction members generalizing fields with
  | nil =>
      cases isAdded
      exact ordered
  | cons member members induction =>
      rw [FixtureRecord.addMembers?] at isAdded
      rcases Option.bind_eq_some_iff.mp isAdded with ⟨name, _, isRest⟩
      rcases Option.bind_eq_some_iff.mp isRest with ⟨next, isNext, isLater⟩
      exact induction (ordered.add? isNext) isLater

theorem Fields.Ordered.finish?
    (ordered : fields.Ordered)
    (isFinished : fields.finish? = some record) :
    Dictionary.Ascending record.relationships := by
  rcases Option.map_eq_some_iff.mp isFinished with ⟨id, _, rfl⟩
  cases held : fields.relationships with
  | none => exact Dictionary.Ascending.nil
  | some relationships => exact ordered relationships held

/-- The relationships of a record that was read ascend. -/
theorem ascending_of_ofWritten?
    {written : Written}
    (isRead : ofWritten? limit written = some record) :
    Dictionary.Ascending record.relationships := by
  have begun : Fields.Ordered {} := by simp [Fields.Ordered]
  rw [ofWritten?] at isRead
  rcases Option.bind_eq_some_iff.mp isRead with ⟨inner, _, isRecord⟩
  split at isRecord
  · rcases Option.bind_eq_some_iff.mp isRecord with
      ⟨fields, isAdded, isFinished⟩
    exact (begun.addMembers? isAdded).finish? isFinished
  · split at isRecord
    · rcases Option.bind_eq_some_iff.mp isRecord with
        ⟨fields, isAdded, isFinished⟩
      exact (begun.addMembers? isAdded).finish? isFinished
    · cases isRecord
  · cases isRecord

end FixtureRecord

namespace Fixture

/-- Types and, in every record, relationships ascend. -/
structure Ordered (fixture : Fixture) : Prop where
  types : Dictionary.Ascending fixture
  relationships : ∀ entry ∈ fixture, ∀ record ∈ entry.2,
    Dictionary.Ascending record.relationships

/-- A fixture that was read is ordered. -/
theorem ordered_of_ofWritten?
    {limit : Option Nat}
    {written : Written}
    {fixture : Fixture}
    (isRead : ofWritten? limit written = some fixture) :
    fixture.Ordered := by
  rw [ofWritten?.eq_def] at isRead
  split at isRead
  · rcases Option.bind_eq_some_iff.mp isRead with ⟨inner, _, isTypes⟩
    rcases Option.bind_eq_some_iff.mp isTypes with ⟨types, areRead, same⟩
    cases same
    refine ⟨Dictionary.ascending_ofList types, ?_⟩
    intro entry member record isRecord
    rcases Outcome.mem_of_mapM_eq_some areRead entry
      (Dictionary.ofList_subset types member) with
      ⟨⟨name?, value⟩, _, isEntry⟩
    rcases Option.bind_eq_some_iff.mp isEntry with ⟨name, _, isRecords⟩
    rcases Option.bind_eq_some_iff.mp isRecords with
      ⟨records, recordsRead, same⟩
    cases same
    rw [recordsOfWritten?.eq_def] at recordsRead
    split at recordsRead
    · rcases Option.bind_eq_some_iff.mp recordsRead with ⟨deeper, _, itemsRead⟩
      rcases Outcome.mem_of_mapM_eq_some itemsRead record isRecord with
        ⟨item, _, itemRead⟩
      exact FixtureRecord.ascending_of_ofWritten? itemRead
    · cases recordsRead
  · cases isRead

end Fixture

end JsonApi
