import JsonApi.Proofs.Document.Step
import JsonApi.Proofs.Schema

/-!
# Projected resource objects

A resource object shows attributes and linkage.  A projected one shows the
attributes that the selection allows and the object has.  It shows linkage
under the policy `always` only, namely that of every declared relationship
that the selection allows (`linkage?_of_project`).
-/

namespace JsonApi

variable {Object : Type}

/-- The linkage that a resource object shows of a relationship. -/
def ResourceNode.linkage?
    (node : ResourceNode)
    (name : String) : Option Linkage :=
  Dictionary.find? node.relationships name

namespace Linkage

/-- Whether the identifiers are shown as a list. -/
def isMany : Linkage → Bool
  | toOne _ => false
  | toMany _ => true

/-- The identifiers in order. -/
def identifiers : Linkage → List ResourceIdentifier
  | toOne identifier => identifier.toList
  | toMany identifiers => identifiers

@[simp]
theorem isMany_ofIdentifiers
    (toMany : Bool)
    (identifiers : List ResourceIdentifier) :
    (ofIdentifiers toMany identifiers).isMany = toMany := by
  cases toMany <;> rfl

end Linkage

namespace Assembler

variable {assembler : Assembler Object} {fields : FieldSelection}
  {resourceType : String} {object : Object}

/-- The attributes of an object that are declared and allowed, as far as it has
them. -/
def shownAttributes
    (assembler : Assembler Object)
    (fields : FieldSelection)
    (resourceType : String)
    (object : Object) : List (String × Json) :=
  (((assembler.schema.attributesOf? resourceType).getD []).filter
    (fields.allows resourceType)).filterMap fun name =>
      (assembler.reader.attributeOf resourceType object name).map fun value =>
        (name, value)

/-- The relationships that are declared and allowed. -/
def shownRelationships
    (assembler : Assembler Object)
    (fields : FieldSelection)
    (resourceType : String) : List (String × Relationship) :=
  ((assembler.schema.relationshipsOf? resourceType).getD []).filter fun entry =>
    fields.allows resourceType entry.1

theorem mem_shownAttributes
    {name : String}
    {value : Json} :
    (name, value) ∈ assembler.shownAttributes fields resourceType object ↔
      assembler.schema.hasAttribute resourceType name = true ∧
        fields.allows resourceType name = true ∧
          assembler.reader.attributeOf resourceType object name =
            some value := by
  have declared :
      name ∈ (assembler.schema.attributesOf? resourceType).getD [] ↔
        assembler.schema.hasAttribute resourceType name = true := by
    rw [Schema.hasAttribute]
    cases assembler.schema.attributesOf? resourceType with
    | none => simp
    | some names => simp
  rw [← declared, shownAttributes, List.mem_filterMap]
  constructor
  · rintro ⟨other, shown, equal⟩
    rcases Option.map_eq_some_iff.mp equal with ⟨held, isHeld, pair⟩
    cases pair
    rcases List.mem_filter.mp shown with ⟨member, allowed⟩
    exact ⟨member, allowed, isHeld⟩
  · rintro ⟨member, allowed, isHeld⟩
    exact ⟨name, List.mem_filter.mpr ⟨member, allowed⟩, by rw [isHeld]; rfl⟩

theorem find?_shownRelationships (name : String) :
    Dictionary.find? (assembler.shownRelationships fields resourceType) name =
      if fields.allows resourceType name = true then
        assembler.schema.relationship? resourceType name
      else none := by
  rw [shownRelationships, Dictionary.find?_filter (fields.allows resourceType),
    Schema.relationship?]
  cases assembler.schema.relationshipsOf? resourceType with
  | none => rfl
  | some entries => rfl

/-- Projecting an object of a declared type puts its linkage beside its
attributes. -/
theorem project_eq_map
    {resourceType : String}
    {names : List String}
    (declared : assembler.schema.attributesOf? resourceType = some names)
    (fields : FieldSelection)
    (object : Object) :
    assembler.project fields resourceType object =
      Except.map
        (fun linkages =>
          ⟨resourceType, assembler.reader.identifierOf resourceType object,
            assembler.shownAttributes fields resourceType object, linkages⟩)
        (if assembler.policy = .always then
          (assembler.shownRelationships fields resourceType).mapM
            (assembler.linkageOf resourceType
              (assembler.reader.identifierOf resourceType object) object)
        else .ok []) := by
  rw [project, shownAttributes, shownRelationships, declared]
  dsimp only
  split
  · rfl
  · rfl

/-- What a projection yields. -/
theorem project_eq_ok
    {node : ResourceNode}
    (projected : assembler.project fields resourceType object = .ok node) :
    node.identifier = assembler.identify resourceType object ∧
      node.attributes = assembler.shownAttributes fields resourceType object ∧
      (assembler.policy = .always →
        (assembler.shownRelationships fields resourceType).mapM
            (assembler.linkageOf resourceType
              (assembler.reader.identifierOf resourceType object) object) =
          .ok node.relationships) ∧
      (assembler.policy ≠ .always → node.relationships = []) := by
  cases declared : assembler.schema.attributesOf? resourceType with
  | none =>
      rw [project, declared] at projected
      cases projected
  | some names =>
      rw [project_eq_map declared, Outcome.map_eq_ok_iff] at projected
      rcases projected with ⟨linkages, linked, equal⟩
      rw [← equal]
      refine ⟨rfl, rfl, ?_, ?_⟩
      · intro always
        rwa [if_pos always] at linked
      · intro notAlways
        rw [if_neg notAlways] at linked
        cases linked
        rfl

theorem linkageOf_eq_ok
    {id : String}
    {declared : String × Relationship}
    {entry : String × Linkage} :
    assembler.linkageOf resourceType id object declared = .ok entry ↔
      ∃ found, assembler.accessor resourceType object declared.1 = .ok found ∧
        entry =
          (declared.1,
            .ofIdentifiers declared.2.toMany
              (found.objects.map (assembler.identify declared.2.target))) := by
  rw [linkageOf, related]
  cases assembler.accessor resourceType object declared.1 with
  | error cause =>
      constructor
      · intro linked
        cases linked
      · rintro ⟨_, absurdity, _⟩
        cases absurdity
  | ok found =>
      constructor
      · intro linked
        cases linked
        exact ⟨found, rfl, rfl⟩
      · rintro ⟨_, equal, entryEqual⟩
        cases equal
        rw [entryEqual]
        rfl

theorem linkage?_eq_some
    {name : String}
    {linkage : Linkage} :
    assembler.linkage? resourceType object name = some linkage ↔
      ∃ declared found,
        assembler.schema.relationship? resourceType name = some declared ∧
          assembler.accessor resourceType object name = .ok found ∧
          linkage =
            .ofIdentifiers declared.toMany
              (found.objects.map (assembler.identify declared.target)) := by
  rw [linkage?]
  cases assembler.schema.relationship? resourceType name with
  | none => simp
  | some declared =>
      cases assembler.accessor resourceType object name with
      | error cause => simp
      | ok found => simp [eq_comm]

theorem key_of_linkageOf
    {id : String}
    (declared : String × Relationship)
    (entry : String × Linkage)
    (linked : assembler.linkageOf resourceType id object declared = .ok entry) :
    entry.1 = declared.1 := by
  rcases linkageOf_eq_ok.mp linked with ⟨found, _, equal⟩
  rw [equal]

/-- A projected resource object shows linkage under the policy `always` only. -/
theorem linkage?_of_project
    {node : ResourceNode}
    (projected : assembler.project fields resourceType object = .ok node)
    {name : String}
    {linkage : Linkage} :
    node.linkage? name = some linkage ↔
      assembler.policy = .always ∧ fields.allows resourceType name = true ∧
        assembler.linkage? resourceType object name = some linkage := by
  rcases project_eq_ok projected with ⟨_, _, always, otherwise⟩
  rw [ResourceNode.linkage?]
  by_cases policy : assembler.policy = .always
  · rw [Dictionary.find?_of_mapM key_of_linkageOf (always policy)]
    simp only [find?_shownRelationships, linkageOf_eq_ok, linkage?_eq_some,
      policy, true_and, Prod.mk.injEq]
    by_cases allowed : fields.allows resourceType name = true
    · simp [allowed]
    · simp [allowed]
  · simp [otherwise policy, policy, Dictionary.find?]

/-- In an ordered schema projected attributes and linkage ascend. -/
theorem ascending_shownAttributes (ordered : assembler.schema.Ordered) :
    Dictionary.Ascending
      (assembler.shownAttributes fields resourceType object) := by
  have declared :=
    (ordered.attributesOf resourceType).filter (fields.allows resourceType)
  rw [shownAttributes, Dictionary.Ascending]
  apply List.Pairwise.filterMap _ _ declared
  intro first second less firstEntry firstHeld secondEntry secondHeld
  rcases Option.map_eq_some_iff.mp firstHeld with ⟨_, _, firstEqual⟩
  rcases Option.map_eq_some_iff.mp secondHeld with ⟨_, _, secondEqual⟩
  rw [← firstEqual, ← secondEqual]
  exact less

theorem ascending_of_project
    (ordered : assembler.schema.Ordered)
    {node : ResourceNode}
    (projected : assembler.project fields resourceType object = .ok node) :
    Dictionary.Ascending node.relationships := by
  rcases project_eq_ok projected with ⟨_, _, always, otherwise⟩
  by_cases policy : assembler.policy = .always
  · rw [Dictionary.ascending_iff_keys,
      Dictionary.keys_of_mapM key_of_linkageOf (always policy),
      ← Dictionary.ascending_iff_keys]
    exact (ordered.relationshipsOf resourceType).filter _
  · rw [otherwise policy]
    exact .nil

end Assembler

end JsonApi
