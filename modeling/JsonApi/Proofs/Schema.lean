import JsonApi.Proofs.Dictionary
import JsonApi.Query.Specification
import JsonApi.Schema

/-!
# Schemas and paths through them

Schemas are ordered as they are constructed, and a path through a schema is a
chain of relationships.
-/

/-!
## Ordered schemas

A schema declares every attribute and every relationship of a type once, in
ascending order.  The empty schema does, and the constructions of a schema keep
it so.
-/

namespace JsonApi

/-- The attributes and the relationships of a type ascend. -/
structure ResourceType.Ordered (declared : ResourceType) : Prop where
  attributes : declared.attributes.Pairwise (· < ·)
  relationships : Dictionary.Ascending declared.relationships

namespace Schema

/-- The attributes and the relationships of every type ascend. -/
def Ordered (schema : Schema) : Prop :=
  ∀ resourceType declared,
    Dictionary.find? schema.types resourceType = some declared →
    declared.Ordered

theorem ordered_empty : empty.Ordered := by
  intro resourceType declared found
  cases found

variable {schema : Schema}

theorem Ordered.declare
    (ordered : schema.Ordered)
    (resourceType : String)
    {change : ResourceType → ResourceType}
    (keeps : ∀ held : ResourceType, held.Ordered → (change held).Ordered) :
    (schema.declare resourceType change).Ordered := by
  intro other declared found
  rcases Dictionary.find?_insert_cases found with ⟨_, changed⟩ | ⟨_, old⟩
  · rw [changed]
    apply keeps
    cases before : Dictionary.find? schema.types resourceType with
    | none => exact ⟨List.Pairwise.nil, .nil⟩
    | some held => exact ordered resourceType held before
  · exact ordered other declared old

theorem Ordered.withType
    (ordered : schema.Ordered)
    (resourceType : String)
    (names : List String) :
    (schema.withType resourceType names).Ordered :=
  ordered.declare resourceType fun _ held =>
    ⟨Names.pairwise_union held.attributes, held.relationships⟩

theorem Ordered.withRelationship
    (ordered : schema.Ordered)
    (resourceType name : String)
    (relationship : Relationship) :
    (schema.withRelationship resourceType name relationship).Ordered :=
  ordered.declare resourceType fun _ held =>
    ⟨held.attributes, held.relationships.insert name relationship⟩

theorem Ordered.attributesOf
    (ordered : schema.Ordered)
    (resourceType : String) :
    ((schema.attributesOf? resourceType).getD []).Pairwise (· < ·) := by
  rw [attributesOf?]
  cases found : Dictionary.find? schema.types resourceType with
  | none => exact List.Pairwise.nil
  | some declared => exact (ordered resourceType declared found).attributes

theorem Ordered.relationshipsOf
    (ordered : schema.Ordered)
    (resourceType : String) :
    Dictionary.Ascending ((schema.relationshipsOf? resourceType).getD []) := by
  rw [relationshipsOf?]
  cases found : Dictionary.find? schema.types resourceType with
  | none => exact .nil
  | some declared => exact (ordered resourceType declared found).relationships

end Schema

/-!
## Chains of relationships

A chain of names leads from one resource type to another when every name is a
relationship declared for the type reached by the names before it.  Include
paths are checked by following such chains: `walk_eq_ok_iff` says which paths
are accepted, and `walk_eq_error_iff` which name of another path is refused.
-/

namespace Schema

theorem relationship?_of_mem
    {schema : Schema}
    {resourceType : String}
    {entry : String × Relationship}
    (listed : entry ∈ (schema.relationshipsOf? resourceType).getD []) :
    ∃ declared, schema.relationship? resourceType entry.1 = some declared := by
  cases found : schema.relationshipsOf? resourceType with
  | none =>
      rw [found] at listed
      cases listed
  | some relationships =>
      rw [found] at listed
      have present : Dictionary.contains relationships entry.1 = true :=
        Dictionary.contains_of_mem listed
      rcases Dictionary.find?_of_contains present with ⟨declared, isFound⟩
      exact ⟨declared, by simp [relationship?, found, isFound]⟩

/-- Names that are relationships, one after the other, from a type to another
one. -/
inductive Chain (schema : Schema) : String → List String → String → Prop where
  | nil (resourceType : String) :
      Chain schema resourceType [] resourceType
  | cons
      {resourceType name final : String}
      {names : List String}
      {declared : Relationship}
      (first : schema.relationship? resourceType name = some declared)
      (rest : Chain schema declared.target names final) :
      Chain schema resourceType (name :: names) final

variable {schema : Schema}

/-- A chain has only one end. -/
theorem Chain.unique
    {start first second : String}
    {names : List String}
    (left : Chain schema start names first)
    (right : Chain schema start names second) :
    first = second := by
  induction left with
  | nil resourceType =>
      cases right
      rfl
  | cons declared _ induction =>
      cases right with
      | cons declaredAgain rest =>
          rw [declared] at declaredAgain
          cases declaredAgain
          exact induction rest

theorem Chain.append
    {start middle final : String}
    {first second : List String}
    (left : Chain schema start first middle)
    (right : Chain schema middle second final) :
    Chain schema start (first ++ second) final := by
  induction left with
  | nil resourceType => exact right
  | cons declared _ induction => exact Chain.cons declared (induction right)

/-- The first names of a chain are a chain. -/
theorem Chain.split
    {start final : String}
    {first second : List String}
    (chain : Chain schema start (first ++ second) final) :
    ∃ middle, Chain schema start first middle ∧
      Chain schema middle second final := by
  induction first generalizing start with
  | nil => exact ⟨start, Chain.nil start, chain⟩
  | cons name names induction =>
      cases chain with
      | cons declared rest =>
          rcases induction rest with ⟨middle, left, right⟩
          exact ⟨middle, Chain.cons declared left, right⟩

/-- Names that lead, through relationships, to an attribute or to the
identifier. -/
def Readable
    (schema : Schema)
    (resourceType : String)
    (names : List String) : Prop :=
  ∃ relationships reached field,
    names = relationships ++ [field] ∧
      schema.Chain resourceType relationships reached ∧
      (field = idField ∨ schema.hasAttribute reached field = true)

end Schema

namespace IncludeTree

/-- The names of an include path are accepted when they are a chain. -/
theorem walk_eq_ok_iff
    {schema : Schema}
    {resourceType : String}
    {names : List String} :
    walk schema resourceType names = .ok () ↔
      ∃ final, schema.Chain resourceType names final := by
  induction names generalizing resourceType with
  | nil => exact ⟨fun _ => ⟨resourceType, .nil resourceType⟩, fun _ => rfl⟩
  | cons name names induction =>
      rw [walk]
      constructor
      · intro accepted
        split at accepted
        · rename_i declared found
          rcases induction.mp accepted with ⟨final, chain⟩
          exact ⟨final, .cons found chain⟩
        · cases accepted
      · rintro ⟨final, chain⟩
        cases chain with
        | cons found rest =>
            rw [found]
            exact induction.mpr ⟨final, rest⟩

/-- The name that is refused is the first one that is no relationship of the
type reached. -/
theorem walk_eq_error_iff
    {schema : Schema}
    {resourceType name reached : String}
    {names : List String} :
    walk schema resourceType names = .error (name, reached) ↔
      ∃ before after, names = before ++ name :: after ∧
        schema.Chain resourceType before reached ∧
          schema.relationship? reached name = none := by
  induction names generalizing resourceType with
  | nil => simp [walk]
  | cons first names induction =>
      rw [walk]
      cases declared : schema.relationship? resourceType first with
      | none =>
          constructor
          · intro refused
            cases refused
            exact ⟨[], names, rfl, .nil _, declared⟩
          · rintro ⟨before, after, split, chain, _⟩
            cases chain with
            | nil =>
                cases split
                rfl
            | cons found _ =>
                cases split
                rw [declared] at found
                cases found
      | some relationship =>
          dsimp only
          rw [induction]
          constructor
          · rintro ⟨before, after, split, chain, undeclared⟩
            exact ⟨first :: before, after, congrArg (List.cons first) split,
              .cons declared chain, undeclared⟩
          · rintro ⟨before, after, split, chain, undeclared⟩
            cases chain with
            | nil =>
                cases split
                rw [declared] at undeclared
                cases undeclared
            | cons found rest =>
                cases split
                cases declared.symm.trans found
                exact ⟨_, after, rfl, rest, undeclared⟩

end IncludeTree

end JsonApi
