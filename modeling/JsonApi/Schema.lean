import JsonApi.Dictionary

/-!
# Schemas and settings

A schema says which resources there are, and settings say how requests for
them are resolved and documents assembled.
-/

/-!
## Resource schemas

A schema declares resource types.  A type has attributes and relationships; a
relationship leads to resources of one target type, to one of them or to many.
The target type need not be declared itself; a relationship without a declared
target is dangling.
-/

namespace JsonApi

/-- The name that stands for the identifier of a resource in filters and sort
keys. -/
def idField : String := "id"

/-- A relationship of a resource type. -/
structure Relationship where
  /-- The type of the resources it leads to. -/
  target : String
  /-- Whether it leads to a list of resources. -/
  toMany : Bool
deriving DecidableEq

/-- What is declared of one resource type. -/
structure ResourceType where
  /-- The names of the attributes, ascending. -/
  attributes : List String
  relationships : List (String × Relationship)
deriving DecidableEq

/-- The type without attributes and relationships. -/
def ResourceType.empty : ResourceType := ⟨[], []⟩

/-- The declared resource types. -/
structure Schema where
  types : List (String × ResourceType)
deriving DecidableEq

namespace Schema

/-- The schema that declares nothing. -/
def empty : Schema := ⟨[]⟩

/-- Whether a type is declared. -/
def hasType (schema : Schema) (resourceType : String) : Bool :=
  Dictionary.contains schema.types resourceType

/-- The declared types in ascending order. -/
def typeNames (schema : Schema) : List String :=
  Dictionary.keys schema.types

/-- The attributes of a declared type. -/
def attributesOf?
    (schema : Schema)
    (resourceType : String) : Option (List String) :=
  (Dictionary.find? schema.types resourceType).map ResourceType.attributes

/-- The relationships of a declared type. -/
def relationshipsOf?
    (schema : Schema)
    (resourceType : String) :
    Option (List (String × Relationship)) :=
  (Dictionary.find? schema.types resourceType).map ResourceType.relationships

/-- The relationship of a type with the given name. -/
def relationship?
    (schema : Schema)
    (resourceType name : String) : Option Relationship :=
  (schema.relationshipsOf? resourceType).bind fun relationships =>
    Dictionary.find? relationships name

/-- Whether a type has an attribute of the given name. -/
def hasAttribute (schema : Schema) (resourceType name : String) : Bool :=
  match schema.attributesOf? resourceType with
  | some attributes => attributes.contains name
  | none => false

/-- Changes the declaration of a type, which is declared if it was not. -/
def declare
    (schema : Schema)
    (resourceType : String)
    (change : ResourceType → ResourceType) : Schema :=
  let held := (Dictionary.find? schema.types resourceType).getD .empty
  ⟨Dictionary.insert resourceType (change held) schema.types⟩

/-- Declares attributes of a type, besides those it has. -/
def withType
    (schema : Schema)
    (resourceType : String)
    (attributes : List String) : Schema :=
  schema.declare resourceType fun held =>
    ⟨Names.union held.attributes attributes, held.relationships⟩

/-- Declares a relationship of a type, in place of one with the same name. -/
def withRelationship
    (schema : Schema)
    (resourceType name : String)
    (relationship : Relationship) : Schema :=
  schema.declare resourceType fun held =>
    ⟨held.attributes, Dictionary.insert name relationship held.relationships⟩

/-- The relationships whose target is not declared, as type, name and target. -/
def dangling (schema : Schema) : List (String × String × String) :=
  schema.types.flatMap fun (resourceType, declared) =>
    declared.relationships.filterMap fun (name, relationship) =>
      if schema.hasType relationship.target then none
      else some (resourceType, name, relationship.target)

end Schema

/-!
## Settings

The knobs of query resolution and document assembly, with their defaults.
Counts are unsigned 64-bit numbers.
-/

/-- When a resource object carries the identifiers that its relationships lead
to. -/
inductive LinkagePolicy where
  /-- Never. -/
  | never
  /-- Where the relationship was included from the resource. -/
  | whenIncluded
  /-- For every relationship that is shown. -/
  | always
deriving DecidableEq

/-- Bounds of pages. -/
structure PageSettings where
  /-- The page size if none is requested. -/
  defaultSize : Nat := 20
  /-- The greatest page size. -/
  maxSize : Nat := 100
deriving DecidableEq

/-- What may be sorted by. -/
structure SortSettings where
  /-- For some types, the fields that may be sorted by; the other types allow
  every attribute. -/
  whitelist : List (String × List String) := []
deriving DecidableEq

/-- The weights of the parts of a complexity score. -/
structure ComplexityWeights where
  /-- The weight of one segment of an include path. -/
  inclusion : Nat := 1
  /-- The weight of one requested field. -/
  field : Nat := 1
  /-- The weight of one filter node. -/
  filter : Nat := 1
deriving DecidableEq

/-- Limits on the size of a request. -/
structure Limits where
  includeMaxDepth : Nat := 3
  includeMaxPaths : Nat := 10
  fieldsMaxTotal : Nat := 50
  filterMaxDepth : Nat := 8
  filterMaxOperands : Nat := 1000
  /-- The greatest complexity score. -/
  complexityBudget : Nat := 100
  weights : ComplexityWeights := {}
deriving DecidableEq

/-- All settings of query resolution and document assembly. -/
structure Settings where
  pages : PageSettings := {}
  sorting : SortSettings := {}
  limits : Limits := {}
  linkage : LinkagePolicy := .whenIncluded
deriving DecidableEq

end JsonApi
