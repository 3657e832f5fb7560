import JsonApi.Fault
import JsonApi.Filter.Basic
import JsonApi.Filter.Reading
import JsonApi.Query.Parameters
import JsonApi.Schema

/-!
# From parameters to specifications

Field selections and include paths are resolved against a schema, and together
with sort keys, page and filter they make a specification.
-/

/-!
## Sparse fieldsets

A field selection names, for some resource types, the attributes and
relationships to show.  A type without a selection shows all of them.
-/

namespace JsonApi

/-- The fields to show, by resource type. -/
structure FieldSelection where
  byType : List (String × List String)
deriving DecidableEq

namespace FieldSelection

/-- The selection that shows every field. -/
def all : FieldSelection := ⟨[]⟩

/-- Selects the fields of a type, in place of an earlier selection. -/
def insert
    (selection : FieldSelection)
    (resourceType : String)
    (fields : List String) :
    FieldSelection :=
  ⟨Dictionary.insert resourceType fields selection.byType⟩

/-- The fields selected for a type, or none if all are shown. -/
def get?
    (selection : FieldSelection)
    (resourceType : String) : Option (List String) :=
  Dictionary.find? selection.byType resourceType

/-- Whether a field of a type is shown. -/
def allows (selection : FieldSelection) (resourceType field : String) : Bool :=
  match selection.get? resourceType with
  | some fields => fields.contains field
  | none => true

/-- A field of a type is hidden only by a selection for this type that leaves
it out. -/
theorem allows_iff
    {selection : FieldSelection}
    {resourceType field : String} :
    selection.allows resourceType field = true ↔
      ∀ fields, selection.get? resourceType = some fields → field ∈ fields := by
  rw [allows]
  cases selection.get? resourceType with
  | none => simp
  | some fields => simp

/-- The number of selected fields of all types. -/
def total (selection : FieldSelection) : Nat :=
  (selection.byType.map fun entry => entry.2.length).foldr (· + ·) 0

/-- Whether no type has a selection. -/
def isEmpty (selection : FieldSelection) : Bool :=
  selection.byType.isEmpty

/-- Whether a name is an attribute or a relationship of a type. -/
def isField (schema : Schema) (resourceType name : String) : Bool :=
  schema.hasAttribute resourceType name ||
    (schema.relationship? resourceType name).isSome

/-- The faults of the fields requested for one type. -/
def errorsOf
    (schema : Schema)
    (resourceType : String)
    (names : List String) :
    List ValidationError :=
  if schema.hasType resourceType then
    (names.filter fun name => !isField schema resourceType name).map fun name =>
      .unknownField resourceType name
  else
    [.malformedParameter s!"fields[{resourceType}]"
        s!"unknown resource type '{resourceType}'"]

/-- Selects the known ones among the fields requested for one type, if it is
declared. -/
def insertKnown
    (schema : Schema)
    (selection : FieldSelection)
    (requested : String × List String) :
    FieldSelection :=
  if schema.hasType requested.1 then
    selection.insert requested.1
      (Names.ofList (requested.2.filter (isField schema requested.1)))
  else selection

/-- Resolves requested fieldsets: first the faults type by type, then the
total. -/
def resolve
    (schema : Schema)
    (maxTotal : Nat)
    (requested : List (String × List String)) :
    Except ValidationErrors FieldSelection :=
  let selection := requested.foldl (insertKnown schema) all
  let nameErrors := requested.flatMap fun (resourceType, names) =>
    errorsOf schema resourceType names
  let totalErrors :=
    if maxTotal < selection.total then
      [ValidationError.tooManyFields selection.total maxTotal]
    else []
  ValidationErrors.unlessAny (nameErrors ++ totalErrors) selection

end FieldSelection

/-!
## Include paths

An include path is a chain of relationship names, written with dots between
them.  The requested paths are merged into a tree whose root stands for the
primary resources; every path from the root is a relationship chain to follow.
-/

/-- A tree of relationship names. -/
inductive IncludeTree where
  | node (children : List (String × IncludeTree))

namespace IncludeTree

/-- The tree that includes nothing. -/
def empty : IncludeTree := .node []

/-- The relationships to follow from the root, each with the tree behind it. -/
def children : IncludeTree → List (String × IncludeTree)
  | .node children => children

/-- Whether nothing is included. -/
def isEmpty (tree : IncludeTree) : Bool :=
  tree.children.isEmpty

/-- The tree behind a relationship. -/
def child? (tree : IncludeTree) (name : String) : Option IncludeTree :=
  Dictionary.find? tree.children name

/-- Whether a relationship is followed from the root. -/
def contains (tree : IncludeTree) (name : String) : Bool :=
  (tree.child? name).isSome

/-- The tree with one more path. -/
def insert (tree : IncludeTree) : List String → IncludeTree
  | [] => tree
  | name :: names =>
    .node (Dictionary.insert name (((tree.child? name).getD empty).insert names)
        tree.children)

mutual

/-- The greatest length of a path from the root. -/
def depth : IncludeTree → Nat
  | .node children => depthOf children

/-- The greatest length of a path that begins with one of some relationships. -/
def depthOf : List (String × IncludeTree) → Nat
  | [] => 0
  | (_, tree) :: children => max (1 + tree.depth) (depthOf children)

end

mutual

/-- The paths from the root to the leaves, in the order of their names. -/
def leafPaths : IncludeTree → List (List String)
  | .node children => leafPathsOf children

/-- The paths to leaves that begin with one of some relationships. -/
def leafPathsOf : List (String × IncludeTree) → List (List String)
  | [] => []
  | (name, tree) :: children =>
    let inner := if tree.isEmpty then [[]] else tree.leafPaths
    inner.map (name :: ·) ++ leafPathsOf children

end

/-- Whether a chain of names is declared, as relationships, from a resource type
on.

The error is the first name that is no relationship, with the type reached
there. -/
def walk (schema : Schema) :
    String → List String → Except (String × String) Unit
  | _, [] => .ok ()
  | resourceType, name :: names =>
    match schema.relationship? resourceType name with
    | some relationship => walk schema relationship.target names
    | none => .error (name, resourceType)

/-- Checks one requested path; an empty segment counts before the depth, and
that before the names. -/
def checkPath
    (schema : Schema)
    (maxDepth : Nat)
    (resourceType entry : String) :
    Except ValidationError (List String) :=
  let path := Text.splitAt '.' entry
  if path.contains "" then .error (.emptyIncludeSegment entry)
  else if maxDepth < path.length
    then .error (.includeTooDeep entry path.length maxDepth)
  else
    match walk schema resourceType path with
    | .ok _ => .ok path
    | .error (name, reached) => .error (.unknownRelationship entry name reached)

/-- The error of an outcome, as a list. -/
def errorOf {α : Type} : Except ValidationError α → List ValidationError
  | .error error => [error]
  | .ok _ => []

/-- The tree with the path of an outcome, if it has one. -/
def insertChecked (tree : IncludeTree) :
    Except ValidationError (List String) → IncludeTree
  | .ok path => tree.insert path
  | .error _ => tree

/-- Resolves requested paths; repeated ones count once. -/
def resolve
    (schema : Schema)
    (maxDepth maxPaths : Nat)
    (resourceType : String)
    (requested : List String) : Except ValidationErrors IncludeTree :=
  let distinct := firstOccurrences requested
  let countErrors :=
    if maxPaths < distinct.length then
      [ValidationError.tooManyIncludePaths distinct.length maxPaths]
    else []
  let checked := distinct.map (checkPath schema maxDepth resourceType)
  ValidationErrors.unlessAny (countErrors ++ checked.flatMap errorOf)
    (checked.foldl insertChecked empty)

end IncludeTree

/-!
## Query specifications

A specification is a request after every part has been checked against a
schema and the settings.  Fields, sort keys, page and include paths are
checked independently of each other and their faults are reported together;
the filter is checked once these are sound, and the complexity of the whole
last.
-/

open JsonApi.Text

/-- Why a request was refused. -/
inductive QueryError where
  /-- Parts of the request are at fault. -/
  | validation (report : ValidationErrors)
  /-- The request is sound and too expensive. -/
  | overBudget (score budget : Nat)

namespace QueryError

/-- The code of an error. -/
def code : QueryError → String
  | validation _ => "ValidationError"
  | overBudget .. => "ComplexityBudgetExceeded"

/-- The message of an error. -/
def message : QueryError → String
  | validation report => "invalid query: " ++ report.message
  | overBudget score budget =>
      s!"query complexity {score} exceeds budget {budget}"

/-- The validation errors that were reported. -/
def validationErrors : QueryError → List ValidationError
  | validation report => report.errors
  | overBudget .. => []

end QueryError

/-- The weighted complexity of a request, by part. -/
structure ComplexityScore where
  inclusions : Nat
  fields : Nat
  filter : Nat
  total : Nat
deriving DecidableEq

namespace ComplexityScore

/-- The total length of the include paths. -/
def pathLengths (tree : IncludeTree) : Nat :=
  (tree.leafPaths.map List.length).foldr (· + ·) 0

/-- Scores the parts of a request; no count exceeds the greatest 64-bit
count. -/
def ofParts
    (weights : ComplexityWeights)
    (tree : IncludeTree)
    (fields : FieldSelection)
    (filter : Option Filter) : ComplexityScore :=
  let inclusionScore := saturatingMul weights.inclusion (pathLengths tree)
  let fieldScore := saturatingMul weights.field fields.total
  let filterScore :=
    saturatingMul weights.filter ((filter.map Filter.nodeCount).getD 0)
  ⟨inclusionScore, fieldScore, filterScore,
    saturatingAdd (saturatingAdd inclusionScore fieldScore) filterScore⟩

/-- Refuses a score above the budget. -/
def enforce
    (score : ComplexityScore)
    (limits : Limits) : Except QueryError Unit :=
  if limits.complexityBudget < score.total then
    .error (.overBudget score.total limits.complexityBudget)
  else .ok ()

end ComplexityScore

/-- A request with all its parts resolved. -/
structure QuerySpecification where
  resourceType : String
  filter : Option Filter
  sort : List SortKey
  page : Page
  fields : FieldSelection
  inclusion : IncludeTree
  complexity : ComplexityScore

namespace QuerySpecification

/-- The parts of a request that are checked independently of each other. -/
structure Parts where
  fields : FieldSelection
  sort : List SortKey
  page : Page
  inclusion : IncludeTree

/-- The errors of an outcome. -/
def errorsOf {α : Type} : Except ValidationErrors α → List ValidationError
  | .error report => report.errors
  | .ok _ => []

/-- Resolves fields, sort keys, page and include paths; the faults of decoding
come first. -/
def resolveParts
    (schema : Schema)
    (settings : Settings)
    (resourceType : String)
    (parameters : QueryParameters) : Except ValidationErrors Parts :=
  let limits := settings.limits
  let fields :=
    FieldSelection.resolve schema limits.fieldsMaxTotal parameters.fields
  let sort :=
    SortKey.resolve settings.sorting schema resourceType parameters.sort
  let page := (Page.resolve settings.pages parameters.page).mapError
    ValidationErrors.single
  let inclusion := IncludeTree.resolve schema limits.includeMaxDepth
    limits.includeMaxPaths resourceType parameters.inclusions
  let errors := parameters.parseErrors ++ errorsOf fields ++ errorsOf sort ++
    errorsOf page ++
    errorsOf inclusion
  match fields, sort, page, inclusion with
  | .ok fields, .ok sort, .ok page, .ok inclusion =>
    if errors.isEmpty then .ok ⟨fields, sort, page, inclusion⟩
      else .error (.collected errors)
  | _, _, _, _ => .error (.collected errors)

/-- The faults of a filter that was read: its fields, and then its depth. -/
def filterErrors
    (schema : Schema)
    (limits : Limits)
    (resourceType : String)
    (filter : Filter) :
    List ValidationError :=
  filter.fieldErrors schema resourceType ++
    if limits.filterMaxDepth < filter.depth then
      [.filterTooDeep filter.depth limits.filterMaxDepth]
    else []

/-- Reads and checks a filter. -/
def resolveFilter
    (schema : Schema)
    (operators : OperatorRegistry)
    (limits : Limits)
    (resourceType : String)
    (input : FilterInput) :
    Except ValidationErrors (Option Filter) := do
  match ← input.read ⟨operators, limits.filterMaxOperands⟩ with
  | none => pure none
  | some filter =>
    ValidationErrors.unlessAny (filterErrors schema limits resourceType filter)
      (some filter)

/-- Resolves the parameters of a request for resources of the given type. -/
def build
    (schema : Schema)
    (operators : OperatorRegistry)
    (settings : Settings)
    (resourceType : String)
    (parameters : QueryParameters) :
    Except QueryError QuerySpecification := do
  if !schema.hasType resourceType then
    .error (.validation (.single (.unknownResourceType resourceType)))
  else
    let parts ← (resolveParts schema settings resourceType parameters).mapError
        .validation
    let filter ← (resolveFilter schema operators settings.limits resourceType
      parameters.filter).mapError .validation
    let score := ComplexityScore.ofParts settings.limits.weights parts.inclusion
      parts.fields filter
    score.enforce settings.limits
    pure ⟨resourceType, filter, parts.sort, parts.page, parts.fields,
        parts.inclusion, score⟩

/-- Decodes a query string and resolves it. -/
def ofQueryString
    (schema : Schema)
    (operators : OperatorRegistry)
    (settings : Settings)
    (resourceType query : String) : Except QueryError QuerySpecification :=
  build schema operators settings resourceType
    (QueryParameters.ofQueryString query)

end QuerySpecification

end JsonApi

/-!
## Specifications as JSON

Every part of a specification is written, with null for an absent filter.
-/

namespace JsonApi

open JsonApi.Json (Outline)

/-- The outline of a sort key. -/
def SortKey.outline (key : SortKey) : Outline :=
  .record
    [("field", .text key.field), ("descending", .leaf (.bool key.descending))]

/-- The outline of a page. -/
def Page.outline (page : Page) : Outline :=
  .record [("number", .count page.number), ("size", .count page.size)]

/-- The outline of a field selection: the selected fields by type. -/
def FieldSelection.outline (selection : FieldSelection) : Outline :=
  .record (Dictionary.mapValues Outline.texts selection.byType)

namespace IncludeTree

mutual

/-- The outline of an include tree: the trees behind its relationships. -/
def outline : IncludeTree → Outline
  | .node children => .record (outlines children)

/-- The outlines of the trees behind some relationships. -/
def outlines : List (String × IncludeTree) → List (String × Outline)
  | [] => []
  | (name, tree) :: children => (name, tree.outline) :: outlines children

end

end IncludeTree

/-- The outline of a complexity score. -/
def ComplexityScore.outline (score : ComplexityScore) : Outline :=
  .record
    [("includes", .count score.inclusions), ("fields", .count score.fields),
    ("filter", .count score.filter), ("total", .count score.total)]

/-- The outline of a specification. -/
def QuerySpecification.outline (specification : QuerySpecification) : Outline :=
  let filter :=
    match specification.filter with
    | some filter => filter.outline
    | none => .leaf .null
  .record
    [("resource_type", .text specification.resourceType), ("filter", filter),
      ("sort", .list (specification.sort.map SortKey.outline)),
      ("page", specification.page.outline),
      ("fields", specification.fields.outline),
      ("include", specification.inclusion.outline),
      ("complexity", specification.complexity.outline)]

end JsonApi
