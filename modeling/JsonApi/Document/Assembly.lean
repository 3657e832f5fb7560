import JsonApi.Dictionary
import JsonApi.Json.Basic
import JsonApi.Query.Parameters
import JsonApi.Query.Specification
import JsonApi.Store.Basic
import JsonApi.Url.Basic

/-!
# Documents

Compound documents and how they are assembled, error documents, and the links
between pages.
-/

/-!
## Compound documents

A document has primary data, one resource object or a list of them, and
related resource objects beside it.  Each resource object shows attributes and
the identifiers that its relationships lead to.  As JSON, empty parts are left
out, except that an absent single resource is written as null.
-/

namespace JsonApi

/-- The type and identifier of a resource. -/
structure ResourceIdentifier where
  resourceType : String
  id : String
deriving DecidableEq

/-- The identifiers that a relationship shows. -/
inductive Linkage where
  | toOne (identifier : Option ResourceIdentifier)
  | toMany (identifiers : List ResourceIdentifier)
deriving DecidableEq

/-- A resource object. -/
structure ResourceNode where
  resourceType : String
  id : String
  attributes : List (String × Json)
  relationships : List (String × Linkage)

/-- The type and identifier of a resource object. -/
def ResourceNode.identifier (node : ResourceNode) : ResourceIdentifier :=
  ⟨node.resourceType, node.id⟩

/-- The primary data of a document. -/
inductive PrimaryData where
  | single (node : Option ResourceNode)
  | collection (nodes : List ResourceNode)

/-- The primary resource objects in order. -/
def PrimaryData.nodes : PrimaryData → List ResourceNode
  | single node => node.toList
  | collection nodes => nodes

/-- A compound document. -/
structure Document where
  data : PrimaryData
  /-- The related resource objects in the order in which they were
  discovered. -/
  included : List ResourceNode
  links : List (String × String)
  /-- Members with information about the document as a whole. -/
  information : List (String × Json)

/-- An identifier as JSON. -/
def ResourceIdentifier.toJson (identifier : ResourceIdentifier) : Json :=
  .object
    [("id", .string identifier.id), ("type", .string identifier.resourceType)]

/-- A linkage as JSON. -/
def Linkage.toJson : Linkage → Json
  | toOne none => .null
  | toOne (some identifier) => identifier.toJson
  | toMany identifiers => .array (identifiers.map ResourceIdentifier.toJson)

/-- A member of an object, left out when it has no entries. -/
def optionalMember
    (name : String)
    (entries : List (String × Json)) : List (String × Json) :=
  if entries.isEmpty then [] else [(name, .object entries)]

/-- A resource object as JSON. -/
def ResourceNode.toJson (node : ResourceNode) : Json :=
  .object
    (optionalMember "attributes" node.attributes ++ [("id", .string node.id)] ++
    optionalMember "relationships"
      (Dictionary.mapValues (fun linkage => .object [("data", linkage.toJson)])
        node.relationships) ++
    [("type", .string node.resourceType)])

/-- Primary data as JSON. -/
def PrimaryData.toJson : PrimaryData → Json
  | single none => .null
  | single (some node) => node.toJson
  | collection nodes => .array (nodes.map ResourceNode.toJson)

namespace Document

/-- A document with primary and related resource objects only. -/
def ofNodes (data : PrimaryData) (included : List ResourceNode) : Document :=
  ⟨data, included, [], []⟩

/-- Sets one member of the information about the document. -/
def withInformation
    (document : Document)
    (name : String)
    (value : Json) : Document :=
  { document with
      information := Dictionary.insert name value document.information }

/-- Sets links, in place of those with the same names. -/
def withLinks
    (document : Document)
    (links : List (String × String)) : Document :=
  { document with links := Dictionary.union document.links links }

/-- The related resource object of the given type and identifier. -/
def findIncluded?
    (document : Document)
    (resourceType id : String) : Option ResourceNode :=
  document.included.find? fun node =>
    node.resourceType = resourceType ∧ node.id = id

/-- The document as JSON. -/
def toJson (document : Document) : Json :=
  let included :=
    if document.included.isEmpty then []
    else [("included", Json.array (document.included.map ResourceNode.toJson))]
  .object ([("data", document.data.toJson)] ++ included ++
    optionalMember "links" (Dictionary.mapValues Json.string document.links) ++
    optionalMember "meta" document.information)

end Document

/-!
## Assembling compound documents

Primary objects and an include tree give a document.  Related objects are
discovered breadth first along the tree.  An object is recognised by its type
and identifier: it gets one slot in the document, the primary objects theirs
first, and it is expanded at most once for every place in the include tree.

The work proceeds level by level.  A level expands the objects that the level
before has put into the queue, and each of them moves one step down the tree,
so that the depth of the tree bounds the number of levels.
-/

/-- Why a document could not be assembled. -/
inductive AssemblyError where
  /-- A relationship could not be resolved. -/
  | unresolved (resourceType id relationship cause : String)
  | unknownResourceType (resourceType : String)
  | unknownRelationship (resourceType relationship : String)
deriving DecidableEq

namespace AssemblyError

/-- The code of an error. -/
def code : AssemblyError → String
  | unresolved .. => "RelationshipAccessorFailed"
  | unknownResourceType _ => "UnknownResourceType"
  | unknownRelationship .. => "UnknownRelationship"

/-- The message of an error. -/
def message : AssemblyError → String
  | unresolved resourceType id relationship cause =>
    s!"failed to resolve relationship '{relationship}' of {resourceType}/{id}: {cause}"
  | unknownResourceType resourceType =>
      s!"unknown resource type '{resourceType}'"
  | unknownRelationship resourceType relationship =>
    s!"'{relationship}' is not a relationship of '{resourceType}'"

end AssemblyError

/-- Reads objects of the application, given with their resource type. -/
structure ObjectReader (Object : Type) where
  identifierOf : String → Object → String
  /-- The value of an attribute, if the object has it. -/
  attributeOf : String → Object → String → Option Json

/-- Resolves relationships of objects; an error is told in words. -/
abbrev RelationshipAccessor (Object : Type) :=
  String → Object → String → Except String (Related Object)

/-- What assembling a document depends on besides the objects. -/
structure Assembler (Object : Type) where
  schema : Schema
  reader : ObjectReader Object
  accessor : RelationshipAccessor Object
  policy : LinkagePolicy

/-- The place of a resource object in a document. -/
inductive Slot where
  | primary (index : Nat)
  | included (index : Nat)
deriving DecidableEq

/-- An object to expand at a place of the include tree. -/
structure Pending (Object : Type) where
  resourceType : String
  object : Object
  slot : Slot
  /-- The include tree from that place on. -/
  tree : IncludeTree
  /-- The names on the way to that place, with dots between them. -/
  path : String

/-- A document under construction. -/
structure Assembly (Object : Type) where
  primary : List ResourceNode
  included : List ResourceNode
  slots : List (ResourceIdentifier × Slot)
  /-- The objects expanded so far, each with the place in the include tree. -/
  expanded : List (ResourceIdentifier × String)
  /-- The objects to expand on the next level. -/
  queue : List (Pending Object)

namespace Linkage

/-- The linkage of the declared cardinality, whatever number of identifiers was
found. -/
def ofIdentifiers
    (toMany : Bool)
    (identifiers : List ResourceIdentifier) : Linkage :=
  if toMany then .toMany identifiers else .toOne identifiers.head?

end Linkage

namespace Assembler

variable {Object : Type}

/-- The identifier of an object of the given type. -/
def identify
    (assembler : Assembler Object)
    (resourceType : String)
    (object : Object) :
    ResourceIdentifier :=
  ⟨resourceType, assembler.reader.identifierOf resourceType object⟩

/-- The objects that a relationship leads to; an error names the resource object
`id`. -/
def related
    (assembler : Assembler Object)
    (resourceType id : String)
    (object : Object)
    (name : String) : Except AssemblyError (List Object) :=
  match assembler.accessor resourceType object name with
  | .ok found => .ok found.objects
  | .error cause => .error (.unresolved resourceType id name cause)

/-- The linkage of one declared relationship. -/
def linkageOf
    (assembler : Assembler Object)
    (resourceType id : String)
    (object : Object)
    (declared : String × Relationship) :
    Except AssemblyError (String × Linkage) := do
  let objects ← assembler.related resourceType id object declared.1
  let target := declared.2.target
  pure (declared.1, .ofIdentifiers declared.2.toMany
      (objects.map (assembler.identify target)))

/-- The resource object of an object, with the fields that the selection
allows. -/
def project
    (assembler : Assembler Object)
    (fields : FieldSelection)
    (resourceType : String)
    (object : Object) : Except AssemblyError ResourceNode :=
  match assembler.schema.attributesOf? resourceType with
  | none => .error (.unknownResourceType resourceType)
  | some attributes => do
    let id := assembler.reader.identifierOf resourceType object
    let shown := attributes.filter (fields.allows resourceType)
    let values := shown.filterMap fun name =>
      (assembler.reader.attributeOf resourceType object name).map fun value =>
        (name, value)
    let declared := (assembler.schema.relationshipsOf? resourceType).getD []
    let visible := declared.filter fun entry =>
      fields.allows resourceType entry.1
    let linkages ←
      if assembler.policy = .always then
        visible.mapM (assembler.linkageOf resourceType id object)
      else pure []
    pure ⟨resourceType, id, values, linkages⟩

end Assembler

namespace Assembly

variable {Object : Type}

/-- The document before any object was added. -/
def empty : Assembly Object := ⟨[], [], [], [], []⟩

/-- The slot of a resource. -/
def slotOf?
    (assembly : Assembly Object)
    (identifier : ResourceIdentifier) : Option Slot :=
  assembly.slots.lookup identifier

/-- The resource object in a slot. -/
def nodeAt? (assembly : Assembly Object) : Slot → Option ResourceNode
  | .primary index => assembly.primary[index]?
  | .included index => assembly.included[index]?

/-- Changes the resource object in a slot. -/
def modifyAt
    (assembly : Assembly Object)
    (slot : Slot)
    (change : ResourceNode → ResourceNode) :
    Assembly Object :=
  match slot with
  | .primary index =>
      { assembly with primary := assembly.primary.modify index change }
  | .included index =>
      { assembly with included := assembly.included.modify index change }

/-- Queues an object for expansion, unless nothing is to be expanded or it was
queued for the place. -/
def enqueue
    (assembly : Assembly Object)
    (identifier : ResourceIdentifier)
    (pending : Pending Object) : Assembly Object :=
  if pending.tree.isEmpty ||
    assembly.expanded.contains (identifier, pending.path) then assembly
  else
    { assembly with
      expanded := (identifier, pending.path) :: assembly.expanded
      queue := assembly.queue ++ [pending] }

/-- Adds a primary object; one that repeats an earlier one is shown and not
expanded. -/
def addPrimary
    (assembler : Assembler Object)
    (specification : QuerySpecification)
    (assembly : Assembly Object)
    (object : Object) : Except AssemblyError (Assembly Object) := do
  let resourceType := specification.resourceType
  let node ← assembler.project specification.fields resourceType object
  let shown := { assembly with primary := assembly.primary ++ [node] }
  match shown.slotOf? node.identifier with
  | some _ => pure shown
  | none =>
    let slot := Slot.primary assembly.primary.length
    let placed := { shown with slots := (node.identifier, slot) :: shown.slots }
    pure (placed.enqueue node.identifier
      ⟨resourceType, object, slot, specification.inclusion, ""⟩)

/-- Gives a related object a slot, if it has none. -/
def place
    (assembler : Assembler Object)
    (fields : FieldSelection)
    (resourceType : String)
    (assembly : Assembly Object)
    (object : Object) :
    Except AssemblyError (Assembly Object × Slot) :=
  let identifier := assembler.identify resourceType object
  match assembly.slotOf? identifier with
  | some slot => .ok (assembly, slot)
  | none => do
    let node ← assembler.project fields resourceType object
    let slot := Slot.included assembly.included.length
    pure ({ assembly with
      included := assembly.included ++ [node]
      slots := (identifier, slot) :: assembly.slots }, slot)

/-- Places a related object and queues it for the tree behind the
relationship. -/
def addRelated
    (assembler : Assembler Object)
    (fields : FieldSelection)
    (resourceType : String)
    (tree : IncludeTree)
    (path : String)
    (assembly : Assembly Object)
    (object : Object) :
    Except AssemblyError (Assembly Object) := do
  let (placed, slot) ← assembly.place assembler fields resourceType object
  pure (placed.enqueue (assembler.identify resourceType object)
    ⟨resourceType, object, slot, tree, path⟩)

/-- The path of a relationship below a place in the include tree. -/
def pathBelow (path name : String) : String :=
  if path = "" then name else path ++ "." ++ name

/-- The identifier of the resource object in a slot. -/
def idAt (assembly : Assembly Object) (slot : Slot) : String :=
  ((assembly.nodeAt? slot).map ResourceNode.id).getD ""

/-- Whether included relationships of a resource object carry linkage. -/
def showsLinkage
    (assembler : Assembler Object)
    (fields : FieldSelection)
    (resourceType name : String) : Bool :=
  assembler.policy ≠ .never && fields.allows resourceType name

/-- Follows one relationship of an object. -/
def followRelationship
    (assembler : Assembler Object)
    (fields : FieldSelection)
    (pending : Pending Object)
    (assembly : Assembly Object)
    (branch : String × IncludeTree) :
    Except AssemblyError (Assembly Object) :=
  let (name, subtree) := branch
  match assembler.schema.relationship? pending.resourceType name with
  | none => .error (.unknownRelationship pending.resourceType name)
  | some declared => do
    let objects ← assembler.related pending.resourceType
        (assembly.idAt pending.slot) pending.object name
    let path := pathBelow pending.path name
    let followed ← objects.foldlM
      (addRelated assembler fields declared.target subtree path) assembly
    if showsLinkage assembler fields pending.resourceType name then
      let linkage := Linkage.ofIdentifiers declared.toMany
        (objects.map (assembler.identify declared.target))
      pure (followed.modifyAt pending.slot fun node =>
        { node with
          relationships := Dictionary.insert name linkage node.relationships })
    else pure followed

/-- Follows all relationships that the include tree asks for at the place of an
object. -/
def expand
    (assembler : Assembler Object)
    (fields : FieldSelection)
    (assembly : Assembly Object)
    (pending : Pending Object) : Except AssemblyError (Assembly Object) :=
  pending.tree.children.foldlM (followRelationship assembler fields pending)
    assembly

/-- Expands level after level, as many as given. -/
def expandLevels
    (assembler : Assembler Object)
    (fields : FieldSelection) :
    Nat → Assembly Object → Except AssemblyError (Assembly Object)
  | 0, assembly => .ok assembly
  | levels + 1, assembly => do
    let expanded ← assembly.queue.foldlM (expand assembler fields)
        { assembly with queue := [] }
    expandLevels assembler fields levels expanded

/-- Assembles the primary objects and what the include tree reaches from
them. -/
def run
    (assembler : Assembler Object)
    (specification : QuerySpecification)
    (objects : List Object) : Except AssemblyError (Assembly Object) := do
  let begun ← objects.foldlM (addPrimary assembler specification) empty
  expandLevels assembler specification.fields specification.inclusion.depth
    begun

end Assembly

namespace Assembler

variable {Object : Type}

/-- The document of a single primary object, or of its absence. -/
def assembleOne
    (assembler : Assembler Object)
    (specification : QuerySpecification)
    (object : Option Object) : Except AssemblyError Document := do
  let assembly ← Assembly.run assembler specification object.toList
  pure (.ofNodes (.single assembly.primary.getLast?) assembly.included)

/-- The document of a list of primary objects. -/
def assembleCollection
    (assembler : Assembler Object)
    (specification : QuerySpecification)
    (objects : List Object) : Except AssemblyError Document := do
  let assembly ← Assembly.run assembler specification objects
  pure (.ofNodes (.collection assembly.primary) assembly.included)

/-- The assembler of the records of a store. -/
def ofStore
    (schema : Schema)
    (store : Store)
    (policy : LinkagePolicy) : Assembler Record where
  schema := schema
  reader :=
    { identifierOf := fun _ record => record.id
      attributeOf := fun _ record name =>
        Dictionary.find? record.attributes name }
  accessor := fun resourceType record name =>
    (store.resolve resourceType record name).mapError StoreError.message
  policy := policy

end Assembler

/-!
## Error documents

A refused request and a failed assembly are told to a client as a list of
error objects.
-/

/-- One error as it is told to a client. -/
structure ErrorObject where
  code : String
  title : String
  detail : String
  /-- The query parameter at fault, if one is known. -/
  parameter : Option String
deriving DecidableEq

/-- The errors of a response. -/
structure ErrorDocument where
  errors : List ErrorObject
deriving DecidableEq

/-- The error object of a validation error. -/
def ValidationError.toObject (error : ValidationError) : ErrorObject :=
  ⟨error.code, "Invalid query parameter", error.message, some error.parameter⟩

namespace ErrorDocument

/-- The error document of a refused request. -/
def ofQueryError (error : QueryError) : ErrorDocument :=
  match error with
  | .validation report => ⟨report.errors.map ValidationError.toObject⟩
  | .overBudget .. => ⟨[⟨error.code, "Query too complex", error.message, none⟩]⟩

/-- The error document of a failed assembly. -/
def ofAssemblyError (error : AssemblyError) : ErrorDocument :=
  ⟨[⟨error.code, "Document assembly failed", error.message, none⟩]⟩

end ErrorDocument

/-- An error object with its members in the order in which they are written. -/
def ErrorObject.outline (error : ErrorObject) : Json.Outline :=
  let source :=
    match error.parameter with
    | some parameter =>
        [("source", Json.Outline.record [("parameter", .text parameter)])]
    | none => []
  .record ([("code", .text error.code), ("title", .text error.title),
    ("detail", .text error.detail)] ++ source)

/-- An error document with its members in the order in which they are
written. -/
def ErrorDocument.outline (document : ErrorDocument) : Json.Outline :=
  .record [("errors", .list (document.errors.map ErrorObject.outline))]

/-- An error document as JSON. -/
def ErrorDocument.toJson (document : ErrorDocument) : Json :=
  document.outline.value

/-!
## Links between pages

The links of a page lead to the page itself, to the first and the last page,
and, where there are such, to the pages before and behind it.  A link is the
URL of the request with the two page parameters replaced; its other parameters
keep their order.
-/

namespace Page

/-- The name of the parameter that holds the page number. -/
def numberParameter : String := "page[number]"

/-- The name of the parameter that holds the page size. -/
def sizeParameter : String := "page[size]"

/-- The pairs of a query string with the page parameters replaced. -/
def replaceIn
    (pairs : List (String × String))
    (number size : Nat) : List (String × String) :=
  pairs.filter
    (fun pair => pair.1 ≠ numberParameter ∧ pair.1 ≠ sizeParameter) ++
    [(numberParameter, toString number), (sizeParameter, toString size)]

/-- The URL of another page of the same request. -/
def url (base : Url) (number size : Nat) : Url :=
  base.withQuery
    (Form.print (replaceIn (Form.parse (base.query.getD [])) number size))

/-- The number of the page before this one, which is not behind the last
page. -/
def previousNumber? (page : Page) (total : Nat) : Option Nat :=
  if 1 < page.number then some (min (page.number - 1) (page.lastNumber total))
    else none

/-- The number of the page behind this one. -/
def nextNumber? (page : Page) (total : Nat) : Option Nat :=
  if page.number < page.lastNumber total then some (page.number + 1) else none

/-- The page numbers that the links of a page lead to, in the order of the
links' names. -/
def linkNumbers (page : Page) (total : Nat) : List (String × Nat) :=
  let optional (name : String) (number : Option Nat) : List (String × Nat) :=
    number.toList.map fun number => (name, number)
  [("first", 1), ("last", page.lastNumber total)] ++
    optional "next" (page.nextNumber? total) ++
      optional "prev" (page.previousNumber? total) ++
    [("self", page.number)]

/-- The links of a page. -/
def links (base : Url) (page : Page) (total : Nat) : List (String × String) :=
  Dictionary.mapValues (fun number => (url base number page.size).text)
    (page.linkNumbers total)

end Page

end JsonApi
