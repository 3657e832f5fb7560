import JsonApi.Document.Assembly

/-!
# The work queue of an assembly

Here a document grows in place.  One queue holds the objects to expand.  The
first of them is taken out and expanded, what its relationships lead to joins
the queue at its end, and the work is done when the queue is empty.  When a
step is refused, what was done before stays done.

The accessor is live: it answers in a world that every call may change, so
that the same question may have another answer the next time.  The assembler
of the level-wise assembly is the case of a world that there is nothing to
know about.

A slot is an index into a list that grows.  Reading or writing a slot that the
list does not reach is an outcome of its own (`Stop.vacant`).
-/

namespace JsonApi

/-- Why work on a document stopped before its end. -/
inductive Stop where
  | refused (error : AssemblyError)
  /-- A slot was used that has no resource object. -/
  | vacant (slot : Slot)
deriving DecidableEq

/-- A document under construction, in the world that the accessor answers in. -/
structure Workspace (World Object : Type) where
  assembly : Assembly Object
  world : World

/-- Work on a document; what was done before a stop stays done. -/
abbrev Work (World Object : Type) := EStateM Stop (Workspace World Object)

/-- An assembler whose accessor answers in a world and may change it. -/
structure LiveAssembler (World Object : Type) where
  schema : Schema
  reader : ObjectReader Object
  accessor : String → Object → String → World →
    Except String (Related Object) × World
  policy : LinkagePolicy

/-- The accessor answers as ever, in a world that there is nothing to know
about. -/
def Assembler.live
    {Object : Type}
    (assembler : Assembler Object) :
    LiveAssembler Unit Object where
  schema := assembler.schema
  reader := assembler.reader
  accessor resourceType object name world :=
    (assembler.accessor resourceType object name, world)
  policy := assembler.policy

namespace Work

variable {World Object : Type}

/-- Changes the document. -/
def amend (change : Assembly Object → Assembly Object) :
    Work World Object Unit :=
  modify fun workspace =>
    { workspace with assembly := change workspace.assembly }

/-- The resource object in a slot. -/
def nodeAt (slot : Slot) : Work World Object ResourceNode := do
  match (← get).assembly.nodeAt? slot with
  | some node => pure node
  | none => throw (.vacant slot)

/-- Writes the linkage of one relationship into the resource object in a
slot. -/
def writeLinkage
    (slot : Slot)
    (name : String)
    (linkage : Linkage) : Work World Object Unit := do
  let _ ← nodeAt slot
  amend fun assembly => assembly.modifyAt slot fun node =>
    { node with
        relationships := Dictionary.insert name linkage node.relationships }

end Work

namespace LiveAssembler

open Work

variable {World Object : Type}

/-- The assembler that finds the world as it is, time and again. -/
def seeing
    (assembler : LiveAssembler World Object)
    (world : World) : Assembler Object where
  schema := assembler.schema
  reader := assembler.reader
  accessor resourceType object name :=
    (assembler.accessor resourceType object name world).1
  policy := assembler.policy

/-- The identifier of an object of the given type. -/
def identify
    (assembler : LiveAssembler World Object)
    (resourceType : String)
    (object : Object) :
    ResourceIdentifier :=
  ⟨resourceType, assembler.reader.identifierOf resourceType object⟩

/-- What the accessor answers; the world goes on. -/
def ask
    (assembler : LiveAssembler World Object)
    (resourceType : String)
    (object : Object)
    (name : String) : Work World Object (Except String (Related Object)) :=
  modifyGet fun workspace =>
    let (answer, world) :=
      assembler.accessor resourceType object name workspace.world
    (answer, { workspace with world := world })

/-- The objects that a relationship leads to; an error names the resource
object, whose `id` is found out only then. -/
def related
    (assembler : LiveAssembler World Object)
    (resourceType : String)
    (object : Object)
    (name : String)
    (id : Work World Object String) : Work World Object (List Object) := do
  match ← assembler.ask resourceType object name with
  | .ok found => pure found.objects
  | .error cause =>
      throw (.refused (.unresolved resourceType (← id) name cause))

/-- The linkage of one declared relationship. -/
def linkageOf
    (assembler : LiveAssembler World Object)
    (resourceType id : String)
    (object : Object)
    (declared : String × Relationship) :
    Work World Object (String × Linkage) := do
  let objects ← assembler.related resourceType object declared.1 (pure id)
  let target := declared.2.target
  pure (declared.1, .ofIdentifiers declared.2.toMany
      (objects.map (assembler.identify target)))

/-- The resource object of an object, with the fields that the selection
allows. -/
def project
    (assembler : LiveAssembler World Object)
    (fields : FieldSelection)
    (resourceType : String)
    (object : Object) : Work World Object ResourceNode :=
  match assembler.schema.attributesOf? resourceType with
  | none => throw (.refused (.unknownResourceType resourceType))
  | some attributes => do
    let id := assembler.reader.identifierOf resourceType object
    let shown := attributes.filter (fields.allows resourceType)
    let values := shown.filterMap fun name =>
      (assembler.reader.attributeOf resourceType object name).map fun value =>
        (name, value)
    let declared := (assembler.schema.relationshipsOf? resourceType).getD []
    let visible := declared.filter fun entry =>
      fields.allows resourceType entry.1
    let linkages ←
      if assembler.policy = .always then
        visible.mapM (assembler.linkageOf resourceType id object)
      else pure []
    pure ⟨resourceType, id, values, linkages⟩

/-- Adds a primary object; one that repeats an earlier one is shown and not
expanded. -/
def addPrimary
    (assembler : LiveAssembler World Object)
    (specification : QuerySpecification)
    (resourceType : String)
    (object : Object) : Work World Object Unit := do
  let node ← assembler.project specification.fields resourceType object
  amend fun assembly => { assembly with primary := assembly.primary ++ [node] }
  let shown := (← get).assembly
  match shown.slotOf? node.identifier with
  | some _ => pure ()
  | none =>
    let slot := Slot.primary (shown.primary.length - 1)
    amend fun assembly =>
      { assembly with slots := (node.identifier, slot) :: assembly.slots }
    amend fun assembly => assembly.enqueue node.identifier
      ⟨resourceType, object, slot, specification.inclusion, ""⟩

/-- Adds the primary objects. -/
def addPrimaries
    (assembler : LiveAssembler World Object)
    (specification : QuerySpecification)
    (objects : List Object) : Work World Object Unit :=
  forM objects (assembler.addPrimary specification specification.resourceType)

/-- Gives a related object a slot, if it has none. -/
def place
    (assembler : LiveAssembler World Object)
    (fields : FieldSelection)
    (resourceType : String)
    (object : Object) : Work World Object Slot := do
  let identifier := assembler.identify resourceType object
  match (← get).assembly.slotOf? identifier with
  | some slot => pure slot
  | none =>
    let node ← assembler.project fields resourceType object
    let slot := Slot.included (← get).assembly.included.length
    amend fun assembly =>
      { assembly with
        included := assembly.included ++ [node]
        slots := (identifier, slot) :: assembly.slots }
    pure slot

/-- Places a related object and queues it for the tree behind the
relationship. -/
def addRelated
    (assembler : LiveAssembler World Object)
    (fields : FieldSelection)
    (resourceType : String)
    (tree : IncludeTree)
    (path : String)
    (object : Object) :
    Work World Object Unit := do
  let slot ← assembler.place fields resourceType object
  amend fun assembly =>
    assembly.enqueue (assembler.identify resourceType object)
    ⟨resourceType, object, slot, tree, path⟩

/-- Whether included relationships of a resource object carry linkage. -/
def showsLinkage
    (assembler : LiveAssembler World Object)
    (fields : FieldSelection)
    (resourceType name : String) : Bool :=
  assembler.policy ≠ .never && fields.allows resourceType name

/-- Follows one relationship of an object. -/
def followRelationship
    (assembler : LiveAssembler World Object)
    (fields : FieldSelection)
    (pending : Pending Object)
    (branch : String × IncludeTree) : Work World Object Unit := do
  let (name, subtree) := branch
  match assembler.schema.relationship? pending.resourceType name with
  | none => throw (.refused (.unknownRelationship pending.resourceType name))
  | some declared =>
    let objects ← assembler.related pending.resourceType pending.object name
      (ResourceNode.id <$> nodeAt pending.slot)
    let path := Assembly.pathBelow pending.path name
    forM objects (assembler.addRelated fields declared.target subtree path)
    if assembler.showsLinkage fields pending.resourceType name then
      writeLinkage pending.slot name (.ofIdentifiers declared.toMany
        (objects.map (assembler.identify declared.target)))

/-- Follows all relationships that the include tree asks for at the place of an
object. -/
def expand
    (assembler : LiveAssembler World Object)
    (fields : FieldSelection)
    (pending : Pending Object) : Work World Object Unit :=
  forM pending.tree.children (assembler.followRelationship fields pending)

end LiveAssembler

/-- The workspace with another queue. -/
def Workspace.withQueue
    {World Object : Type}
    (workspace : Workspace World Object)
    (queue : List (Pending Object)) : Workspace World Object :=
  { workspace with assembly := { workspace.assembly with queue := queue } }

/-- The expansion of an object, in the workspace that it was taken out of the
queue of. -/
structure Turn (World Object : Type) where
  pending : Pending Object
  workspace : Workspace World Object

namespace LiveAssembler

variable {World Object : Type}

/-- Works on a queue until it is empty or a step is refused: the turns that are
taken, what the work ends with, and the workspace at the end. -/
inductive Drains
    (assembler : LiveAssembler World Object)
    (fields : FieldSelection) :
    Workspace World Object → List (Turn World Object) → Except Stop Unit →
      Workspace World Object → Prop where
  | done
      {workspace : Workspace World Object}
      (drained : workspace.assembly.queue = []) :
      Drains assembler fields workspace [] (.ok ()) workspace
  | stop
      {workspace final : Workspace World Object}
      {pending : Pending Object}
      {rest : List (Pending Object)}
      {stop : Stop}
      (front : workspace.assembly.queue = pending :: rest)
      (stopped :
        (assembler.expand fields pending).run (workspace.withQueue rest) =
          .error stop final) :
      Drains assembler fields workspace [⟨pending, workspace.withQueue rest⟩]
        (.error stop) final
  | next
      {workspace expanded final : Workspace World Object}
      {pending : Pending Object}
      {rest : List (Pending Object)}
      {turns : List (Turn World Object)}
      {outcome : Except Stop Unit}
      (front : workspace.assembly.queue = pending :: rest)
      (succeeded :
        (assembler.expand fields pending).run (workspace.withQueue rest) =
          .ok () expanded)
      (others : Drains assembler fields expanded turns outcome final) :
      Drains assembler fields workspace
        (⟨pending, workspace.withQueue rest⟩ :: turns) outcome final

/-- Assembles the primary objects and what the include tree reaches from
them. -/
inductive Assembles
    (assembler : LiveAssembler World Object)
    (specification : QuerySpecification)
    (objects : List Object)
    (world : World) :
    List (Turn World Object) → Except Stop Unit → Workspace World Object →
      Prop where
  | refused
      {final : Workspace World Object}
      {stop : Stop}
      (stopped :
        (assembler.addPrimaries specification objects).run ⟨.empty, world⟩ =
          .error stop final) :
      Assembles assembler specification objects world [] (.error stop) final
  | worked
      {begun final : Workspace World Object}
      {turns : List (Turn World Object)}
      {outcome : Except Stop Unit}
      (succeeded :
        (assembler.addPrimaries specification objects).run ⟨.empty, world⟩ =
          .ok () begun)
      (drains :
          assembler.Drains specification.fields begun turns outcome final) :
      Assembles assembler specification objects world turns outcome final

end LiveAssembler

end JsonApi
