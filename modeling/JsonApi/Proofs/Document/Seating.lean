import JsonApi.Proofs.Document.Projection

/-!
# Slots and resource objects

Whatever the objects, the accessor and the include tree are, the slot table of
an assembly leads from an identifier to the resource object that bears it
(`Seated`), every resource object is in the table, and the included ones are
told apart by their identifiers and differ from the primary ones
(`Registered`).
-/

namespace JsonApi

variable {Object : Type}

/-- The resource object with the linkage of one more relationship. -/
def ResourceNode.withLinkage
    (name : String)
    (linkage : Linkage)
    (node : ResourceNode) :
    ResourceNode :=
  { node with
      relationships := Dictionary.insert name linkage node.relationships }

@[simp]
theorem ResourceNode.withLinkage_identifier
    (name : String)
    (linkage : Linkage)
    (node : ResourceNode) :
    (node.withLinkage name linkage).identifier = node.identifier := rfl

namespace Assembly

/-- The identifiers of the primary resource objects. -/
def primaryIdentifiers (assembly : Assembly Object) : List ResourceIdentifier :=
  assembly.primary.map ResourceNode.identifier

/-- The identifiers of the included resource objects. -/
def includedIdentifiers (assembly : Assembly Object) :
    List ResourceIdentifier :=
  assembly.included.map ResourceNode.identifier

/-- All resource objects, the primary ones first. -/
def nodes (assembly : Assembly Object) : List ResourceNode :=
  assembly.primary ++ assembly.included

variable {assembly : Assembly Object}

theorem mem_nodes_iff {node : ResourceNode} :
    node ∈ assembly.nodes ↔ ∃ slot, assembly.nodeAt? slot = some node := by
  rw [nodes, List.mem_append, List.mem_iff_getElem?, List.mem_iff_getElem?]
  constructor
  · rintro (⟨index, found⟩ | ⟨index, found⟩)
    · exact ⟨.primary index, found⟩
    · exact ⟨.included index, found⟩
  · rintro ⟨slot, found⟩
    cases slot with
    | primary index => exact Or.inl ⟨index, found⟩
    | included index => exact Or.inr ⟨index, found⟩

/-- Changing the resource object in a slot leaves those in other slots alone. -/
theorem nodeAt?_modifyAt
    (assembly : Assembly Object)
    (slot other : Slot)
    (change : ResourceNode → ResourceNode) :
    (assembly.modifyAt slot change).nodeAt? other =
      if other = slot then (assembly.nodeAt? other).map change
        else assembly.nodeAt? other := by
  cases slot with
  | primary index =>
      cases other with
      | primary position =>
          by_cases here : index = position
          · simp [modifyAt, nodeAt?, here]
          · simp [modifyAt, nodeAt?, here, Ne.symm here]
      | included position => simp [modifyAt, nodeAt?]
  | included index =>
      cases other with
      | primary position => simp [modifyAt, nodeAt?]
      | included position =>
          by_cases here : index = position
          · simp [modifyAt, nodeAt?, here]
          · simp [modifyAt, nodeAt?, here, Ne.symm here]

theorem nodeAt?_writeLinkage
    (assembly : Assembly Object)
    (slot other : Slot)
    (name : String)
    (linkage : Linkage) :
    (assembly.writeLinkage slot name linkage).nodeAt? other =
      if other = slot then
        (assembly.nodeAt? other).map (ResourceNode.withLinkage name linkage)
      else assembly.nodeAt? other :=
  nodeAt?_modifyAt assembly slot other _

theorem map_identifier_modify
    (nodes : List ResourceNode)
    (index : Nat)
    (name : String)
    (linkage : Linkage) :
    (nodes.modify index (ResourceNode.withLinkage name linkage)).map
      ResourceNode.identifier =
      nodes.map ResourceNode.identifier := by
  apply List.ext_getElem?
  intro position
  rw [List.getElem?_map, List.getElem?_map, List.getElem?_modify]
  cases nodes[position]? with
  | none => rfl
  | some node =>
      by_cases here : index = position
      · simp [here]
      · simp [here]

section

variable (assembly : Assembly Object) (slot : Slot) (name : String)
  (linkage : Linkage)

@[simp]
theorem writeLinkage_slots :
    (assembly.writeLinkage slot name linkage).slots = assembly.slots := by
  cases slot <;> rfl

@[simp]
theorem writeLinkage_expanded :
    (assembly.writeLinkage slot name linkage).expanded = assembly.expanded := by
  cases slot <;> rfl

@[simp]
theorem writeLinkage_queue :
    (assembly.writeLinkage slot name linkage).queue = assembly.queue := by
  cases slot <;> rfl

@[simp]
theorem writeLinkage_primaryIdentifiers :
    (assembly.writeLinkage slot name linkage).primaryIdentifiers =
      assembly.primaryIdentifiers := by
  cases slot with
  | primary index =>
      exact map_identifier_modify assembly.primary index name linkage
  | included index => rfl

@[simp]
theorem writeLinkage_includedIdentifiers :
    (assembly.writeLinkage slot name linkage).includedIdentifiers =
      assembly.includedIdentifiers := by
  cases slot with
  | primary index => rfl
  | included index =>
      exact map_identifier_modify assembly.included index name linkage

end

/-- Including a resource object leaves the others in their slots. -/
theorem nodeAt?_include
    {slot : Slot}
    {held : ResourceNode}
    (found : assembly.nodeAt? slot = some held)
    (node : ResourceNode)
    (slots : List (ResourceIdentifier × Slot)) :
    nodeAt? { assembly with
        included := assembly.included ++ [node], slots := slots } slot =
      some held := by
  cases slot with
  | primary index => exact found
  | included index =>
      simp only [nodeAt?] at found ⊢
      rw [List.getElem?_append_left (List.getElem?_eq_some_iff.mp found).1]
      exact found

theorem nodeAt?_show
    {slot : Slot}
    {held : ResourceNode}
    (found : assembly.nodeAt? slot = some held)
    (node : ResourceNode)
    (slots : List (ResourceIdentifier × Slot)) :
    nodeAt? { assembly with
        primary := assembly.primary ++ [node], slots := slots } slot =
      some held := by
  cases slot with
  | primary index =>
      simp only [nodeAt?] at found ⊢
      rw [List.getElem?_append_left (List.getElem?_eq_some_iff.mp found).1]
      exact found
  | included index => exact found

@[simp]
theorem nodeAt?_enqueue
    (assembly : Assembly Object)
    (identifier : ResourceIdentifier)
    (pending : Pending Object)
    (slot : Slot) :
    (assembly.enqueue identifier pending).nodeAt? slot =
      assembly.nodeAt? slot := by
  cases slot <;> simp [nodeAt?]

/-- What is queued by one step is the given object, or was queued before. -/
theorem mem_queue_enqueue
    {identifier : ResourceIdentifier}
    {pending other : Pending Object}
    (queued : other ∈ (assembly.enqueue identifier pending).queue) :
    other = pending ∨ other ∈ assembly.queue := by
  rw [enqueue] at queued
  split at queued
  · exact Or.inr queued
  · rcases List.mem_append.mp queued with old | new
    · exact Or.inr old
    · exact Or.inl (List.mem_singleton.mp new)

/-! ## Slots lead to resource objects -/

/-- Slots hold the resource objects they were made for, and what is worked on or
waits is sent to the slot of its object. -/
structure Seated
    (assembler : Assembler Object)
    (working : List (Pending Object))
    (assembly : Assembly Object) : Prop where
  held : ∀ {identifier : ResourceIdentifier} {slot : Slot},
    assembly.slotOf? identifier = some slot →
      ∃ node, assembly.nodeAt? slot = some node ∧ node.identifier = identifier
  addressed : ∀ pending, pending ∈ working ∨ pending ∈ assembly.queue →
    assembly.slotOf? (assembler.identifierOf pending.visit) = some pending.slot

variable {assembler : Assembler Object} {working : List (Pending Object)}

theorem seated_empty : Seated assembler [] (empty : Assembly Object) where
  held found := by cases found
  addressed pending member := by simp [empty] at member

/-- Different identifiers have different slots. -/
theorem Seated.identifier_eq
    (seated : Seated assembler working assembly)
    {first second : ResourceIdentifier}
    {slot : Slot}
    (firstSlot : assembly.slotOf? first = some slot)
    (secondSlot : assembly.slotOf? second = some slot) :
    first = second := by
  rcases seated.held firstSlot with ⟨node, found, firstIdentified⟩
  rcases seated.held secondSlot with ⟨again, foundAgain, secondIdentified⟩
  rw [found] at foundAgain
  cases foundAgain
  exact firstIdentified.symm.trans secondIdentified

/-- A slot is added for a resource object that was added. -/
theorem Seated.assign
    (seated : Seated assembler working assembly)
    {next : Assembly Object}
    {slot : Slot}
    {node : ResourceNode}
    {identifier : ResourceIdentifier}
    (identified : node.identifier = identifier)
    (absent : assembly.slotOf? identifier = none)
    (slots : next.slots = (identifier, slot) :: assembly.slots)
    (sameQueue : next.queue = assembly.queue)
    (sameNodes : ∀ {other : Slot} {held : ResourceNode},
      assembly.nodeAt? other = some held → next.nodeAt? other = some held)
    (added : next.nodeAt? slot = some node) :
    Seated assembler working next where
  held := by
    intro other place found
    rw [slotOf?, slots, Dictionary.lookup_cons_eq_if] at found
    split at found
    · rename_i same
      cases found
      exact ⟨node, added, identified.trans same.symm⟩
    · rcases seated.held found with ⟨held, isHeld, heldIdentified⟩
      exact ⟨held, sameNodes isHeld, heldIdentified⟩
  addressed := by
    intro pending member
    rw [sameQueue] at member
    have found := seated.addressed pending member
    have different : assembler.identifierOf pending.visit ≠ identifier := by
      intro same
      rw [same, absent] at found
      cases found
    rw [slotOf?, slots, Dictionary.lookup_cons_eq_if, if_neg different]
    exact found

theorem Seated.discover
    (seated : Seated assembler working assembly)
    {node : ResourceNode}
    {identifier : ResourceIdentifier}
    (identified : node.identifier = identifier)
    (absent : assembly.slotOf? identifier = none) :
    Seated assembler working
      { assembly with
        included := assembly.included ++ [node]
        slots := (identifier, .included assembly.included.length) ::
          assembly.slots } :=
  seated.assign identified absent rfl rfl
    (fun found => nodeAt?_include found _ _) (by simp [nodeAt?])

theorem Seated.placePrimary
    (seated : Seated assembler working assembly)
    {node : ResourceNode}
    {identifier : ResourceIdentifier}
    (identified : node.identifier = identifier)
    (absent : assembly.slotOf? identifier = none) :
    Seated assembler working
      { assembly with
        primary := assembly.primary ++ [node]
        slots :=
          (identifier, .primary assembly.primary.length) :: assembly.slots } :=
  seated.assign identified absent rfl rfl (fun found => nodeAt?_show found _ _)
    (by simp [nodeAt?])

theorem Seated.repeatPrimary
    (seated : Seated assembler working assembly)
    (node : ResourceNode) :
    Seated assembler working
      { assembly with primary := assembly.primary ++ [node] } where
  held := by
    intro identifier slot found
    rcases seated.held found with ⟨held, isHeld, identified⟩
    exact ⟨held, nodeAt?_show isHeld node assembly.slots, identified⟩
  addressed := seated.addressed

theorem Seated.enqueue
    (seated : Seated assembler working assembly)
    {pending : Pending Object}
    (addressed : assembly.slotOf? (assembler.identifierOf pending.visit) =
      some pending.slot) :
    Seated assembler working
      (assembly.enqueue (assembler.identifierOf pending.visit) pending) where
  held := by
    intro identifier slot found
    rw [slotOf?, enqueue_slots] at found
    rcases seated.held found with ⟨node, isHeld, identified⟩
    exact ⟨node, by rwa [nodeAt?_enqueue], identified⟩
  addressed := by
    intro other member
    rw [slotOf?, enqueue_slots]
    rcases member with isWorked | queued
    · exact seated.addressed other (Or.inl isWorked)
    · rcases mem_queue_enqueue queued with isNew | old
      · rw [isNew]
        exact addressed
      · exact seated.addressed other (Or.inr old)

theorem Seated.writeLinkage
    (seated : Seated assembler working assembly)
    (slot : Slot)
    (name : String)
    (linkage : Linkage) :
    Seated assembler working (assembly.writeLinkage slot name linkage) where
  held := by
    intro identifier other found
    rw [slotOf?, writeLinkage_slots] at found
    rcases seated.held found with ⟨node, isHeld, identified⟩
    rw [nodeAt?_writeLinkage]
    split
    · exact ⟨node.withLinkage name linkage, by rw [isHeld]; rfl, identified⟩
    · exact ⟨node, isHeld, identified⟩
  addressed := by
    intro pending member
    rw [writeLinkage_queue] at member
    rw [slotOf?, writeLinkage_slots]
    exact seated.addressed pending member

/-- The next level works on what waits. -/
theorem Seated.startLevel (seated : Seated assembler working assembly) :
    Seated assembler assembly.queue { assembly with queue := [] } where
  held := seated.held
  addressed := by
    intro pending member
    rcases member with isWorked | absurdity
    · exact seated.addressed pending (Or.inr isWorked)
    · cases absurdity

theorem Seated.endLevel (seated : Seated assembler working assembly) :
    Seated assembler [] assembly where
  held := seated.held
  addressed := by
    intro pending member
    rcases member with absurdity | queued
    · cases absurdity
    · exact seated.addressed pending (Or.inr queued)

/-! ## The table of resource objects -/

/-- The slot table knows every resource object, and no included one repeats
another. -/
structure Registered (assembly : Assembly Object) : Prop where
  located : ∀ identifier, (assembly.slotOf? identifier).isSome = true ↔
    identifier ∈ assembly.primaryIdentifiers ∨
      identifier ∈ assembly.includedIdentifiers
  distinct : assembly.includedIdentifiers.Nodup
  disjoint : ∀ identifier ∈ assembly.includedIdentifiers,
    identifier ∉ assembly.primaryIdentifiers

theorem registered_empty : Registered (empty : Assembly Object) where
  located := by simp [primaryIdentifiers, includedIdentifiers, slotOf?, empty]
  distinct := List.nodup_nil
  disjoint := by simp [includedIdentifiers, empty]

theorem Registered.of_eq
    {other : Assembly Object}
    (registered : Registered assembly)
    (sameSlots : other.slots = assembly.slots)
    (samePrimary : other.primaryIdentifiers = assembly.primaryIdentifiers)
    (sameIncluded : other.includedIdentifiers = assembly.includedIdentifiers) :
    Registered other where
  located := by
    intro identifier
    rw [slotOf?, sameSlots, samePrimary, sameIncluded]
    exact registered.located identifier
  distinct := by
    rw [sameIncluded]
    exact registered.distinct
  disjoint := by
    rw [sameIncluded, samePrimary]
    exact registered.disjoint

theorem lookup_cons_isSome
    {identifier added : ResourceIdentifier}
    {slot : Slot}
    {slots : List (ResourceIdentifier × Slot)} :
    (((added, slot) :: slots).lookup identifier).isSome = true ↔
      identifier = added ∨ (slots.lookup identifier).isSome = true := by
  rw [Dictionary.lookup_cons_eq_if]
  by_cases same : identifier = added
  · simp [same]
  · simp [same]

/-- If no primary identifier is repeated, no identifier is. -/
theorem Registered.nodup_nodes
    (registered : Registered assembly)
    (distinct : assembly.primaryIdentifiers.Nodup) :
    (assembly.nodes.map ResourceNode.identifier).Nodup := by
  rw [nodes, List.map_append]
  apply List.nodup_append.mpr
  refine ⟨distinct, registered.distinct, ?_⟩
  intro primary shown included member same
  rw [same] at shown
  exact registered.disjoint included member shown

/-- A resource object without a slot is included, and is given one. -/
theorem Registered.discover
    (registered : Registered assembly)
    {node : ResourceNode}
    {identifier : ResourceIdentifier}
    (identified : node.identifier = identifier)
    (absent : assembly.slotOf? identifier = none)
    (slot : Slot) :
    Registered
      { assembly with
        included := assembly.included ++ [node]
        slots := (identifier, slot) :: assembly.slots } := by
  have included :
      includedIdentifiers
          { assembly with
            included := assembly.included ++ [node]
            slots := (identifier, slot) :: assembly.slots } =
        assembly.includedIdentifiers ++ [identifier] := by
    simp [includedIdentifiers, identified]
  have unknown :
      identifier ∉ assembly.primaryIdentifiers ∧
        identifier ∉ assembly.includedIdentifiers := by
    rw [← not_or, ← registered.located, absent]
    simp
  refine ⟨?_, ?_, ?_⟩
  · intro other
    rw [slotOf?, lookup_cons_isSome, included, List.mem_append,
      List.mem_singleton]
    have before := registered.located other
    rw [slotOf?] at before
    rw [before]
    tauto
  · rw [included]
    exact List.nodup_append.mpr ⟨registered.distinct, List.nodup_singleton _,
      fun _ old _ new same =>
        unknown.2 (by rwa [← List.mem_singleton.mp new, ← same])⟩
  · rw [included]
    intro other member
    rcases List.mem_append.mp member with old | new
    · exact registered.disjoint other old
    · rw [List.mem_singleton.mp new]
      exact unknown.1

/-- A primary resource object is shown with its slot, which either was there or
is made now. -/
theorem Registered.showPrimary
    {node : ResourceNode}
    {slots : List (ResourceIdentifier × Slot)}
    (registered : Registered assembly)
    {identifier : ResourceIdentifier}
    (identified : node.identifier = identifier)
    (noneIncluded : assembly.included = [])
    (slotted :
      ∀ other, (slots.lookup other).isSome = true ↔
        other = identifier ∨ (assembly.slotOf? other).isSome = true) :
    Registered { assembly with
        primary := assembly.primary ++ [node], slots := slots } := by
  have included :
      includedIdentifiers
        { assembly with
            primary := assembly.primary ++ [node], slots := slots } = [] := by
    simp [includedIdentifiers, noneIncluded]
  refine ⟨?_, ?_, ?_⟩
  · intro other
    rw [slotOf?, slotted, registered.located other, included]
    simp only [includedIdentifiers, noneIncluded, primaryIdentifiers,
      List.map_append, List.mem_append, List.map_singleton, List.mem_singleton,
      List.map_nil, identified]
    tauto
  · rw [included]
    exact List.nodup_nil
  · rw [included]
    simp

theorem slotted_of_present
    {present : ResourceIdentifier}
    (hasSlot : (assembly.slotOf? present).isSome = true)
    (identifier : ResourceIdentifier) :
    (assembly.slotOf? identifier).isSome = true ↔
      identifier = present ∨ (assembly.slotOf? identifier).isSome = true := by
  constructor
  · exact Or.inr
  · rintro (isPresent | other)
    · rw [isPresent]
      exact hasSlot
    · exact other

end Assembly

end JsonApi
