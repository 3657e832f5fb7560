import JsonApi.Proofs.Document.Coherence

/-!
# Sparse fieldsets

What a field selection hides has no influence on what is assembled.  The
document of a selection is the document of all fields, cut down afterwards
(`assembleCollection_restrict`), and the policy on linkage does not decide
either which resources are shown.

Both are instances of one statement.  Where projecting and writing linkage for
one policy and selection are those for another one, seen through a change of
resource objects, the runs proceed side by side (`run_mapNodes`).
-/

namespace JsonApi

open Assembler

variable {Object : Type}

/-- The resource object with the fields that a selection allows. -/
def ResourceNode.restrict
    (fields : FieldSelection)
    (node : ResourceNode) : ResourceNode :=
  { node with
    attributes := node.attributes.filter fun entry =>
      fields.allows node.resourceType entry.1
    relationships :=
      node.relationships.filter fun entry =>
        fields.allows node.resourceType entry.1 }

/-- The resource object without linkage. -/
def ResourceNode.unlinked (node : ResourceNode) : ResourceNode :=
  { node with relationships := [] }

/-- The primary data with every resource object changed. -/
def PrimaryData.mapNodes (change : ResourceNode → ResourceNode) :
    PrimaryData → PrimaryData
  | single node => single (node.map change)
  | collection nodes => collection (nodes.map change)

namespace Document

/-- The document with every resource object changed. -/
def mapNodes
    (change : ResourceNode → ResourceNode)
    (document : Document) : Document :=
  { document with
    data := document.data.mapNodes change
    included := document.included.map change }

/-- The document with the fields that a selection allows. -/
def restrict (fields : FieldSelection) (document : Document) : Document :=
  document.mapNodes (ResourceNode.restrict fields)

/-- The identifiers of the primary and of the included resource objects, in
order. -/
def identifiers (document : Document) :
    List ResourceIdentifier × List ResourceIdentifier :=
  (document.data.nodes.map ResourceNode.identifier,
    document.included.map ResourceNode.identifier)

theorem identifiers_mapNodes
    {change : ResourceNode → ResourceNode}
    (keeps : ∀ node, (change node).identifier = node.identifier)
    (document : Document) :
    (document.mapNodes change).identifiers = document.identifiers := by
  obtain ⟨data, included, links, information⟩ := document
  cases data with
  | single node =>
      cases node <;> simp [identifiers, mapNodes, PrimaryData.mapNodes,
          PrimaryData.nodes, keeps]
  | collection nodes =>
      simp [identifiers, mapNodes, PrimaryData.mapNodes, PrimaryData.nodes,
        keeps]

theorem map_identifiers_mapNodes
    {ε : Type}
    {change : ResourceNode → ResourceNode}
    (keeps : ∀ node, (change node).identifier = node.identifier)
    (computation : Except ε Document) :
    (computation.map (mapNodes change)).map identifiers =
      computation.map identifiers := by
  cases computation with
  | error error => rfl
  | ok document =>
      exact congrArg Except.ok (identifiers_mapNodes keeps document)

end Document

namespace Assembly

/-- Projecting and writing linkage for another policy and selection, seen
through a change. -/
structure Parallel
    (assembler : Assembler Object)
    (fields : FieldSelection)
    (policy : LinkagePolicy)
    (other : FieldSelection)
    (change : ResourceNode → ResourceNode) : Prop where
  identifier : ∀ node, (change node).identifier = node.identifier
  projects : ∀ resourceType object,
    { assembler with policy := policy }.project other resourceType object =
      (assembler.project fields resourceType object).map change
  writes : ∀ node name linkage, node.Fits assembler.schema →
    change
        (if showsLinkage assembler fields node.resourceType name = true then
          node.withLinkage name linkage
        else node) =
      if showsLinkage { assembler with policy := policy } other
        node.resourceType name = true then
        (change node).withLinkage name linkage
      else change node

/-- The assembly with every resource object changed. -/
def mapNodes
    (change : ResourceNode → ResourceNode)
    (assembly : Assembly Object) :
    Assembly Object :=
  { assembly with
    primary := assembly.primary.map change
    included := assembly.included.map change }

theorem nodeAt?_mapNodes
    (change : ResourceNode → ResourceNode)
    (assembly : Assembly Object)
    (slot : Slot) :
    (assembly.mapNodes change).nodeAt? slot =
      (assembly.nodeAt? slot).map change := by
  cases slot <;> simp [nodeAt?, mapNodes]

theorem enqueue_mapNodes
    (change : ResourceNode → ResourceNode)
    (assembly : Assembly Object)
    (identifier : ResourceIdentifier)
    (pending : Pending Object) :
    (assembly.mapNodes change).enqueue identifier pending =
      (assembly.enqueue identifier pending).mapNodes change := by
  rw [enqueue, enqueue, apply_ite (mapNodes change)]
  rfl

theorem modify_map
    {nodes : List ResourceNode}
    {index : Nat}
    {change first second : ResourceNode → ResourceNode}
    (agree : ∀ node, nodes[index]? = some node →
      change (first node) = second (change node)) :
    (nodes.modify index first).map change =
      (nodes.map change).modify index second := by
  apply List.ext_getElem?
  intro position
  rw [List.getElem?_map, List.getElem?_modify, List.getElem?_modify,
    List.getElem?_map]
  cases found : nodes[position]? with
  | none => rfl
  | some node =>
      by_cases here : index = position
      · subst here
        simp [agree node found]
      · simp [here]

theorem modifyAt_mapNodes
    {assembly : Assembly Object}
    {slot : Slot}
    {change first second : ResourceNode → ResourceNode}
    (agree : ∀ node, assembly.nodeAt? slot = some node →
      change (first node) = second (change node)) :
    (assembly.mapNodes change).modifyAt slot second =
      (assembly.modifyAt slot first).mapNodes change := by
  cases slot with
  | primary index => simp [modifyAt, mapNodes, modify_map agree]
  | included index => simp [modifyAt, mapNodes, modify_map agree]

variable {assembler : Assembler Object} {fields other : FieldSelection}
  {policy : LinkagePolicy} {change : ResourceNode → ResourceNode}

/-! ## Steps side by side -/

theorem idAt_mapNodes
    (parallel : Parallel assembler fields policy other change)
    (assembly : Assembly Object)
    (slot : Slot) :
    (assembly.mapNodes change).idAt slot = assembly.idAt slot := by
  rw [idAt, idAt, nodeAt?_mapNodes, Option.map_map]
  congr 2
  funext node
  exact congrArg ResourceIdentifier.id (parallel.identifier node)

theorem addRelated_mapNodes
    (parallel : Parallel assembler fields policy other change)
    (resourceType : String)
    (tree : IncludeTree)
    (path : String)
    (assembly : Assembly Object)
    (object : Object) :
    (assembly.mapNodes change).addRelated { assembler with policy := policy }
      other
        resourceType tree path object =
      (assembly.addRelated assembler fields resourceType tree path object).map
        (mapNodes change) := by
  cases found : assembly.slotOf? (assembler.identify resourceType object) with
  | some slot =>
      have sameSlot :
          (assembly.mapNodes change).slotOf?
            ({ assembler with policy := policy }.identify resourceType object) =
              some slot := found
      rw [addRelated_of_present _ _ found, addRelated_of_present _ _ sameSlot]
      exact congrArg Except.ok (enqueue_mapNodes _ _ _ _)
  | none =>
      have sameSlot :
          (assembly.mapNodes change).slotOf?
            ({ assembler with policy := policy }.identify resourceType object) =
              none := found
      have projects := parallel.projects resourceType object
      cases result : assembler.project fields resourceType object with
      | error error =>
          rw [result] at projects
          rw [addRelated_of_error _ _ found result,
            addRelated_of_error _ _ sameSlot projects]
          rfl
      | ok node =>
          rw [result] at projects
          rw [addRelated_of_absent _ _ found result,
            addRelated_of_absent _ _ sameSlot projects]
          change Except.ok (enqueue _ _ _) =
            Except.ok (mapNodes change (enqueue _ _ _))
          rw [← enqueue_mapNodes]
          simp only [mapNodes, List.map_append, List.map_singleton,
            List.length_map]
          rfl

theorem modifyAt_ite
    (assembly : Assembly Object)
    (slot : Slot)
    (shown : Bool)
    (write : ResourceNode → ResourceNode) :
    (if shown = true then assembly.modifyAt slot write else assembly) =
      assembly.modifyAt slot fun node =>
        if shown = true then write node else node := by
  cases shown with
  | true => rfl
  | false =>
      cases slot with
      | primary index =>
          exact congrArg (fun nodes => { assembly with primary := nodes })
            (List.modify_id index assembly.primary).symm
      | included index =>
          exact congrArg (fun nodes => { assembly with included := nodes })
            (List.modify_id index assembly.included).symm

variable {primaries : List ResourceIdentifier} {working : List (Pending Object)}
  {assembly : Assembly Object} {pending : Pending Object}

/-- Linkage is written on both sides, or what is written on one is not seen on
the other. -/
theorem writes_mapNodes
    (parallel : Parallel assembler fields policy other change)
    (coherent : Coherent assembler primaries working assembly)
    (worked : pending ∈ working)
    (name : String)
    (linkage : Linkage) :
    (if showsLinkage { assembler with policy := policy } other
        pending.resourceType name = true
      then (assembly.mapNodes change).modifyAt pending.slot
        (.withLinkage name linkage)
      else assembly.mapNodes change) =
      (if showsLinkage assembler fields pending.resourceType name = true
        then assembly.modifyAt pending.slot (.withLinkage name linkage)
        else assembly).mapNodes change := by
  rw [modifyAt_ite, modifyAt_ite]
  apply modifyAt_mapNodes
  intro node found
  rcases coherent.seated.held
    (coherent.seated.addressed pending (Or.inl worked)) with
    ⟨held, isHeld, identified⟩
  rw [found] at isHeld
  cases isHeld
  -- Whether linkage is written is asked of the pending object, what it changes
  -- of the one shown.
  have sameType : node.resourceType = pending.resourceType :=
    congrArg ResourceIdentifier.resourceType identified
  rw [← sameType]
  exact parallel.writes node name linkage
    (coherent.fits node (mem_nodes_iff.mpr ⟨pending.slot, found⟩))

theorem followRelationship_mapNodes
    (parallel : Parallel assembler fields policy other change)
    (coherent : Coherent assembler primaries working assembly)
    (worked : pending ∈ working)
    (branch : String × IncludeTree) :
    (assembly.mapNodes change).followRelationship
      { assembler with policy := policy } other
        pending branch =
      (assembly.followRelationship assembler fields pending branch).map
        (mapNodes change) := by
  obtain ⟨name, subtree⟩ := branch
  rw [followRelationship, followRelationship]
  dsimp only
  cases assembler.schema.relationship? pending.resourceType name with
  | none => rfl
  | some declared =>
      dsimp only
      rw [idAt_mapNodes parallel]
      change (assembler.related _ _ _ _ >>= _) = _
      cases assembler.related pending.resourceType (assembly.idAt pending.slot)
        pending.object name with
      | error error => rfl
      | ok objects =>
          have followed :
              objects.foldlM
                  (addRelated { assembler with policy := policy } other
                      declared.target subtree
                    (pathBelow pending.path name))
                  (assembly.mapNodes change) =
                (objects.foldlM
                  (addRelated assembler fields declared.target subtree
                    (pathBelow pending.path name))
                  assembly).map (mapNodes change) :=
            Outcome.foldlM_map (fun _ => True)
              (fun _ _ _ _ => Outcome.trivial _) (fun object _ state _ =>
                addRelated_mapNodes parallel _ _ _ state object) True.intro
          have kept :
              Outcome (Coherent assembler primaries working) (fun _ => True)
                (objects.foldlM
                  (addRelated assembler fields declared.target subtree
                    (pathBelow pending.path name))
                  assembly) :=
            Outcome.foldlM (fun _ => Coherent assembler primaries working)
              (fun _ object _ _ state =>
                state.meet fields ⟨declared.target, object, subtree,
                    pathBelow pending.path name⟩)
              coherent
          change (objects.foldlM _ _ >>= _) =
            Except.map _ (objects.foldlM _ _ >>= _)
          rw [followed]
          cases result :
              objects.foldlM
                (addRelated assembler fields declared.target subtree
                  (pathBelow pending.path name))
                assembly with
          | error error => rfl
          | ok reached =>
              have written := writes_mapNodes parallel (kept.of_ok result)
                worked name (.ofIdentifiers declared.toMany
                  (objects.map (assembler.identify declared.target)))
              change
                (if showsLinkage { assembler with policy := policy } other
                    pending.resourceType
                    name = true then pure _ else pure _) =
                  Except.map (mapNodes change)
                    (if showsLinkage assembler fields pending.resourceType
                        name = true then pure _ else pure _)
              rw [← apply_ite pure, ← apply_ite pure]
              exact congrArg Except.ok written

theorem expand_mapNodes
    (parallel : Parallel assembler fields policy other change)
    (coherent : Coherent assembler primaries working assembly)
    (worked : pending ∈ working) :
    (assembly.mapNodes change).expand { assembler with policy := policy } other
      pending =
      (assembly.expand assembler fields pending).map (mapNodes change) := by
  rw [expand, expand]
  apply Outcome.foldlM_map (Coherent assembler primaries working) _ _ coherent
  · intro branch child state kept
    exact followRelationship_outcome
      (keeps_coherent assembler fields primaries working) worked child [] []
      kept
  · intro branch _ state kept
    exact followRelationship_mapNodes parallel kept worked branch

/-! ## Runs side by side -/

theorem expandQueue_mapNodes
    (parallel : Parallel assembler fields policy other change)
    (coherent : Coherent assembler primaries [] assembly) :
    assembly.queue.foldlM (expand { assembler with policy := policy } other)
        (mapNodes change { assembly with queue := [] }) =
      (assembly.queue.foldlM (expand assembler fields)
          { assembly with queue := [] }).map
        (mapNodes change) := by
  have begun := coherent.startLevel
  apply Outcome.foldlM_map (Coherent assembler primaries assembly.queue) _ _
    begun
  · intro pending worked state kept
    exact expand_outcome
      (keeps_coherent assembler fields primaries assembly.queue) worked [] []
      kept
  · intro pending worked state kept
    exact expand_mapNodes parallel kept worked

theorem expandLevels_mapNodes
    (parallel : Parallel assembler fields policy other change)
    (levels : Nat)
    (coherent : Coherent assembler primaries [] assembly) :
    expandLevels { assembler with policy := policy } other levels
      (assembly.mapNodes change) =
      (expandLevels assembler fields levels assembly).map
        (mapNodes change) := by
  induction levels generalizing assembly with
  | zero => rfl
  | succ levels induction =>
      have kept := coherent.expandQueue fields
      change (assembly.queue.foldlM _
          (mapNodes change { assembly with queue := [] }) >>= _) =
        Except.map _ (assembly.queue.foldlM _ _ >>= _)
      rw [expandQueue_mapNodes parallel coherent]
      cases result :
          assembly.queue.foldlM (expand assembler fields)
            { assembly with queue := [] } with
      | error error => rfl
      | ok reached => exact induction (kept.of_ok result)

theorem addPrimary_mapNodes
    {specification : QuerySpecification}
    (parallel : Parallel assembler specification.fields policy other change)
    (assembly : Assembly Object)
    (object : Object) :
    (assembly.mapNodes change).addPrimary { assembler with policy := policy }
        { specification with fields := other } object =
      (assembly.addPrimary assembler specification object).map
        (mapNodes change) := by
  have projects := parallel.projects specification.resourceType object
  cases result : assembler.project specification.fields
    specification.resourceType object with
  | error error =>
      rw [result] at projects
      rw [addPrimary_of_error result, addPrimary_of_error projects]
      rfl
  | ok node =>
      rw [result] at projects
      have sameSlot :
          (assembly.mapNodes change).slotOf? (change node).identifier =
            assembly.slotOf? node.identifier := by
        rw [parallel.identifier]
        rfl
      cases found : assembly.slotOf? node.identifier with
      | some slot =>
          rw [addPrimary_of_present result found,
            addPrimary_of_present projects (sameSlot.trans found)]
          apply congrArg Except.ok
          simp [mapNodes]
      | none =>
          rw [addPrimary_of_absent result found,
            addPrimary_of_absent projects (sameSlot.trans found)]
          change Except.ok (enqueue _ _ _) =
            Except.ok (mapNodes change (enqueue _ _ _))
          rw [← enqueue_mapNodes]
          simp [mapNodes, parallel.identifier]

/-- The runs for two policies and selections proceed side by side. -/
theorem run_mapNodes
    {specification : QuerySpecification}
    (parallel : Parallel assembler specification.fields policy other change)
    (objects : List Object) :
    run { assembler with policy := policy }
      { specification with fields := other } objects =
      (run assembler specification objects).map (mapNodes change) := by
  have begun :
      objects.foldlM
          (addPrimary { assembler with policy := policy }
              { specification with fields := other })
          (mapNodes change empty) =
        (objects.foldlM (addPrimary assembler specification) empty).map
          (mapNodes change) :=
    Outcome.foldlM_map (fun _ => True) (fun _ _ _ _ => Outcome.trivial _)
      (fun object _ state _ => addPrimary_mapNodes parallel state object)
        True.intro
  have kept := addPrimaries_coherent assembler specification objects
  change (objects.foldlM _ (mapNodes change empty) >>= _) =
    Except.map _ (objects.foldlM _ _ >>= _)
  rw [begun]
  cases result : objects.foldlM (addPrimary assembler specification) empty with
  | error error => rfl
  | ok reached =>
      exact expandLevels_mapNodes parallel specification.inclusion.depth
        (kept.of_ok result)

end Assembly

namespace Assembler

variable {assembler : Assembler Object} {fields other : FieldSelection}
  {policy : LinkagePolicy} {change : ResourceNode → ResourceNode}

theorem assembleCollection_mapNodes
    {specification : QuerySpecification}
    (parallel :
      Assembly.Parallel assembler specification.fields policy other change)
    (objects : List Object) :
    { assembler with policy := policy }.assembleCollection
        { specification with fields := other } objects =
      (assembler.assembleCollection specification objects).map
        (Document.mapNodes change) := by
  rw [assembleCollection, assembleCollection, Assembly.run_mapNodes parallel]
  cases Assembly.run assembler specification objects with
  | error error => rfl
  | ok assembly => rfl

/-- No relationship fails to be resolved. -/
def Resolves (assembler : Assembler Object) : Prop :=
  ∀ resourceType object name, ∃ found,
    assembler.accessor resourceType object name = .ok found

theorem Resolves.linkageOf
    (resolves : assembler.Resolves)
    (resourceType id : String)
    (object : Object)
    (declared : String × Relationship) :
    ∃ entry,
      assembler.linkageOf resourceType id object declared = .ok entry := by
  rcases resolves resourceType object declared.1 with ⟨found, isFound⟩
  exact ⟨_, linkageOf_eq_ok.mpr ⟨found, isFound, rfl⟩⟩

theorem allows_all (resourceType name : String) :
    FieldSelection.all.allows resourceType name = true := rfl

/-- Attributes that are not shown may as well be dropped afterwards. -/
theorem shownAttributes_eq_filter
    (assembler : Assembler Object)
    (fields : FieldSelection)
    (resourceType : String)
    (object : Object) :
    assembler.shownAttributes fields resourceType object =
      (assembler.shownAttributes .all resourceType object).filter fun entry =>
        fields.allows resourceType entry.1 := by
  rw [shownAttributes, shownAttributes, List.filterMap_filter,
    List.filterMap_filter, List.filter_filterMap]
  congr 1
  funext name
  rw [if_pos (allows_all resourceType name)]
  cases assembler.reader.attributeOf resourceType object name with
  | none => simp
  | some value =>
      by_cases allowed : fields.allows resourceType name = true
      · simp [Option.filter, allowed]
      · simp [Option.filter, allowed]

/-- Relationships that are not shown may as well be dropped afterwards. -/
theorem shownRelationships_eq_filter
    (assembler : Assembler Object)
    (fields : FieldSelection)
    (resourceType : String) :
    assembler.shownRelationships fields resourceType =
      (assembler.shownRelationships .all resourceType).filter fun entry =>
        fields.allows resourceType entry.1 := by
  rw [shownRelationships, shownRelationships, List.filter_filter]
  congr 1
  funext entry
  rw [allows_all, Bool.and_true]

theorem project_restrict
    (resolves : assembler.Resolves)
    (fields : FieldSelection)
    (resourceType : String)
    (object : Object) :
    assembler.project fields resourceType object =
      (assembler.project .all resourceType object).map
        (ResourceNode.restrict fields) := by
  cases declared : assembler.schema.attributesOf? resourceType with
  | none => rw [project, project, declared]; rfl
  | some names =>
      rw [project_eq_map declared, project_eq_map declared,
        shownAttributes_eq_filter assembler fields,
        shownRelationships_eq_filter assembler fields,
        Dictionary.mapM_filter key_of_linkageOf (resolves.linkageOf _ _ object)]
      split
      · cases (assembler.shownRelationships .all resourceType).mapM
            (assembler.linkageOf resourceType
              (assembler.reader.identifierOf resourceType object) object) with
        | error error => rfl
        | ok linkages => rfl
      · rfl

theorem Resolves.project_outcome
    (resolves : assembler.Resolves)
    {resourceType : String}
    {names : List String}
    (declared : assembler.schema.attributesOf? resourceType = some names)
    (fields : FieldSelection)
    (object : Object) :
    Outcome (fun _ => True) (fun _ => False)
      (assembler.project fields resourceType object) := by
  apply Assembler.project_outcome
  · intro unknown
    rw [declared] at unknown
    cases unknown
  · intro relationship _ id
    rcases resolves resourceType object relationship.1 with ⟨found, accessed⟩
    simp [related, accessed]

theorem project_unlinked
    (resolves : assembler.Resolves)
    (fields : FieldSelection)
    (resourceType : String)
    (object : Object) :
    { assembler with policy := .never }.project fields resourceType object =
      (assembler.project fields resourceType object).map
        ResourceNode.unlinked := by
  cases declared : assembler.schema.attributesOf? resourceType with
  | none => rw [project, project, declared]; rfl
  | some names =>
      rcases (resolves.project_outcome declared fields object).exists_ok with
        ⟨node, projected, _⟩
      rcases project_eq_ok projected with ⟨identified, attributes, _, _⟩
      have unlinked :
          node.unlinked =
            ⟨resourceType, assembler.reader.identifierOf resourceType object,
              assembler.shownAttributes fields resourceType object, []⟩ := by
        have sameType : node.resourceType = resourceType :=
          congrArg ResourceIdentifier.resourceType identified
        have sameId :
            node.id = assembler.reader.identifierOf resourceType object :=
          congrArg ResourceIdentifier.id identified
        rw [ResourceNode.unlinked, sameType, sameId, attributes]
      rw [projected, Except.map, unlinked]
      exact @project_eq_map _ { assembler with policy := .never } _ _ declared
        fields object

theorem restrict_withLinkage
    {node : ResourceNode}
    (ascending : Dictionary.Ascending node.relationships)
    {name : String}
    (allowed : fields.allows node.resourceType name = true)
    (linkage : Linkage) :
    (node.withLinkage name linkage).restrict fields =
      (node.restrict fields).withLinkage name linkage := by
  rw [ResourceNode.restrict, ResourceNode.withLinkage, ResourceNode.withLinkage,
    ascending.filter_insert allowed]
  rfl

theorem restrict_withLinkage_of_not
    {node : ResourceNode}
    {name : String}
    (hidden : fields.allows node.resourceType name = false)
    (linkage : Linkage) :
    (node.withLinkage name linkage).restrict fields = node.restrict fields := by
  rw [ResourceNode.restrict, ResourceNode.withLinkage,
    Dictionary.filter_insert_of_not hidden]
  rfl

/-- Showing all fields and dropping some afterwards is like showing the others
only. -/
theorem parallel_restrict
    (ordered : assembler.schema.Ordered)
    (resolves : assembler.Resolves)
    (fields : FieldSelection) :
    Assembly.Parallel assembler .all assembler.policy fields
      (.restrict fields) where
  identifier := fun _ => rfl
  projects := project_restrict resolves fields
  writes := by
    intro node name linkage fits
    rw [Assembly.showsLinkage, Assembly.showsLinkage, allows_all, Bool.and_true]
    -- With all fields linkage is written that the selection drops again.
    by_cases never : assembler.policy = .never
    · simp [never]
    · cases allowed : fields.allows node.resourceType name with
      | true =>
          simpa [never] using
            restrict_withLinkage (fits.ascending ordered) allowed linkage
      | false => simpa [never] using restrict_withLinkage_of_not allowed linkage

/-- Dropping all linkage afterwards is like the policy `never`. -/
theorem parallel_unlinked
    (resolves : assembler.Resolves)
    (fields : FieldSelection) :
    Assembly.Parallel assembler fields .never fields ResourceNode.unlinked where
  identifier := fun _ => rfl
  projects := project_unlinked resolves fields
  writes := by
    intro node name linkage _
    rw [apply_ite ResourceNode.unlinked]
    simp [Assembly.showsLinkage, ResourceNode.unlinked,
      ResourceNode.withLinkage]

theorem assembleCollection_unlinked
    {specification : QuerySpecification}
    (resolves : assembler.Resolves)
    (objects : List Object) :
    { assembler with policy := .never }.assembleCollection specification
      objects =
      (assembler.assembleCollection specification objects).map
        (Document.mapNodes ResourceNode.unlinked) :=
  assembleCollection_mapNodes (parallel_unlinked resolves specification.fields)
    objects

/-- The policy on linkage has no influence on which resources are shown. -/
theorem identifiers_policy
    {specification : QuerySpecification}
    (resolves : assembler.Resolves)
    (policy : LinkagePolicy)
    (objects : List Object) :
    ({ assembler with policy := policy }.assembleCollection specification
        objects).map
        Document.identifiers =
      (assembler.assembleCollection specification objects).map
        Document.identifiers := by
  have unlinked :
      ∀ other : LinkagePolicy,
        ({ assembler with policy := .never }.assembleCollection specification
            objects).map
            Document.identifiers =
          ({ assembler with policy := other }.assembleCollection specification
              objects).map
            Document.identifiers := by
    intro other
    have dropped :=
      @assembleCollection_unlinked _ { assembler with policy := other }
        specification resolves
        objects
    rw [dropped]
    apply Document.map_identifiers_mapNodes
    intro node
    rfl
  exact (unlinked policy).symm.trans (unlinked assembler.policy)

/-- A document with some of the fields is the document with all of them, cut
down to those that are selected (`FieldSelection.allows_iff`).  Neither the
selection nor the policy on linkage changes which resources are shown, or in
which order. -/
theorem assembleCollection_restrict
    {specification : QuerySpecification}
    (ordered : assembler.schema.Ordered)
    (resolves : assembler.Resolves)
    (fields : FieldSelection)
    (objects : List Object) :
    assembler.assembleCollection { specification with fields := fields }
      objects =
        (assembler.assembleCollection { specification with fields := .all }
            objects).map
          (Document.restrict fields) ∧
      ∀ policy,
        ({ assembler with policy := policy }.assembleCollection
            { specification with fields := fields } objects).map
              Document.identifiers =
          (assembler.assembleCollection { specification with fields := .all }
              objects).map
            Document.identifiers := by
  have restricted :
      assembler.assembleCollection { specification with fields := fields }
        objects =
        (assembler.assembleCollection { specification with fields := .all }
            objects).map
          (Document.restrict fields) :=
    @assembleCollection_mapNodes _ _ _ _ _ { specification with fields := .all }
      (parallel_restrict ordered resolves fields) objects
  refine ⟨restricted, ?_⟩
  intro policy
  rw [identifiers_policy resolves policy, restricted]
  apply Document.map_identifiers_mapNodes
  intro node
  rfl

theorem assembleCollection_restrict_contrary :
    contrary.assembleCollection
        { contrarySpecification with
            fields := FieldSelection.all.insert "people" ["knows"] }
        [true] =
        (contrary.assembleCollection
            { contrarySpecification with fields := .all } [true]).map
          (Document.restrict (FieldSelection.all.insert "people" ["knows"])) ∧
      ∀ policy,
        ({ contrary with policy := policy }.assembleCollection
            { contrarySpecification with
                fields := FieldSelection.all.insert "people" ["knows"] }
            [true]).map Document.identifiers =
          (contrary.assembleCollection
              { contrarySpecification with fields := .all } [true]).map
            Document.identifiers := by
  have ordered : contrary.schema.Ordered :=
    ((Schema.ordered_empty.withType _ _).withRelationship _ _
        _).withRelationship _ _ _
  have resolves : contrary.Resolves := fun _ _ _ => ⟨_, rfl⟩
  exact assembleCollection_restrict ordered resolves _ [true]

/-- Hidden relationships are followed all the same. -/
example :
    ({ contrary with policy := .whenIncluded }.assembleCollection
        { contrarySpecification with
            fields := FieldSelection.all.insert "people" ["side"] }
        [true]).toOption.map
        (fun document : Document =>
          (document.identifiers,
            (document.data.nodes ++ document.included).map
              ResourceNode.relationships)) =
      some (([⟨"people", "left"⟩], [⟨"people", "right"⟩]), [[], []]) := by
  decide

end Assembler

end JsonApi
