import JsonApi.Proofs.Document.Visit
import JsonApi.Proofs.Outcome

/-!
# Steps of an assembly

Expanding a queued object adds, one after the other, the visits that follow
its own, and writes linkage in between.  An invariant over the visits added
and the relationships followed so far that both kinds of step keep is
therefore kept by the expansion of an object (`expand_outcome`) and of a whole
level (`expandQueue_outcome`).  The errors are those of the schema, the
accessor and the projection.
-/

namespace JsonApi

variable {Object : Type}

namespace Assembler

/-- A projected resource object has the identifier of its object. -/
theorem project_identifier
    {assembler : Assembler Object}
    {fields : FieldSelection}
    {resourceType : String}
    {object : Object}
    {node : ResourceNode}
    (projected : assembler.project fields resourceType object = .ok node) :
    node.identifier = assembler.identify resourceType object := by
  rw [project] at projected
  split at projected
  · cases projected
  · simp only at projected
    split at projected
    · rcases Outcome.bind_eq_ok_iff.mp projected with ⟨linkages, _, equal⟩
      cases equal
      rfl
    · cases projected
      rfl

/-- Projecting fails when the type is unknown, or when a shown relationship
cannot be resolved. -/
theorem project_outcome
    {assembler : Assembler Object}
    {fields : FieldSelection}
    {tolerated : AssemblyError → Prop}
    {resourceType : String}
    {object : Object}
    (unknown :
      assembler.schema.attributesOf? resourceType = none →
        tolerated (.unknownResourceType resourceType))
    (resolved :
      ∀ declared ∈ (assembler.schema.relationshipsOf? resourceType).getD [],
        ∀ id,
        Outcome (fun _ => True) tolerated
          (assembler.related resourceType id object declared.1)) :
    Outcome (fun _ => True) tolerated
      (assembler.project fields resourceType object) := by
  rw [project]
  split
  · rename_i absent
    exact unknown absent
  · simp only
    split
    · apply Outcome.bind
      · apply Outcome.mapM
        intro declared member
        apply Outcome.bind (resolved declared (List.mem_of_mem_filter member) _)
        intro _ _
        exact True.intro
      · intro _ _
        exact True.intro
    · exact True.intro

/-- The linkage of a relationship that is declared and can be resolved. -/
def linkage?
    (assembler : Assembler Object)
    (resourceType : String)
    (object : Object)
    (name : String) : Option Linkage :=
  match
    assembler.schema.relationship? resourceType name,
    assembler.accessor resourceType object name
  with
  | some declared, .ok found =>
      some (.ofIdentifiers declared.toMany
        (found.objects.map (assembler.identify declared.target)))
  | _, _ => none

/-- The relationships that the include tree asks for at the place of a visit. -/
def requests
    (assembler : Assembler Object)
    (visit : Visit Object) :
    List (ResourceIdentifier × String) :=
  visit.tree.children.map fun branch => (assembler.identifierOf visit, branch.1)

end Assembler

namespace Assembly

/-- Adds one visit: a slot for its object, and a place in the queue. -/
def meet
    (assembler : Assembler Object)
    (fields : FieldSelection)
    (assembly : Assembly Object)
    (visit : Visit Object) : Except AssemblyError (Assembly Object) :=
  assembly.addRelated assembler fields visit.resourceType visit.tree visit.path
    visit.object

/-- Writes the linkage of one relationship into a resource object. -/
def writeLinkage
    (assembly : Assembly Object)
    (slot : Slot)
    (name : String)
    (linkage : Linkage) : Assembly Object :=
  assembly.modifyAt slot fun node =>
    { node with
        relationships := Dictionary.insert name linkage node.relationships }

/-! ## Queuing and placing -/

@[simp]
theorem enqueue_primary
    (assembly : Assembly Object)
    (identifier : ResourceIdentifier)
    (pending : Pending Object) :
    (assembly.enqueue identifier pending).primary = assembly.primary := by
  rw [enqueue]
  split <;> rfl

@[simp]
theorem enqueue_included
    (assembly : Assembly Object)
    (identifier : ResourceIdentifier)
    (pending : Pending Object) :
    (assembly.enqueue identifier pending).included = assembly.included := by
  rw [enqueue]
  split <;> rfl

@[simp]
theorem enqueue_slots
    (assembly : Assembly Object)
    (identifier : ResourceIdentifier)
    (pending : Pending Object) :
    (assembly.enqueue identifier pending).slots = assembly.slots := by
  rw [enqueue]
  split <;> rfl

section

variable {assembler : Assembler Object} {fields : FieldSelection}
  {specification : QuerySpecification} {assembly : Assembly Object}
  {resourceType : String} {object : Object} {node : ResourceNode} {slot : Slot}
  {error : AssemblyError}

theorem addRelated_of_present
    (tree : IncludeTree)
    (path : String)
    (found :
      assembly.slotOf? (assembler.identify resourceType object) = some slot) :
    assembly.addRelated assembler fields resourceType tree path object =
      .ok (assembly.enqueue (assembler.identify resourceType object)
        ⟨resourceType, object, slot, tree, path⟩) := by
  rw [addRelated, place]
  simp only [found]
  rfl

theorem addRelated_of_absent
    (tree : IncludeTree)
    (path : String)
    (absent : assembly.slotOf? (assembler.identify resourceType object) = none)
    (projected : assembler.project fields resourceType object = .ok node) :
    assembly.addRelated assembler fields resourceType tree path object =
      .ok (enqueue
        { assembly with
          included := assembly.included ++ [node]
          slots :=
            (assembler.identify resourceType object,
                .included assembly.included.length) ::
              assembly.slots }
        (assembler.identify resourceType object)
        ⟨resourceType, object, .included assembly.included.length, tree,
            path⟩) := by
  rw [addRelated, place]
  simp only [absent, projected]
  rfl

theorem addRelated_of_error
    (tree : IncludeTree)
    (path : String)
    (absent : assembly.slotOf? (assembler.identify resourceType object) = none)
    (failed : assembler.project fields resourceType object = .error error) :
    assembly.addRelated assembler fields resourceType tree path object =
      .error error := by
  rw [addRelated, place]
  simp only [absent, failed]
  rfl

theorem addPrimary_of_present
    (projected :
      assembler.project specification.fields specification.resourceType object =
        .ok node)
    (found : assembly.slotOf? node.identifier = some slot) :
    assembly.addPrimary assembler specification object =
      .ok { assembly with primary := assembly.primary ++ [node] } := by
  rw [slotOf?] at found
  rw [addPrimary, projected]
  simp only [slotOf?, bind, Except.bind, found]
  rfl

theorem addPrimary_of_absent
    (projected :
      assembler.project specification.fields specification.resourceType object =
        .ok node)
    (absent : assembly.slotOf? node.identifier = none) :
    assembly.addPrimary assembler specification object =
      .ok (enqueue
        { assembly with
          primary := assembly.primary ++ [node]
          slots := (node.identifier, .primary assembly.primary.length) ::
            assembly.slots }
        node.identifier
        ⟨specification.resourceType, object, .primary assembly.primary.length,
          specification.inclusion, ""⟩) := by
  rw [slotOf?] at absent
  rw [addPrimary, projected]
  simp only [slotOf?, bind, Except.bind, absent]
  rfl

theorem addPrimary_of_error
    (failed :
      assembler.project specification.fields specification.resourceType object =
        .error error) :
    assembly.addPrimary assembler specification object = .error error := by
  rw [addPrimary, failed]
  rfl

end

/-- Adding a visit projects an object that has no slot, and then queues the
visit. -/
theorem meet_outcome
    {assembler : Assembler Object}
    {fields : FieldSelection}
    {tolerated : AssemblyError → Prop}
    {wanted : Assembly Object → Prop}
    {assembly : Assembly Object}
    {visit : Visit Object}
    (projected :
      Outcome (fun _ => True) tolerated
        (assembler.project fields visit.resourceType visit.object))
    (present :
      ∀ slot, assembly.slotOf? (assembler.identifierOf visit) = some slot →
        wanted (assembly.enqueue (assembler.identifierOf visit)
          ⟨visit.resourceType, visit.object, slot, visit.tree, visit.path⟩))
    (added :
      ∀ node, assembly.slotOf? (assembler.identifierOf visit) = none →
        assembler.project fields visit.resourceType visit.object = .ok node →
        wanted
          (enqueue
            { assembly with
              included := assembly.included ++ [node]
              slots :=
                (assembler.identifierOf visit,
                    Slot.included assembly.included.length) ::
                  assembly.slots }
            (assembler.identifierOf visit)
            ⟨visit.resourceType, visit.object,
              Slot.included assembly.included.length, visit.tree,
              visit.path⟩)) :
    Outcome wanted tolerated (assembly.meet assembler fields visit) := by
  rw [meet]
  cases found :
    assembly.slotOf? (assembler.identify visit.resourceType visit.object) with
  | some slot =>
      rw [addRelated_of_present _ _ found]
      exact present slot found
  | none =>
      cases result :
        assembler.project fields visit.resourceType visit.object with
      | error error =>
          rw [addRelated_of_error _ _ found result]
          rwa [result] at projected
      | ok node =>
          rw [addRelated_of_absent _ _ found result]
          exact added node found result

/-- Adding a primary object shows it, and queues it when it has no slot. -/
theorem addPrimary_outcome
    {assembler : Assembler Object}
    {specification : QuerySpecification}
    {tolerated : AssemblyError → Prop}
    {wanted : Assembly Object → Prop}
    {assembly : Assembly Object}
    {object : Object}
    (projected :
      Outcome (fun _ => True) tolerated
        (assembler.project specification.fields specification.resourceType
            object))
    (present :
      ∀ node,
        assembler.project specification.fields specification.resourceType
          object = .ok node →
        (assembly.slotOf? (assembler.identifierOf
            (specification.primaryVisit object))).isSome =
          true →
        wanted { assembly with primary := assembly.primary ++ [node] })
    (added :
      ∀ node,
        assembler.project specification.fields specification.resourceType
          object = .ok node →
        assembly.slotOf?
          (assembler.identifierOf (specification.primaryVisit object)) = none →
        wanted
          (enqueue
            { assembly with
              primary := assembly.primary ++ [node]
              slots :=
                (assembler.identifierOf (specification.primaryVisit object),
                  Slot.primary assembly.primary.length) :: assembly.slots }
            (assembler.identifierOf (specification.primaryVisit object))
            ⟨specification.resourceType, object,
              Slot.primary assembly.primary.length, specification.inclusion,
              ""⟩)) :
    Outcome wanted tolerated
      (assembly.addPrimary assembler specification object) := by
  cases result : assembler.project specification.fields
    specification.resourceType object with
  | error error =>
      rw [addPrimary_of_error result]
      rwa [result] at projected
  | ok node =>
      have identified :
          node.identifier =
            assembler.identifierOf (specification.primaryVisit object) :=
        Assembler.project_identifier result
      cases found :
          assembly.slotOf?
            (assembler.identifierOf (specification.primaryVisit object)) with
      | some slot =>
          rw [addPrimary_of_present result (identified ▸ found)]
          exact present node result (by rw [found]; rfl)
      | none =>
          rw [addPrimary_of_absent result (identified ▸ found), identified]
          exact added node result found

/-! ## Following relationships -/

/-- The steps that expand a queue keep an invariant over the visits added and
the relationships followed so far, and raise tolerated errors only. -/
structure Keeps
    (assembler : Assembler Object)
    (fields : FieldSelection)
    (tolerated : AssemblyError → Prop)
    (queue : List (Pending Object))
    (invariant :
      List (Visit Object) → List (ResourceIdentifier × String) →
        Assembly Object → Prop) : Prop where
  undeclared : ∀ pending ∈ queue, ∀ branch ∈ pending.tree.children,
    assembler.schema.relationship? pending.resourceType branch.1 = none →
      tolerated (.unknownRelationship pending.resourceType branch.1)
  resolved : ∀ pending ∈ queue, ∀ branch ∈ pending.tree.children,
    ∀ done followed assembly,
    invariant done followed assembly →
      Outcome (fun _ => True) tolerated
        (assembler.related pending.resourceType (assembly.idAt pending.slot)
            pending.object branch.1)
  meets : ∀ pending ∈ queue, ∀ done followed assembly visit,
    visit ∈ assembler.nextVisits pending.visit →
      invariant done followed assembly →
      Outcome (invariant (done ++ [visit]) followed) tolerated
        (assembly.meet assembler fields visit)
  /-- A relationship that has been followed is written down where linkage is
  shown. -/
  writes : ∀ pending ∈ queue, ∀ done followed assembly name linkage,
    assembler.linkage? pending.resourceType pending.object name = some linkage →
    showsLinkage assembler fields pending.resourceType name = true →
    invariant done followed assembly →
      invariant done
        (followed ++ [(assembler.identifierOf pending.visit, name)])
        (assembly.writeLinkage pending.slot name linkage)
  hides : ∀ pending ∈ queue, ∀ done followed assembly name linkage,
    assembler.linkage? pending.resourceType pending.object name = some linkage →
    showsLinkage assembler fields pending.resourceType name = false →
    invariant done followed assembly →
      invariant done
        (followed ++ [(assembler.identifierOf pending.visit, name)]) assembly

variable {assembler : Assembler Object} {fields : FieldSelection}
  {tolerated : AssemblyError → Prop} {queue : List (Pending Object)}
  {invariant : List (Visit Object) → List (ResourceIdentifier × String) →
      Assembly Object → Prop}
  {assembly : Assembly Object} {pending : Pending Object}

/-- Following a relationship adds its visits, and then writes its linkage if
that is shown. -/
theorem followRelationship_outcome
    (keeps : Keeps assembler fields tolerated queue invariant)
    (queued : pending ∈ queue)
    {branch : String × IncludeTree}
    (child : branch ∈ pending.tree.children)
    (done : List (Visit Object))
    (followed : List (ResourceIdentifier × String))
    (holds : invariant done followed assembly) :
    Outcome
      (invariant (done ++ assembler.branchVisits pending.visit branch)
        (followed ++ [(assembler.identifierOf pending.visit, branch.1)]))
      tolerated
        (assembly.followRelationship assembler fields pending branch) := by
  have undeclared := keeps.undeclared pending queued branch child
  have resolved :=
    keeps.resolved pending queued branch child done followed assembly holds
  obtain ⟨name, subtree⟩ := branch
  rw [followRelationship]
  dsimp only at undeclared resolved ⊢
  cases isDeclared :
    assembler.schema.relationship? pending.resourceType name with
  | none => exact undeclared isDeclared
  | some declared =>
      rw [Assembler.related] at resolved ⊢
      cases isResolved :
        assembler.accessor pending.resourceType pending.object name with
      | error cause =>
          rw [isResolved] at resolved
          exact resolved
      | ok found =>
          have visits :
              assembler.branchVisits pending.visit (name, subtree) =
                found.objects.map fun next =>
                  ⟨declared.target, next, subtree,
                      pathBelow pending.path name⟩ := by
            simp [Assembler.branchVisits, Pending.visit, isDeclared, isResolved]
          have added :
              Outcome
                (invariant (done ++ assembler.branchVisits pending.visit
                    (name, subtree)) followed)
                tolerated
                (found.objects.foldlM
                  (addRelated assembler fields declared.target subtree
                    (pathBelow pending.path name))
                  assembly) := by
            have folded :
                found.objects.foldlM
                    (addRelated assembler fields declared.target subtree
                      (pathBelow pending.path name))
                    assembly =
                  (assembler.branchVisits pending.visit (name, subtree)).foldlM
                    (meet assembler fields) assembly := by
              rw [visits, List.foldlM_map]
              rfl
            rw [folded]
            apply Outcome.foldlM
              (fun handled => invariant (done ++ handled) followed)
            · intro handled visit state member kept
              rw [← List.append_assoc]
              exact keeps.meets pending queued _ followed state visit
                (List.mem_flatMap.mpr ⟨(name, subtree), child, member⟩) kept
            · rw [List.append_nil]
              exact holds
          have isLinkage :
              assembler.linkage? pending.resourceType pending.object name =
                some (.ofIdentifiers declared.toMany
                  (found.objects.map
                      (assembler.identify declared.target))) := by
            simp [Assembler.linkage?, isDeclared, isResolved]
          apply Outcome.bind added
          intro reached kept
          split
          · rename_i shown
            exact keeps.writes pending queued _ _ reached name _ isLinkage shown
              kept
          · rename_i hidden
            exact keeps.hides pending queued _ _ reached name _ isLinkage
              (by simpa using hidden) kept

/-- Expanding an object adds the visits that follow its own. -/
theorem expand_outcome
    (keeps : Keeps assembler fields tolerated queue invariant)
    (queued : pending ∈ queue)
    (done : List (Visit Object))
    (followed : List (ResourceIdentifier × String))
    (holds : invariant done followed assembly) :
    Outcome
      (invariant (done ++ assembler.nextVisits pending.visit)
        (followed ++ assembler.requests pending.visit))
      tolerated (assembly.expand assembler fields pending) := by
  rw [expand]
  apply Outcome.foldlM fun branches =>
    invariant (done ++ branches.flatMap (assembler.branchVisits pending.visit))
      (followed ++ branches.map fun branch =>
          (assembler.identifierOf pending.visit, branch.1))
  · intro handled branch state child kept
    rw [List.flatMap_append, List.flatMap_singleton, ← List.append_assoc,
      List.map_append, List.map_singleton, ← List.append_assoc]
    exact followRelationship_outcome keeps queued child _ _ kept
  · simpa using holds

/-- Expanding a level adds the visits that follow those in the queue. -/
theorem expandQueue_outcome
    (keeps : Keeps assembler fields tolerated queue invariant)
    (followed : List (ResourceIdentifier × String))
    (holds : invariant [] followed assembly) :
    Outcome
      (invariant ((queue.map Pending.visit).flatMap assembler.nextVisits)
        (followed ++ (queue.map Pending.visit).flatMap assembler.requests))
      tolerated (queue.foldlM (expand assembler fields) assembly) := by
  apply Outcome.foldlM fun handled =>
    invariant ((handled.map Pending.visit).flatMap assembler.nextVisits)
      (followed ++ (handled.map Pending.visit).flatMap assembler.requests)
  · intro handled pending state queued kept
    rw [List.map_append, List.flatMap_append, List.flatMap_append,
      List.map_singleton, List.flatMap_singleton, List.flatMap_singleton,
      ← List.append_assoc]
    exact expand_outcome keeps queued _ _ kept
  · simpa using holds

end Assembly

end JsonApi
