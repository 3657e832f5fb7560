import JsonApi.Proofs.Document.Seating
import Mathlib.Data.List.Forall2

/-!
# Breadth-first exploration

`Explored depth done` is the invariant of an assembly while it works on the
visits at places `depth` names below the root, of which those in `done` were
added.  It relates slots, included resource objects, expansion table and queue
to the visits that there are.  A whole run visits everything that is met
(`run_outcome`).

The invariant splits in two.  `Placement` is about slots and resource objects,
which only the first visit of an object changes.  `Expansion` is about the
expansion table and the queue, which change once for every object and place.
-/

namespace JsonApi

open Assembler

variable {Object : Type} (assembler : Assembler Object)
  (specification : QuerySpecification) (objects : List Object)

/-- The visit is at a place `depth` names below the root. -/
def Assembler.MetAt (depth : Nat) (visit : Visit Object) : Prop :=
  ∃ names, names.length = depth ∧
    assembler.Met specification objects names visit

/-- Some place `length` names below the root meets an object with the
identifier. -/
def Assembler.ReachedAt
    (length : Nat)
    (identifier : ResourceIdentifier) : Prop :=
  ∃ names visit,
    names.length = length ∧ assembler.Met specification objects names visit ∧
      assembler.identifierOf visit = identifier

namespace Assembly

/-- The visits nearer to the root than `depth`, and those at that depth that
were added. -/
def Seen
    (depth : Nat)
    (done : List (Visit Object))
    (visit : Visit Object) : Prop :=
  (∃ names, names.length < depth ∧
      assembler.Met specification objects names visit) ∨
    visit ∈ done

/-- Which objects have slots and resource objects. -/
structure Placement
    (depth : Nat)
    (done : List (Visit Object))
    (assembly : Assembly Object) : Prop where
  /-- The visits that were added are at the depth that is worked on. -/
  current : ∀ visit ∈ done, assembler.MetAt specification objects depth visit
  /-- Exactly the objects that were seen have a slot. -/
  placed : ∀ identifier, (assembly.slotOf? identifier).isSome = true ↔
    ∃ visit, Seen assembler specification objects depth done visit ∧
      assembler.identifierOf visit = identifier
  /-- A slot is that of a primary or of an included resource object. -/
  located : ∀ identifier, (assembly.slotOf? identifier).isSome = true ↔
    identifier ∈ assembly.primaryIdentifiers ∨
      identifier ∈ assembly.includedIdentifiers
  distinct : assembly.includedIdentifiers.Nodup
  disjoint : ∀ identifier ∈ assembly.includedIdentifiers,
    identifier ∉ assembly.primaryIdentifiers
  /-- Whatever was included earlier is reached on a way that is no longer. -/
  ascending : assembly.includedIdentifiers.Pairwise fun earlier later =>
    ∀ length, assembler.ReachedAt specification objects length later →
      ∃ shorter ≤ length,
        assembler.ReachedAt specification objects shorter earlier

/-- Which objects were queued, and at which places. -/
structure Expansion
    (depth : Nat)
    (done : List (Visit Object))
    (assembly : Assembly Object) : Prop where
  /-- Exactly the visits with something behind them are in the expansion
  table. -/
  expanded : ∀ identifier path, (identifier, path) ∈ assembly.expanded ↔
    ∃ visit, Seen assembler specification objects depth done visit ∧
      visit.tree.isEmpty = false ∧ assembler.identifierOf visit = identifier ∧
        visit.path = path
  queued : ∀ pending ∈ assembly.queue, pending.visit ∈ done ∧
    pending.tree.isEmpty = false
  /-- Every visit that was added and has something behind it waits in the
  queue. -/
  waiting : ∀ visit ∈ done, visit.tree.isEmpty = false →
    ∃ pending ∈ assembly.queue,
      assembler.identifierOf pending.visit = assembler.identifierOf visit ∧
        pending.path = visit.path

/-- The visits nearer to the root were added, and `done` among those at this
depth. -/
structure Explored
    (primaries : List ResourceIdentifier)
    (depth : Nat)
    (done : List (Visit Object))
    (assembly : Assembly Object) : Prop where
  shown : assembly.primaryIdentifiers = primaries
  placement : Placement assembler specification objects depth done assembly
  expansion : Expansion assembler specification objects depth done assembly

variable {assembler specification objects} {primaries : List ResourceIdentifier}
  {depth : Nat} {done : List (Visit Object)} {assembly : Assembly Object}
  {visit : Visit Object}

theorem seen_append_singleton {other : Visit Object} :
    Seen assembler specification objects depth (done ++ [visit]) other ↔
      Seen assembler specification objects depth done other ∨
        other = visit := by
  simp only [Seen, List.mem_append, List.mem_singleton, or_assoc]

/-! ## Placing -/

theorem Placement.registered
    (placement :
      Placement assembler specification objects depth done assembly) :
    Registered assembly :=
  ⟨placement.located, placement.distinct, placement.disjoint⟩

theorem Placement.current_append
    (placement : Placement assembler specification objects depth done assembly)
    (current : assembler.MetAt specification objects depth visit) :
    ∀ other ∈ done ++ [visit],
      assembler.MetAt specification objects depth other := by
  intro other member
  rcases List.mem_append.mp member with old | new
  · exact placement.current other old
  · rw [List.mem_singleton.mp new]
    exact current

/-- Once the object of a further visit has a slot, all that was seen has slots
again. -/
theorem Placement.placed_append
    {next : Assembly Object}
    (placement : Placement assembler specification objects depth done assembly)
    (slotted :
      ∀ identifier, (next.slotOf? identifier).isSome = true ↔
        identifier = assembler.identifierOf visit ∨
          (assembly.slotOf? identifier).isSome = true)
    (identifier : ResourceIdentifier) :
    (next.slotOf? identifier).isSome = true ↔
      ∃ other,
        Seen assembler specification objects depth (done ++ [visit]) other ∧
        assembler.identifierOf other = identifier := by
  rw [slotted]
  constructor
  · rintro (isNew | hasSlot)
    · exact ⟨visit, seen_append_singleton.mpr (Or.inr rfl), isNew.symm⟩
    · rcases (placement.placed identifier).mp hasSlot with ⟨other, seen, equal⟩
      exact ⟨other, seen_append_singleton.mpr (Or.inl seen), equal⟩
  · rintro ⟨other, seen, equal⟩
    rcases seen_append_singleton.mp seen with old | isNew
    · exact Or.inr ((placement.placed identifier).mpr ⟨other, old, equal⟩)
    · exact Or.inl (by rw [← equal, isNew])

/-- A further visit of an object that has a slot changes nothing. -/
theorem Placement.revisit
    (placement : Placement assembler specification objects depth done assembly)
    (current : assembler.MetAt specification objects depth visit)
    (present :
      (assembly.slotOf? (assembler.identifierOf visit)).isSome = true) :
    Placement assembler specification objects depth (done ++ [visit])
      assembly where
  current := placement.current_append current
  placed := placement.placed_append (slotted_of_present present)
  located := placement.located
  distinct := placement.distinct
  disjoint := placement.disjoint
  ascending := placement.ascending

/-- Whatever has a slot is reached on a way that is no longer than the depth
worked on. -/
theorem Placement.reachedAt
    (placement : Placement assembler specification objects depth done assembly)
    {identifier : ResourceIdentifier}
    (present : (assembly.slotOf? identifier).isSome = true) :
    ∃ length ≤ depth,
      assembler.ReachedAt specification objects length identifier := by
  rcases (placement.placed identifier).mp present with ⟨other, seen, equal⟩
  rcases seen with ⟨names, nearer, met⟩ | member
  · exact ⟨names.length, nearer.le, names, other, rfl, met, equal⟩
  · rcases placement.current other member with ⟨names, length, met⟩
    exact ⟨depth, le_rfl, names, other, length, met, equal⟩

/-- The first visit of an object includes it, behind everything that is no
farther away. -/
theorem Placement.discover
    (placement : Placement assembler specification objects depth done assembly)
    (current : assembler.MetAt specification objects depth visit)
    (absent : assembly.slotOf? (assembler.identifierOf visit) = none)
    {node : ResourceNode}
    (identified : node.identifier = assembler.identifierOf visit)
    (slot : Slot) :
    Placement assembler specification objects depth (done ++ [visit])
      { assembly with
        included := assembly.included ++ [node]
        slots := (assembler.identifierOf visit, slot) :: assembly.slots } := by
  have included :
      includedIdentifiers
          { assembly with
            included := assembly.included ++ [node]
            slots := (assembler.identifierOf visit, slot) :: assembly.slots } =
        assembly.includedIdentifiers ++ [assembler.identifierOf visit] := by
    simp [includedIdentifiers, identified]
  have registered :
      Registered
        { assembly with
          included := assembly.included ++ [node]
          slots := (assembler.identifierOf visit, slot) :: assembly.slots } :=
    placement.registered.discover identified absent slot
  refine
    { current := placement.current_append current
      placed := placement.placed_append fun identifier => lookup_cons_isSome
      located := registered.located
      distinct := registered.distinct
      disjoint := registered.disjoint
      ascending := ?_ }
  · rw [included, List.pairwise_append]
    refine ⟨placement.ascending, List.pairwise_singleton _ _, ?_⟩
    intro earlier old later new length reached
    rw [List.mem_singleton.mp new] at reached
    rcases placement.reachedAt
      ((placement.located earlier).mpr (Or.inr old)) with
      ⟨shorter, bounded, earlierReached⟩
    refine ⟨shorter, ?_, earlierReached⟩
    -- An object that is met nearer to the root would have a slot.
    by_contra farther
    rcases reached with ⟨names, other, lengthEqual, met, equal⟩
    have present :=
      (placement.placed (assembler.identifierOf visit)).mpr
        ⟨other, Or.inl ⟨names, by omega, met⟩, equal⟩
    rw [absent] at present
    cases present

/-- Placement does not depend on the queue, nor on what resource objects
show. -/
theorem Placement.of_eq
    {other : Assembly Object}
    (placement : Placement assembler specification objects depth done assembly)
    (sameSlots : other.slots = assembly.slots)
    (samePrimary : other.primaryIdentifiers = assembly.primaryIdentifiers)
    (sameIncluded : other.includedIdentifiers = assembly.includedIdentifiers) :
    Placement assembler specification objects depth done other := by
  have sameSlot :
      ∀ identifier, other.slotOf? identifier = assembly.slotOf? identifier := by
    intro identifier
    rw [slotOf?, slotOf?, sameSlots]
  have registered :=
    placement.registered.of_eq sameSlots samePrimary sameIncluded
  refine
    { current := placement.current, placed := ?_, located := registered.located
      distinct := registered.distinct, disjoint :=
        registered.disjoint, ascending := ?_ }
  · intro identifier
    rw [sameSlot]
    exact placement.placed identifier
  · rw [sameIncluded]
    exact placement.ascending

/-! ## Queuing -/

theorem Expansion.of_eq
    {other : Assembly Object}
    (expansion : Expansion assembler specification objects depth done assembly)
    (sameExpanded : other.expanded = assembly.expanded)
    (sameQueue : other.queue = assembly.queue) :
    Expansion assembler specification objects depth done other where
  expanded := by
    rw [sameExpanded]
    exact expansion.expanded
  queued := by
    rw [sameQueue]
    exact expansion.queued
  waiting := by
    rw [sameQueue]
    exact expansion.waiting

/-- Queuing a visit that has nothing behind it, or was queued before, changes
nothing. -/
theorem Expansion.skip
    (apart : TellsApart assembler specification objects)
    (expansion : Expansion assembler specification objects depth done assembly)
    (current : assembler.MetAt specification objects depth visit)
    (known : visit.tree.isEmpty = true ∨
      (assembler.identifierOf visit, visit.path) ∈ assembly.expanded) :
    Expansion assembler specification objects depth (done ++ [visit])
      assembly where
  expanded := by
    intro identifier path
    constructor
    · intro member
      rcases (expansion.expanded identifier path).mp member with
        ⟨other, seen, rest⟩
      exact ⟨other, seen_append_singleton.mpr (Or.inl seen), rest⟩
    · rintro ⟨other, seen, inner, sameIdentifier, samePath⟩
      rcases seen_append_singleton.mp seen with old | new
      · exact (expansion.expanded identifier path).mpr
          ⟨other, old, inner, sameIdentifier, samePath⟩
      · subst new
        rcases known with isEmpty | member
        · rw [isEmpty] at inner
          cases inner
        · rwa [sameIdentifier, samePath] at member
  queued := by
    intro pending member
    rcases expansion.queued pending member with ⟨isDone, inner⟩
    exact ⟨List.mem_append_left _ isDone, inner⟩
  waiting := by
    intro other member inner
    rcases List.mem_append.mp member with old | new
    · exact expansion.waiting other old inner
    · rw [List.mem_singleton.mp new] at inner ⊢
      rcases known with isEmpty | present
      · rw [isEmpty] at inner
        cases inner
      · rcases (expansion.expanded _ _).mp present with
          ⟨earlier, seen, earlierInner, sameIdentifier, samePath⟩
        rcases seen with ⟨names, nearer, met⟩ | earlierDone
        · -- The same path would be that of a place nearer to the root.
          rcases current with ⟨names', length, met'⟩
          have sameNames := apart.place met met' samePath
          subst sameNames
          omega
        · rcases expansion.waiting earlier earlierDone earlierInner with
            ⟨pending, queued, pendingIdentifier, pendingPath⟩
          exact ⟨pending, queued, pendingIdentifier.trans sameIdentifier,
            pendingPath.trans samePath⟩

/-- A visit that is queued is entered into the expansion table. -/
theorem Expansion.push
    (expansion : Expansion assembler specification objects depth done assembly)
    (inner : visit.tree.isEmpty = false)
    {pending : Pending Object}
    (isVisit : pending.visit = visit) :
    Expansion assembler specification objects depth (done ++ [visit])
      { assembly with
        expanded :=
          (assembler.identifierOf visit, visit.path) :: assembly.expanded
        queue := assembly.queue ++ [pending] } where
  expanded := by
    intro identifier path
    rw [List.mem_cons, expansion.expanded identifier path]
    constructor
    · rintro (new | ⟨other, seen, rest⟩)
      · cases new
        exact ⟨visit, seen_append_singleton.mpr (Or.inr rfl), inner, rfl, rfl⟩
      · exact ⟨other, seen_append_singleton.mpr (Or.inl seen), rest⟩
    · rintro ⟨other, seen, otherInner, sameIdentifier, samePath⟩
      rcases seen_append_singleton.mp seen with old | new
      · exact Or.inr ⟨other, old, otherInner, sameIdentifier, samePath⟩
      · subst new
        rw [sameIdentifier, samePath]
        exact Or.inl rfl
  queued := by
    intro other member
    rcases List.mem_append.mp member with old | new
    · rcases expansion.queued other old with ⟨isDone, otherInner⟩
      exact ⟨List.mem_append_left _ isDone, otherInner⟩
    · rw [List.mem_singleton.mp new, isVisit]
      refine ⟨List.mem_append_right _ List.mem_cons_self, ?_⟩
      rw [← isVisit] at inner
      exact inner
  waiting := by
    intro other member otherInner
    rcases List.mem_append.mp member with old | new
    · rcases expansion.waiting other old otherInner with ⟨waiting, queued, rest⟩
      exact ⟨waiting, List.mem_append_left _ queued, rest⟩
    · rw [List.mem_singleton.mp new]
      refine ⟨pending,
        List.mem_append_right _ List.mem_cons_self, by rw [isVisit], ?_⟩
      rw [← isVisit]
      rfl

theorem Expansion.enqueue
    (apart : TellsApart assembler specification objects)
    (expansion : Expansion assembler specification objects depth done assembly)
    (current : assembler.MetAt specification objects depth visit)
    (slot : Slot) :
    Expansion assembler specification objects depth (done ++ [visit])
      (assembly.enqueue (assembler.identifierOf visit)
        ⟨visit.resourceType, visit.object, slot, visit.tree, visit.path⟩) := by
  rw [Assembly.enqueue]
  split
  · rename_i known
    rw [Bool.or_eq_true, List.contains_iff_mem] at known
    exact expansion.skip apart current known
  · rename_i unknown
    rw [Bool.or_eq_true, not_or, Bool.not_eq_true] at unknown
    exact expansion.push unknown.1 rfl

/-! ## Levels -/

/-- Adding a visit at the depth that is worked on. -/
theorem Explored.meet
    {tolerated : AssemblyError → Prop}
    {fields : FieldSelection}
    (apart : TellsApart assembler specification objects)
    (explored :
      Explored assembler specification objects primaries depth done assembly)
    (current : assembler.MetAt specification objects depth visit)
    (projected :
      Outcome (fun _ => True) tolerated
        (assembler.project fields visit.resourceType visit.object)) :
    Outcome (Explored assembler
        specification objects primaries depth (done ++ [visit])) tolerated
      (assembly.meet assembler fields visit) := by
  apply meet_outcome projected
  · intro slot found
    have present :
        (assembly.slotOf? (assembler.identifierOf visit)).isSome = true := by
      rw [found]
      rfl
    have placed := explored.placement.revisit current present
    exact
      { shown := by simpa [primaryIdentifiers] using explored.shown
        placement := placed.of_eq (enqueue_slots _ _ _)
          (by simp [primaryIdentifiers]) (by simp [includedIdentifiers])
        expansion := explored.expansion.enqueue apart current slot }
  · intro node absent projection
    have identified := project_identifier projection
    have placed :=
      explored.placement.discover current absent identified
        (Slot.included assembly.included.length)
    have untouched :
        Expansion assembler specification objects depth done
          { assembly with
            included := assembly.included ++ [node]
            slots :=
              (assembler.identifierOf visit,
                  Slot.included assembly.included.length) ::
                assembly.slots } :=
      explored.expansion.of_eq rfl rfl
    exact
      { shown := by simpa [primaryIdentifiers] using explored.shown
        placement := placed.of_eq (enqueue_slots _ _ _)
          (by simp [primaryIdentifiers]) (by simp [includedIdentifiers])
        expansion := untouched.enqueue apart current _ }

/-- Writing linkage leaves identifiers as they are. -/
theorem Explored.writeLinkage
    (explored :
      Explored assembler specification objects primaries depth done assembly)
    (slot : Slot)
    (name : String)
    (linkage : Linkage) :
    Explored assembler specification objects primaries depth done
      (assembly.writeLinkage slot name linkage) where
  shown := by simpa using explored.shown
  placement := explored.placement.of_eq (by simp) (by simp) (by simp)
  expansion := explored.expansion.of_eq (by simp) (by simp)

variable (assembler specification objects)

/-- All visits at places up to `depth` names below the root were added. -/
def ExploredTo (depth : Nat) (assembly : Assembly Object) : Prop :=
  ∃ done,
    Explored assembler specification objects
        (objects.map (assembler.identify specification.resourceType)) depth done
          assembly ∧
    ∀ names visit, names.length = depth →
      assembler.Met specification objects names visit → visit ∈ done

/-- The errors that following the include tree and projecting what it meets can
raise. -/
structure Tolerates (tolerated : AssemblyError → Prop) : Prop where
  projected : ∀ {names : List String} {visit : Visit Object},
    assembler.Met specification objects names visit →
    Outcome (fun _ => True) tolerated
      (assembler.project specification.fields visit.resourceType visit.object)
  undeclared : ∀ {names : List String} {visit : Visit Object},
    assembler.Met specification objects names visit →
    ∀ branch ∈ visit.tree.children,
      assembler.schema.relationship? visit.resourceType branch.1 = none →
        tolerated (.unknownRelationship visit.resourceType branch.1)
  resolved : ∀ {names : List String} {visit : Visit Object},
    assembler.Met specification objects names visit →
    ∀ branch ∈ visit.tree.children, ∀ id,
      Outcome (fun _ => True) tolerated
        (assembler.related visit.resourceType id visit.object branch.1)

variable {assembler specification objects} {tolerated : AssemblyError → Prop}

/-- Once a level is complete, what was seen is what lies nearer to the root than
the next one. -/
theorem Explored.startLevel
    (explored :
      Explored assembler specification objects primaries depth done assembly)
    (complete : ∀ names visit, names.length = depth →
      assembler.Met specification objects names visit → visit ∈ done) :
    Explored assembler specification objects primaries (depth + 1) []
      { assembly with queue := [] } := by
  have sameSeen :
      ∀ other, Seen assembler specification objects (depth + 1) [] other ↔
        Seen assembler specification objects depth done other := by
    intro other
    constructor
    · rintro (⟨names, nearer, met⟩ | absurdity)
      · rcases Nat.lt_succ_iff_lt_or_eq.mp nearer with before | here
        · exact Or.inl ⟨names, before, met⟩
        · exact Or.inr (complete names other here met)
      · cases absurdity
    · rintro (⟨names, nearer, met⟩ | member)
      · exact Or.inl ⟨names, nearer.trans (Nat.lt_succ_self depth), met⟩
      · rcases explored.placement.current other member with ⟨names, here, met⟩
        exact Or.inl ⟨names, by omega, met⟩
  exact
    { shown := explored.shown
      placement :=
        { current := by simp
          placed := by
            simp only [sameSeen]
            exact explored.placement.placed
          located := explored.placement.located
          distinct := explored.placement.distinct
          disjoint := explored.placement.disjoint
          ascending := explored.placement.ascending }
      expansion :=
        { expanded := by
            simp only [sameSeen]
            exact explored.expansion.expanded
          queued := by simp
          waiting := by simp } }

theorem Explored.met_of_queued
    (explored :
      Explored assembler specification objects primaries depth done assembly)
    {pending : Pending Object}
    (queued : pending ∈ assembly.queue) :
    assembler.MetAt specification objects depth pending.visit :=
  explored.placement.current pending.visit
    (explored.expansion.queued pending queued).1

/-- What follows a queued object is met one name further down. -/
theorem Explored.met_of_next
    (explored :
      Explored assembler specification objects primaries depth done assembly)
    {pending : Pending Object}
    (queued : pending ∈ assembly.queue)
    (next : visit ∈ assembler.nextVisits pending.visit) :
    assembler.MetAt specification objects (depth + 1) visit := by
  rcases explored.met_of_queued queued with ⟨names, here, met⟩
  rcases List.mem_flatMap.mp next with ⟨⟨name, subtree⟩, branch, reached⟩
  exact ⟨names ++ [name], by simp [here], met.follow branch reached⟩

/-- Whatever is met at the depth that was completed waits, if there is something
behind it. -/
theorem Explored.queued_of_met
    (apart : TellsApart assembler specification objects)
    (explored :
      Explored assembler specification objects primaries depth done assembly)
    (complete : ∀ names visit, names.length = depth →
      assembler.Met specification objects names visit → visit ∈ done)
    {names : List String}
    (here : names.length = depth)
    (met : assembler.Met specification objects names visit)
    (inner : visit.tree.isEmpty = false) :
    visit ∈ assembly.queue.map Pending.visit := by
  -- The visit itself need not be queued, but one of the same object at the same
  -- place is.
  rcases explored.expansion.waiting visit (complete names visit here met)
    inner with
    ⟨pending, queued, sameIdentifier, samePath⟩
  rcases explored.met_of_queued queued with ⟨pendingNames, _, pendingMet⟩
  rw [← apart.visit_eq pendingMet met sameIdentifier samePath]
  exact List.mem_map_of_mem queued

/-- Whatever is met one name further down follows a queued object. -/
theorem Explored.next_of_met
    (apart : TellsApart assembler specification objects)
    (explored :
      Explored assembler specification objects primaries depth done assembly)
    (complete : ∀ names visit, names.length = depth →
      assembler.Met specification objects names visit → visit ∈ done)
    {names : List String}
    (length : names.length = depth + 1)
    (met : assembler.Met specification objects names visit) :
    visit ∈
      (assembly.queue.map Pending.visit).flatMap assembler.nextVisits := by
  cases met with
  | primary member => simp at length
  | @follow names visit next name subtree met branch reached =>
      have here : names.length = depth := by simpa using length
      have queued :=
        explored.queued_of_met apart complete here met
          (IncludeTree.isEmpty_eq_false_of_mem branch)
      exact List.mem_flatMap.mpr
        ⟨visit, queued, List.mem_flatMap.mpr ⟨(name, subtree), branch, reached⟩⟩

/-- Expanding the queue completes the next level. -/
theorem ExploredTo.expandQueue
    (apart : TellsApart assembler specification objects)
    (tolerates : Tolerates assembler specification objects tolerated)
    (exploredTo : ExploredTo assembler specification objects depth assembly) :
    Outcome (ExploredTo assembler specification objects (depth + 1)) tolerated
      (assembly.queue.foldlM (expand assembler specification.fields)
        { assembly with queue := [] }) := by
  rcases exploredTo with ⟨done, explored, complete⟩
  have keeps :
      Keeps assembler specification.fields tolerated assembly.queue
        fun done _ =>
        Explored assembler specification objects
          (objects.map (assembler.identify specification.resourceType))
            (depth + 1) done :=
    { undeclared := fun pending queued => by
        rcases explored.met_of_queued queued with ⟨_, _, met⟩
        exact tolerates.undeclared met
      resolved := fun pending queued branch child _ _ _ _ => by
        rcases explored.met_of_queued queued with ⟨_, _, met⟩
        exact tolerates.resolved met branch child _
      meets := by
        intro pending queued handled _ state visit next kept
        rcases explored.met_of_next queued next with ⟨names, here, met⟩
        exact kept.meet apart ⟨names, here, met⟩ (tolerates.projected met)
      writes := fun _ _ _ _ _ name linkage _ _ kept =>
        kept.writeLinkage _ name linkage
      hides := fun _ _ _ _ _ _ _ _ _ kept => kept }
  have expanded := expandQueue_outcome keeps [] (explored.startLevel complete)
  apply expanded.mono
  intro next exploredNext
  refine ⟨_, exploredNext, ?_⟩
  intro names visit length met
  exact explored.next_of_met apart complete length met

theorem ExploredTo.expandLevels
    (apart : TellsApart assembler specification objects)
    (tolerates : Tolerates assembler specification objects tolerated)
    (levels : Nat)
    (exploredTo : ExploredTo assembler specification objects depth assembly) :
    Outcome (ExploredTo assembler specification objects (depth + levels))
      tolerated
      (expandLevels assembler specification.fields levels assembly) := by
  induction levels generalizing depth assembly with
  | zero => exact exploredTo
  | succ levels induction =>
      apply Outcome.bind (exploredTo.expandQueue apart tolerates)
      intro expanded deeper
      have rest := induction deeper
      rwa [Nat.add_assoc, Nat.add_comm 1 levels] at rest

/-! ## Primary objects -/

variable (assembler specification objects) in
/-- The primary objects in `handled` were added, and nothing else. -/
structure Begun
    (handled : List Object)
    (assembly : Assembly Object) : Prop where
  explored : Explored assembler specification objects
    (handled.map (assembler.identify specification.resourceType)) 0
    (handled.map specification.primaryVisit) assembly
  noneIncluded : assembly.included = []

theorem begun_empty : Begun assembler specification objects [] empty where
  explored :=
    { shown := rfl
      placement :=
        { current := by simp
          placed := by simp [Seen, slotOf?, empty]
          located := registered_empty.located
          distinct := registered_empty.distinct
          disjoint := registered_empty.disjoint
          ascending := List.Pairwise.nil }
      expansion :=
        { expanded := by simp [Seen, empty]
          queued := by simp [empty]
          waiting := by simp } }
  noneIncluded := rfl

/-- A primary object is seen with its slot, which either was there or is made
now. -/
theorem Placement.showPrimary
    {node : ResourceNode}
    {slots : List (ResourceIdentifier × Slot)}
    (placement : Placement assembler specification objects depth done assembly)
    (current : assembler.MetAt specification objects depth visit)
    (noneIncluded : assembly.included = [])
    (identified : node.identifier = assembler.identifierOf visit)
    (slotted :
      ∀ identifier, (slots.lookup identifier).isSome = true ↔
        identifier = assembler.identifierOf visit ∨
          (assembly.slotOf? identifier).isSome = true) :
    Placement assembler specification objects depth (done ++ [visit])
      { assembly with
        primary := assembly.primary ++ [node]
        slots := slots } := by
  have included :
      includedIdentifiers
        { assembly with
          primary := assembly.primary ++ [node]
          slots := slots } = [] := by
    simp [includedIdentifiers, noneIncluded]
  have registered :
      Registered { assembly with
          primary := assembly.primary ++ [node], slots := slots } :=
    placement.registered.showPrimary identified noneIncluded slotted
  refine
    { current := placement.current_append current
      placed := placement.placed_append slotted
      located := registered.located
      distinct := registered.distinct
      disjoint := registered.disjoint
      ascending := ?_ }
  rw [included]
  exact List.Pairwise.nil

theorem Begun.primaryIdentifiers_append
    {handled : List Object}
    {object : Object}
    {node : ResourceNode}
    (begun : Begun assembler specification objects handled assembly)
    (identified :
      node.identifier =
        assembler.identifierOf (specification.primaryVisit object)) :
    (assembly.primary ++ [node]).map ResourceNode.identifier =
      (handled ++ [object]).map
        (assembler.identify specification.resourceType) := by
  rw [List.map_append, List.map_append, ← begun.explored.shown,
    List.map_singleton, identified]
  rfl

/-- A primary object that has a slot is shown once more. -/
theorem Begun.repeatPrimary
    {handled : List Object}
    {object : Object}
    {node : ResourceNode}
    (apart : TellsApart assembler specification objects)
    (begun : Begun assembler specification objects handled assembly)
    (member : object ∈ objects)
    (identified :
      node.identifier =
        assembler.identifierOf (specification.primaryVisit object))
    (present :
      (assembly.slotOf?
          (assembler.identifierOf (specification.primaryVisit object))).isSome =
        true) :
    Begun assembler specification objects (handled ++ [object])
      { assembly with primary := assembly.primary ++ [node] } := by
  have current : assembler.MetAt specification objects 0
      (specification.primaryVisit object) :=
    ⟨[], rfl, .primary member⟩
  have untouched :
      Expansion assembler
        specification objects 0 (handled.map specification.primaryVisit)
        { assembly with primary := assembly.primary ++ [node] } :=
    begun.explored.expansion.of_eq rfl rfl
  refine ⟨⟨begun.primaryIdentifiers_append identified, ?_, ?_⟩,
    begun.noneIncluded⟩
  · rw [List.map_append]
    exact begun.explored.placement.showPrimary current begun.noneIncluded
      identified (slotted_of_present present)
  · rw [List.map_append]
    apply untouched.skip apart current
    -- An object with a slot is one that was handled, and was queued if there is
    -- a tree.
    rcases (begun.explored.placement.placed _).mp present with
      ⟨other, seen, sameIdentifier⟩
    rcases seen with ⟨names, nearer, met⟩ | otherHandled
    · cases nearer
    · rcases List.mem_map.mp otherHandled with ⟨source, _, equal⟩
      cases inner : specification.inclusion.isEmpty with
      | true => exact Or.inl inner
      | false =>
          refine Or.inr ((begun.explored.expansion.expanded _ _).mpr
            ⟨other, Or.inr otherHandled, ?_, sameIdentifier, ?_⟩)
          · rw [← equal]
            exact inner
          · rw [← equal]
            rfl

/-- A primary object without a slot is given one, and is queued. -/
theorem Begun.placePrimary
    {handled : List Object}
    {object : Object}
    {node : ResourceNode}
    (apart : TellsApart assembler specification objects)
    (begun : Begun assembler specification objects handled assembly)
    (member : object ∈ objects)
    (identified :
      node.identifier =
        assembler.identifierOf (specification.primaryVisit object))
    (slot : Slot) :
    Begun assembler specification objects (handled ++ [object])
      (enqueue
        { assembly with
          primary := assembly.primary ++ [node]
          slots :=
            (assembler.identifierOf (specification.primaryVisit object),
                slot) ::
              assembly.slots }
        (assembler.identifierOf (specification.primaryVisit object))
        ⟨specification.resourceType, object, slot, specification.inclusion,
            ""⟩) := by
  have current : assembler.MetAt specification objects 0
      (specification.primaryVisit object) :=
    ⟨[], rfl, .primary member⟩
  have placed :
      Placement assembler specification objects 0
        (handled.map specification.primaryVisit ++
            [specification.primaryVisit object])
        { assembly with
          primary := assembly.primary ++ [node]
          slots :=
            (assembler.identifierOf (specification.primaryVisit object),
                slot) ::
              assembly.slots } :=
    begun.explored.placement.showPrimary current begun.noneIncluded identified
      fun identifier => lookup_cons_isSome
  have untouched :
      Expansion assembler specification objects 0
        (handled.map specification.primaryVisit) { assembly with
          primary := assembly.primary ++ [node]
          slots :=
            (assembler.identifierOf (specification.primaryVisit object),
                slot) ::
              assembly.slots } :=
    begun.explored.expansion.of_eq rfl rfl
  refine ⟨⟨?_, ?_, ?_⟩, by simpa using begun.noneIncluded⟩
  · simpa [primaryIdentifiers] using begun.primaryIdentifiers_append identified
  · rw [List.map_append]
    exact placed.of_eq (enqueue_slots _ _ _) (by simp [primaryIdentifiers])
      (by simp [includedIdentifiers])
  · rw [List.map_append]
    exact untouched.enqueue apart current _

/-- Adding all primary objects completes the root level. -/
theorem addPrimaries_outcome
    (apart : TellsApart assembler specification objects)
    (tolerates : Tolerates assembler specification objects tolerated) :
    Outcome (ExploredTo assembler specification objects 0) tolerated
      (objects.foldlM (addPrimary assembler specification) empty) := by
  have begun :
      Outcome (Begun assembler specification objects objects) tolerated
        (objects.foldlM (addPrimary assembler specification) empty) := by
    apply Outcome.foldlM (Begun assembler specification objects) _ begun_empty
    intro handled object assembly member begun
    apply addPrimary_outcome (tolerates.projected (.primary member))
    · intro node projection present
      exact begun.repeatPrimary apart member (project_identifier projection)
        present
    · intro node projection absent
      exact begun.placePrimary apart member (project_identifier projection) _
  apply begun.mono
  intro assembly complete
  refine ⟨_, complete.explored, ?_⟩
  intro names visit length met
  cases met with
  | primary member => exact List.mem_map.mpr ⟨_, member, rfl⟩
  | follow met branch reached => simp at length

/-- Assembling a document visits everything that is met. -/
theorem run_outcome
    (apart : TellsApart assembler specification objects)
    (tolerates : Tolerates assembler specification objects tolerated) :
    Outcome
      (ExploredTo assembler specification objects specification.inclusion.depth)
      tolerated (run assembler specification objects) := by
  apply Outcome.bind (addPrimaries_outcome apart tolerates)
  intro begun exploredTo
  have explored :=
    exploredTo.expandLevels apart tolerates specification.inclusion.depth
  rwa [Nat.zero_add] at explored

/-! ## The assembled objects -/

theorem ExploredTo.primaryIdentifiers_eq
    (exploredTo : ExploredTo assembler specification objects depth assembly) :
    assembly.primaryIdentifiers =
      objects.map (assembler.identify specification.resourceType) := by
  rcases exploredTo with ⟨_, explored, _⟩
  exact explored.shown

theorem ExploredTo.nodup_includedIdentifiers
    (exploredTo : ExploredTo assembler specification objects depth assembly) :
    assembly.includedIdentifiers.Nodup := by
  rcases exploredTo with ⟨_, explored, _⟩
  exact explored.placement.distinct

theorem ExploredTo.pairwise_includedIdentifiers
    (exploredTo : ExploredTo assembler specification objects depth assembly) :
    assembly.includedIdentifiers.Pairwise fun earlier later =>
      ∀ length, assembler.ReachedAt specification objects length later →
        ∃ shorter ≤ length,
          assembler.ReachedAt specification objects shorter earlier := by
  rcases exploredTo with ⟨_, explored, _⟩
  exact explored.placement.ascending

/-- Included is what some visit meets and is no primary object. -/
theorem ExploredTo.mem_includedIdentifiers
    (exploredTo :
      ExploredTo assembler specification objects specification.inclusion.depth
        assembly)
    {identifier : ResourceIdentifier} :
    identifier ∈ assembly.includedIdentifiers ↔
      (∃ length, assembler.ReachedAt specification objects length identifier) ∧
        identifier ∉
          objects.map (assembler.identify specification.resourceType) := by
  rw [← exploredTo.primaryIdentifiers_eq]
  rcases exploredTo with ⟨done, explored, complete⟩
  have located := explored.placement.located identifier
  have placed := explored.placement.placed identifier
  constructor
  · intro member
    refine ⟨?_, explored.placement.disjoint identifier member⟩
    rcases explored.placement.reachedAt (located.mpr (Or.inr member)) with
      ⟨length, _, reached⟩
    exact ⟨length, reached⟩
  · rintro ⟨⟨length, names, visit, _, met, equal⟩, notPrimary⟩
    have seen : Seen assembler specification objects
        specification.inclusion.depth done visit := by
      rcases Nat.lt_or_eq_of_le met.length_le with nearer | here
      · exact Or.inl ⟨names, nearer, met⟩
      · exact Or.inr (complete names visit here met)
    rcases located.mp (placed.mpr ⟨visit, seen, equal⟩) with
      isPrimary | isIncluded
    · exact absurd isPrimary notPrimary
    · exact isIncluded

/-- Whatever is met has a resource object. -/
theorem ExploredTo.exists_node_of_met
    (exploredTo :
      ExploredTo assembler specification objects specification.inclusion.depth
        assembly)
    {names : List String}
    (met : assembler.Met specification objects names visit) :
    ∃ node ∈ assembly.nodes,
      node.identifier = assembler.identifierOf visit := by
  by_cases primary :
      assembler.identifierOf visit ∈
        objects.map (assembler.identify specification.resourceType)
  · rw [← exploredTo.primaryIdentifiers_eq] at primary
    rcases List.mem_map.mp primary with ⟨node, member, same⟩
    exact ⟨node, List.mem_append_left _ member, same⟩
  · have included :=
      exploredTo.mem_includedIdentifiers.mpr
        ⟨⟨names.length, names, visit, rfl, met, rfl⟩, primary⟩
    rcases List.mem_map.mp included with ⟨node, member, same⟩
    exact ⟨node, List.mem_append_right _ member, same⟩

theorem ExploredTo.slotted_of_met
    (exploredTo :
      ExploredTo assembler specification objects specification.inclusion.depth
        assembly)
    {names : List String}
    (met : assembler.Met specification objects names visit) :
    (assembly.slotOf? (assembler.identifierOf visit)).isSome = true := by
  rcases exploredTo.exists_node_of_met met with ⟨node, member, identified⟩
  rcases exploredTo with ⟨done, explored, _⟩
  rw [← identified, explored.placement.located]
  exact (List.mem_append.mp member).imp List.mem_map_of_mem List.mem_map_of_mem

theorem ExploredTo.met_of_included
    (exploredTo :
      ExploredTo assembler specification objects specification.inclusion.depth
        assembly)
    {node : ResourceNode}
    (member : node ∈ assembly.included) :
    ∃ names visit, assembler.Met specification objects names visit ∧
      node.identifier = assembler.identifierOf visit := by
  have listed : node.identifier ∈ assembly.includedIdentifiers :=
    List.mem_map_of_mem member
  rcases exploredTo.mem_includedIdentifiers.mp listed with
    ⟨⟨_, names, visit, _, met, same⟩, _⟩
  exact ⟨names, visit, met, same.symm⟩

/-- Primary resource objects stand in the places of their objects. -/
theorem ExploredTo.forall₂_primary
    (exploredTo : ExploredTo assembler specification objects depth assembly) :
    List.Forall₂
      (fun node object =>
        node.identifier = assembler.identify specification.resourceType object)
      assembly.primary objects := by
  rw [← List.forall₂_map_right_iff, ← List.forall₂_map_left_iff,
    List.forall₂_eq_eq_eq]
  exact exploredTo.primaryIdentifiers_eq

end Assembly

end JsonApi
