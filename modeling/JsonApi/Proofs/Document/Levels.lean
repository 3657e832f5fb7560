import JsonApi.Proofs.Document.Exploration

/-!
# Levels of an assembly

A run expands level after level, and follows on each level what the include
tree asks for at its depth.  An invariant over the relationships followed so
far that every step keeps therefore holds at the end of a run for exactly the
relationships that the tree asks for at some place (`Sustains.run`).
-/

namespace JsonApi

open Assembler

variable {Object : Type}

namespace Assembly

variable {assembler : Assembler Object} {specification : QuerySpecification}
  {objects : List Object} {assembly : Assembly Object} {visit : Visit Object}
  {name : String}

variable (assembler specification objects) in
/-- The include tree asks for the relationship at a place less than `depth`
names below the root, where the resource is met. -/
def AskedAbove (depth : Nat) (entry : ResourceIdentifier × String) : Prop :=
  ∃ names visit, names.length < depth ∧
    assembler.Met specification objects names visit ∧
      entry ∈ assembler.requests visit

theorem mem_requests {identifier : ResourceIdentifier} :
    (identifier, name) ∈ assembler.requests visit ↔
      assembler.identifierOf visit = identifier ∧
        ∃ subtree, (name, subtree) ∈ visit.tree.children := by
  rw [requests, List.mem_map]
  constructor
  · rintro ⟨⟨other, subtree⟩, child, equal⟩
    cases equal
    exact ⟨rfl, subtree, child⟩
  · rintro ⟨same, subtree, child⟩
    exact ⟨(name, subtree), child, by rw [same]⟩

/-- What a level follows is what the tree asks for at its depth. -/
theorem ExploredTo.askedAbove_succ
    (apart : TellsApart assembler specification objects)
    {depth : Nat}
    (exploredTo : ExploredTo assembler specification objects depth assembly)
    (entry : ResourceIdentifier × String) :
    AskedAbove assembler specification objects (depth + 1) entry ↔
      AskedAbove assembler specification objects depth entry ∨
        entry ∈
          (assembly.queue.map Pending.visit).flatMap assembler.requests := by
  rcases exploredTo with ⟨done, explored, complete⟩
  constructor
  · rintro ⟨names, visit, above, met, asked⟩
    rcases Nat.lt_succ_iff_lt_or_eq.mp above with before | here
    · exact Or.inl ⟨names, visit, before, met, asked⟩
    · rcases mem_requests.mp asked with ⟨_, subtree, child⟩
      have queued :=
        explored.queued_of_met apart complete here met
          (IncludeTree.isEmpty_eq_false_of_mem child)
      exact Or.inr (List.mem_flatMap.mpr ⟨visit, queued, asked⟩)
  · rintro (⟨names, visit, before, met, asked⟩ | followed)
    · exact ⟨names, visit, before.trans (Nat.lt_succ_self depth), met, asked⟩
    · rcases List.mem_flatMap.mp followed with ⟨visit, queued, asked⟩
      rcases List.mem_map.mp queued with ⟨pending, waits, isVisit⟩
      rcases explored.met_of_queued waits with ⟨names, here, met⟩
      rw [isVisit] at met
      exact ⟨names, visit, by omega, met, asked⟩

/-- As many levels as the include tree is deep follow everything that the tree
asks for. -/
theorem askedAbove_depth_iff (entry : ResourceIdentifier × String) :
    AskedAbove assembler specification objects specification.inclusion.depth
      entry ↔
      ∃ names visit,
        assembler.Met specification objects names visit ∧
          entry ∈ assembler.requests visit := by
  constructor
  · rintro ⟨names, visit, _, met, asked⟩
    exact ⟨names, visit, met, asked⟩
  · rintro ⟨names, visit, met, asked⟩
    rcases mem_requests.mp asked with ⟨_, subtree, child⟩
    have bounded := met.length_add_depth_le
    have deeper := IncludeTree.depth_lt_of_mem child
    exact ⟨names, visit, by omega, met, asked⟩

/-! ## Invariants of a run -/

/-- The steps of a run keep an invariant over the queue that is worked on and
the relationships followed so far, and raise tolerated errors only. -/
structure Sustains
    (assembler : Assembler Object)
    (specification : QuerySpecification)
    (objects : List Object)
    (tolerated : AssemblyError → Prop)
    (invariant :
      List (Pending Object) → List (ResourceIdentifier × String) →
        Assembly Object → Prop) : Prop where
  begins : invariant [] [] empty
  shows : ∀ object ∈ objects, ∀ assembly, invariant [] [] assembly →
    Outcome (invariant [] []) tolerated
      (assembly.addPrimary assembler specification object)
  starts : ∀ followed assembly, invariant [] followed assembly →
    invariant assembly.queue followed { assembly with queue := [] }
  /-- What waits in a queue is met. -/
  expands : ∀ queue,
    (∀ pending ∈ queue, ∃ names,
        assembler.Met specification objects names pending.visit) →
      Keeps assembler specification.fields tolerated queue fun _ =>
        invariant queue
  ends : ∀ working followed assembly,
    invariant working followed assembly → invariant [] followed assembly

variable {tolerated : AssemblyError → Prop}
  {invariant : List (Pending Object) → List (ResourceIdentifier × String) →
      Assembly Object → Prop}

/-- What follows an object of a queue is met. -/
theorem met_of_next
    {queue : List (Pending Object)}
    {pending : Pending Object}
    (met : ∀ pending ∈ queue, ∃ names,
      assembler.Met specification objects names pending.visit)
    (queued : pending ∈ queue)
    (next : visit ∈ assembler.nextVisits pending.visit) :
    ∃ names, assembler.Met specification objects names visit := by
  rcases met pending queued with ⟨names, metPending⟩
  rcases List.mem_flatMap.mp next with ⟨⟨name, subtree⟩, child, reached⟩
  exact ⟨names ++ [name], metPending.follow child reached⟩

variable (assembler specification objects invariant) in
/-- Everything less than `depth` names below the root was expanded, and the
invariant holds. -/
def SustainedTo (depth : Nat) (assembly : Assembly Object) : Prop :=
  ∃ followed,
    invariant [] followed assembly ∧
      ∀ entry, entry ∈ followed ↔
        AskedAbove assembler specification objects depth entry

theorem tolerates_true : Tolerates assembler specification objects fun _ =>
  True where
  projected _ := Outcome.trivial _
  undeclared _ _ _ _ := True.intro
  resolved _ _ _ _ := Outcome.trivial _

/-- Expanding the queue follows what is asked for at the places of the queued
objects. -/
theorem Sustains.expandQueue
    (sustains : Sustains assembler specification objects tolerated invariant)
    (apart : TellsApart assembler specification objects)
    {depth : Nat}
    (exploredTo : ExploredTo assembler specification objects depth assembly)
    (sustained :
      SustainedTo assembler specification objects invariant depth assembly) :
    Outcome (SustainedTo assembler specification objects invariant (depth + 1))
      tolerated (assembly.queue.foldlM (expand assembler specification.fields)
        { assembly with queue := [] }) := by
  rcases sustained with ⟨followed, holds, isAsked⟩
  have met : ∀ pending ∈ assembly.queue,
      ∃ names, assembler.Met specification objects names pending.visit := by
    intro pending queued
    rcases exploredTo with ⟨done, explored, _⟩
    rcases explored.met_of_queued queued with ⟨names, _, met⟩
    exact ⟨names, met⟩
  have expanded :=
    expandQueue_outcome (sustains.expands assembly.queue met) followed
      (sustains.starts followed assembly holds)
  apply expanded.mono
  intro next kept
  refine ⟨_, sustains.ends _ _ next kept, ?_⟩
  intro entry
  rw [exploredTo.askedAbove_succ apart, ← isAsked, List.mem_append]

theorem Sustains.expandLevels
    (sustains : Sustains assembler specification objects tolerated invariant)
    (apart : TellsApart assembler specification objects)
    (levels : Nat)
    {depth : Nat}
    (exploredTo : ExploredTo assembler specification objects depth assembly)
    (sustained :
      SustainedTo assembler specification objects invariant depth assembly) :
    Outcome (SustainedTo
        assembler specification objects invariant (depth + levels)) tolerated
      (expandLevels assembler specification.fields levels assembly) := by
  induction levels generalizing depth assembly with
  | zero => exact sustained
  | succ levels induction =>
      apply Outcome.bind
        ((sustains.expandQueue apart exploredTo sustained).and
          (exploredTo.expandQueue apart tolerates_true))
      rintro expanded ⟨sustainedNext, explored⟩
      have rest := induction explored sustainedNext
      rwa [Nat.add_assoc, Nat.add_comm 1 levels] at rest

/-- At the end of a run the invariant holds for what the tree asks for. -/
theorem Sustains.run
    (sustains : Sustains assembler specification objects tolerated invariant)
    (apart : TellsApart assembler specification objects) :
    Outcome
      (SustainedTo assembler specification objects invariant
          specification.inclusion.depth)
      tolerated (run assembler specification objects) := by
  have begun :
      Outcome (invariant [] []) tolerated
        (objects.foldlM (Assembly.addPrimary assembler specification) empty) :=
    Outcome.foldlM (fun _ => invariant [] [])
      (fun _ object state member => sustains.shows object member state)
        sustains.begins
  apply Outcome.bind (begun.and (addPrimaries_outcome apart tolerates_true))
  rintro assembly ⟨holds, exploredTo⟩
  have sustained :
      SustainedTo assembler specification objects invariant 0 assembly :=
    ⟨[], holds, by simp [AskedAbove]⟩
  have expanded :=
    sustains.expandLevels apart specification.inclusion.depth exploredTo
      sustained
  rwa [Nat.zero_add] at expanded

end Assembly

end JsonApi
