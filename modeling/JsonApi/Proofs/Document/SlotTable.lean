import JsonApi.Proofs.Document.WorkStep

/-!
# The slot table of a work queue

Every entry of the slot table leads from an identifier to the resource object
that bears it, an identifier has one entry, every included resource object has
the slot that it stands in, and what waits in the queue is sent to the slot of
its object (`Sound`).  Every change of a document keeps this, and so does every
sequence of steps, whether they succeed or are refused (`Reached.sound`).

No step therefore uses a slot without a resource object, and an expansion
writes to the resource object of the object that it expands and to no other
one (`slots_of_reached`).
-/

namespace JsonApi

open Assembly

variable {World Object α : Type}

/-- The workspace that work leaves, also when it stops. -/
def Work.leaves
    (work : Work World Object α)
    (workspace : Workspace World Object) :
    Workspace World Object :=
  match work.run workspace with
  | .ok _ left => left
  | .error _ left => left

/-- What holds however work ends, holds of what it leaves. -/
theorem Ends.leaves
    {work : Work World Object α}
    {workspace : Workspace World Object}
    {wanted : α → Workspace World Object → Prop}
    {tolerated : Stop → Workspace World Object → Prop}
    {left : Workspace World Object → Prop}
    (ends : Ends wanted tolerated (work.run workspace))
    (succeeded : ∀ result reached, wanted result reached → left reached)
    (stopped : ∀ stop reached, tolerated stop reached → left reached) :
    left (work.leaves workspace) := by
  rw [Work.leaves]
  cases ending : work.run workspace with
  | ok result reached => exact succeeded result reached (ends.of_ok ending)
  | error stop reached => exact stopped stop reached (ends.of_error ending)

namespace LiveAssembler

/-- The slot table is right, for what waits in the queue and for what is worked
on. -/
structure Sound
    (assembler : LiveAssembler World Object)
    (working : List (Pending Object))
    (assembly : Assembly Object) : Prop where
  held : ∀ entry ∈ assembly.slots,
    ∃ node, assembly.nodeAt? entry.2 = some node ∧ node.identifier = entry.1
  distinct : (assembly.slots.map Prod.fst).Nodup
  included : ∀ {index : Nat} {identifier : ResourceIdentifier},
    assembly.includedIdentifiers[index]? = some identifier →
      assembly.slotOf? identifier = some (.included index)
  addressed : ∀ pending, pending ∈ working ∨ pending ∈ assembly.queue →
    assembly.slotOf? (assembler.identifierOf pending.visit) = some pending.slot

variable {assembler : LiveAssembler World Object}
  {working : List (Pending Object)} {admitted : Visit Object → Prop}
  {writable : Slot → String → Prop} {assembly before after : Assembly Object}
  {specification : QuerySpecification} {workspace : Workspace World Object}
  {pending : Pending Object} {rest : List (Pending Object)}

theorem sound_empty : Sound assembler [] (empty : Assembly Object) where
  held _ member := by cases member
  distinct := List.nodup_nil
  included found := by cases found
  addressed _ member := by simp [empty] at member

theorem not_mem_keys
    {identifier : ResourceIdentifier}
    (absent : assembly.slotOf? identifier = none) :
    identifier ∉ assembly.slots.map Prod.fst := by
  rw [slotOf?, List.lookup_eq_none_iff] at absent
  intro member
  rcases List.mem_map.mp member with ⟨entry, isEntry, rfl⟩
  exact absurd (absent entry isEntry) (by simp)

/-- Every change keeps the slot table right. -/
theorem Sound.change
    (sound : Sound assembler working before)
    (change : Change assembler admitted writable before after) :
    Sound assembler working after where
  held := by
    have kept : ∀ entry ∈ before.slots,
        ∃ node, after.nodeAt? entry.2 = some node ∧
          node.identifier = entry.1 := by
      intro entry member
      rcases sound.held entry member with ⟨node, isHeld, identified⟩
      rcases change.nodeAt? isHeld with ⟨later, laterHeld, carries, _⟩
      exact ⟨later, laterHeld, carries.identifier.trans identified⟩
    rcases change.slots with same | ⟨node, slot, isCons, _, isHeld⟩
    · rwa [same]
    · rw [isCons]
      exact List.forall_mem_cons.mpr ⟨⟨node, isHeld, rfl⟩, kept⟩
  distinct := by
    rcases change.slots with same | ⟨node, slot, isCons, absent, _⟩
    · rw [same]
      exact sound.distinct
    · rw [isCons, List.map_cons]
      exact List.nodup_cons.mpr ⟨not_mem_keys absent, sound.distinct⟩
  included := by
    intro index identifier isIncluded
    rcases change.included isIncluded with earlier | given
    · exact change.slotOf? (sound.included earlier)
    · exact given
  addressed := by
    intro pending member
    rcases change.queue with ⟨joined, isQueue, all⟩
    rw [isQueue, List.mem_append, ← or_assoc] at member
    rcases member with old | new
    · exact change.slotOf? (sound.addressed pending old)
    · exact (all pending new).2.2

theorem Sound.changes
    (sound : Sound assembler working before)
    (changes : Changes assembler admitted writable before after) :
    Sound assembler working after :=
  changes.keeps (fun _ _ change kept => kept.change change) sound

/-- Different identifiers have different slots. -/
theorem Sound.distinct_slots (sound : Sound assembler working assembly) :
    (assembly.slots.map Prod.snd).Nodup := by
  have distinct := sound.distinct
  rw [List.Nodup, List.pairwise_map] at distinct ⊢
  apply distinct.imp_of_mem
  intro first second firstMember secondMember different same
  rcases sound.held first firstMember with ⟨node, isHeld, firstIdentified⟩
  rcases sound.held second secondMember with
    ⟨again, isHeldAgain, secondIdentified⟩
  rw [same, isHeldAgain] at isHeld
  cases isHeld
  exact different (firstIdentified.symm.trans secondIdentified)

/-- The resource object of what is worked on or waits. -/
theorem Sound.exists_node
    (sound : Sound assembler working assembly)
    (member : pending ∈ working ∨ pending ∈ assembly.queue) :
    ∃ node, assembly.nodeAt? pending.slot = some node ∧
      node.identifier = assembler.identifierOf pending.visit :=
  sound.held (assembler.identifierOf pending.visit, pending.slot)
    (by
      rcases List.lookup_eq_some_iff.mp (sound.addressed pending member) with
        ⟨earlier, later, split, _⟩
      rw [split]
      exact List.mem_append_right _ List.mem_cons_self)

/-- The first object is taken out of the queue and worked on. -/
theorem Sound.take
    (sound : Sound assembler [] workspace.assembly)
    (front : workspace.assembly.queue = pending :: rest) :
    Sound assembler [pending] (workspace.withQueue rest).assembly where
  held := sound.held
  distinct := sound.distinct
  included := sound.included
  addressed := by
    intro other member
    apply sound.addressed other
    rw [front]
    rcases member with isWorked | waits
    · rw [List.mem_singleton.mp isWorked]
      exact Or.inr List.mem_cons_self
    · exact Or.inr (List.mem_cons_of_mem _ waits)

theorem Sound.release (sound : Sound assembler working assembly) :
    Sound assembler [] assembly where
  held := sound.held
  distinct := sound.distinct
  included := sound.included
  addressed := by
    rintro pending (isWorked | waits)
    · cases isWorked
    · exact sound.addressed pending (Or.inr waits)

/-! ## Any number of steps -/

/-- The workspaces that adding primary objects and expanding what waits in front
leads to, in any number and order, whether the steps succeed or stop. -/
inductive Reached
    (assembler : LiveAssembler World Object)
    (specification : QuerySpecification) :
    Workspace World Object → Prop where
  | begin (world : World) : Reached assembler specification ⟨.empty, world⟩
  | add
      {workspace : Workspace World Object}
      (reached : Reached assembler specification workspace)
      (resourceType : String)
      (object : Object) :
      Reached assembler specification
        ((assembler.addPrimary specification resourceType object).leaves
            workspace)
  | expand
      {workspace : Workspace World Object}
      {pending : Pending Object}
      {rest : List (Pending Object)}
      (reached : Reached assembler specification workspace)
      (front : workspace.assembly.queue = pending :: rest) :
      Reached assembler specification
        ((assembler.expand specification.fields pending).leaves
            (workspace.withQueue rest))

/-- Work that may stop changes the document, however it ends. -/
theorem changes_of_ends
    {work : Work World Object α}
    {wanted : α → Workspace World Object → Prop}
    (ends : Ends wanted (Stopped assembler admitted writable workspace.assembly)
      (work.run workspace))
    (changes : ∀ result left, wanted result left →
      Changes assembler admitted writable workspace.assembly left.assembly) :
    Changes assembler admitted writable workspace.assembly
      (work.leaves workspace).assembly :=
  ends.leaves changes fun _ _ stopped => stopped.1

/-- Work whose slots have resource objects stops at refusals only. -/
theorem ne_vacant_of_ends
    {work : Work World Object α}
    {wanted : α → Workspace World Object → Prop}
    (ends : Ends wanted (Stopped assembler admitted writable workspace.assembly)
      (work.run workspace))
    (held : ∀ slot name, writable slot name →
      ∃ node, workspace.assembly.nodeAt? slot = some node)
    (slot : Slot)
    (left : Workspace World Object) :
    work.run workspace ≠ .error (.vacant slot) left := by
  intro stopped
  rcases ends.of_error stopped with ⟨_, ⟨name, isWritable⟩, vacant⟩
  rcases held slot name isWritable with ⟨node, isHeld⟩
  rw [vacant] at isHeld
  cases isHeld

theorem Reached.sound (reached : Reached assembler specification workspace) :
    Sound assembler [] workspace.assembly := by
  induction reached with
  | begin world => exact sound_empty
  | @add workspace _ resourceType object induction =>
      have ends :=
        addPrimary_ends assembler specification resourceType object workspace
      exact induction.changes (changes_of_ends ends fun _ _ added => added.1)
  | @expand workspace pending rest _ front induction =>
      have ends := expand_ends assembler specification.fields
        ⟨pending, workspace.withQueue rest⟩
      have changes := changes_of_ends ends fun _ _ followed => followed.changes
      exact ((induction.take front).changes changes).release

/-- The expansion of an object finds resource objects in all slots that it uses,
and writes to that of the expanded object and to no other one. -/
structure WritesHome
    (assembler : LiveAssembler World Object)
    (fields : FieldSelection)
    (turn : Turn World Object) : Prop where
  occupied : ∀ slot left,
    (assembler.expand fields turn.pending).run turn.workspace ≠
      .error (.vacant slot) left
  home : ∃ node written,
    turn.workspace.assembly.nodeAt? turn.pending.slot = some node ∧
      node.identifier = assembler.identifierOf turn.pending.visit ∧
      ((assembler.expand fields turn.pending).leaves
          turn.workspace).assembly.nodeAt? turn.pending.slot = some written ∧
      written.Carries (· ∈ turn.pending.tree.children.map Prod.fst) node
  elsewhere : ∀ slot node, slot ≠ turn.pending.slot →
    turn.workspace.assembly.nodeAt? slot = some node →
      ((assembler.expand fields turn.pending).leaves
          turn.workspace).assembly.nodeAt? slot =
        some node
  /-- If nothing stops the expansion, the linkage that is shown is that of what
  was met when the relationship was followed last. -/
  linked : ∀ left,
    (assembler.expand fields turn.pending).run turn.workspace = .ok () left →
    ∀ branch reached later,
      assembler.ComesTo fields turn turn.pending.tree.children branch reached
        later →
        branch.1 ∉ later.map Prod.fst →
        assembler.showsLinkage fields turn.pending.resourceType branch.1 =
          true →
          ∃ linkage,
            (assembler.seeing reached.world).linkage? turn.pending.resourceType
                turn.pending.object branch.1 = some linkage ∧
              Shows left.assembly turn.pending.slot branch.1 linkage

theorem Sound.writesHome
    (sound : Sound assembler [] workspace.assembly)
    (front : workspace.assembly.queue = pending :: rest)
    (fields : FieldSelection) :
    WritesHome assembler fields ⟨pending, workspace.withQueue rest⟩ := by
  rcases (sound.take front).exists_node (Or.inl List.mem_cons_self) with
    ⟨node, isHeld, identified⟩
  have ends := expand_ends assembler fields ⟨pending, workspace.withQueue rest⟩
  have changes := changes_of_ends ends fun _ _ followed => followed.changes
  refine ⟨ne_vacant_of_ends ends ?_, ?_, ?_, ?_⟩
  · rintro slot name ⟨rfl, _⟩
    exact ⟨node, isHeld⟩
  · rcases changes.nodeAt? isHeld with ⟨written, isWritten, carries, _⟩
    exact ⟨node, written, isHeld, identified, isWritten,
      carries.imp fun name overwritten => overwritten.2⟩
  · intro slot other different isOther
    rcases changes.nodeAt? isOther with ⟨later, isLater, _, same⟩
    rw [isLater, same fun name overwritten => different overwritten.1]
  · intro left succeeded branch reached later comes isLast wanted
    rcases (ends.of_ok succeeded).linked comes isLast with
      ⟨linkage, isLinkage, shown⟩
    exact ⟨linkage, isLinkage, shown wanted⟩

/-- After any number of steps, the slot table leads to the resource objects that
bear the identifiers, and the next step uses slots with resource objects
only. -/
theorem slots_of_reached (reached : Reached assembler specification workspace) :
    (∀ entry ∈ workspace.assembly.slots,
      ∃ node, workspace.assembly.nodeAt? entry.2 = some node ∧
        node.identifier = entry.1) ∧
    (workspace.assembly.slots.map Prod.fst).Nodup ∧
    (workspace.assembly.slots.map Prod.snd).Nodup ∧
    (∀ index node, workspace.assembly.included[index]? = some node →
      workspace.assembly.slotOf? node.identifier = some (.included index)) ∧
    (∀ pending ∈ workspace.assembly.queue,
      workspace.assembly.slotOf? (assembler.identifierOf pending.visit) =
        some pending.slot) ∧
    (∀ resourceType object slot left,
      (assembler.addPrimary specification resourceType object).run workspace ≠
        .error (.vacant slot) left) ∧
    (∀ pending rest, workspace.assembly.queue = pending :: rest →
      WritesHome assembler specification.fields
        ⟨pending, workspace.withQueue rest⟩) := by
  have sound := reached.sound
  refine ⟨sound.held, sound.distinct, sound.distinct_slots, ?_,
    fun pending waits => sound.addressed pending (Or.inr waits), ?_,
    fun pending rest front => sound.writesHome front specification.fields⟩
  · intro index node isIncluded
    apply sound.included
    rw [includedIdentifiers, List.getElem?_map, isIncluded]
    rfl
  · intro resourceType object
    exact ne_vacant_of_ends (addPrimary_ends ..) fun slot name isWritable =>
      isWritable.elim

/-! ## An accessor that leads to somebody new each time -/

/-- People with friends who are made up when they are asked for; the world is
the last of them. -/
def strangers : LiveAssembler String String where
  schema := (Schema.empty.withType "people" []).withRelationship
    "people" "friend" ⟨"people", false⟩
  reader :=
    { identifierOf := fun _ person => person, attributeOf := fun _ _ _ => none }
  accessor := fun _ _ _ last => (.ok (.toOne (some (last ++ "a"))), last ++ "a")
  policy := .always

/-- Asks for the friends of the people, and for the friends of these. -/
def strangersSpecification : QuerySpecification where
  resourceType := "people"
  filter := none
  sort := []
  page := ⟨1, 20⟩
  fields := .all
  inclusion := IncludeTree.empty.insert ["friend", "friend"]
  complexity := ⟨2, 0, 0, 2⟩

/-- After the same primary object was added twice and expanded once, a friend
waits. -/
theorem slots_of_reached_strangers :
    ∃ workspace pending,
      strangers.Reached strangersSpecification workspace ∧
        workspace.assembly.slots =
          [(⟨"people", "baaa"⟩, .included 0), (⟨"people", "ann"⟩, .primary 0)] ∧
        workspace.assembly.primary.map ResourceNode.id = ["ann", "ann"] ∧
        workspace.assembly.queue = [pending] ∧
        (workspace.assembly.slots.map Prod.snd).Nodup ∧
        workspace.assembly.slotOf? (strangers.identifierOf pending.visit) =
          some pending.slot ∧
        WritesHome strangers strangersSpecification.fields
          ⟨pending, workspace.withQueue []⟩ := by
  have begun : strangers.Reached strangersSpecification ⟨.empty, "b"⟩ :=
    .begin "b"
  have reached := ((begun.add "people" "ann").add "people" "ann").expand rfl
  rcases slots_of_reached reached with ⟨_, _, distinct, _, queued, _, next⟩
  exact ⟨_, _, reached, rfl, rfl, rfl, distinct, queued _ List.mem_cons_self,
    next _ [] rfl⟩

end LiveAssembler

end JsonApi
