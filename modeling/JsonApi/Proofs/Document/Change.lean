import JsonApi.Document.WorkQueue
import JsonApi.Proofs.Document.Seating
import Mathlib.Logic.Relation

/-!
# Changes of a document

Whatever the accessor answers, and whether a step succeeds or is refused, the
work on a document changes it by a sequence of few kinds of changes
(`LiveAssembler.Change`): a resource object is shown or included, a slot is
given, an object is queued, or linkage is written.  An invariant that each of
these keeps is kept by all work (`LiveAssembler.Changes.keeps`).

Resource objects keep their slots and what they show, identifiers keep their
slots, entries stay in the table of queued objects, and the queue grows at its
end.
-/

namespace JsonApi

open Assembly

variable {World Object : Type}

namespace LiveAssembler

/-- The identifier of a visited object. -/
def identifierOf
    (assembler : LiveAssembler World Object)
    (visit : Visit Object) :
    ResourceIdentifier :=
  assembler.identify visit.resourceType visit.object

/-- One change of a document; the objects that are queued are admitted, and
linkage is written where it is writable, as to the slot and as to the name of
the relationship. -/
inductive Change
    (assembler : LiveAssembler World Object)
    (admitted : Visit Object → Prop)
    (writable : Slot → String → Prop) :
    Assembly Object → Assembly Object → Prop where
  | present
      (assembly : Assembly Object)
      (node : ResourceNode) :
      Change assembler admitted writable assembly
        { assembly with primary := assembly.primary ++ [node] }
  | seat
      {assembly : Assembly Object}
      {slot : Slot}
      {node : ResourceNode}
      (held : assembly.nodeAt? slot = some node)
      (absent : assembly.slotOf? node.identifier = none) :
      Change assembler admitted writable assembly
        { assembly with slots := (node.identifier, slot) :: assembly.slots }
  | discover
      {assembly : Assembly Object}
      {node : ResourceNode}
      (absent : assembly.slotOf? node.identifier = none) :
      Change assembler admitted writable assembly
        { assembly with
          included := assembly.included ++ [node]
          slots := (node.identifier, .included assembly.included.length) ::
            assembly.slots }
  | enqueue
      {assembly : Assembly Object}
      {pending : Pending Object}
      (isAdmitted : admitted pending.visit)
      (addressed :
        assembly.slotOf? (assembler.identifierOf pending.visit) =
          some pending.slot) :
      Change assembler admitted writable assembly
        (assembly.enqueue (assembler.identifierOf pending.visit) pending)
  | write
      {assembly : Assembly Object}
      {slot : Slot}
      {name : String}
      (isWritable : writable slot name)
      (linkage : Linkage) :
      Change assembler admitted writable assembly
        (assembly.writeLinkage slot name linkage)

/-- Changes one after the other. -/
abbrev Changes
    (assembler : LiveAssembler World Object)
    (admitted : Visit Object → Prop)
    (writable : Slot → String → Prop) :
    Assembly Object → Assembly Object → Prop :=
  Relation.ReflTransGen (Change assembler admitted writable)

variable {assembler : LiveAssembler World Object}
  {admitted allowed : Visit Object → Prop}
  {writable permitted : Slot → String → Prop}
  {assembly before after : Assembly Object}

/-- What every change keeps, changes one after the other keep. -/
theorem Changes.keeps
    {invariant : Assembly Object → Prop}
    (changes : Changes assembler admitted writable before after)
    (kept : ∀ before after, Change assembler admitted writable before after →
      invariant before → invariant after)
    (holds : invariant before) :
    invariant after := by
  induction changes with
  | refl => exact holds
  | tail _ change induction => exact kept _ _ change induction

theorem Change.widen
    (change : Change assembler admitted writable before after)
    (allow : ∀ visit, admitted visit → allowed visit)
    (permit : ∀ slot name, writable slot name → permitted slot name) :
    Change assembler allowed permitted before after := by
  cases change with
  | present node => exact .present before node
  | seat held absent => exact .seat held absent
  | discover absent => exact .discover absent
  | enqueue isAdmitted addressed =>
      exact .enqueue (allow _ isAdmitted) addressed
  | write isWritable linkage => exact .write (permit _ _ isWritable) linkage

theorem Changes.widen
    (changes : Changes assembler admitted writable before after)
    (allow : ∀ visit, admitted visit → allowed visit)
    (permit : ∀ slot name, writable slot name → permitted slot name) :
    Changes assembler allowed permitted before after :=
  Relation.ReflTransGen.mono (fun _ _ change => change.widen allow permit)
    before after changes

end LiveAssembler

/-! ## What changes keep -/

/-- The later resource object is the earlier one, with linkage of some
relationships overwritten. -/
structure ResourceNode.Carries
    (overwritten : String → Prop)
    (later node : ResourceNode) : Prop where
  identifier : later.identifier = node.identifier
  attributes : later.attributes = node.attributes
  linkage : ∀ name, ¬overwritten name → later.linkage? name = node.linkage? name

theorem ResourceNode.Carries.refl
    (overwritten : String → Prop)
    (node : ResourceNode) :
    Carries overwritten node node where
  identifier := rfl
  attributes := rfl
  linkage _ _ := rfl

theorem ResourceNode.Carries.trans
    {overwritten : String → Prop}
    {last later node : ResourceNode}
    (second : Carries overwritten last later)
    (first : Carries overwritten later node) :
    Carries overwritten last node where
  identifier := second.identifier.trans first.identifier
  attributes := second.attributes.trans first.attributes
  linkage name kept :=
    (second.linkage name kept).trans (first.linkage name kept)

theorem ResourceNode.Carries.imp
    {overwritten other : String → Prop}
    {later node : ResourceNode}
    (carries : Carries overwritten later node)
    (widen : ∀ name, overwritten name → other name) :
    Carries other later node where
  identifier := carries.identifier
  attributes := carries.attributes
  linkage name kept := carries.linkage name fun isOverwritten =>
    kept (widen name isOverwritten)

theorem ResourceNode.linkage?_withLinkage_self
    (name : String)
    (linkage : Linkage)
    (node : ResourceNode) :
    (node.withLinkage name linkage).linkage? name = some linkage :=
  Dictionary.find?_insert_self ..

theorem ResourceNode.carries_withLinkage
    {overwritten : String → Prop}
    {name : String}
    (isOverwritten : overwritten name)
    (linkage : Linkage)
    (node : ResourceNode) :
    Carries overwritten (node.withLinkage name linkage) node where
  identifier := rfl
  attributes := rfl
  linkage other kept := by
    have different : other ≠ name := fun same => kept (same ▸ isOverwritten)
    rw [linkage?, withLinkage, Dictionary.find?_insert_of_ne different]
    rfl

namespace LiveAssembler

variable {assembler : LiveAssembler World Object}
  {admitted : Visit Object → Prop} {writable : Slot → String → Prop}
  {assembly before after : Assembly Object}

/-- A resource object keeps its slot, and shows what it showed except where it
is overwritten. -/
theorem Change.nodeAt?
    (change : Change assembler admitted writable before after)
    {slot : Slot}
    {node : ResourceNode}
    (held : before.nodeAt? slot = some node) :
    ∃ later, after.nodeAt? slot = some later ∧
      later.Carries (writable slot) node ∧
      ((∀ name, ¬writable slot name) → later = node) := by
  cases change with
  | present shown =>
      exact ⟨node, nodeAt?_show held shown before.slots, .refl _ node,
        fun _ => rfl⟩
  | seat isHeld absent => exact ⟨node, held, .refl _ node, fun _ => rfl⟩
  | discover absent =>
      exact ⟨node, nodeAt?_include held _ _, .refl _ node, fun _ => rfl⟩
  | enqueue isAdmitted addressed =>
      exact ⟨node, (nodeAt?_enqueue ..).trans held, .refl _ node, fun _ => rfl⟩
  | write isWritable linkage =>
      rw [nodeAt?_writeLinkage, held]
      split
      · rename_i here
        rw [← here] at isWritable
        exact ⟨_, rfl, node.carries_withLinkage isWritable linkage,
          fun closed => absurd isWritable (closed _)⟩
      · exact ⟨node, rfl, .refl _ node, fun _ => rfl⟩

theorem Changes.nodeAt?
    (changes : Changes assembler admitted writable before after)
    {slot : Slot}
    {node : ResourceNode}
    (held : before.nodeAt? slot = some node) :
    ∃ later, after.nodeAt? slot = some later ∧
      later.Carries (writable slot) node ∧
      ((∀ name, ¬writable slot name) → later = node) := by
  induction changes with
  | refl => exact ⟨node, held, .refl _ node, fun _ => rfl⟩
  | tail _ change induction =>
      rcases induction with ⟨later, isHeld, carries, same⟩
      rcases change.nodeAt? isHeld with ⟨last, lastHeld, lastCarries, lastSame⟩
      exact ⟨last, lastHeld, lastCarries.trans carries,
        fun closed => (lastSame closed).trans (same closed)⟩

/-- An identifier keeps its slot. -/
theorem Change.slotOf?
    (change : Change assembler admitted writable before after)
    {identifier : ResourceIdentifier}
    {slot : Slot}
    (found : before.slotOf? identifier = some slot) :
    after.slotOf? identifier = some slot := by
  -- A slot is added for an identifier that had none, which is another one.
  have added : ∀ {new : ResourceIdentifier} (place : Slot),
      before.slotOf? new = none →
      ((new, place) :: before.slots).lookup identifier = some slot := by
    intro new place absent
    rw [Dictionary.lookup_cons_eq_if, if_neg]
    · exact found
    · intro same
      rw [same, absent] at found
      cases found
  cases change with
  | present node => exact found
  | seat held absent => exact added _ absent
  | discover absent => exact added _ absent
  | enqueue isAdmitted addressed => rwa [Assembly.slotOf?, enqueue_slots]
  | write isWritable linkage => rwa [Assembly.slotOf?, writeLinkage_slots]

theorem Changes.slotOf?
    (changes : Changes assembler admitted writable before after)
    {identifier : ResourceIdentifier}
    {slot : Slot}
    (found : before.slotOf? identifier = some slot) :
    after.slotOf? identifier = some slot :=
  changes.keeps (fun _ _ change isFound => change.slotOf? isFound) found

/-- An object joins the queue at its end together with its entry in the table,
or not at all. -/
theorem enqueue_cases
    (assembly : Assembly Object)
    (identifier : ResourceIdentifier)
    (pending : Pending Object) :
    (pending.tree.isEmpty = true ∨
        (identifier, pending.path) ∈ assembly.expanded) ∧
        assembly.enqueue identifier pending = assembly ∨
      (pending.tree.isEmpty = false ∧
          (identifier, pending.path) ∉ assembly.expanded) ∧
        assembly.enqueue identifier pending =
          { assembly with
            expanded := (identifier, pending.path) :: assembly.expanded
            queue := assembly.queue ++ [pending] } := by
  rw [Assembly.enqueue]
  split
  · rename_i known
    rw [Bool.or_eq_true, List.contains_iff_mem] at known
    exact Or.inl ⟨known, rfl⟩
  · rename_i unknown
    rw [Bool.or_eq_true, not_or, Bool.not_eq_true,
      List.contains_iff_mem] at unknown
    exact Or.inr ⟨unknown, rfl⟩

theorem expanded_subset_enqueue
    (assembly : Assembly Object)
    (identifier : ResourceIdentifier)
    (pending : Pending Object) :
    assembly.expanded ⊆ (assembly.enqueue identifier pending).expanded := by
  rcases enqueue_cases assembly identifier pending with ⟨_, same⟩ | ⟨_, joined⟩
  · rw [same]
    exact List.Subset.refl _
  · rw [joined]
    exact List.subset_cons_self _ _

theorem Change.expanded_subset
    (change : Change assembler admitted writable before after) :
    before.expanded ⊆ after.expanded := by
  cases change with
  | present node => exact List.Subset.refl _
  | seat held absent => exact List.Subset.refl _
  | discover absent => exact List.Subset.refl _
  | enqueue isAdmitted addressed => exact expanded_subset_enqueue before _ _
  | write isWritable linkage =>
      rw [writeLinkage_expanded]
      exact List.Subset.refl _

theorem Changes.expanded_subset
    (changes : Changes assembler admitted writable before after) :
    before.expanded ⊆ after.expanded :=
  changes.keeps (fun _ _ change included =>
      List.Subset.trans included change.expanded_subset) (List.Subset.refl _)

/-- What joins the queue is admitted, there is something to expand behind it,
and it is sent to the slot of its object. -/
theorem Change.queue
    (change : Change assembler admitted writable before after) :
    ∃ joined, after.queue = before.queue ++ joined ∧
      ∀ pending ∈ joined, admitted pending.visit ∧
        pending.tree.isEmpty = false ∧
        after.slotOf? (assembler.identifierOf pending.visit) =
          some pending.slot := by
  have unchanged : ∃ joined, before.queue = before.queue ++ joined ∧
      ∀ pending ∈ joined, admitted pending.visit ∧
        pending.tree.isEmpty = false ∧
        after.slotOf? (assembler.identifierOf pending.visit) =
          some pending.slot :=
    ⟨[], by simp⟩
  cases change with
  | present node => exact unchanged
  | seat held absent => exact unchanged
  | discover absent => exact unchanged
  | @enqueue pending isAdmitted addressed =>
      rcases enqueue_cases before (assembler.identifierOf pending.visit)
        pending with
        ⟨_, same⟩ | ⟨⟨inner, _⟩, joined⟩
      · rwa [same] at unchanged ⊢
      · rw [joined]
        exact ⟨[pending], rfl,
          List.forall_mem_singleton.mpr ⟨isAdmitted, inner, addressed⟩⟩
  | write isWritable linkage => rwa [writeLinkage_queue]

theorem Changes.queue
    (changes : Changes assembler admitted writable before after) :
    ∃ joined, after.queue = before.queue ++ joined ∧
      ∀ pending ∈ joined, admitted pending.visit ∧
        pending.tree.isEmpty = false ∧
        after.slotOf? (assembler.identifierOf pending.visit) =
          some pending.slot := by
  induction changes with
  | refl => exact ⟨[], by simp⟩
  | tail _ change induction =>
      rcases induction with ⟨joined, isQueue, all⟩
      rcases change.queue with ⟨more, isNext, allMore⟩
      refine ⟨joined ++ more, by rw [isNext, isQueue, List.append_assoc],
        List.forall_mem_append.mpr ⟨?_, allMore⟩⟩
      intro pending member
      rcases all pending member with ⟨isAdmitted, inner, addressed⟩
      exact ⟨isAdmitted, inner, change.slotOf? addressed⟩

/-- A slot is given to an identifier without one, for a resource object that
bears it. -/
theorem Change.slots
    (change : Change assembler admitted writable before after) :
    after.slots = before.slots ∨
      ∃ node slot, after.slots = (node.identifier, slot) :: before.slots ∧
        before.slotOf? node.identifier = none ∧
          after.nodeAt? slot = some node := by
  cases change with
  | present node => exact Or.inl rfl
  | seat held absent => exact Or.inr ⟨_, _, rfl, absent, held⟩
  | discover absent =>
      exact Or.inr ⟨_, _, rfl, absent, by simp [Assembly.nodeAt?]⟩
  | enqueue isAdmitted addressed => exact Or.inl (enqueue_slots ..)
  | write isWritable linkage => exact Or.inl (writeLinkage_slots ..)

/-- What is included was included before, or has just been given its slot. -/
theorem Change.included
    (change : Change assembler admitted writable before after)
    {index : Nat}
    {identifier : ResourceIdentifier}
    (isIncluded : after.includedIdentifiers[index]? = some identifier) :
    before.includedIdentifiers[index]? = some identifier ∨
      after.slotOf? identifier = some (.included index) := by
  cases change with
  | present shown => exact Or.inl isIncluded
  | seat held absent => exact Or.inl isIncluded
  | @discover node absent =>
      rw [includedIdentifiers, List.map_append,
        List.getElem?_append] at isIncluded
      split at isIncluded
      · exact Or.inl isIncluded
      · rename_i behind
        rw [List.length_map, Nat.not_lt] at behind
        rw [List.length_map] at isIncluded
        rcases List.getElem?_eq_some_iff.mp isIncluded with ⟨inRange, isNode⟩
        rw [List.length_map, List.length_singleton] at inRange
        have isLast : index = before.included.length := by omega
        have isNew : node.identifier = identifier := by
          simpa [isLast] using isNode
        rw [← isNew, isLast]
        exact Or.inr List.lookup_cons_self
  | enqueue isAdmitted addressed =>
      rw [includedIdentifiers, enqueue_included] at isIncluded
      exact Or.inl isIncluded
  | write isWritable linkage =>
      rw [writeLinkage_includedIdentifiers] at isIncluded
      exact Or.inl isIncluded

end LiveAssembler

end JsonApi
