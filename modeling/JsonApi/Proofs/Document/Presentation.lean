import JsonApi.Proofs.Document.Levels

/-!
# What resource objects show

A resource object shows the attributes of its object that the selection
allows, and linkage of those relationships that the policy demands: of none,
of all, or of those that the include tree asks for at some place where the
object is met.

Linkage is written bit by bit.  A projection writes all of it or none, and
every relationship that is followed later adds its own, to a resource object
that may have been in its slot for several levels.  `Presented` is the
invariant of this.  It mentions the relationships followed so far, which a
complete run turns into those that the tree asks for
(`PresentedTo.presents_of_mem`).
-/

namespace JsonApi

open Assembler

variable {Object : Type}

/-- Whether a policy demands linkage of a relationship that is declared or asked
for. -/
def LinkagePolicy.Demands (declared asked : Prop) : LinkagePolicy → Prop
  | never => False
  | always => declared
  | whenIncluded => asked

/-- A resource object shows what the selection allows of an object, with the
linkage that the policy demands when the relationships in `asked` are asked
for. -/
structure Assembler.Presents
    (assembler : Assembler Object)
    (fields : FieldSelection)
    (asked : String → Prop)
    (resourceType : String)
    (object : Object)
    (node : ResourceNode) : Prop where
  identified : node.identifier = assembler.identify resourceType object
  attributes :
    node.attributes = assembler.shownAttributes fields resourceType object
  linked : ∀ name linkage,
    node.linkage? name = some linkage ↔
      fields.allows resourceType name = true ∧
        assembler.policy.Demands True (asked name) ∧
        assembler.linkage? resourceType object name = some linkage

section

variable {assembler : Assembler Object} {fields : FieldSelection}
  {asked : String → Prop} {resourceType : String} {object : Object}
  {node : ResourceNode} {name : String} {linkage : Linkage}

theorem Assembler.Presents.congr
    {other : String → Prop}
    (presents : assembler.Presents fields asked resourceType object node)
    (same : ∀ name, asked name ↔ other name) :
    assembler.Presents fields other resourceType object node := by
  have equal : asked = other := funext fun name => propext (same name)
  rwa [← equal]

/-- A projection shows what has to be shown before any relationship is asked
for. -/
theorem Assembler.Presents.of_project
    (projected : assembler.project fields resourceType object = .ok node)
    (noneAsked : ∀ name, ¬asked name) :
    assembler.Presents fields asked resourceType object node where
  identified := (project_eq_ok projected).1
  attributes := (project_eq_ok projected).2.1
  linked := by
    intro name linkage
    rw [linkage?_of_project projected]
    cases assembler.policy with
    | never => simp [LinkagePolicy.Demands]
    | always => simp [LinkagePolicy.Demands]
    | whenIncluded => simp [LinkagePolicy.Demands, noneAsked name]

/-- Linkage that is written when a relationship is followed is what the policy
demands. -/
theorem Assembly.showsLinkage_iff
    {isAsked : Prop}
    (followed : isAsked) :
    showsLinkage assembler fields resourceType name = true ↔
      fields.allows resourceType name = true ∧
        assembler.policy.Demands True isAsked := by
  rw [showsLinkage]
  cases assembler.policy with
  | never => simp [LinkagePolicy.Demands]
  | always => simp [LinkagePolicy.Demands]
  | whenIncluded => simp [LinkagePolicy.Demands, followed]

theorem LinkagePolicy.Demands.mono
    {policy : LinkagePolicy}
    {declared asked otherDeclared otherAsked : Prop}
    (demands : policy.Demands declared asked)
    (widenDeclared : declared → otherDeclared)
    (widenAsked : asked → otherAsked) :
    policy.Demands otherDeclared otherAsked := by
  cases policy with
  | never => exact demands
  | always => exact widenDeclared demands
  | whenIncluded => exact widenAsked demands

/-- If what is asked for is declared, a policy demands linkage of declared
relationships only. -/
theorem LinkagePolicy.Demands.declared
    {policy : LinkagePolicy}
    {declared asked : Prop}
    (demands : policy.Demands declared asked)
    (isDeclared : asked → declared) :
    declared := by
  cases policy with
  | never => cases demands
  | always => exact demands
  | whenIncluded => exact isDeclared demands

/-- Writing the linkage of a relationship shows what has to be shown when it is
asked for. -/
theorem Assembler.Presents.withLinkage
    (presents : assembler.Presents fields asked resourceType object node)
    (isLinkage : assembler.linkage? resourceType object name = some linkage)
    (shown : Assembly.showsLinkage assembler fields resourceType name = true) :
    assembler.Presents fields (fun other => asked other ∨ other = name)
      resourceType object (node.withLinkage name linkage) where
  identified := presents.identified
  attributes := presents.attributes
  linked := by
    intro other found
    by_cases same : other = name
    · rw [same]
      rcases (Assembly.showsLinkage_iff
          (Or.inr rfl : asked name ∨ name = name)).mp shown with
        ⟨allowed, demanded⟩
      rw [ResourceNode.linkage?, ResourceNode.withLinkage,
        Dictionary.find?_insert_self, isLinkage]
      constructor
      · intro equal
        exact ⟨allowed, demanded, equal⟩
      · rintro ⟨_, _, equal⟩
        exact equal
    · have before := presents.linked other found
      rw [ResourceNode.linkage?] at before ⊢
      rw [ResourceNode.withLinkage, Dictionary.find?_insert_of_ne same]
      simpa only [same, or_false] using before

/-- Where linkage is not shown, nothing changes when the relationship is asked
for. -/
theorem Assembler.Presents.hide
    (presents : assembler.Presents fields asked resourceType object node)
    (hidden :
      Assembly.showsLinkage assembler fields resourceType name = false) :
    assembler.Presents fields (fun other => asked other ∨ other = name)
      resourceType object node where
  identified := presents.identified
  attributes := presents.attributes
  linked := by
    intro other found
    rw [presents.linked]
    constructor
    · rintro ⟨allowed, demanded, isLinkage⟩
      exact ⟨allowed, demanded.mono id Or.inl, isLinkage⟩
    · rintro ⟨allowed, demanded, isLinkage⟩
      by_cases same : other = name
      · subst same
        have shown :=
          (Assembly.showsLinkage_iff (Or.inr rfl :
              asked other ∨ other = other)).mpr ⟨allowed, demanded⟩
        rw [hidden] at shown
        cases shown
      · exact ⟨allowed,
          demanded.mono id fun either => either.resolve_right same, isLinkage⟩

end

/-- A resource object shows the object of a visit after some relationships were
followed. -/
def Assembler.PresentsVisit
    (assembler : Assembler Object)
    (fields : FieldSelection)
    (followed : List (ResourceIdentifier × String))
    (visit : Visit Object)
    (node : ResourceNode) : Prop :=
  assembler.Presents fields
    (fun name => (assembler.identifierOf visit, name) ∈ followed)
    visit.resourceType visit.object node

namespace Assembly

/-- Whatever is met and has a slot is shown there, with the relationships that
were followed. -/
structure Presented
    (assembler : Assembler Object)
    (specification : QuerySpecification)
    (objects : List Object)
    (working : List (Pending Object))
    (followed : List (ResourceIdentifier × String))
    (assembly : Assembly Object) : Prop where
  seated : Seated assembler working assembly
  presents : ∀ {names : List String} {visit : Visit Object} {slot : Slot},
    assembler.Met specification objects names visit →
    assembly.slotOf? (assembler.identifierOf visit) = some slot →
      ∃ node, assembly.nodeAt? slot = some node ∧
        assembler.PresentsVisit specification.fields followed visit node
  /-- Only objects with a slot have had a relationship followed. -/
  recorded : ∀ entry ∈ followed, (assembly.slotOf? entry.1).isSome = true

variable {assembler : Assembler Object} {specification : QuerySpecification}
  {objects : List Object} {working : List (Pending Object)}
  {followed : List (ResourceIdentifier × String)} {assembly : Assembly Object}
  {names : List String} {visit : Visit Object} {fields : FieldSelection}
  {node : ResourceNode} {name : String} {linkage : Linkage}

/-! ## Relationships followed one after the other -/

/-- Visits with the same identifier are shown alike. -/
theorem presentsVisit_congr
    (apart : TellsApart assembler specification objects)
    {otherNames : List String}
    {other : Visit Object}
    (met : assembler.Met specification objects names visit)
    (otherMet : assembler.Met specification objects otherNames other)
    (same : assembler.identifierOf visit = assembler.identifierOf other) :
    assembler.PresentsVisit fields followed visit node ↔
      assembler.PresentsVisit fields followed other node := by
  have sameType : visit.resourceType = other.resourceType :=
    congrArg ResourceIdentifier.resourceType same
  rw [PresentsVisit, PresentsVisit, same, sameType,
    apart.object met otherMet same]

theorem mem_followed_append
    {identifier other : ResourceIdentifier}
    {otherName : String} :
    (other, otherName) ∈ followed ++ [(identifier, name)] ↔
      (other, otherName) ∈ followed ∨ other = identifier ∧
        otherName = name := by
  rw [List.mem_append, List.mem_singleton, Prod.mk.injEq]

/-- What is shown of an object is not changed by what is followed from other
ones. -/
theorem presentsVisit_append_of_ne
    {identifier : ResourceIdentifier}
    (presents : assembler.PresentsVisit fields followed visit node)
    (different : assembler.identifierOf visit ≠ identifier) :
    assembler.PresentsVisit fields (followed ++ [(identifier, name)]) visit
      node := by
  apply Presents.congr presents
  intro other
  rw [mem_followed_append]
  simp only [different, false_and, or_false]

theorem presentsVisit_append_self
    (presents :
      assembler.Presents fields
        (fun other =>
            (assembler.identifierOf visit, other) ∈ followed ∨ other = name)
        visit.resourceType visit.object node) :
    assembler.PresentsVisit fields
      (followed ++ [(assembler.identifierOf visit, name)]) visit node := by
  apply presents.congr
  intro other
  rw [mem_followed_append]
  simp only [true_and]

/-! ## Steps -/

theorem presented_empty :
  Presented assembler specification objects [] [] empty where
  seated := seated_empty
  presents _ found := by cases found
  recorded := by simp

theorem Presented.enqueue
    (presented :
      Presented assembler specification objects working followed assembly)
    {pending : Pending Object}
    (addressed : assembly.slotOf? (assembler.identifierOf pending.visit) =
      some pending.slot) :
    Presented assembler specification objects working followed
      (assembly.enqueue (assembler.identifierOf pending.visit) pending) where
  seated := presented.seated.enqueue addressed
  presents := by
    intro names visit slot met found
    rw [slotOf?, enqueue_slots] at found
    rw [nodeAt?_enqueue]
    exact presented.presents met found
  recorded := by
    intro entry member
    rw [slotOf?, enqueue_slots]
    exact presented.recorded entry member

/-- A resource object that was projected for a visit is shown in a slot of its
own. -/
theorem Presented.assign
    (apart : TellsApart assembler specification objects)
    (presented :
      Presented assembler specification objects working followed assembly)
    (met : assembler.Met specification objects names visit)
    {node : ResourceNode}
    (projected :
      assembler.project specification.fields visit.resourceType visit.object =
        .ok node)
    (absent : assembly.slotOf? (assembler.identifierOf visit) = none)
    {next : Assembly Object}
    {slot : Slot}
    (seated : Seated assembler working next)
    (slots :
      next.slots = (assembler.identifierOf visit, slot) :: assembly.slots)
    (sameNodes : ∀ {other : Slot} {held : ResourceNode},
      assembly.nodeAt? other = some held → next.nodeAt? other = some held)
    (added : next.nodeAt? slot = some node) :
    Presented assembler specification objects working followed next where
  seated := seated
  presents := by
    intro otherNames other place otherMet found
    rw [slotOf?, slots, Dictionary.lookup_cons_eq_if] at found
    split at found
    · rename_i same
      cases found
      refine ⟨node, added, ?_⟩
      rw [presentsVisit_congr apart otherMet met same]
      apply Presents.of_project projected
      -- Nothing was followed from an object without a slot.
      intro name wasFollowed
      have present := presented.recorded _ wasFollowed
      rw [absent] at present
      cases present
    · rcases presented.presents otherMet found with ⟨held, isHeld, presents⟩
      exact ⟨held, sameNodes isHeld, presents⟩
  recorded := by
    intro entry member
    rw [slotOf?, slots, lookup_cons_isSome]
    exact Or.inr (presented.recorded entry member)

theorem Presented.meet
    (apart : TellsApart assembler specification objects)
    (presented :
      Presented assembler specification objects working followed assembly)
    (met : assembler.Met specification objects names visit) :
    Outcome (Presented assembler specification objects working followed)
      (fun _ => True) (assembly.meet assembler specification.fields visit) := by
  apply meet_outcome (Outcome.trivial _)
  · intro slot found
    exact presented.enqueue found
  · intro node absent projected
    have seated :=
      presented.seated.discover (project_identifier projected) absent
    have placed :=
      presented.assign apart met projected absent seated rfl
        (fun found => nodeAt?_include found _ _) (by simp [nodeAt?])
    apply placed.enqueue
    simp [slotOf?, Pending.visit, identifierOf]

theorem Presented.recorded_append
    (presented :
      Presented assembler specification objects working followed assembly)
    {pending : Pending Object}
    (worked : pending ∈ working)
    (name : String) :
    ∀ entry ∈ followed ++ [(assembler.identifierOf pending.visit, name)],
      (assembly.slotOf? entry.1).isSome = true := by
  intro entry member
  rcases List.mem_append.mp member with old | new
  · exact presented.recorded entry old
  · rw [List.mem_singleton.mp new,
      presented.seated.addressed pending (Or.inl worked)]
    rfl

/-- A relationship that was followed is written into the resource object of its
own object. -/
theorem Presented.writeLinkage
    (apart : TellsApart assembler specification objects)
    (presented :
      Presented assembler specification objects working followed assembly)
    {pending : Pending Object}
    (worked : pending ∈ working)
    (met : assembler.Met specification objects names pending.visit)
    (isLinkage :
      assembler.linkage? pending.resourceType pending.object name =
        some linkage)
    (shown : showsLinkage assembler specification.fields pending.resourceType
      name = true) :
    Presented assembler specification objects working
      (followed ++ [(assembler.identifierOf pending.visit, name)])
      (assembly.writeLinkage pending.slot name linkage) where
  seated := presented.seated.writeLinkage _ _ _
  presents := by
    intro otherNames other slot otherMet found
    rw [slotOf?, writeLinkage_slots] at found
    have addressed := presented.seated.addressed pending (Or.inl worked)
    rcases presented.presents otherMet found with ⟨node, isHeld, presents⟩
    rw [nodeAt?_writeLinkage, isHeld]
    -- The slot written to belongs to one identifier, so that no other object is
    -- shown differently.
    by_cases here : slot = pending.slot
    · rw [← here] at addressed
      have same := presented.seated.identifier_eq found addressed
      rw [presentsVisit_congr apart otherMet met same] at presents
      refine ⟨node.withLinkage name linkage, if_pos here, ?_⟩
      rw [presentsVisit_congr apart otherMet met same]
      exact presentsVisit_append_self
        (Presents.withLinkage presents isLinkage shown)
    · refine ⟨node, if_neg here, presentsVisit_append_of_ne presents ?_⟩
      intro same
      rw [← same] at addressed
      rw [slotOf?, found] at addressed
      exact here (Option.some.inj addressed)
  recorded := by
    simp only [slotOf?, writeLinkage_slots]
    exact presented.recorded_append worked name

theorem Presented.hideLinkage
    (apart : TellsApart assembler specification objects)
    (presented :
      Presented assembler specification objects working followed assembly)
    {pending : Pending Object}
    (worked : pending ∈ working)
    (met : assembler.Met specification objects names pending.visit)
    (hidden : showsLinkage assembler specification.fields pending.resourceType
      name = false) :
    Presented assembler specification objects working
      (followed ++ [(assembler.identifierOf pending.visit, name)])
        assembly where
  seated := presented.seated
  presents := by
    intro otherNames other slot otherMet found
    rcases presented.presents otherMet found with ⟨node, isHeld, presents⟩
    refine ⟨node, isHeld, ?_⟩
    by_cases same :
      assembler.identifierOf other = assembler.identifierOf pending.visit
    · rw [presentsVisit_congr apart otherMet met same] at presents ⊢
      exact presentsVisit_append_self (Presents.hide presents hidden)
    · exact presentsVisit_append_of_ne presents same
  recorded := presented.recorded_append worked name

/-- A primary object is shown, in a slot of its own unless it has one. -/
theorem Presented.addPrimary
    (apart : TellsApart assembler specification objects)
    (presented : Presented assembler specification objects [] followed assembly)
    {object : Object}
    (member : object ∈ objects) :
    Outcome (Presented assembler specification objects [] followed)
      (fun _ => True) (assembly.addPrimary assembler specification object) := by
  apply addPrimary_outcome (Outcome.trivial _)
  · intro node _ _
    exact
      { seated := presented.seated.repeatPrimary node
        presents := by
          intro names visit slot met found
          rcases presented.presents met found with ⟨held, isHeld, presents⟩
          exact ⟨held, nodeAt?_show isHeld node assembly.slots, presents⟩
        recorded := presented.recorded }
  · intro node projected absent
    have identified :
        node.identifier =
          assembler.identifierOf (specification.primaryVisit object) :=
      project_identifier projected
    have seated := presented.seated.placePrimary identified absent
    have placed :=
      presented.assign apart (.primary member) projected absent seated rfl
        (fun found => nodeAt?_show found _ _) (by simp [nodeAt?])
    apply placed.enqueue
    simp [slotOf?, Pending.visit, QuerySpecification.primaryVisit]

/-! ## Levels -/

theorem Presented.startLevel
    (presented :
      Presented assembler specification objects [] followed assembly) :
    Presented assembler specification objects assembly.queue followed
      { assembly with queue := [] } where
  seated := presented.seated.startLevel
  presents := presented.presents
  recorded := presented.recorded

variable (assembler specification objects) in
/-- Everything less than `depth` names below the root was expanded, and is shown
so. -/
def PresentedTo (depth : Nat) (assembly : Assembly Object) : Prop :=
  ∃ followed,
    Presented assembler specification objects [] followed assembly ∧
      ∀ entry, entry ∈ followed ↔
        AskedAbove assembler specification objects depth entry

variable (specification objects) in
theorem sustains_presented
    (apart : TellsApart assembler specification objects) :
    Sustains assembler specification objects (fun _ => True)
      (Presented assembler specification objects) where
  begins := presented_empty
  shows := fun _ member _ presented => presented.addPrimary apart member
  starts := fun _ _ presented => presented.startLevel
  expands := fun queue met =>
    { undeclared := fun _ _ _ _ _ => True.intro
      resolved := fun _ _ _ _ _ _ _ _ => Outcome.trivial _
      meets := by
        intro pending queued _ followed state visit next kept
        rcases met_of_next met queued next with ⟨names, metNext⟩
        exact kept.meet apart metNext
      writes := by
        intro pending queued _ followed state name linkage isLinkage shown kept
        rcases met pending queued with ⟨names, metPending⟩
        exact kept.writeLinkage apart queued metPending isLinkage shown
      hides := by
        intro pending queued _ followed state name _ _ hidden kept
        rcases met pending queued with ⟨names, metPending⟩
        exact kept.hideLinkage apart queued metPending hidden }
  ends := fun _ _ _ presented =>
    ⟨presented.seated.endLevel, presented.presents, presented.recorded⟩

/-- A run shows whatever it visits. -/
theorem run_presented
    {tolerated : AssemblyError → Prop}
    (apart : TellsApart assembler specification objects)
    (tolerates : Tolerates assembler specification objects tolerated) :
    Outcome
      (fun assembly =>
        ExploredTo assembler specification objects specification.inclusion.depth
          assembly ∧
          PresentedTo assembler specification objects
            specification.inclusion.depth assembly)
      tolerated (run assembler specification objects) :=
  (run_outcome apart tolerates).and
    ((sustains_presented specification objects apart).run apart)

/-! ## Everything that is shown -/

/-- If no primary object is repeated, every resource object shows its object,
with what the include tree asks for at all the places where the object is
met. -/
theorem PresentedTo.presents_of_mem
    (exploredTo :
      ExploredTo assembler specification objects specification.inclusion.depth
        assembly)
    (presentedTo :
      PresentedTo assembler specification objects specification.inclusion.depth
        assembly)
    (distinct :
      (objects.map (assembler.identify specification.resourceType)).Nodup)
    (member : node ∈ assembly.nodes)
    (met : assembler.Met specification objects names visit)
    (identified : node.identifier = assembler.identifierOf visit) :
    assembler.Presents specification.fields
      (fun name =>
        ∃ places other,
          assembler.Met specification objects places other ∧
            (assembler.identifierOf visit, name) ∈ assembler.requests other)
      visit.resourceType visit.object node := by
  rw [← exploredTo.primaryIdentifiers_eq] at distinct
  rcases Option.isSome_iff_exists.mp (exploredTo.slotted_of_met met) with
    ⟨slot, found⟩
  rcases exploredTo with ⟨done, explored, _⟩
  rcases presentedTo with ⟨followed, presented, isAsked⟩
  have registered := explored.placement.registered
  rcases presented.presents met found with ⟨held, isHeld, presents⟩
  -- The invariant speaks of the resource object in the slot; no other one has
  -- its identifier.
  have isNode : held = node := by
    apply List.inj_on_of_nodup_map (registered.nodup_nodes distinct)
    · exact mem_nodes_iff.mpr ⟨slot, isHeld⟩
    · exact member
    · exact presents.identified.trans identified.symm
  rw [← isNode]
  apply Presents.congr presents
  intro name
  rw [isAsked, askedAbove_depth_iff]

end Assembly

end JsonApi
