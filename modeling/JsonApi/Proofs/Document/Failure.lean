import JsonApi.Proofs.Document.Compound
import JsonApi.Proofs.Document.Levels

/-!
# When assembling fails

Assembling a document resolves the relationships that the include tree asks for
where an object is met, and all that are shown of it under the policy `always`.
It fails exactly when one of these cannot be resolved, however late this is
noticed and whether or not the object was in the document before, and the error
names the type and the identifier of the object.

For a store some of whose records fail to tell where a relationship leads, the
objects that are met are those at the end of walks without a failing step.
-/

namespace JsonApi

open Assembler

variable {Object : Type}

namespace Assembler

/-- The include tree asks for the relationship at the place of a visit, or all
linkage of the visited object is shown and the relationship is declared and
allowed. -/
def Needs
    (assembler : Assembler Object)
    (fields : FieldSelection)
    (visit : Visit Object)
    (name : String) : Prop :=
  (∃ subtree, (name, subtree) ∈ visit.tree.children) ∨
    assembler.policy = .always ∧ fields.allows visit.resourceType name = true ∧
      ∃ declared,
        assembler.schema.relationship? visit.resourceType name = some declared

/-- The error names a visited object and a relationship of it that is needed and
cannot be resolved. -/
def Reports
    (assembler : Assembler Object)
    (specification : QuerySpecification)
    (objects : List Object)
    (error : AssemblyError) : Prop :=
  ∃ names visit name cause,
    assembler.Met specification objects names visit ∧
      assembler.Needs specification.fields visit name ∧
      assembler.accessor visit.resourceType visit.object name = .error cause ∧
      error = .unresolved visit.resourceType (assembler.identifierOf visit).id
        name cause

variable {assembler : Assembler Object} {specification : QuerySpecification}
  {objects : List Object} {names : List String} {visit : Visit Object}
  {name : String}

theorem related_reports
    (met : assembler.Met specification objects names visit)
    (needed : assembler.Needs specification.fields visit name) :
    Outcome (fun _ => True) (assembler.Reports specification objects)
      (assembler.related visit.resourceType (assembler.identifierOf visit).id
          visit.object name) := by
  rw [related]
  cases answer : assembler.accessor visit.resourceType visit.object name with
  | ok found => exact True.intro
  | error cause => exact ⟨names, visit, name, cause, met, needed, answer, rfl⟩

/-- Projecting a visited object of a declared type fails for a relationship that
is shown. -/
theorem project_reports
    (met : assembler.Met specification objects names visit)
    {attributes : List String}
    (declared :
      assembler.schema.attributesOf? visit.resourceType = some attributes) :
    Outcome (fun _ => True) (assembler.Reports specification objects)
      (assembler.project specification.fields visit.resourceType
          visit.object) := by
  rw [project_eq_map declared]
  split
  · rename_i always
    apply Outcome.map
    apply Outcome.mapM
    intro entry shown
    rcases List.mem_filter.mp shown with ⟨listed, allowed⟩
    have needed : assembler.Needs specification.fields visit entry.1 :=
      Or.inr ⟨always, allowed, Schema.relationship?_of_mem listed⟩
    apply Outcome.bind (related_reports met needed)
    intro _ _
    exact True.intro
  · exact True.intro

/-- What a projection shows was resolved. -/
theorem resolved_of_project
    {fields : FieldSelection}
    {resourceType : String}
    {object : Object}
    {node : ResourceNode}
    {declared : Relationship}
    (projected : assembler.project fields resourceType object = .ok node)
    (always : assembler.policy = .always)
    (allowed : fields.allows resourceType name = true)
    (isDeclared :
      assembler.schema.relationship? resourceType name = some declared) :
    ∃ found, assembler.accessor resourceType object name = .ok found := by
  rcases project_eq_ok projected with ⟨_, _, linked, _⟩
  rcases Option.bind_eq_some_iff.mp isDeclared with ⟨entries, isEntries, found⟩
  have shown :
      (name, declared) ∈ assembler.shownRelationships fields resourceType := by
    rw [shownRelationships, isEntries]
    exact List.mem_filter.mpr ⟨Dictionary.mem_of_find? found, allowed⟩
  rcases Outcome.exists_of_mapM_eq_ok (linked always) shown with ⟨entry, made⟩
  rcases linkageOf_eq_ok.mp made with ⟨answer, resolved, _⟩
  exact ⟨answer, resolved⟩

end Assembler

namespace Assembly

variable {assembler : Assembler Object} {specification : QuerySpecification}
  {objects : List Object} {working : List (Pending Object)}
  {followed : List (ResourceIdentifier × String)} {assembly : Assembly Object}
  {names : List String} {visit : Visit Object}

theorem Seated.idAt_eq
    (seated : Seated assembler working assembly)
    {pending : Pending Object}
    (worked : pending ∈ working) :
    assembly.idAt pending.slot = (assembler.identifierOf pending.visit).id := by
  rcases seated.held (seated.addressed pending (Or.inl worked)) with
    ⟨node, isHeld, identified⟩
  rw [idAt, isHeld, ← identified]
  rfl

/-- Objects with a slot can be projected, and relationships that were followed
be resolved. -/
structure Answered
    (assembler : Assembler Object)
    (specification : QuerySpecification)
    (objects : List Object)
    (working : List (Pending Object))
    (followed : List (ResourceIdentifier × String))
    (assembly : Assembly Object) : Prop where
  seated : Seated assembler working assembly
  projected : ∀ {names : List String} {visit : Visit Object},
    assembler.Met specification objects names visit →
    (assembly.slotOf? (assembler.identifierOf visit)).isSome = true →
      ∃ node,
        assembler.project specification.fields visit.resourceType visit.object =
          .ok node
  resolved : ∀ {names : List String} {visit : Visit Object} {name : String},
    assembler.Met specification objects names visit →
    (assembler.identifierOf visit, name) ∈ followed →
      ∃ found,
        assembler.accessor visit.resourceType visit.object name = .ok found

theorem answered_empty :
  Answered assembler specification objects [] [] empty where
  seated := seated_empty
  projected _ present := by cases present
  resolved _ member := by cases member

theorem Answered.enqueue
    (answered :
      Answered assembler specification objects working followed assembly)
    {pending : Pending Object}
    (addressed : assembly.slotOf? (assembler.identifierOf pending.visit) =
      some pending.slot) :
    Answered assembler specification objects working followed
      (assembly.enqueue (assembler.identifierOf pending.visit) pending) where
  seated := answered.seated.enqueue addressed
  projected met present := by
    rw [slotOf?, enqueue_slots] at present
    exact answered.projected met present
  resolved := answered.resolved

/-- An object that was projected is given a slot. -/
theorem Answered.assign
    (apart : TellsApart assembler specification objects)
    (answered :
      Answered assembler specification objects working followed assembly)
    (met : assembler.Met specification objects names visit)
    {node : ResourceNode}
    (isProjected :
      assembler.project specification.fields visit.resourceType visit.object =
        .ok node)
    {next : Assembly Object}
    {slot : Slot}
    (seated : Seated assembler working next)
    (slots :
      next.slots = (assembler.identifierOf visit, slot) :: assembly.slots) :
    Answered assembler specification objects working followed next where
  seated := seated
  projected := by
    intro otherNames other otherMet present
    rw [slotOf?, slots, lookup_cons_isSome] at present
    rcases present with same | before
    · have sameType : other.resourceType = visit.resourceType :=
        congrArg ResourceIdentifier.resourceType same
      rw [sameType, apart.object otherMet met same]
      exact ⟨node, isProjected⟩
    · exact answered.projected otherMet before
  resolved := answered.resolved

theorem Answered.meet
    (apart : TellsApart assembler specification objects)
    (answered :
      Answered assembler specification objects working followed assembly)
    (met : assembler.Met specification objects names visit)
    {attributes : List String}
    (declared :
      assembler.schema.attributesOf? visit.resourceType = some attributes) :
    Outcome (Answered assembler specification objects working followed)
      (assembler.Reports specification objects)
      (assembly.meet assembler specification.fields visit) := by
  apply meet_outcome (project_reports met declared)
  · intro slot found
    exact answered.enqueue found
  · intro node absent projected
    have seated :=
      answered.seated.discover (project_identifier projected) absent
    apply (answered.assign apart met projected seated rfl).enqueue
    simp [slotOf?, Pending.visit, identifierOf]

theorem Answered.addPrimary
    (apart : TellsApart assembler specification objects)
    (answered : Answered assembler specification objects [] followed assembly)
    {object : Object}
    (member : object ∈ objects)
    {attributes : List String}
    (declared : assembler.schema.attributesOf? specification.resourceType =
      some attributes) :
    Outcome (Answered assembler specification objects [] followed)
      (assembler.Reports specification objects)
      (assembly.addPrimary assembler specification object) := by
  have met : assembler.Met specification objects []
      (specification.primaryVisit object) :=
    .primary member
  have projects :
      Outcome (fun _ => True) (assembler.Reports specification objects)
        (assembler.project specification.fields specification.resourceType
            object) :=
    project_reports met declared
  apply addPrimary_outcome projects
  · intro node _ _
    exact ⟨answered.seated.repeatPrimary node, answered.projected,
      answered.resolved⟩
  · intro node projected absent
    have identified :
        node.identifier =
          assembler.identifierOf (specification.primaryVisit object) :=
      project_identifier projected
    have seated := answered.seated.placePrimary identified absent
    apply (answered.assign apart met projected seated rfl).enqueue
    simp [slotOf?, Pending.visit, QuerySpecification.primaryVisit]

/-- A relationship that has linkage was resolved, and may be added to those
followed. -/
theorem Answered.follow
    (apart : TellsApart assembler specification objects)
    (answered :
      Answered assembler specification objects working followed assembly)
    (met : assembler.Met specification objects names visit)
    {name : String}
    {linkage : Linkage}
    (isLinkage :
      assembler.linkage? visit.resourceType visit.object name = some linkage) :
    Answered assembler specification objects working
      (followed ++ [(assembler.identifierOf visit, name)]) assembly where
  seated := answered.seated
  projected := answered.projected
  resolved := by
    intro otherNames other otherName otherMet member
    rcases List.mem_append.mp member with old | new
    · exact answered.resolved otherMet old
    · have equal := List.mem_singleton.mp new
      have same : assembler.identifierOf other = assembler.identifierOf visit :=
        congrArg Prod.fst equal
      have sameName : otherName = name := congrArg Prod.snd equal
      have sameType : other.resourceType = visit.resourceType :=
        congrArg ResourceIdentifier.resourceType same
      rcases linkage?_eq_some.mp isLinkage with ⟨_, found, _, isResolved, _⟩
      rw [sameName, sameType, apart.object otherMet met same]
      exact ⟨found, isResolved⟩

theorem Answered.writeLinkage
    (answered :
      Answered assembler specification objects working followed assembly)
    (slot : Slot)
    (name : String)
    (linkage : Linkage) :
    Answered assembler specification objects working followed
      (assembly.writeLinkage slot name linkage) where
  seated := answered.seated.writeLinkage slot name linkage
  projected met present := by
    rw [slotOf?, writeLinkage_slots] at present
    exact answered.projected met present
  resolved := answered.resolved

section

variable
  (typed : ∀ {names : List String} {visit : Visit Object},
    assembler.Met specification objects names visit →
      ∃ attributes,
        assembler.schema.attributesOf? visit.resourceType = some attributes)
  (declared : ∀ {names : List String} {visit : Visit Object}
    {branch : String × IncludeTree},
    assembler.Met specification objects names visit →
      branch ∈ visit.tree.children →
      ∃ relationship,
        assembler.schema.relationship? visit.resourceType branch.1 =
          some relationship)

include typed declared

theorem sustains_answered (apart : TellsApart assembler specification objects) :
    Sustains assembler
      specification objects (assembler.Reports specification objects)
      (Answered assembler specification objects) where
  begins := answered_empty
  shows := by
    intro object member assembly answered
    rcases typed (.primary member) with ⟨attributes, isDeclared⟩
    exact answered.addPrimary apart member isDeclared
  starts := fun _ _ answered =>
    ⟨answered.seated.startLevel, answered.projected, answered.resolved⟩
  expands := fun queue met =>
    { undeclared := by
        intro pending queued branch child undeclared
        rcases met pending queued with ⟨names, metPending⟩
        rcases declared metPending child with ⟨relationship, isDeclared⟩
        exact absurd (isDeclared.symm.trans undeclared) (Option.some_ne_none _)
      resolved := by
        intro pending queued branch child _ followed assembly kept
        rcases met pending queued with ⟨names, metPending⟩
        rw [kept.seated.idAt_eq queued]
        exact related_reports metPending (Or.inl ⟨branch.2, child⟩)
      meets := by
        intro pending queued _ followed assembly visit next kept
        rcases met_of_next met queued next with ⟨names, metNext⟩
        rcases typed metNext with ⟨attributes, isDeclared⟩
        exact kept.meet apart metNext isDeclared
      writes := by
        intro pending queued _ followed assembly name linkage isLinkage _ kept
        rcases met pending queued with ⟨names, metPending⟩
        exact (kept.follow apart metPending isLinkage).writeLinkage pending.slot
          name linkage
      hides := by
        intro pending queued _ followed assembly name linkage isLinkage _ kept
        rcases met pending queued with ⟨names, metPending⟩
        exact kept.follow apart metPending isLinkage }
  ends := fun _ _ _ answered =>
    ⟨answered.seated.endLevel, answered.projected, answered.resolved⟩

/-- A run that succeeds has resolved all that is needed, and any other reports
what it could not resolve. -/
theorem run_reports (apart : TellsApart assembler specification objects) :
    Outcome
      (fun _ =>
          ∀ names visit name, assembler.Met specification objects names visit →
        assembler.Needs specification.fields visit name →
          ∃ found,
            assembler.accessor visit.resourceType visit.object name = .ok found)
      (assembler.Reports specification objects)
      (run assembler specification objects) := by
  have finished :=
    ((sustains_answered typed declared apart).run apart).and
      (run_outcome apart tolerates_true)
  apply finished.mono
  rintro assembly ⟨⟨followed, answered, isAsked⟩, exploredTo⟩ names visit name
    met needed
  rcases needed with
    ⟨subtree, child⟩ | ⟨always, allowed, relationship, isDeclared⟩
  · apply answered.resolved met
    rw [isAsked, askedAbove_depth_iff]
    exact ⟨names, visit, met, mem_requests.mpr ⟨rfl, subtree, child⟩⟩
  · rcases answered.projected met (exploredTo.slotted_of_met met) with
      ⟨node, projected⟩
    exact resolved_of_project projected always allowed isDeclared

/-- Assembling fails exactly when there is something to report. -/
theorem assembleCollection_eq_error_iff
    (apart : TellsApart assembler specification objects) :
    ((∃ error,
        assembler.assembleCollection specification objects = .error error) ↔
        ∃ error, assembler.Reports specification objects error) ∧
      ∀ error,
        assembler.assembleCollection specification objects = .error error →
        assembler.Reports specification objects error := by
  have outcome := run_reports typed declared apart
  rw [assembleCollection]
  cases finished : run assembler specification objects with
  | error error =>
      rw [finished] at outcome
      refine ⟨⟨fun _ => ⟨error, outcome⟩, fun _ => ⟨error, rfl⟩⟩, ?_⟩
      intro raised equal
      cases equal
      exact outcome
  | ok assembly =>
      rw [finished] at outcome
      refine ⟨⟨?_, ?_⟩, ?_⟩
      · rintro ⟨error, equal⟩
        cases equal
      · rintro ⟨error, names, visit, name, cause, met, needed, failed, _⟩
        rcases outcome names visit name met needed with ⟨found, resolved⟩
        rw [failed] at resolved
        cases resolved
      · intro error equal
        cases equal

end

end Assembly

namespace Assembler

/-- The assembler with another accessor. -/
def withAccessor
    (assembler : Assembler Object)
    (accessor : RelationshipAccessor Object) :
    Assembler Object :=
  { assembler with accessor := accessor }

end Assembler

namespace Store

/-- Steps between records, none of them along a relationship that fails. -/
inductive OpenWalk
    (store : Store)
    (failing : Record → String → Prop)
    (start : Record) :
    List String → Record → Prop where
  | nil : OpenWalk store failing start [] start
  | concat
      {names : List String}
      {name : String}
      {finish next : Record}
      {found : Related Record}
      (before : OpenWalk store failing start names finish)
      (answers : ¬failing finish name)
      (resolved : store.resolve finish.resourceType finish name = .ok found)
      (step : next ∈ found.objects) :
      OpenWalk store failing start (names ++ [name]) next

/-- The accessor answers like the store, but for the relationships that fail. -/
structure FailsOn
    (store : Store)
    (failing : Record → String → Prop)
    (accessor : RelationshipAccessor Record) : Prop where
  fails : ∀ resourceType record name, failing record name →
    ∃ cause, accessor resourceType record name = .error cause
  answers : ∀ resourceType record name, ¬failing record name →
    accessor resourceType record name =
      (store.resolve resourceType record name).mapError StoreError.message

/-- The relationship fails for a record that an open walk along a root path
reaches, and the tree goes on with it there, or it is declared, allowed and to
be shown anyway. -/
def Struck
    (store : Store)
    (schema : Schema)
    (policy : LinkagePolicy)
    (specification : QuerySpecification)
    (failing : Record → String → Prop)
    (records : List Record)
    (record : Record)
    (name : String) : Prop :=
  failing record name ∧
    ∃ start ∈ records, ∃ names,
      specification.inclusion.HasRootPath names ∧
        store.OpenWalk failing start names record ∧
        (specification.inclusion.HasRootPath (names ++ [name]) ∨
          policy = .always ∧
            specification.fields.allows record.resourceType name = true ∧
            ∃ declared,
              schema.relationship? record.resourceType name = some declared)

variable {schema : Schema} {store : Store} {policy : LinkagePolicy}
  {specification : QuerySpecification} {records : List Record}
  {failing : Record → String → Prop} {accessor : RelationshipAccessor Record}
  {names : List String} {visit : Visit Record} {resourceType name : String}
  {record : Record}

theorem FailsOn.eq_ok
    (failsOn : store.FailsOn failing accessor)
    {found : Related Record}
    (answered : accessor resourceType record name = .ok found) :
    ¬failing record name ∧
      store.resolve resourceType record name = .ok found := by
  have notFailing : ¬failing record name := by
    intro fails
    rcases failsOn.fails resourceType record name fails with ⟨cause, failed⟩
    rw [answered] at failed
    cases failed
  rw [failsOn.answers resourceType record name notFailing,
    Outcome.mapError_eq_ok_iff] at answered
  exact ⟨notFailing, answered⟩

/-- A declared relationship of a stored record is resolved unless it fails. -/
theorem FailsOn.eq_error
    (failsOn : store.FailsOn failing accessor)
    {declared : Relationship}
    {cause : String}
    (conforms : Record.Conforms schema resourceType record)
    (isDeclared : schema.relationship? resourceType name = some declared)
    (failed : accessor resourceType record name = .error cause) :
    failing record name := by
  by_contra notFailing
  rcases store.resolve_of_declared conforms isDeclared resourceType with
    ⟨found, resolved, _⟩
  rw [failsOn.answers resourceType record name notFailing, resolved] at failed
  cases failed

/-- Without the failing relationships at most what the store meets is met. -/
theorem FailsOn.met
    (failsOn : store.FailsOn failing accessor)
    (met : Met ((ofStore schema store policy).withAccessor accessor)
        specification records names visit) :
    Met (ofStore schema store policy) specification records names visit := by
  induction met with
  | primary member => exact .primary member
  | follow met branch reached induction =>
      rcases mem_branchVisits.mp reached with
        ⟨declared, found, object, isDeclared, answered, member, equal⟩
      apply induction.follow branch
      rw [mem_branchVisits]
      exact ⟨declared, found, object, isDeclared,
        Outcome.mapError_eq_ok_iff.mpr (failsOn.eq_ok answered).2, member,
        equal⟩

section

variable (sound : Sound schema store)
  (primary : ∀ record ∈ records,
      record ∈ store.recordsOf specification.resourceType)

include sound primary

theorem Sound.openWalk_of_met
    (failsOn : store.FailsOn failing accessor)
    (met : Met ((ofStore schema store policy).withAccessor accessor)
        specification records names visit) :
    ∃ start ∈ records, store.OpenWalk failing start names visit.object := by
  induction met with
  | primary member => exact ⟨_, member, .nil⟩
  | follow met branch reached induction =>
      rcases mem_branchVisits.mp reached with
        ⟨declared, found, object, isDeclared, answered, member, equal⟩
      have conforms :=
        (sound.records _).conforms _
          (sound.mem_of_met primary (failsOn.met met))
      rcases failsOn.eq_ok answered with ⟨notFailing, resolved⟩
      rw [← conforms.typed] at resolved
      rcases induction with ⟨start, startMember, walk⟩
      refine ⟨start, startMember, ?_⟩
      rw [equal]
      exact walk.concat notFailing resolved member

theorem Sound.met_of_openWalk
    (failsOn : store.FailsOn failing accessor)
    (ordered : specification.inclusion.Ordered)
    {start finish : Record}
    (member : start ∈ records)
    (walk : store.OpenWalk failing start names finish)
    (rootPath : specification.inclusion.HasRootPath names) :
    ∃ visit,
      Met ((ofStore schema store policy).withAccessor accessor) specification
        records names visit ∧
        visit.object = finish := by
  induction walk with
  | nil => exact ⟨_, .primary member, rfl⟩
  | @concat names name finish next found before answers resolved step
      induction =>
      rcases induction rootPath.of_append with ⟨visit, met, equal⟩
      subst equal
      rcases (met.hasRootPath_iff ordered).mp rootPath with ⟨subtree, child⟩
      have conforms :=
        (sound.records _).conforms _
          (sound.mem_of_met primary (failsOn.met met))
      rcases declared_of_resolve conforms resolved with ⟨declared, isDeclared⟩
      have answered :
          accessor visit.resourceType visit.object name = .ok found := by
        rw [failsOn.answers _ _ _ answers, Outcome.mapError_eq_ok_iff,
          ← conforms.typed]
        exact resolved
      exact ⟨_, met.follow child
        (mem_branchVisits.mpr
            ⟨declared, found, next, isDeclared, answered, step, rfl⟩), rfl⟩

/-- What is reported is that a needed relationship of some record fails. -/
theorem Sound.reports_iff
    (failsOn : store.FailsOn failing accessor)
    (resolved :
      specification.inclusion.Resolved schema specification.resourceType)
    {error : AssemblyError} :
    ((ofStore schema store policy).withAccessor accessor).Reports specification
      records error ↔
      ∃ record name cause,
        store.Struck schema policy specification failing records record name ∧
          accessor record.resourceType record name = .error cause ∧
          error = .unresolved record.resourceType record.id name cause := by
  constructor
  · rintro ⟨names, visit, name, cause, met, needed, failed, equal⟩
    have conforms :=
      (sound.records _).conforms _ (sound.mem_of_met primary (failsOn.met met))
    rcases sound.openWalk_of_met primary failsOn met with ⟨start, member, walk⟩
    have rootPath : specification.inclusion.HasRootPath names :=
      ⟨visit.tree, (met.behind resolved.ordered).1⟩
    have isDeclared : ∃ declared,
        schema.relationship? visit.resourceType name = some declared := by
      rcases needed with ⟨subtree, child⟩ | ⟨_, _, isDeclared⟩
      · exact met.declared_of_child resolved child
      · exact isDeclared
    rcases isDeclared with ⟨declared, isDeclared⟩
    have fails := failsOn.eq_error conforms isDeclared failed
    rw [← conforms.typed] at isDeclared failed equal
    refine ⟨visit.object, name, cause,
      ⟨fails, start, member, names, rootPath, walk, ?_⟩, failed, equal⟩
    rcases needed with child | ⟨always, allowed, _⟩
    · exact Or.inl ((met.hasRootPath_iff resolved.ordered).mpr child)
    · rw [← conforms.typed] at allowed
      exact Or.inr ⟨always, allowed, declared, isDeclared⟩
  · rintro ⟨record, name, cause,
      ⟨_, start, member, names, rootPath, walk, needed⟩, failed, equal⟩
    rcases sound.met_of_openWalk primary failsOn resolved.ordered member walk
      rootPath with
      ⟨visit, met, sameObject⟩
    have conforms :=
      (sound.records _).conforms _ (sound.mem_of_met primary (failsOn.met met))
    subst sameObject
    rw [conforms.typed] at needed failed equal
    refine ⟨names, visit, name, cause, met, ?_, failed, equal⟩
    rcases needed with longer | shown
    · exact Or.inl ((met.hasRootPath_iff resolved.ordered).mp longer)
    · exact Or.inr shown

end

/-- Assembling records fails exactly when a relationship that is needed fails,
and the error names the record and the relationship. -/
theorem assembleCollection_failure
    {maxDepth maxPaths : Nat}
    {requested : List String}
    (loaded : store.LoadedWith schema)
    (resolved :
      IncludeTree.resolve schema maxDepth maxPaths specification.resourceType
        requested =
        .ok specification.inclusion)
    (primary : ∀ record ∈ records,
      record ∈ store.recordsOf specification.resourceType)
    (policy : LinkagePolicy)
    (failsOn : store.FailsOn failing accessor) :
    ((∃ error,
        ((ofStore schema store policy).withAccessor
            accessor).assembleCollection specification records =
          .error error) ↔
        ∃ record name,
          store.Struck schema policy specification failing records record
            name) ∧
      ∀ error,
        ((ofStore schema store policy).withAccessor accessor).assembleCollection
          specification records = .error error →
          ∃ record name cause,
            store.Struck schema policy specification failing records record
              name ∧
              accessor record.resourceType record name = .error cause ∧
              error = .unresolved record.resourceType record.id name cause := by
  have sound := sound_of_loadedWith loaded
  have tree := IncludeTree.resolved_of_resolve resolved
  have apart : TellsApart (ofStore schema store policy) specification records :=
    sound.tellsApart primary tree
  have apartOpen :
      TellsApart ((ofStore schema store policy).withAccessor accessor)
        specification records :=
    tellsApart_of_resolved tree fun firstMet secondMet same =>
      apart.object (failsOn.met firstMet) (failsOn.met secondMet) same
  have typed : ∀ {names : List String} {visit : Visit Record},
      Met ((ofStore schema store policy).withAccessor accessor) specification
        records names visit →
        ∃ attributes,
          schema.attributesOf? visit.resourceType = some attributes := by
    intro names visit met
    have member := sound.mem_of_met primary (failsOn.met met)
    rcases Dictionary.find?_of_contains (sound.hasType_of_mem member) with
      ⟨held, found⟩
    exact ⟨held.attributes, by rw [Schema.attributesOf?, found]; rfl⟩
  have outcome :=
    Assembly.assembleCollection_eq_error_iff typed
      (fun met child => met.declared_of_child tree child) apartOpen
  simp only [sound.reports_iff primary failsOn tree] at outcome
  refine ⟨outcome.1.trans ⟨?_, ?_⟩, outcome.2⟩
  · rintro ⟨_, record, name, _, struck, _, _⟩
    exact ⟨record, name, struck⟩
  · rintro ⟨record, name, struck⟩
    rcases failsOn.fails record.resourceType record name struck.1 with
      ⟨cause, failed⟩
    exact ⟨_, record, name, cause, struck, failed, rfl⟩

/-! ## Somebody in the ring who does not answer -/

/-- The second person does not tell whom they know. -/
def silent (record : Record) (name : String) : Prop :=
  record.id = "2" ∧ name = "knows"

def silentAccessor : RelationshipAccessor Record :=
  fun resourceType record name =>
  if record.id = "2" ∧ name = "knows" then .error "no answer"
  else (ring.resolve resourceType record name).mapError StoreError.message

theorem assembleCollection_failure_ring :
    ∃ error,
      ((ofStore acquaintance ring .whenIncluded).withAccessor
          silentAccessor).assembleCollection ringSpecification
        ((ring.recordsOf "people").take 1) = .error error ∧
        ∃ record name cause,
          ring.Struck acquaintance .whenIncluded ringSpecification silent
              ((ring.recordsOf "people").take 1) record name ∧
            silentAccessor record.resourceType record name = .error cause ∧
            error = .unresolved record.resourceType record.id name cause := by
  have loaded : ring.LoadedWith acquaintance := ⟨ringFixture, rfl⟩
  have resolved :
      IncludeTree.resolve acquaintance 3 10 ringSpecification.resourceType
        ["knows.knows"] =
        .ok ringSpecification.inclusion :=
    rfl
  have primary :
      ∀ record ∈ (ring.recordsOf "people").take 1,
        record ∈ ring.recordsOf ringSpecification.resourceType :=
    fun _ => List.mem_of_mem_take
  have failsOn : ring.FailsOn silent silentAccessor := by
    constructor
    · intro resourceType record name fails
      exact ⟨"no answer", if_pos fails⟩
    · intro resourceType record name answers
      exact if_neg answers
  have failed :
      ((ofStore acquaintance ring .whenIncluded).withAccessor
          silentAccessor).assembleCollection ringSpecification
        ((ring.recordsOf "people").take 1) =
        .error (.unresolved "people" "2" "knows" "no answer") := by
    rfl
  exact ⟨_, failed,
    (assembleCollection_failure loaded resolved primary .whenIncluded failsOn).2
      _ failed⟩

end Store

end JsonApi
