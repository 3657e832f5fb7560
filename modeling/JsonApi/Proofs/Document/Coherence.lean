import JsonApi.Proofs.Document.Seating

/-!
# Coherent documents

A document that is assembled at all is coherent, even if the accessor goes
round in circles, repeats objects or contradicts the schema, and whatever the
include tree names.  Every primary object is shown in its place, no resource
is included twice or beside a primary one, and linkage has the declared
cardinality (`coherent_of_assembleCollection`).
-/

namespace JsonApi

open Assembler

variable {Object : Type}

/-- What a resource object shows of relationships follows their declarations. -/
structure ResourceNode.Fits (schema : Schema) (node : ResourceNode) : Prop where
  /-- Linkage is a list if the relationship leads to many, and only then. -/
  declared : ∀ name linkage, node.linkage? name = some linkage →
    ∃ declared, schema.relationship? node.resourceType name = some declared ∧
      (linkage.isMany = true ↔ declared.toMany = true)
  ascending : schema.Ordered → Dictionary.Ascending node.relationships

variable {assembler : Assembler Object} {fields : FieldSelection}
  {resourceType : String} {object : Object} {node : ResourceNode}

theorem Assembler.isMany_of_linkage?
    {name : String}
    {linkage : Linkage}
    (isLinkage : assembler.linkage? resourceType object name = some linkage) :
    ∃ declared,
      assembler.schema.relationship? resourceType name = some declared ∧
      (linkage.isMany = true ↔ declared.toMany = true) := by
  rcases linkage?_eq_some.mp isLinkage with
    ⟨declared, found, isDeclared, _, equal⟩
  exact ⟨declared, isDeclared, by rw [equal, Linkage.isMany_ofIdentifiers]⟩

theorem ResourceNode.fits_of_project
    (projected : assembler.project fields resourceType object = .ok node) :
    node.Fits assembler.schema where
  declared := by
    intro name linkage shown
    have sameType : node.resourceType = resourceType :=
      congrArg ResourceIdentifier.resourceType
        (Assembler.project_identifier projected)
    rw [sameType]
    exact Assembler.isMany_of_linkage?
      ((Assembler.linkage?_of_project projected).mp shown).2.2
  ascending ordered := Assembler.ascending_of_project ordered projected

theorem ResourceNode.Fits.withLinkage
    (fits : node.Fits assembler.schema)
    {name : String}
    {linkage : Linkage}
    (isLinkage :
      assembler.linkage? node.resourceType object name = some linkage) :
    (node.withLinkage name linkage).Fits assembler.schema where
  declared := by
    intro other shown found
    rcases Dictionary.find?_insert_cases found with
      ⟨sameName, sameLinkage⟩ | ⟨_, old⟩
    · rw [sameName, sameLinkage]
      exact Assembler.isMany_of_linkage? isLinkage
    · exact fits.declared other shown old
  ascending ordered := (fits.ascending ordered).insert name linkage

namespace Assembly

/-- Slots lead to resource objects, all of which are in the slot table and fit
the schema. -/
structure Coherent
    (assembler : Assembler Object)
    (primaries : List ResourceIdentifier)
    (working : List (Pending Object))
    (assembly : Assembly Object) : Prop where
  shown : assembly.primaryIdentifiers = primaries
  seated : Seated assembler working assembly
  registered : Registered assembly
  fits : ∀ node ∈ assembly.nodes, node.Fits assembler.schema

variable {primaries : List ResourceIdentifier} {working : List (Pending Object)}
  {assembly : Assembly Object}

/-! ## Steps -/

theorem Coherent.enqueue
    (coherent : Coherent assembler primaries working assembly)
    {pending : Pending Object}
    (addressed : assembly.slotOf? (assembler.identifierOf pending.visit) =
      some pending.slot) :
    Coherent assembler primaries working
      (assembly.enqueue (assembler.identifierOf pending.visit) pending) where
  shown := by simpa [primaryIdentifiers] using coherent.shown
  seated := coherent.seated.enqueue addressed
  registered := coherent.registered.of_eq (enqueue_slots _ _ _)
    (by simp [primaryIdentifiers]) (by simp [includedIdentifiers])
  fits := by simpa [nodes] using coherent.fits

/-- An object without a slot is included. -/
theorem Coherent.discover
    (coherent : Coherent assembler primaries working assembly)
    {visit : Visit Object}
    (projected :
      assembler.project fields visit.resourceType visit.object = .ok node)
    (absent : assembly.slotOf? (assembler.identifierOf visit) = none) :
    Coherent assembler primaries working
      { assembly with
        included := assembly.included ++ [node]
        slots :=
          (assembler.identifierOf visit, .included assembly.included.length) ::
            assembly.slots } where
  shown := coherent.shown
  seated := coherent.seated.discover (project_identifier projected) absent
  registered :=
    coherent.registered.discover (project_identifier projected) absent _
  fits := by
    intro other member
    rw [nodes, ← List.append_assoc] at member
    rcases List.mem_append.mp member with old | new
    · exact coherent.fits other old
    · rw [List.mem_singleton.mp new]
      exact ResourceNode.fits_of_project projected

theorem Coherent.meet
    (coherent : Coherent assembler primaries working assembly)
    (fields : FieldSelection)
    (visit : Visit Object) :
    Outcome (Coherent assembler primaries working) (fun _ => True)
      (assembly.meet assembler fields visit) := by
  apply meet_outcome (Outcome.trivial _)
  · intro slot found
    exact coherent.enqueue found
  · intro node absent projected
    have placed := coherent.discover projected absent
    exact placed.enqueue (by simp [slotOf?, Pending.visit, identifierOf])

theorem Coherent.writeLinkage
    (coherent : Coherent assembler primaries working assembly)
    {pending : Pending Object}
    (worked : pending ∈ working)
    {name : String}
    {linkage : Linkage}
    (isLinkage :
      assembler.linkage? pending.resourceType pending.object name =
        some linkage) :
    Coherent assembler primaries working
      (assembly.writeLinkage pending.slot name linkage) where
  shown := by simpa using coherent.shown
  seated := coherent.seated.writeLinkage _ _ _
  registered := coherent.registered.of_eq (by simp) (by simp) (by simp)
  fits := by
    intro node member
    rcases mem_nodes_iff.mp member with ⟨slot, found⟩
    rw [nodeAt?_writeLinkage] at found
    split at found
    · rename_i here
      rcases Option.map_eq_some_iff.mp found with ⟨held, isHeld, equal⟩
      rcases coherent.seated.held
        (coherent.seated.addressed pending (Or.inl worked)) with
        ⟨again, isAgain, identified⟩
      rw [← here, isHeld] at isAgain
      cases isAgain
      have sameType : held.resourceType = pending.resourceType :=
        congrArg ResourceIdentifier.resourceType identified
      rw [← sameType] at isLinkage
      rw [← equal]
      exact (coherent.fits held (mem_nodes_iff.mpr ⟨slot, isHeld⟩)).withLinkage
        isLinkage
    · exact coherent.fits node (mem_nodes_iff.mpr ⟨slot, found⟩)

/-- Expanding a queue keeps the assembly coherent. -/
theorem keeps_coherent
    (assembler : Assembler Object)
    (fields : FieldSelection)
    (primaries : List ResourceIdentifier)
    (working : List (Pending Object)) :
    Keeps assembler fields (fun _ => True) working fun _ _ =>
      Coherent assembler primaries working where
  undeclared := fun _ _ _ _ _ => True.intro
  resolved := fun _ _ _ _ _ _ _ _ => Outcome.trivial _
  meets := fun _ _ _ _ _ visit _ coherent => coherent.meet fields visit
  writes := fun _ worked _ _ _ _ _ isLinkage _ coherent =>
    coherent.writeLinkage worked isLinkage
  hides := fun _ _ _ _ _ _ _ _ _ coherent => coherent

/-! ## Runs -/

theorem Coherent.startLevel
    (coherent : Coherent assembler primaries working assembly) :
    Coherent assembler primaries assembly.queue
      { assembly with queue := [] } where
  shown := coherent.shown
  seated := coherent.seated.startLevel
  registered := coherent.registered.of_eq rfl rfl rfl
  fits := coherent.fits

theorem Coherent.expandQueue
    (coherent : Coherent assembler primaries [] assembly)
    (fields : FieldSelection) :
    Outcome (Coherent assembler primaries []) (fun _ => True)
      (assembly.queue.foldlM (expand assembler fields)
          { assembly with queue := [] }) := by
  have expanded :=
    expandQueue_outcome (keeps_coherent assembler fields primaries
        assembly.queue) [] coherent.startLevel
  apply expanded.mono
  intro next kept
  exact ⟨kept.shown, kept.seated.endLevel, kept.registered, kept.fits⟩

theorem Coherent.expandLevels
    (coherent : Coherent assembler primaries [] assembly)
    (fields : FieldSelection)
    (levels : Nat) :
    Outcome (Coherent assembler primaries []) (fun _ => True)
      (expandLevels assembler fields levels assembly) := by
  induction levels generalizing assembly with
  | zero => exact coherent
  | succ levels induction =>
      apply Outcome.bind (coherent.expandQueue fields)
      intro expanded kept
      exact induction kept

theorem coherent_empty : Coherent assembler [] [] empty where
  shown := rfl
  seated := seated_empty
  registered := registered_empty
  fits := by simp [nodes, empty]

/-- A primary object is shown behind the others. -/
theorem Coherent.addPrimary
    (coherent : Coherent assembler primaries [] assembly)
    (noneIncluded : assembly.included = [])
    (specification : QuerySpecification)
    (object : Object) :
    Outcome
      (fun next =>
        Coherent assembler
            (primaries ++
                [assembler.identify specification.resourceType object]) []
              next ∧
          next.included = [])
      (fun _ => True) (assembly.addPrimary assembler specification object) := by
  have fits :
      ∀ node, assembler.project specification.fields specification.resourceType
        object =
          .ok node →
        ∀ other ∈ (assembly.primary ++ [node]) ++ assembly.included,
          other.Fits assembler.schema := by
    intro node projected other member
    rw [noneIncluded, List.append_nil] at member
    rcases List.mem_append.mp member with old | new
    · exact coherent.fits other (List.mem_append_left _ old)
    · rw [List.mem_singleton.mp new]
      exact ResourceNode.fits_of_project projected
  have shown :
      ∀ node, assembler.project specification.fields specification.resourceType
        object =
          .ok node →
        (assembly.primary ++ [node]).map ResourceNode.identifier =
          primaries ++
            [assembler.identify specification.resourceType object] := by
    intro node projected
    rw [List.map_append, List.map_singleton, project_identifier projected,
      ← coherent.shown]
    rfl
  apply addPrimary_outcome (Outcome.trivial _)
  · intro node projected present
    refine ⟨⟨shown node projected, coherent.seated.repeatPrimary node, ?_,
      fits node projected⟩, noneIncluded⟩
    exact coherent.registered.showPrimary (project_identifier projected)
      noneIncluded (slotted_of_present present)
  · intro node projected absent
    have identified :
        node.identifier =
          assembler.identifierOf (specification.primaryVisit object) :=
      project_identifier projected
    have placed :
        Coherent assembler
          (primaries ++ [assembler.identify specification.resourceType object])
            []
          { assembly with
            primary := assembly.primary ++ [node]
            slots :=
              (assembler.identifierOf (specification.primaryVisit object),
                .primary assembly.primary.length) :: assembly.slots } :=
      { shown := shown node projected
        seated := coherent.seated.placePrimary identified absent
        registered := coherent.registered.showPrimary identified noneIncluded
          fun _ => lookup_cons_isSome
        fits := fits node projected }
    refine ⟨placed.enqueue ?_, by simpa using noneIncluded⟩
    simp [slotOf?, Pending.visit, QuerySpecification.primaryVisit]

theorem addPrimaries_coherent
    (assembler : Assembler Object)
    (specification : QuerySpecification)
    (objects : List Object) :
    Outcome
      (Coherent assembler
          (objects.map (assembler.identify specification.resourceType)) [])
      (fun _ => True)
        (objects.foldlM (addPrimary assembler specification) empty) := by
  have added :
      Outcome
        (fun assembly =>
          Coherent assembler
            (objects.map (assembler.identify specification.resourceType)) []
            assembly ∧
            assembly.included = [])
        (fun _ => True)
          (objects.foldlM (addPrimary assembler specification) empty) := by
    apply Outcome.foldlM fun handled assembly =>
      Coherent assembler
        (handled.map (assembler.identify specification.resourceType)) []
        assembly ∧
        assembly.included = []
    · rintro handled object assembly _ ⟨coherent, noneIncluded⟩
      rw [List.map_append, List.map_singleton]
      exact coherent.addPrimary noneIncluded specification object
    · exact ⟨coherent_empty, rfl⟩
  exact added.mono fun _ begun => begun.1

/-- Whatever is assembled is coherent. -/
theorem run_coherent
    (assembler : Assembler Object)
    (specification : QuerySpecification)
    (objects : List Object) :
    Outcome
      (Coherent assembler
          (objects.map (assembler.identify specification.resourceType)) [])
      (fun _ => True) (run assembler specification objects) := by
  apply Outcome.bind (addPrimaries_coherent assembler specification objects)
  intro assembly coherent
  exact coherent.expandLevels specification.fields specification.inclusion.depth

end Assembly

/-! ## Documents -/

namespace Assembler

/-- A document is assembled by a run. -/
theorem assembleCollection_eq_ok
    {specification : QuerySpecification}
    {objects : List Object}
    {document : Document} :
    assembler.assembleCollection specification objects = .ok document ↔
      ∃ assembly, Assembly.run assembler specification objects = .ok assembly ∧
        document =
          .ofNodes (.collection assembly.primary) assembly.included := by
  rw [assembleCollection, Outcome.bind_eq_ok_iff]
  constructor
  · rintro ⟨assembly, run, equal⟩
    cases equal
    exact ⟨assembly, run, rfl⟩
  · rintro ⟨assembly, run, equal⟩
    exact ⟨assembly, run, by rw [equal]; rfl⟩

/-- Whatever the objects, the accessor and the tree are, a document that is
assembled shows every primary object in its place, repeats no identifier, and
follows the declared cardinalities. -/
theorem coherent_of_assembleCollection
    {specification : QuerySpecification}
    {objects : List Object}
    {document : Document}
    (assembled :
      assembler.assembleCollection specification objects = .ok document) :
    (∃ nodes, document.data = .collection nodes ∧
        nodes.map ResourceNode.identifier =
          objects.map (assembler.identify specification.resourceType)) ∧
      (document.included.map ResourceNode.identifier).Nodup ∧
      (∀ node ∈ document.included, ∀ primary ∈ document.data.nodes,
        node.identifier ≠ primary.identifier) ∧
      ∀ node ∈ document.data.nodes ++ document.included,
        node.Fits assembler.schema := by
  rcases assembleCollection_eq_ok.mp assembled with ⟨assembly, run, equal⟩
  have coherent :=
    (Assembly.run_coherent assembler specification objects).of_ok run
  rw [equal]
  refine ⟨⟨_, rfl, coherent.shown⟩, coherent.registered.distinct, ?_,
    coherent.fits⟩
  intro node included primary shown same
  apply coherent.registered.disjoint node.identifier
    (List.mem_map_of_mem included)
  rw [same]
  exact List.mem_map_of_mem shown

/-! ## An accessor that contradicts the schema -/

/-- People, each of whom knows some people and admires one. -/
def admirers : Schema :=
  ((Schema.empty.withType "people" ["side", "years"]).withRelationship
    "people" "admires" ⟨"people", false⟩).withRelationship
    "people" "knows" ⟨"people", true⟩

/-- Two people who know one another and admire everybody, some twice. -/
def contrary : Assembler Bool where
  schema := admirers
  reader :=
    { identifierOf := fun _ person => if person then "left" else "right"
      attributeOf := fun _ person name =>
        if name = "side" then some (.bool person) else none }
  accessor := fun _ person name =>
    .ok (if name = "knows" then .toOne (some !person)
        else .toMany [!person, person, !person])
  policy := .always

/-- Asks for whom the people admire, and for whom these know. -/
def contrarySpecification : QuerySpecification where
  resourceType := "people"
  filter := none
  sort := []
  page := ⟨1, 20⟩
  fields := .all
  inclusion := IncludeTree.empty.insert ["admires", "knows"]
  complexity := ⟨2, 0, 0, 2⟩

theorem coherent_of_assembleCollection_contrary :
    ∃ document,
      contrary.assembleCollection contrarySpecification [true, true] =
        .ok document ∧
        (∃ nodes, document.data = .collection nodes ∧
          nodes.map ResourceNode.identifier =
            [true, true].map
              (contrary.identify contrarySpecification.resourceType)) ∧
        (document.included.map ResourceNode.identifier).Nodup ∧
        (∀ node ∈ document.included, ∀ primary ∈ document.data.nodes,
          node.identifier ≠ primary.identifier) ∧
        ∀ node ∈ document.data.nodes ++ document.included,
          node.Fits contrary.schema := by
  have assembled :
      ∃ document,
        contrary.assembleCollection contrarySpecification [true, true] =
          .ok document :=
    ⟨_, rfl⟩
  rcases assembled with ⟨document, isAssembled⟩
  exact ⟨document, isAssembled, coherent_of_assembleCollection isAssembled⟩

/-- The other person is included once, whom both primary objects admire. -/
example :
    (contrary.assembleCollection contrarySpecification
        [true, true]).toOption.map (fun document =>
          (document.data.nodes ++ document.included).map fun node =>
            (node.id, node.relationships)) =
      some
        [("left", [("admires", .toOne (some ⟨"people", "right"⟩)),
            ("knows", .toMany [⟨"people", "right"⟩])]),
          ("left", [("admires", .toOne (some ⟨"people", "right"⟩)),
            ("knows", .toMany [⟨"people", "right"⟩])]),
          ("right", [("admires", .toOne (some ⟨"people", "left"⟩)),
            ("knows", .toMany [⟨"people", "left"⟩])])] := by
  decide

end Assembler

end JsonApi
