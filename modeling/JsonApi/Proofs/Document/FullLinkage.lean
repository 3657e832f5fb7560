import JsonApi.Proofs.Document.Linkage
import Mathlib.Logic.Relation

/-!
# Full linkage

Where linkage is shown and the selection hides none of the relationships that
the include tree names, a document is linked up.  Every included resource is
reached from a primary one by identifiers that the document itself shows, and
whatever is shown of a requested relationship is a resource of the document.

The first part follows a walk from a primary record, each step of which is
written down in the resource object that it starts from.  The second part
needs that the step ends at a record that has a resource object of its own.
-/

namespace JsonApi

open Assembler

namespace Document

/-- All resource objects, the primary ones first. -/
def nodes (document : Document) : List ResourceNode :=
  document.data.nodes ++ document.included

/-- The document shows the second identifier in the linkage of a resource with
the first one. -/
def Refers (document : Document) (source target : ResourceIdentifier) : Prop :=
  ∃ node ∈ document.nodes, node.identifier = source ∧
    ∃ name linkage, node.linkage? name = some linkage ∧
      target ∈ linkage.identifiers

end Document

/-- The selection allows every relationship that a tree names, for the type it
leads from. -/
def FieldSelection.AllowsTree
    (fields : FieldSelection)
    (schema : Schema)
    (resourceType : String)
    (tree : IncludeTree) : Prop :=
  ∀ names name source, tree.HasRootPath (names ++ [name]) →
    schema.Chain resourceType names source → fields.allows source name = true

theorem LinkagePolicy.demands_of_ne_never
    {policy : LinkagePolicy}
    {declared asked : Prop}
    (shown : policy ≠ .never)
    (isDeclared : declared)
    (isAsked : asked) :
    policy.Demands declared asked := by
  cases policy with
  | never => exact shown rfl
  | always => exact isDeclared
  | whenIncluded => exact isAsked

namespace Store

variable {schema : Schema} {store : Store} {policy : LinkagePolicy}
  {specification : QuerySpecification} {records : List Record}
  {assembly : Assembly Record} {names : List String} {visit : Visit Record}

section

variable (sound : Sound schema store) (shown : policy ≠ .never)
  (primary : ∀ record ∈ records,
      record ∈ store.recordsOf specification.resourceType)
  (resolved :
      specification.inclusion.Resolved schema specification.resourceType)
  (allowed :
    specification.fields.AllowsTree schema specification.resourceType
      specification.inclusion)

include sound primary

/-- The records along a relationship are the objects of the visits along it. -/
theorem mem_map_identifier_iff
    (met : Met (ofStore schema store policy) specification records names visit)
    {name : String}
    {subtree : IncludeTree}
    (child : (name, subtree) ∈ visit.tree.children)
    {declared : Relationship}
    (isDeclared : schema.relationship? visit.resourceType name = some declared)
    {found : Related Record}
    (resolved :
      store.resolve visit.object.resourceType visit.object name = .ok found)
    (identifier : ResourceIdentifier) :
    identifier ∈ found.objects.map Record.identifier ↔
      ∃ next ∈ (ofStore schema store policy).branchVisits visit (name, subtree),
        (ofStore schema store policy).identifierOf next = identifier := by
  have conforms := (sound.records _).conforms _ (sound.mem_of_met primary met)
  have identified :
      ∀ next ∈ (ofStore schema store policy).branchVisits visit (name, subtree),
        (ofStore schema store policy).identifierOf next =
          next.object.identifier :=
    fun _ follows => sound.identifierOf_eq
      (sound.mem_of_met primary (met.follow child follows))
  rw [List.mem_map]
  constructor
  · rintro ⟨object, reached, same⟩
    have follows :
        ⟨declared.target, object, subtree, Assembly.pathBelow visit.path name⟩ ∈
          (ofStore schema store policy).branchVisits visit (name, subtree) :=
      (mem_branchVisits_ofStore conforms).mpr
        ⟨declared, found, object, isDeclared, resolved, reached, rfl⟩
    exact ⟨_, follows, (identified _ follows).trans same⟩
  · rintro ⟨next, follows, same⟩
    rcases (mem_branchVisits_ofStore conforms).mp follows with
      ⟨_, again, object, _, resolvedAgain, reached, isNext⟩
    rw [resolved] at resolvedAgain
    cases resolvedAgain
    refine ⟨object, reached, ?_⟩
    rw [← same, identified next follows, isNext]

include shown resolved allowed

/-- The resource object of a record shows what follows along a requested
relationship. -/
theorem linkage_of_child
    (met : Met (ofStore schema store policy) specification records names visit)
    {name : String}
    {subtree : IncludeTree}
    (child : (name, subtree) ∈ visit.tree.children)
    {node : ResourceNode}
    (shows :
      Shows schema store policy specification.fields
        (store.Requests specification.inclusion records visit.object.identifier)
          node
        visit.object) :
    ∃ linkage, node.linkage? name = some linkage ∧
      ∀ identifier, identifier ∈ linkage.identifiers ↔
        ∃ next ∈
          (ofStore schema store policy).branchVisits visit (name, subtree),
          (ofStore schema store policy).identifierOf next = identifier := by
  have member := sound.mem_of_met primary met
  have typed := ((sound.records _).conforms _ member).typed
  have rootPath := (met.hasRootPath_iff resolved.ordered).mpr ⟨subtree, child⟩
  have isAllowed :
      specification.fields.allows visit.object.resourceType name = true := by
    rw [typed]
    exact allowed names name visit.resourceType rootPath met.chain
  have isRequested :
      store.Requests specification.inclusion records visit.object.identifier
        name := by
    apply (sound.requests_iff policy primary resolved.ordered).mp
    exact ⟨names, visit, met,
      Assembly.mem_requests.mpr ⟨sound.identifierOf_eq member, subtree, child⟩⟩
  have isDeclared := sound.declared_of_requests primary resolved isRequested
  have isShown :=
    (shows.relationships name).mpr
      ⟨isAllowed,
          LinkagePolicy.demands_of_ne_never shown isDeclared isRequested⟩
  rcases Option.isSome_iff_exists.mp isShown with ⟨linkage, isLinkage⟩
  have links := shows.linked name linkage isLinkage
  rcases links.resolved with ⟨found, isResolved, listed⟩
  rcases links.declared with ⟨declared, isDeclared, _⟩
  rw [typed] at isDeclared
  refine ⟨linkage, isLinkage, ?_⟩
  rw [listed]
  exact mem_map_identifier_iff sound primary met child isDeclared isResolved

variable
  (exploredTo :
    Assembly.ExploredTo (ofStore schema store policy) specification records
      specification.inclusion.depth assembly)
  (shows :
    ∀ node ∈ assembly.nodes, ∀ {names : List String} {visit : Visit Record},
      Met (ofStore schema store policy) specification records names visit →
      node.identifier = (ofStore schema store policy).identifierOf visit →
        Shows schema store policy specification.fields
          (store.Requests specification.inclusion records
              visit.object.identifier) node
          visit.object)

include exploredTo shows

theorem refers_of_next
    {document : Document}
    (isDocument : document.nodes = assembly.nodes)
    (met : Met (ofStore schema store policy) specification records names visit)
    {name : String}
    {subtree : IncludeTree}
    (child : (name, subtree) ∈ visit.tree.children)
    {next : Visit Record}
    (follows :
      next ∈ (ofStore schema store policy).branchVisits visit (name, subtree)) :
    document.Refers ((ofStore schema store policy).identifierOf visit)
      ((ofStore schema store policy).identifierOf next) := by
  rcases exploredTo.exists_node_of_met met with ⟨node, member, same⟩
  rcases linkage_of_child sound shown primary resolved allowed met child
    (shows node member met same) with ⟨linkage, isLinkage, isListed⟩
  rw [← isDocument] at member
  exact ⟨node, member, same, name, linkage, isLinkage,
    (isListed _).mpr ⟨next, follows, rfl⟩⟩

/-- Following what the document refers to leads from primary records to whatever
is met. -/
theorem reflTransGen_refers_of_met
    {document : Document}
    (isDocument : document.nodes = assembly.nodes)
    (met :
      Met (ofStore schema store policy) specification records names visit) :
    ∃ record ∈ records,
      Relation.ReflTransGen document.Refers
        ((ofStore schema store policy).identify specification.resourceType
            record)
        ((ofStore schema store policy).identifierOf visit) := by
  induction met with
  | @primary record member => exact ⟨record, member, .refl⟩
  | follow met branch reached induction =>
      rcases induction with ⟨record, member, before⟩
      refine ⟨record, member, before.tail ?_⟩
      exact refers_of_next sound shown primary resolved allowed exploredTo shows
        isDocument met branch reached

end

/-- The document is linked up: what is included is reached from a primary
resource by what the document refers to, and requested relationships refer to
resources of the document. -/
theorem assembleCollection_fullLinkage
    {maxDepth maxPaths : Nat}
    {requested : List String}
    (loaded : store.LoadedWith schema)
    (resolved :
      IncludeTree.resolve schema maxDepth maxPaths specification.resourceType
        requested =
        .ok specification.inclusion)
    (primary : ∀ record ∈ records,
      record ∈ store.recordsOf specification.resourceType)
    (distinct : records.Nodup)
    (shown : policy ≠ .never)
    (allowed :
      specification.fields.AllowsTree schema specification.resourceType
        specification.inclusion) :
    ∃ document,
      (ofStore schema store policy).assembleCollection specification records =
        .ok document ∧
        (∀ node ∈ document.included, ∃ start ∈ document.data.nodes,
          Relation.ReflTransGen document.Refers start.identifier
            node.identifier) ∧
        ∀ node ∈ document.nodes, ∀ name,
          store.Requests specification.inclusion records node.identifier name →
            ∃ linkage, node.linkage? name = some linkage ∧
              ∀ identifier ∈ linkage.identifiers, ∃ other ∈ document.nodes,
                other.identifier = identifier := by
  have sound := sound_of_loadedWith loaded
  have tree := IncludeTree.resolved_of_resolve resolved
  rcases sound.run_shows policy primary distinct tree with
    ⟨assembly, run, exploredTo, shows⟩
  have isDocument :
      (Document.ofNodes (.collection assembly.primary)
          assembly.included).nodes =
        assembly.nodes := rfl
  refine ⟨.ofNodes (.collection assembly.primary) assembly.included,
    Assembler.assembleCollection_eq_ok.mpr ⟨assembly, run, rfl⟩, ?_, ?_⟩
  · intro node member
    rcases exploredTo.met_of_included member with ⟨names, visit, met, same⟩
    rcases reflTransGen_refers_of_met sound shown primary tree allowed
      exploredTo shows isDocument met with ⟨record, isRecord, path⟩
    have isShown :
        (ofStore schema store policy).identify specification.resourceType
          record ∈
          assembly.primaryIdentifiers := by
      rw [exploredTo.primaryIdentifiers_eq]
      exact List.mem_map_of_mem isRecord
    rcases List.mem_map.mp isShown with ⟨start, startMember, startIdentified⟩
    rw [← startIdentified, ← same] at path
    exact ⟨start, startMember, path⟩
  · intro node member name requests
    rcases (sound.requests_iff policy primary tree.ordered).mpr requests with
      ⟨names, visit, met, asked⟩
    rcases Assembly.mem_requests.mp asked with ⟨same, subtree, child⟩
    rcases linkage_of_child sound shown primary tree allowed met child
      (shows node member met same.symm) with ⟨linkage, isLinkage, isListed⟩
    refine ⟨linkage, isLinkage, ?_⟩
    intro identifier identifierListed
    rcases (isListed identifier).mp identifierListed with
      ⟨next, follows, nextIdentified⟩
    rcases exploredTo.exists_node_of_met (met.follow child follows) with
      ⟨other, otherMember, otherIdentified⟩
    exact ⟨other, otherMember, otherIdentified.trans nextIdentified⟩

theorem assembleCollection_fullLinkage_ring :
    ∃ document,
      (ofStore acquaintance ring .whenIncluded).assembleCollection
        ringSpecification ((ring.recordsOf "people").take 1) = .ok document ∧
        (∀ node ∈ document.included, ∃ start ∈ document.data.nodes,
          Relation.ReflTransGen document.Refers start.identifier
            node.identifier) ∧
        ∀ node ∈ document.nodes, ∀ name,
          ring.Requests ringSpecification.inclusion
            ((ring.recordsOf "people").take 1) node.identifier name →
            ∃ linkage, node.linkage? name = some linkage ∧
              ∀ identifier ∈ linkage.identifiers, ∃ other ∈ document.nodes,
                other.identifier = identifier := by
  have loaded : ring.LoadedWith acquaintance := ⟨ringFixture, rfl⟩
  have resolved :
      IncludeTree.resolve acquaintance 3 10 ringSpecification.resourceType
        ["knows.knows"] =
        .ok ringSpecification.inclusion :=
    rfl
  have primary :
      ∀ record ∈ (ring.recordsOf "people").take 1,
        record ∈ ring.recordsOf ringSpecification.resourceType :=
    fun _ => List.mem_of_mem_take
  have distinct : ((ring.recordsOf "people").take 1).Nodup :=
    List.nodup_singleton _
  have shown : LinkagePolicy.whenIncluded ≠ .never := by decide
  have allowed :
      ringSpecification.fields.AllowsTree acquaintance
        ringSpecification.resourceType ringSpecification.inclusion :=
    fun _ _ _ _ _ => rfl
  exact assembleCollection_fullLinkage loaded resolved primary distinct shown
    allowed

end Store

end JsonApi
