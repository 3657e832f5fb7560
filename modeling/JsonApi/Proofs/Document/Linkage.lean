import JsonApi.Proofs.Document.Coherence
import JsonApi.Proofs.Document.Compound
import JsonApi.Proofs.Document.Presentation

/-!
# What documents show of stored records

In the document of records of a loaded store every resource object shows the
declared and allowed attributes that its record holds.  It shows linkage of
exactly those allowed relationships that the policy demands, and the linkage
lists the records that the store resolves the relationship to.

What the include tree asks for is said in terms of the store.  A relationship
of a record is requested if some walk along a root path reaches the record
and the path goes on with the relationship (`Store.Requests`).
-/

namespace JsonApi

open Assembler

/-- The shape and the identifiers determine a linkage. -/
theorem Linkage.eq_of_identifiers_eq
    {first second : Linkage}
    (sameShape : first.isMany = second.isMany)
    (sameIdentifiers : first.identifiers = second.identifiers) :
    first = second := by
  cases first with
  | toOne identifier =>
      cases second with
      | toOne other =>
          apply congrArg toOne
          ext found
          rw [← Option.mem_toList, ← Option.mem_toList]
          exact iff_of_eq (congrArg (found ∈ ·) sameIdentifiers)
      | toMany identifiers => cases sameShape
  | toMany identifiers =>
      cases second with
      | toOne other => cases sameShape
      | toMany others => exact congrArg toMany sameIdentifiers

namespace Store

/-- The linkage lists the records that the store resolves a relationship to, as
a list if the relationship leads to many. -/
structure Links
    (schema : Schema)
    (store : Store)
    (record : Record)
    (name : String)
    (linkage : Linkage) : Prop where
  resolved :
    ∃ found, store.resolve record.resourceType record name = .ok found ∧
    linkage.identifiers = found.objects.map Record.identifier
  declared :
    ∃ declared, schema.relationship? record.resourceType name = some declared ∧
    (linkage.isMany = true ↔ declared.toMany = true)

/-- The include tree asks for the relationship at a place where a walk from a
primary record reaches the resource. -/
def Requests
    (store : Store)
    (inclusion : IncludeTree)
    (primaries : List Record)
    (identifier : ResourceIdentifier)
    (name : String) : Prop :=
  ∃ primary ∈ primaries, ∃ names reached,
    store.Walk primary names reached ∧ reached.identifier = identifier ∧
      inclusion.HasRootPath (names ++ [name])

/-- The resource object shows the record: what a selection allows of it (see
`FieldSelection.allows_iff`), and the linkage that a policy demands when the
relationships in `asked` are asked for. -/
structure Shows
    (schema : Schema)
    (store : Store)
    (policy : LinkagePolicy)
    (fields : FieldSelection)
    (asked : String → Prop)
    (node : ResourceNode)
    (record : Record) : Prop where
  identified : node.identifier = record.identifier
  attributes : ∀ name value,
    (name, value) ∈ node.attributes ↔
      schema.hasAttribute record.resourceType name = true ∧
        fields.allows record.resourceType name = true ∧
          Dictionary.find? record.attributes name = some value
  relationships : ∀ name,
    (node.linkage? name).isSome = true ↔
      fields.allows record.resourceType name = true ∧
        policy.Demands ((schema.relationship? record.resourceType name).isSome =
            true) (asked name)
  linked : ∀ name linkage, node.linkage? name = some linkage →
    Links schema store record name linkage
  /-- No attribute and no relationship is shown twice. -/
  ascending : schema.Ordered →
    Dictionary.Ascending node.attributes ∧
      Dictionary.Ascending node.relationships

variable {schema : Schema} {store : Store} {policy : LinkagePolicy}
  {specification : QuerySpecification} {records : List Record} {record : Record}
  {resourceType name : String} {linkage : Linkage}

/-! ## Linkage of a record -/

theorem Links.unique
    {other : Linkage}
    (links : Links schema store record name linkage)
    (otherLinks : Links schema store record name other) :
    linkage = other := by
  rcases links with ⟨⟨found, resolved, listed⟩, ⟨declared, isDeclared, shaped⟩⟩
  rcases otherLinks with
    ⟨⟨again, resolvedAgain, listedAgain⟩, ⟨same, isSame, shapedAgain⟩⟩
  rw [resolved] at resolvedAgain
  cases resolvedAgain
  rw [isDeclared] at isSame
  cases isSame
  apply Linkage.eq_of_identifiers_eq
  · exact Bool.eq_iff_iff.mpr (shaped.trans shapedAgain.symm)
  · exact listed.trans listedAgain.symm

theorem Sound.map_identify
    (sound : Sound schema store)
    (member : record ∈ store.recordsOf resourceType)
    {declared : Relationship}
    {found : Related Record}
    (isDeclared : schema.relationship? resourceType name = some declared)
    (resolved : store.resolve resourceType record name = .ok found) :
    found.objects.map ((ofStore schema store policy).identify declared.target) =
      found.objects.map Record.identifier := by
  have conforms := (sound.records resourceType).conforms record member
  rcases resolve_of_declared conforms isDeclared resourceType with
    ⟨again, resolvedAgain, targets⟩
  rw [resolved] at resolvedAgain
  cases resolvedAgain
  apply List.map_congr_left
  intro next reached
  rw [Record.identifier,
    ((sound.records _).conforms next (targets next reached)).typed]
  rfl

/-- The linkage of declared cardinality to what was resolved. -/
theorem links_ofIdentifiers
    (conforms : Record.Conforms schema resourceType record)
    {declared : Relationship}
    {found : Related Record}
    (isDeclared : schema.relationship? resourceType name = some declared)
    (resolved : store.resolve resourceType record name = .ok found) :
    Links schema store record name
      (.ofIdentifiers declared.toMany
          (found.objects.map Record.identifier)) := by
  -- A to-one relationship leads to at most one record, whose identifier is the
  -- first one.
  have listed :
      (Linkage.ofIdentifiers declared.toMany
          (found.objects.map Record.identifier)).identifiers =
        found.objects.map Record.identifier := by
    cases shape : declared.toMany with
    | true => rfl
    | false =>
        rcases toOne_of_resolve conforms isDeclared resolved shape with
          ⟨object, isOne⟩
        rw [isOne]
        cases object <;> rfl
  rw [← conforms.typed] at resolved isDeclared
  constructor
  · exact ⟨found, resolved, listed⟩
  · exact ⟨declared, isDeclared, by rw [Linkage.isMany_ofIdentifiers]⟩

/-- What an assembler makes of a stored relationship is its linkage. -/
theorem Sound.linkage?_eq_some_iff
    (sound : Sound schema store)
    (member : record ∈ store.recordsOf resourceType) :
    (ofStore schema store policy).linkage? resourceType record name =
      some linkage ↔
      Links schema store record name linkage := by
  have conforms := (sound.records resourceType).conforms record member
  rw [Assembler.linkage?_eq_some]
  constructor
  · rintro ⟨declared, found, isDeclared, accessed, equal⟩
    have resolved := Outcome.mapError_eq_ok_iff.mp accessed
    rw [equal, sound.map_identify member isDeclared resolved]
    exact links_ofIdentifiers conforms isDeclared resolved
  · intro links
    rcases links.resolved with ⟨found, resolved, _⟩
    rcases links.declared with ⟨declared, isDeclared, _⟩
    rw [conforms.typed] at resolved isDeclared
    refine ⟨declared, found, isDeclared,
      Outcome.mapError_eq_ok_iff.mpr resolved, ?_⟩
    rw [sound.map_identify member isDeclared resolved]
    exact links.unique (links_ofIdentifiers conforms isDeclared resolved)

theorem exists_links
    (conforms : Record.Conforms schema resourceType record)
    (isDeclared : (schema.relationship? resourceType name).isSome = true) :
    ∃ linkage, Links schema store record name linkage := by
  rcases Option.isSome_iff_exists.mp isDeclared with ⟨declared, found⟩
  rcases resolve_of_declared conforms found resourceType with
    ⟨related, resolved, _⟩
  exact ⟨_, links_ofIdentifiers conforms found resolved⟩

/-! ## Requested relationships -/

/-- The places where the include tree asks for a relationship are those that
walks reach. -/
theorem Sound.requests_iff
    (sound : Sound schema store)
    (policy : LinkagePolicy)
    (primary : ∀ record ∈ records,
      record ∈ store.recordsOf specification.resourceType)
    (ordered : specification.inclusion.Ordered)
    {identifier : ResourceIdentifier} :
    (∃ names visit,
        Met (ofStore schema store policy) specification records names visit ∧
          (identifier, name) ∈ (ofStore schema store policy).requests visit) ↔
      store.Requests specification.inclusion records identifier name := by
  constructor
  · rintro ⟨names, visit, met, asked⟩
    rcases Assembly.mem_requests.mp asked with ⟨same, child⟩
    rcases sound.walk_of_met primary met with ⟨start, member, walk⟩
    rw [sound.identifierOf_eq (sound.mem_of_met primary met)] at same
    exact ⟨start, member, names, visit.object, walk, same,
      (met.hasRootPath_iff ordered).mpr child⟩
  · rintro ⟨start, member, names, reached, walk, same, rootPath⟩
    rcases sound.met_of_walk primary ordered member walk rootPath.of_append with
      ⟨visit, met, isReached⟩
    refine ⟨names, visit, met, Assembly.mem_requests.mpr ⟨?_, ?_⟩⟩
    · rw [sound.identifierOf_eq (sound.mem_of_met primary met), isReached, same]
    · exact (met.hasRootPath_iff ordered).mp rootPath

/-- A resolved tree requests declared relationships. -/
theorem Sound.declared_of_requests
    (sound : Sound schema store)
    (primary : ∀ record ∈ records,
      record ∈ store.recordsOf specification.resourceType)
    (resolved :
      specification.inclusion.Resolved schema specification.resourceType)
    (requests :
      store.Requests specification.inclusion records record.identifier name) :
    (schema.relationship? record.resourceType name).isSome = true := by
  rcases (sound.requests_iff .never primary resolved.ordered).mpr requests with
    ⟨names, visit, met, asked⟩
  rcases Assembly.mem_requests.mp asked with ⟨same, subtree, child⟩
  rcases met.declared_of_child resolved child with ⟨declared, isDeclared⟩
  have sameType : visit.resourceType = record.resourceType :=
    congrArg ResourceIdentifier.resourceType same
  rw [← sameType]
  exact Option.isSome_iff_exists.mpr ⟨declared, isDeclared⟩

/-! ## Shown records -/

/-- What a resource object shows of a visit, it shows of the record. -/
theorem Sound.shows_of_presents
    (sound : Sound schema store)
    (primary : ∀ record ∈ records,
      record ∈ store.recordsOf specification.resourceType)
    (resolved :
      specification.inclusion.Resolved schema specification.resourceType)
    {visit : Visit Record}
    {node : ResourceNode}
    (member : visit.object ∈ store.recordsOf visit.resourceType)
    (presents :
      (ofStore schema store policy).Presents specification.fields
        (fun name =>
          ∃ places other,
            Met (ofStore schema store policy) specification records places
              other ∧
              ((ofStore schema store policy).identifierOf visit, name) ∈
                (ofStore schema store policy).requests other)
        visit.resourceType visit.object node)
    (fits : node.Fits schema) :
    Shows schema store policy specification.fields
      (store.Requests specification.inclusion records visit.object.identifier)
        node
      visit.object := by
  have conforms := (sound.records _).conforms _ member
  have identified :
      (ofStore schema store policy).identifierOf visit =
        visit.object.identifier :=
    sound.identifierOf_eq member
  simp only [sound.requests_iff policy primary resolved.ordered,
    identified] at presents
  rw [← conforms.typed] at member presents
  constructor
  · rw [presents.identified, ← identified, identifierOf, conforms.typed]
  · intro name value
    rw [presents.attributes, Assembler.mem_shownAttributes]
    rfl
  · intro name
    rw [Option.isSome_iff_exists]
    constructor
    · rintro ⟨linkage, shown⟩
      rcases (presents.linked name linkage).mp shown with
        ⟨allowed, demanded, isLinkage⟩
      rcases ((sound.linkage?_eq_some_iff member).mp isLinkage).declared with
        ⟨declared, found, _⟩
      exact ⟨allowed, demanded.mono
        (fun _ => Option.isSome_iff_exists.mpr ⟨declared, found⟩) id⟩
    · rintro ⟨allowed, demanded⟩
      have isDeclared :=
        demanded.declared (sound.declared_of_requests primary resolved)
      rw [conforms.typed] at isDeclared
      rcases exists_links conforms isDeclared with ⟨linkage, links⟩
      refine ⟨linkage, (presents.linked name linkage).mpr ⟨allowed, ?_, ?_⟩⟩
      · exact demanded.mono (fun _ => True.intro) id
      · exact (sound.linkage?_eq_some_iff member).mpr links
  · intro name linkage shown
    exact (sound.linkage?_eq_some_iff member).mp
      ((presents.linked name linkage).mp shown).2.2
  · intro ordered
    rw [presents.attributes]
    exact ⟨Assembler.ascending_shownAttributes ordered, fits.ascending ordered⟩

theorem Sound.nodup_identify
    (sound : Sound schema store)
    (primary : ∀ record ∈ records, record ∈ store.recordsOf resourceType)
    (distinct : records.Nodup) :
    (records.map
        ((ofStore schema store policy).identify resourceType)).Nodup := by
  apply List.Nodup.map_on _ distinct
  intro first firstMember second secondMember same
  apply sound.eq_of_id_eq (primary first firstMember)
    (primary second secondMember)
  exact congrArg ResourceIdentifier.id same

/-- A run along a resolved tree succeeds, and its resource objects show the
records that they stand for. -/
theorem Sound.run_shows
    (sound : Sound schema store)
    (policy : LinkagePolicy)
    (primary : ∀ record ∈ records,
      record ∈ store.recordsOf specification.resourceType)
    (distinct : records.Nodup)
    (resolved :
      specification.inclusion.Resolved schema specification.resourceType) :
    ∃ assembly,
      Assembly.run (ofStore schema store policy) specification records =
        .ok assembly ∧
        Assembly.ExploredTo (ofStore schema store policy) specification records
          specification.inclusion.depth assembly ∧
        ∀ node ∈ assembly.nodes, ∀ {names : List String} {visit : Visit Record},
          Met (ofStore schema store policy) specification records names visit →
          node.identifier = (ofStore schema store policy).identifierOf visit →
            Shows schema store policy specification.fields
              (store.Requests specification.inclusion records
                  visit.object.identifier) node
              visit.object := by
  have ran :=
    (Assembly.run_presented (sound.tellsApart primary resolved)
      (sound.tolerates primary resolved)).and
      (Assembly.run_coherent (ofStore schema store policy) specification
          records)
  rcases ran.exists_ok with ⟨assembly, run, ⟨exploredTo, presentedTo⟩, coherent⟩
  refine ⟨assembly, run, exploredTo, ?_⟩
  intro node member names visit met identified
  have presents :=
    presentedTo.presents_of_mem exploredTo
      (sound.nodup_identify primary distinct) member met identified
  exact sound.shows_of_presents primary resolved (sound.mem_of_met primary met)
    presents (coherent.fits node member)

/-- The document shows the primary records in order, and every included resource
object shows a record: the attributes that it holds, and linkage of the
relationships that the policy demands. Which fields the selection allows,
`FieldSelection.allows_iff` says. -/
theorem assembleCollection_linkage
    {maxDepth maxPaths : Nat}
    {requested : List String}
    (loaded : store.LoadedWith schema)
    (resolved :
      IncludeTree.resolve schema maxDepth maxPaths specification.resourceType
        requested =
        .ok specification.inclusion)
    (primary : ∀ record ∈ records,
      record ∈ store.recordsOf specification.resourceType)
    (distinct : records.Nodup)
    (policy : LinkagePolicy) :
    ∃ document,
      (ofStore schema store policy).assembleCollection specification records =
        .ok document ∧
        List.Forall₂
          (fun node record =>
            Shows schema store policy specification.fields
              (store.Requests specification.inclusion records record.identifier)
                node record)
          document.data.nodes records ∧
        ∀ node ∈ document.included,
          ∃ record ∈ store.recordsOf node.resourceType,
          Shows schema store policy specification.fields
            (store.Requests specification.inclusion records record.identifier)
              node record := by
  have sound := sound_of_loadedWith loaded
  have tree := IncludeTree.resolved_of_resolve resolved
  rcases sound.run_shows policy primary distinct tree with
    ⟨assembly, run, exploredTo, shows⟩
  refine ⟨.ofNodes (.collection assembly.primary) assembly.included,
    Assembler.assembleCollection_eq_ok.mpr ⟨assembly, run, rfl⟩, ?_, ?_⟩
  · have placed := List.forall₂_iff_zip.mp exploredTo.forall₂_primary
    apply List.forall₂_iff_zip.mpr
    refine ⟨placed.1, ?_⟩
    intro node record paired
    rcases List.of_mem_zip paired with ⟨nodeMember, recordMember⟩
    exact shows node (List.mem_append_left _ nodeMember) (.primary recordMember)
      (placed.2 paired)
  · intro node member
    rcases exploredTo.met_of_included member with ⟨names, visit, met, same⟩
    have sameType : node.resourceType = visit.resourceType :=
      congrArg ResourceIdentifier.resourceType same
    refine ⟨visit.object, ?_,
      shows node (List.mem_append_right _ member) met same⟩
    rw [sameType]
    exact sound.mem_of_met primary met

theorem assembleCollection_linkage_ring :
    ∃ document,
      (ofStore acquaintance ring .whenIncluded).assembleCollection
        ringSpecification ((ring.recordsOf "people").take 1) = .ok document ∧
        List.Forall₂
          (fun node record =>
            Shows acquaintance ring .whenIncluded ringSpecification.fields
              (ring.Requests ringSpecification.inclusion
                  ((ring.recordsOf "people").take 1) record.identifier)
              node record)
          document.data.nodes ((ring.recordsOf "people").take 1) ∧
        ∀ node ∈ document.included, ∃ record ∈ ring.recordsOf node.resourceType,
          Shows acquaintance ring .whenIncluded ringSpecification.fields
            (ring.Requests ringSpecification.inclusion
                ((ring.recordsOf "people").take 1) record.identifier)
            node record := by
  have loaded : ring.LoadedWith acquaintance := ⟨ringFixture, rfl⟩
  have resolved :
      IncludeTree.resolve acquaintance 3 10 ringSpecification.resourceType
        ["knows.knows"] =
        .ok ringSpecification.inclusion :=
    rfl
  have primary :
      ∀ record ∈ (ring.recordsOf "people").take 1,
        record ∈ ring.recordsOf ringSpecification.resourceType :=
    fun _ => List.mem_of_mem_take
  have distinct : ((ring.recordsOf "people").take 1).Nodup :=
    List.nodup_singleton _
  exact assembleCollection_linkage loaded resolved primary distinct
    .whenIncluded

/-- The third person is reached at the end of the tree, and shows no linkage. -/
example :
    ((ofStore acquaintance ring .whenIncluded).assembleCollection
        ringSpecification ((ring.recordsOf "people").take 1)).toOption.map
      (fun document : Document =>
          (document.data.nodes ++ document.included).map fun node =>
            (node.id, node.relationships)) =
      some
        [("1", [("knows", .toMany [⟨"people", "2"⟩, ⟨"people", "1"⟩])]),
          ("2", [("knows", .toMany [⟨"people", "3"⟩, ⟨"people", "1"⟩])]),
          ("3", [])] := by
  decide

end Store

end JsonApi
