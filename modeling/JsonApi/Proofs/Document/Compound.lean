import JsonApi.Proofs.Document.Exploration
import JsonApi.Proofs.Store.Loading
import Mathlib.Order.Lattice.Nat

/-!
# Compound documents of a store

The records of a loaded store can always be assembled along a resolved include
tree, whatever linkage is shown.  Included are exactly the records that walks
along root paths of the tree reach from the primary records and that are not
primary themselves, each of them once, and those with a shorter walk first.
-/

namespace JsonApi

open Assembler

/-- The identifier of a stored record. -/
def Record.identifier (record : Record) : ResourceIdentifier :=
  ⟨record.resourceType, record.id⟩

namespace Store

/-- Steps between records, each along the relationship of the given name. -/
inductive Walk
    (store : Store)
    (start : Record) : List String → Record → Prop where
  | nil : Walk store start [] start
  | concat
      {names : List String}
      {name : String}
      {finish next : Record}
      {found : Related Record}
      (before : Walk store start names finish)
      (resolved : store.resolve finish.resourceType finish name = .ok found)
      (step : next ∈ found.objects) :
      Walk store start (names ++ [name]) next

/-- A walk with `length` steps along a root path reaches the identifier from a
primary record. -/
def Reaches
    (store : Store)
    (inclusion : IncludeTree)
    (primaries : List Record)
    (identifier : ResourceIdentifier)
    (length : Nat) : Prop :=
  ∃ primary ∈ primaries, ∃ names reached,
    names.length = length ∧ inclusion.HasRootPath names ∧
      store.Walk primary names reached ∧ reached.identifier = identifier

/-- The length of a shortest walk with at least one step that reaches the
identifier. -/
noncomputable def shortestWalk
    (store : Store)
    (inclusion : IncludeTree)
    (primaries : List Record)
    (identifier : ResourceIdentifier) : Nat :=
  sInf
    {length | 1 ≤ length ∧ store.Reaches inclusion primaries identifier length}

variable {schema : Schema} {store : Store} {policy : LinkagePolicy}
  {specification : QuerySpecification} {records : List Record}

/-! ## Visits of records -/

/-- A step along a declared relationship is a step of the assembly. -/
theorem mem_branchVisits_ofStore
    {visit next : Visit Record}
    {name : String}
    {subtree : IncludeTree}
    (conforms : Record.Conforms schema visit.resourceType visit.object) :
    next ∈ (ofStore schema store policy).branchVisits visit (name, subtree) ↔
      ∃ declared found object,
        schema.relationship? visit.resourceType name = some declared ∧
          store.resolve visit.object.resourceType visit.object name =
            .ok found ∧
          object ∈ found.objects ∧
          next = ⟨declared.target, object, subtree,
              Assembly.pathBelow visit.path name⟩ := by
  rw [mem_branchVisits, conforms.typed]
  simp only [ofStore, Outcome.mapError_eq_ok_iff]

/-- Every visited record is one of its type. -/
theorem Sound.mem_of_met
    (sound : Sound schema store)
    (primary : ∀ record ∈ records,
      record ∈ store.recordsOf specification.resourceType)
    {names : List String}
    {visit : Visit Record}
    (met :
      Met (ofStore schema store policy) specification records names visit) :
    visit.object ∈ store.recordsOf visit.resourceType := by
  induction met with
  | primary member => exact primary _ member
  | follow met branch reached induction =>
      have conforms := (sound.records _).conforms _ induction
      rcases (mem_branchVisits_ofStore conforms).mp reached with
        ⟨declared, found, object, isDeclared, resolved, member, equal⟩
      rcases resolve_of_declared conforms isDeclared _ with
        ⟨foundAgain, resolvedAgain, targets⟩
      rw [resolved] at resolvedAgain
      cases resolvedAgain
      rw [equal]
      exact targets object member

theorem Sound.identifierOf_eq
    (sound : Sound schema store)
    {visit : Visit Record}
    (member : visit.object ∈ store.recordsOf visit.resourceType) :
    (ofStore schema store policy).identifierOf visit =
      visit.object.identifier := by
  rw [Record.identifier, ((sound.records _).conforms _ member).typed]
  rfl

/-- A visited record is where a walk from a primary record ends. -/
theorem Sound.walk_of_met
    (sound : Sound schema store)
    (primary : ∀ record ∈ records,
      record ∈ store.recordsOf specification.resourceType)
    {names : List String}
    {visit : Visit Record}
    (met :
      Met (ofStore schema store policy) specification records names visit) :
    ∃ start ∈ records, store.Walk start names visit.object := by
  induction met with
  | primary member => exact ⟨_, member, Walk.nil⟩
  | follow met branch reached induction =>
      have conforms :=
        (sound.records _).conforms _ (sound.mem_of_met primary met)
      rcases (mem_branchVisits_ofStore conforms).mp reached with
        ⟨declared, found, object, _, resolved, member, equal⟩
      rcases induction with ⟨start, startMember, walk⟩
      refine ⟨start, startMember, ?_⟩
      rw [equal]
      exact walk.concat resolved member

/-- A walk along a root path is followed by the assembly. -/
theorem Sound.met_of_walk
    (sound : Sound schema store)
    (primary : ∀ record ∈ records,
      record ∈ store.recordsOf specification.resourceType)
    (ordered : specification.inclusion.Ordered)
    {start finish : Record}
    {names : List String}
    (member : start ∈ records)
    (walk : store.Walk start names finish)
    (rootPath : specification.inclusion.HasRootPath names) :
    ∃ visit,
      Met (ofStore schema store policy) specification records names visit ∧
      visit.object = finish := by
  induction walk with
  | nil => exact ⟨_, .primary member, rfl⟩
  | @concat names name finish next found before resolved step induction =>
      rcases induction rootPath.of_append with ⟨visit, met, equal⟩
      subst equal
      rcases (met.hasRootPath_iff ordered).mp rootPath with ⟨subtree, child⟩
      have conforms :=
        (sound.records _).conforms _ (sound.mem_of_met primary met)
      rcases declared_of_resolve conforms resolved with ⟨declared, isDeclared⟩
      exact ⟨_, met.follow child
        ((mem_branchVisits_ofStore conforms).mpr
          ⟨declared, _, next, isDeclared, resolved, step, rfl⟩), rfl⟩

/-- What the assembly visits is what walks along root paths reach. -/
theorem Sound.reachedAt_iff
    (sound : Sound schema store)
    (primary : ∀ record ∈ records,
      record ∈ store.recordsOf specification.resourceType)
    (ordered : specification.inclusion.Ordered)
    {identifier : ResourceIdentifier}
    {length : Nat} :
    (ofStore schema store policy).ReachedAt specification records length
      identifier ↔
      store.Reaches specification.inclusion records identifier length := by
  constructor
  · rintro ⟨names, visit, sameLength, met, equal⟩
    rcases sound.walk_of_met primary met with ⟨start, member, walk⟩
    rw [sound.identifierOf_eq (sound.mem_of_met primary met)] at equal
    exact ⟨start, member, names, visit.object, sameLength,
      ⟨visit.tree, (met.behind ordered).1⟩, walk, equal⟩
  · rintro ⟨start, member, names, reached, sameLength, rootPath, walk, equal⟩
    rcases sound.met_of_walk primary ordered member walk rootPath with
      ⟨visit, met, sameObject⟩
    subst sameObject
    refine ⟨names, visit, sameLength, met, ?_⟩
    rw [sound.identifierOf_eq (sound.mem_of_met primary met)]
    exact equal

/-! ## Assembling records -/

theorem Sound.related_outcome
    (sound : Sound schema store)
    {resourceType name : String}
    {record : Record}
    (member : record ∈ store.recordsOf resourceType)
    {declared : Relationship}
    (isDeclared : schema.relationship? resourceType name = some declared)
    (id : String) :
    Outcome (fun _ => True) (fun _ => False)
      ((ofStore schema store policy).related resourceType id record name) := by
  have conforms := (sound.records resourceType).conforms record member
  rcases store.resolve_of_declared conforms isDeclared resourceType with
    ⟨found, resolved, _⟩
  have accessed :
      (ofStore schema store policy).accessor resourceType record name =
        .ok found :=
    Outcome.mapError_eq_ok_iff.mpr resolved
  simp [Assembler.related, accessed]

/-- A record of a loaded store can be projected. -/
theorem Sound.project_outcome
    (sound : Sound schema store)
    {resourceType : String}
    {record : Record}
    (member : record ∈ store.recordsOf resourceType)
    (fields : FieldSelection) :
    Outcome (fun _ => True) (fun _ => False)
      ((ofStore schema store policy).project fields resourceType record) := by
  have declared := sound.hasType_of_mem member
  apply Assembler.project_outcome
  · intro unknown
    rcases Dictionary.find?_of_contains declared with ⟨held, found⟩
    simp [ofStore, Schema.attributesOf?, found] at unknown
  · intro relationship listed id
    rcases Schema.relationship?_of_mem listed with ⟨declared, isDeclared⟩
    exact sound.related_outcome member isDeclared id

/-- Along a resolved tree nothing can go wrong in a loaded store. -/
theorem Sound.tolerates
    (sound : Sound schema store)
    (primary : ∀ record ∈ records,
      record ∈ store.recordsOf specification.resourceType)
    (resolved :
      specification.inclusion.Resolved schema specification.resourceType) :
    Assembly.Tolerates (ofStore schema store policy) specification records
      (fun _ => False) := by
  refine { projected := ?_, undeclared := ?_, resolved := ?_ }
  · intro names visit met
    exact sound.project_outcome (sound.mem_of_met primary met)
      specification.fields
  · intro names visit met branch child undeclared
    rcases met.declared_of_child resolved child with ⟨declared, found⟩
    rw [found] at undeclared
    cases undeclared
  · intro names visit met branch child id
    rcases met.declared_of_child resolved child with ⟨declared, found⟩
    exact sound.related_outcome (sound.mem_of_met primary met) found id

theorem Sound.tellsApart
    (sound : Sound schema store)
    (primary : ∀ record ∈ records,
      record ∈ store.recordsOf specification.resourceType)
    (resolved :
      specification.inclusion.Resolved schema specification.resourceType) :
    TellsApart (ofStore schema store policy) specification records := by
  apply tellsApart_of_resolved resolved
  intro firstNames secondNames first second firstMet secondMet sameIdentifier
  have firstMember := sound.mem_of_met primary firstMet
  have secondMember := sound.mem_of_met primary secondMet
  have sameType : first.resourceType = second.resourceType :=
    congrArg ResourceIdentifier.resourceType sameIdentifier
  rw [sameType] at firstMember
  exact sound.eq_of_id_eq firstMember secondMember
    (congrArg ResourceIdentifier.id sameIdentifier)

/-- Assembling records of a loaded store along a resolved tree succeeds. -/
theorem Sound.assembleCollection_ok
    (sound : Sound schema store)
    (policy : LinkagePolicy)
    (primary : ∀ record ∈ records,
      record ∈ store.recordsOf specification.resourceType)
    (resolved :
      specification.inclusion.Resolved schema specification.resourceType) :
    ∃ document assembly,
      (ofStore schema store policy).assembleCollection specification records =
        .ok document ∧
        document.included.map ResourceNode.identifier =
          assembly.includedIdentifiers ∧
        Assembly.ExploredTo (ofStore schema store policy) specification records
          specification.inclusion.depth assembly := by
  rcases (Assembly.run_outcome (sound.tellsApart primary resolved)
    (sound.tolerates primary resolved)).exists_ok with ⟨assembly, run,
      exploredTo⟩
  refine ⟨Document.ofNodes (.collection assembly.primary) assembly.included,
    assembly, ?_, rfl, exploredTo⟩
  rw [assembleCollection, run]
  rfl

/-- A walk to what is no primary record has at least one step. -/
theorem Reaches.one_le
    {inclusion : IncludeTree}
    {identifier : ResourceIdentifier}
    {length : Nat}
    (reaches : store.Reaches inclusion records identifier length)
    (notPrimary : identifier ∉ records.map Record.identifier) :
    1 ≤ length := by
  rcases reaches with
    ⟨start, member, names, reached, sameLength, _, walk, equal⟩
  cases walk with
  | nil => exact absurd (List.mem_map.mpr ⟨start, member, equal⟩) notPrimary
  | concat before resolved step =>
      rw [← sameLength, List.length_append, List.length_singleton]
      omega

theorem shortestWalk_le_of_dominated
    {inclusion : IncludeTree}
    {earlier later : ResourceIdentifier}
    (reached :
      ∃ length, 1 ≤ length ∧ store.Reaches inclusion records later length)
    (dominated :
      ∀ length, 1 ≤ length → store.Reaches inclusion records later length →
        ∃ shorter ≤ length,
          1 ≤ shorter ∧ store.Reaches inclusion records earlier shorter) :
    store.shortestWalk inclusion records earlier ≤
      store.shortestWalk inclusion records later := by
  have isShortest :
      1 ≤ store.shortestWalk inclusion records later ∧
        store.Reaches inclusion records later
          (store.shortestWalk inclusion records later) :=
    Nat.sInf_mem reached
  rcases dominated _ isShortest.1 isShortest.2 with
    ⟨shorter, bounded, reachesEarlier⟩
  have isWalk :
      shorter ∈ {length | 1 ≤ length ∧
          store.Reaches inclusion records earlier length} :=
    reachesEarlier
  exact (Nat.sInf_le isWalk).trans bounded

/-- Included is what walks with at least one step reach, and what is no primary
record. -/
theorem Sound.mem_includedIdentifiers
    (sound : Sound schema store)
    (primary : ∀ record ∈ records,
      record ∈ store.recordsOf specification.resourceType)
    (ordered : specification.inclusion.Ordered)
    {assembly : Assembly Record}
    (exploredTo :
      Assembly.ExploredTo (ofStore schema store policy) specification records
        specification.inclusion.depth assembly)
    {identifier : ResourceIdentifier} :
    identifier ∈ assembly.includedIdentifiers ↔
      (∃ length, 1 ≤ length ∧
        store.Reaches specification.inclusion records identifier length) ∧
        identifier ∉ records.map Record.identifier := by
  have primaries :
      records.map
        ((ofStore schema store policy).identify specification.resourceType) =
        records.map Record.identifier := by
    apply List.map_congr_left
    intro record member
    have identified :
        (ofStore schema store policy).identifierOf
          (specification.primaryVisit record) =
          record.identifier :=
      sound.identifierOf_eq (primary record member)
    exact identified
  rw [exploredTo.mem_includedIdentifiers, primaries]
  simp only [sound.reachedAt_iff primary ordered]
  constructor
  · rintro ⟨⟨length, reaches⟩, notPrimary⟩
    exact ⟨⟨length, reaches.one_le notPrimary, reaches⟩, notPrimary⟩
  · rintro ⟨⟨length, _, reaches⟩, notPrimary⟩
    exact ⟨⟨length, reaches⟩, notPrimary⟩

/-- Included records stand in the order of their shortest walks. -/
theorem Sound.pairwise_shortestWalk
    (sound : Sound schema store)
    (primary : ∀ record ∈ records,
      record ∈ store.recordsOf specification.resourceType)
    (ordered : specification.inclusion.Ordered)
    {assembly : Assembly Record}
    (exploredTo :
      Assembly.ExploredTo (ofStore schema store policy) specification records
        specification.inclusion.depth assembly) :
    assembly.includedIdentifiers.Pairwise fun earlier later =>
      store.shortestWalk specification.inclusion records earlier ≤
        store.shortestWalk specification.inclusion records later := by
  apply exploredTo.pairwise_includedIdentifiers.imp_of_mem
  intro earlier later earlierMember laterMember dominated
  rcases (sound.mem_includedIdentifiers primary ordered exploredTo).mp
    earlierMember with
    ⟨_, earlierNotPrimary⟩
  rcases (sound.mem_includedIdentifiers primary ordered exploredTo).mp
    laterMember with
    ⟨laterReached, _⟩
  apply shortestWalk_le_of_dominated laterReached
  intro length _ reaches
  rcases dominated length
    ((sound.reachedAt_iff primary ordered).mpr reaches) with
    ⟨shorter, bounded, reachedEarlier⟩
  have reachesEarlier := (sound.reachedAt_iff primary ordered).mp reachedEarlier
  exact ⟨shorter, bounded, reachesEarlier.one_le earlierNotPrimary,
    reachesEarlier⟩

/-- Included is what walks along root paths reach, without repetitions, the
nearest first. -/
theorem assembleCollection_included
    {maxDepth maxPaths : Nat}
    {requested : List String}
    (loaded : store.LoadedWith schema)
    (resolved :
      IncludeTree.resolve schema maxDepth maxPaths specification.resourceType
        requested =
        .ok specification.inclusion)
    (primary : ∀ record ∈ records,
      record ∈ store.recordsOf specification.resourceType)
    (policy : LinkagePolicy) :
    ∃ document,
      (ofStore schema store policy).assembleCollection specification records =
        .ok document ∧
        (document.included.map ResourceNode.identifier).Nodup ∧
        (∀ identifier,
          identifier ∈ document.included.map ResourceNode.identifier ↔
            (∃ length, 1 ≤ length ∧
              store.Reaches specification.inclusion records identifier length) ∧
              identifier ∉ records.map Record.identifier) ∧
        (document.included.map ResourceNode.identifier).Pairwise
          fun earlier later =>
          store.shortestWalk specification.inclusion records earlier ≤
            store.shortestWalk specification.inclusion records later := by
  have sound := sound_of_loadedWith loaded
  have tree := IncludeTree.resolved_of_resolve resolved
  rcases sound.assembleCollection_ok policy primary tree with
    ⟨document, assembly, assembled, included, exploredTo⟩
  refine ⟨document, assembled, ?_, ?_, ?_⟩
  · rw [included]
    exact exploredTo.nodup_includedIdentifiers
  · intro identifier
    rw [included]
    exact sound.mem_includedIdentifiers primary tree.ordered exploredTo
  · rw [included]
    exact sound.pairwise_shortestWalk primary tree.ordered exploredTo

/-! ## People who know each other in a ring -/

/-- People, each of whom knows some people. -/
def acquaintance : Schema :=
  Schema.empty.withRelationship "people" "knows" ⟨"people", true⟩

/-- The first knows the second and itself, the second the third and the first,
the third the first and somebody unknown. -/
def ringFixture : Fixture :=
  [("people",
    [⟨.string "1", [], [("knows", .array [.string "2", .string "1"])]⟩,
      ⟨.string "2", [], [("knows", .array [.string "3", .string "1"])]⟩,
      ⟨.string "3", [], [("knows", .array [.string "1", .string "4"])]⟩])]

def ring : Store :=
  (ofFixture acquaintance ringFixture).toOption.getD ⟨[]⟩

/-- Asks for the people who are known by those whom the primary people know. -/
def ringSpecification : QuerySpecification where
  resourceType := "people"
  filter := none
  sort := []
  page := ⟨1, 20⟩
  fields := .all
  inclusion := IncludeTree.empty.insert ["knows", "knows"]
  complexity := ⟨2, 0, 0, 2⟩

theorem assembleCollection_included_ring :
    ∃ document,
      (ofStore acquaintance ring .always).assembleCollection ringSpecification
          ((ring.recordsOf "people").take 1) = .ok document ∧
        (document.included.map ResourceNode.identifier).Nodup ∧
        (∀ identifier,
          identifier ∈ document.included.map ResourceNode.identifier ↔
            (∃ length, 1 ≤ length ∧
              ring.Reaches ringSpecification.inclusion
                ((ring.recordsOf "people").take 1) identifier length) ∧
              identifier ∉
                ((ring.recordsOf "people").take 1).map Record.identifier) ∧
        (document.included.map ResourceNode.identifier).Pairwise
          fun earlier later =>
          ring.shortestWalk ringSpecification.inclusion
            ((ring.recordsOf "people").take 1) earlier ≤
            ring.shortestWalk ringSpecification.inclusion
              ((ring.recordsOf "people").take 1) later := by
  have loaded : ring.LoadedWith acquaintance := ⟨ringFixture, rfl⟩
  have resolved :
      IncludeTree.resolve acquaintance 3 10 ringSpecification.resourceType
        ["knows.knows"] =
        .ok ringSpecification.inclusion :=
    rfl
  have primary :
      ∀ record ∈ (ring.recordsOf "people").take 1,
        record ∈ ring.recordsOf ringSpecification.resourceType :=
    fun _ => List.mem_of_mem_take
  exact assembleCollection_included loaded resolved primary .always

/-- From the first person the second and the third are reached, in this
order. -/
example :
    (((ofStore acquaintance ring .always).assembleCollection ringSpecification
        ((ring.recordsOf "people").take 1)).toOption.map fun document =>
      document.included.map ResourceNode.identifier) =
      some [⟨"people", "2"⟩, ⟨"people", "3"⟩] := by
  decide

end Store

end JsonApi
