import JsonApi.Proofs.Document.WorkLoop

/-!
# The places that a work queue expands

Nothing is queued twice for the same object and the same dotted path: the table
of a document lists what has been queued, in order and without repetition
(`Ledger`).

A run meets objects at places of the include tree (`MetIn`): the primary ones
at the root, and from each object that it expands those that the accessor led
to in that moment.  Dotted paths tell places with plain names apart, so that a
run that is not stopped expands an object exactly once at each place where it
meets it and there is something behind it.
-/

namespace JsonApi

open Assembly

variable {World Object : Type}

namespace LiveAssembler

variable {assembler : LiveAssembler World Object}
  {specification : QuerySpecification} {objects : List Object} {world : World}
  {workspace final left : Workspace World Object} {turn : Turn World Object}
  {turns handled : List (Turn World Object)} {outcome : Except Stop Unit}
  {pending : Pending Object} {rest taken : List (Pending Object)}
  {names : List String} {visit : Visit Object}

/-! ## What has been queued -/

/-- The entry in the table of queued objects. -/
def entryOf
    (assembler : LiveAssembler World Object)
    (pending : Pending Object) :
    ResourceIdentifier × String :=
  (assembler.identifierOf pending.visit, pending.path)

/-- The table lists what was taken out of the queue and what waits there, the
last first, and lists nothing twice. -/
structure Ledger
    (assembler : LiveAssembler World Object)
    (taken : List (Pending Object))
    (assembly : Assembly Object) : Prop where
  listed : assembly.expanded =
    ((taken ++ assembly.queue).map assembler.entryOf).reverse
  distinct : assembly.expanded.Nodup

theorem ledger_empty : Ledger assembler [] (empty : Assembly Object) :=
  ⟨rfl, List.nodup_nil⟩

theorem Ledger.change
    {admitted : Visit Object → Prop}
    {writable : Slot → String → Prop}
    {before after : Assembly Object}
    (ledger : Ledger assembler taken before)
    (change : Change assembler admitted writable before after) :
    Ledger assembler taken after := by
  cases change with
  | present node => exact ⟨ledger.listed, ledger.distinct⟩
  | seat held absent => exact ⟨ledger.listed, ledger.distinct⟩
  | discover absent => exact ⟨ledger.listed, ledger.distinct⟩
  | @enqueue pending isAdmitted addressed =>
      rcases enqueue_cases before (assembler.identifierOf pending.visit)
        pending with
        ⟨_, same⟩ | ⟨⟨_, unknown⟩, joined⟩
      · rwa [same]
      · rw [joined]
        refine ⟨?_, List.nodup_cons.mpr ⟨unknown, ledger.distinct⟩⟩
        simp [ledger.listed, entryOf]
  | write isWritable linkage =>
      exact ⟨by simpa using ledger.listed, by simpa using ledger.distinct⟩

theorem Ledger.changes
    {admitted : Visit Object → Prop}
    {writable : Slot → String → Prop}
    {before after : Assembly Object}
    (ledger : Ledger assembler taken before)
    (changes : Changes assembler admitted writable before after) :
    Ledger assembler taken after :=
  changes.keeps (fun _ _ change kept => kept.change change) ledger

/-- What is taken out of the queue stays in the table. -/
theorem Ledger.take
    (ledger : Ledger assembler taken workspace.assembly)
    (front : workspace.assembly.queue = pending :: rest) :
    Ledger assembler (taken ++ [pending])
      (workspace.withQueue rest).assembly where
  listed := by
    have listed := ledger.listed
    rw [front, List.append_cons] at listed
    exact listed
  distinct := ledger.distinct

/-! ## What a run meets -/

/-- The visits of a run: the primary objects at the root, and what the turns of
the run meet from there on. -/
inductive MetIn
    (assembler : LiveAssembler World Object)
    (specification : QuerySpecification)
    (objects : List Object)
    (turns : List (Turn World Object)) :
    List String → Visit Object → Prop where
  | primary
      {object : Object}
      (member : object ∈ objects) :
      MetIn assembler specification objects turns []
        (specification.primaryVisit object)
  | follow
      {names : List String}
      {turn : Turn World Object}
      {name : String}
      {next : Visit Object}
      (isTurn : turn ∈ turns)
      (met :
        MetIn assembler specification objects turns names turn.pending.visit)
      (meets : assembler.Meets specification.fields turn name next) :
      MetIn assembler specification objects turns (names ++ [name]) next

theorem MetIn.mono
    {others : List (Turn World Object)}
    (met : MetIn assembler specification objects handled names visit)
    (more : handled ⊆ others) :
    MetIn assembler specification objects others names visit := by
  induction met with
  | primary member => exact .primary member
  | follow isTurn _ meets induction =>
      exact .follow (more isTurn) induction meets

/-- The path of a visit is the one of its place. -/
theorem MetIn.path_eq
    (met : MetIn assembler specification objects turns names visit) :
    visit.path = Assembler.dottedPath names := by
  induction met with
  | primary member => rfl
  | follow isTurn _ meets induction =>
      rw [meets.below.2, Assembler.dottedPath_append_singleton, ← induction]
      rfl

theorem MetIn.plain
    (met : MetIn assembler specification objects turns names visit)
    (plain : specification.inclusion.Plain) :
    (∀ name ∈ names, IncludeTree.PlainName name) ∧ visit.tree.Plain := by
  induction met with
  | primary member => exact ⟨List.forall_mem_nil _, plain⟩
  | follow isTurn _ meets induction =>
      have below := induction.2.child meets.below.1
      exact ⟨List.forall_mem_append.mpr
        ⟨induction.1, List.forall_mem_singleton.mpr below.1⟩, below.2⟩

/-- In a tree of plain names the path tells the place. -/
theorem MetIn.place_eq
    {others : List String}
    {other : Visit Object}
    (met : MetIn assembler specification objects turns names visit)
    (otherMet : MetIn assembler specification objects turns others other)
    (plain : specification.inclusion.Plain)
    (same : visit.path = other.path) :
    names = others := by
  rw [met.path_eq, otherMet.path_eq] at same
  exact Assembler.dottedPath_injective (met.plain plain).1
    (otherMet.plain plain).1 same

/-! ## What a run has recorded -/

variable (assembler specification objects) in
/-- After some turns everything queued has an entry, and was met. -/
structure Recorded
    (handled : List (Turn World Object))
    (workspace : Workspace World Object) : Prop where
  ledger : Ledger assembler (handled.map Turn.pending) workspace.assembly
  queued : ∀ pending ∈ workspace.assembly.queue, pending.tree.isEmpty = false ∧
    ∃ names, MetIn assembler specification objects handled names pending.visit
  taken : ∀ turn ∈ handled, turn.pending.tree.isEmpty = false ∧
    ∃ names,
      MetIn assembler specification objects handled names turn.pending.visit

variable (assembler specification objects) in
/-- After some turns that nothing has stopped, everything met has an entry, if
there is something behind it. -/
structure Completed
    (handled : List (Turn World Object))
    (workspace : Workspace World Object) :
    Prop extends Recorded assembler specification objects handled
      workspace where
  primaries : specification.inclusion.isEmpty = false → ∀ object ∈ objects,
    (assembler.identifierOf (specification.primaryVisit object), "") ∈
      workspace.assembly.expanded
  covered : ∀ turn ∈ handled, ∀ {name : String} {next : Visit Object},
    assembler.Meets specification.fields turn name next →
      next.tree.isEmpty = false →
      (assembler.identifierOf next, next.path) ∈ workspace.assembly.expanded

/-- A turn records what it meets, however it ends. -/
theorem Recorded.advance
    (recorded : Recorded assembler specification objects handled workspace)
    (front : workspace.assembly.queue = pending :: rest)
    {writable : Slot → String → Prop}
    (changes : Changes assembler
      (assembler.Finds specification.fields ⟨pending, workspace.withQueue rest⟩)
        writable
      (workspace.withQueue rest).assembly left.assembly) :
    Recorded assembler specification objects
      (handled ++ [⟨pending, workspace.withQueue rest⟩])
      left := by
  have more : handled ⊆ handled ++ [⟨pending, workspace.withQueue rest⟩] :=
    List.subset_append_left _ _
  have waited : ∀ other ∈ pending :: rest, other.tree.isEmpty = false ∧
      ∃ names, MetIn assembler specification objects
        (handled ++ [⟨pending, workspace.withQueue rest⟩]) names
          other.visit := by
    rw [← front]
    intro other member
    rcases recorded.queued other member with ⟨inner, names, met⟩
    exact ⟨inner, names, met.mono more⟩
  refine ⟨?_, ?_, ?_⟩
  · rw [List.map_append, List.map_singleton]
    exact (recorded.ledger.take front).changes changes
  · rcases changes.queue with ⟨joined, isQueue, all⟩
    rw [isQueue]
    refine List.forall_mem_append.mpr ⟨(List.forall_mem_cons.mp waited).2, ?_⟩
    intro new member
    rcases all new member with ⟨⟨name, meets⟩, inner, _⟩
    rcases (List.forall_mem_cons.mp waited).1.2 with ⟨names, met⟩
    exact ⟨inner, names ++ [name],
      .follow (List.mem_append_right _ List.mem_cons_self) met meets⟩
  · refine List.forall_mem_append.mpr ⟨?_, List.forall_mem_singleton.mpr ?_⟩
    · intro turn member
      rcases recorded.taken turn member with ⟨inner, names, met⟩
      exact ⟨inner, names, met.mono more⟩
    · exact (List.forall_mem_cons.mp waited).1

/-- A turn that nothing stops has entries for all that it meets. -/
theorem Completed.advance
    (completed : Completed assembler specification objects handled workspace)
    (front : workspace.assembly.queue = pending :: rest)
    (followed : Followed assembler specification.fields
        ⟨pending, workspace.withQueue rest⟩ pending.tree.children left) :
    Completed assembler specification objects
      (handled ++ [⟨pending, workspace.withQueue rest⟩])
      left where
  toRecorded := completed.toRecorded.advance front followed.changes
  primaries inner object member :=
    followed.changes.expanded_subset (completed.primaries inner object member)
  covered := by
    refine List.forall_mem_append.mpr ⟨?_, List.forall_mem_singleton.mpr ?_⟩
    · intro turn member name next meets inner
      exact followed.changes.expanded_subset
        (completed.covered turn member meets inner)
    · rintro name next ⟨subtree, reached, later, comes, member⟩ inner
      exact followed.entered comes next member inner

/-- The work on a queue is complete if nothing stops it, and is recorded in any
case. -/
theorem Drains.recorded
    {earlier : List (Turn World Object)}
    (drains :
      assembler.Drains specification.fields workspace turns outcome final)
    (completed : Completed assembler specification objects earlier workspace) :
    Recorded assembler specification objects (earlier ++ turns) final ∧
      (outcome = .ok () → final.assembly.queue = [] ∧
        Completed assembler specification objects (earlier ++ turns)
          final) := by
  induction drains generalizing earlier with
  | done drained =>
      rw [List.append_nil]
      exact ⟨completed.toRecorded, fun _ => ⟨drained, completed⟩⟩
  | @stop workspace final pending rest stop front stopped =>
      have ends := expand_ends assembler specification.fields
        ⟨pending, workspace.withQueue rest⟩
      exact ⟨completed.toRecorded.advance front (ends.of_error stopped).1,
        fun isOk => nomatch isOk⟩
  | @next workspace expanded final pending rest turns outcome front succeeded _
      induction =>
      have ends := expand_ends assembler specification.fields
        ⟨pending, workspace.withQueue rest⟩
      have run := induction (completed.advance front (ends.of_ok succeeded))
      rwa [List.append_assoc] at run

/-- When the primary objects have been added, however that ended, they wait at
the root. -/
theorem recorded_of_primaries
    {writable : Slot → String → Prop}
    (changes : Changes assembler (∃ object ∈ objects, specification.primaryVisit
        object = ·) writable .empty workspace.assembly) :
    Recorded assembler specification objects [] workspace where
  ledger := ledger_empty.changes changes
  queued := by
    rcases changes.queue with ⟨joined, isQueue, all⟩
    rw [isQueue]
    intro pending member
    rcases all pending member with ⟨⟨object, isObject, isVisit⟩, inner, _⟩
    rw [← isVisit]
    exact ⟨inner, [], .primary isObject⟩
  taken := List.forall_mem_nil _

theorem Assembles.recorded
    (assembles :
      assembler.Assembles specification objects world turns outcome final) :
    Recorded assembler specification objects turns final ∧
      (outcome = .ok () → final.assembly.queue = [] ∧
        Completed assembler specification objects turns final) := by
  have ends := addPrimaries_ends assembler specification objects ⟨.empty, world⟩
  cases assembles with
  | refused stopped =>
      exact ⟨recorded_of_primaries (ends.of_error stopped).1,
        fun isOk => nomatch isOk⟩
  | worked succeeded drains =>
      rcases ends.of_ok succeeded with ⟨changes, rooted, slotted⟩
      have begun :
          Rooted specification.inclusion (empty : Assembly Object) := by
        intro identifier hasSlot
        cases hasSlot
      exact drains.recorded
        { toRecorded := recorded_of_primaries changes
          primaries := fun inner object member =>
            rooted begun _ (slotted object member) inner
          covered := List.forall_mem_nil _ }

theorem exists_assembles
    (assembler : LiveAssembler World Object)
    (specification : QuerySpecification)
    (objects : List Object)
    (world : World) :
    ∃ turns outcome final,
      assembler.Assembles specification objects world turns outcome final := by
  cases ending :
    (assembler.addPrimaries specification objects).run ⟨.empty, world⟩ with
  | error stop final => exact ⟨[], .error stop, final, .refused ending⟩
  | ok result begun =>
      rcases exists_drains assembler specification.fields begun with
        ⟨turns, outcome, final, drains⟩
      exact ⟨turns, outcome, final, .worked ending drains⟩

/-! ## One expansion for each place -/

/-- Whatever is met has an entry, if there is something behind it. -/
theorem Completed.mem_expanded
    (completed : Completed assembler specification objects turns final)
    (met : MetIn assembler specification objects turns names visit)
    (inner : visit.tree.isEmpty = false) :
    (assembler.identifierOf visit, visit.path) ∈ final.assembly.expanded := by
  cases met with
  | primary member => exact completed.primaries inner _ member
  | follow isTurn _ meets => exact completed.covered _ isTurn meets inner

/-- No entry is that of two turns. -/
theorem Recorded.nodup_entries
    (recorded : Recorded assembler specification objects turns final) :
    ((turns.map Turn.pending ++ final.assembly.queue).map
        assembler.entryOf).Nodup := by
  have distinct := recorded.ledger.distinct
  rwa [recorded.ledger.listed, List.nodup_reverse] at distinct

/-- The turns are told apart by their entries. -/
theorem Recorded.turn_eq
    (recorded : Recorded assembler specification objects turns final)
    {first second : Fin turns.length}
    (same : assembler.entryOf (turns.get first).pending =
      assembler.entryOf (turns.get second).pending) :
    first = second := by
  have distinct := recorded.nodup_entries
  rw [List.map_append, List.map_map] at distinct
  have apart :=
    List.pairwise_iff_get.mp (List.pairwise_map.mp distinct.of_append_left)
  rcases lt_trichotomy first second with before | isSame | behind
  · exact absurd same (apart first second before)
  · exact isSame
  · exact absurd same.symm (apart second first behind)

/-- What a run meets at a place is expanded there in one turn. -/
theorem Completed.existsUnique_turn
    (completed : Completed assembler specification objects turns final)
    (drained : final.assembly.queue = [])
    (plain : specification.inclusion.Plain)
    (met : MetIn assembler specification objects turns names visit)
    (inner : visit.tree.isEmpty = false) :
    ∃! index : Fin turns.length,
      assembler.identifierOf (turns.get index).pending.visit =
        assembler.identifierOf visit ∧
        MetIn assembler specification objects turns names
          (turns.get index).pending.visit := by
  have entry := completed.mem_expanded met inner
  rw [completed.ledger.listed, drained, List.append_nil, List.mem_reverse,
    List.map_map, List.mem_map] at entry
  rcases entry with ⟨turn, isTurn, isEntry⟩
  rcases List.get_of_mem isTurn with ⟨index, isAt⟩
  rcases completed.taken turn isTurn with ⟨_, others, turnMet⟩
  rw [← isAt] at isEntry turnMet
  have sameIdentifier := congrArg Prod.fst isEntry
  have here := turnMet.place_eq met plain (congrArg Prod.snd isEntry)
  rw [here] at turnMet
  refine ⟨index, ⟨sameIdentifier, turnMet⟩, ?_⟩
  rintro other ⟨otherIdentifier, otherMet⟩
  apply completed.turn_eq
  apply Prod.ext
  · exact otherIdentifier.trans sameIdentifier.symm
  · exact otherMet.path_eq.trans turnMet.path_eq.symm

/-- The work on a document ends, whatever the accessor leads to, and queues
nothing twice for the same object and path.  Where names are plain, as they are
in resolved trees, paths tell places apart, and what a run meets at a place with
something behind it is expanded there once. -/
theorem expands_once_for_each_place
    (assembler : LiveAssembler World Object)
    (specification : QuerySpecification)
    (objects : List Object)
    (world : World) :
    (WellFounded fun later earlier =>
        assembler.Turns specification.fields earlier later) ∧
    (∃ turns outcome final,
      assembler.Assembles specification objects world turns outcome final) ∧
    (∀ turns outcome final,
      assembler.Assembles specification objects world turns outcome final →
      ((turns.map Turn.pending ++ final.assembly.queue).map
          assembler.entryOf).Nodup ∧
      (specification.inclusion.Plain →
        (∀ turn ∈ turns, turn.pending.tree.isEmpty = false ∧
          ∃! names, MetIn assembler specification objects turns names
            turn.pending.visit) ∧
        (outcome = .ok () → ∀ names visit,
          MetIn assembler specification objects turns names visit →
            visit.tree.isEmpty = false →
            ∃! index : Fin turns.length,
              assembler.identifierOf (turns.get index).pending.visit =
                  assembler.identifierOf visit ∧
                MetIn assembler specification objects turns names
                  (turns.get index).pending.visit))) ∧
    (∀ tree : IncludeTree, tree.Plain → ∀ first second,
      tree.HasRootPath first → tree.HasRootPath second →
        Assembler.dottedPath first = Assembler.dottedPath second →
          first = second) ∧
    (∀ schema maxDepth maxPaths resourceType requested tree,
      IncludeTree.resolve schema maxDepth maxPaths resourceType requested =
        .ok tree →
        tree.Plain) := by
  refine ⟨wellFounded_turns assembler specification.fields,
    exists_assembles assembler specification objects world, ?_, ?_, ?_⟩
  · intro turns outcome final assembles
    rcases assembles.recorded with ⟨recorded, complete⟩
    refine ⟨recorded.nodup_entries, fun plain => ⟨?_, ?_⟩⟩
    · intro turn isTurn
      rcases recorded.taken turn isTurn with ⟨inner, names, met⟩
      exact ⟨inner, names, met,
        fun others otherMet => otherMet.place_eq met plain rfl⟩
    · intro isOk names visit met inner
      rcases complete isOk with ⟨drained, completed⟩
      exact completed.existsUnique_turn drained plain met inner
  · intro tree plain first second firstPath secondPath same
    exact Assembler.dottedPath_injective (plain.of_hasRootPath firstPath)
      (plain.of_hasRootPath secondPath) same
  · intro schema maxDepth maxPaths resourceType requested tree resolved
    have guaranteed := IncludeTree.resolved_of_resolve resolved
    exact guaranteed.ordered.plain guaranteed.plain

/-- Friends are made up at every turn; the one that the first turn meets is
expanded once. -/
theorem expands_once_for_each_place_strangers :
    ∃ turns final friend,
      strangers.Assembles strangersSpecification ["ann"] "b" turns (.ok ())
        final ∧
        turns.map (fun turn => (turn.pending.object, turn.pending.path)) =
          [("ann", ""), ("baa", "friend")] ∧
        strangersSpecification.inclusion.Plain ∧
        MetIn strangers strangersSpecification ["ann"] turns ["friend"] friend ∧
        friend.tree.isEmpty = false ∧
        ∃! index : Fin turns.length,
          strangers.identifierOf (turns.get index).pending.visit =
              strangers.identifierOf friend ∧
            MetIn strangers strangersSpecification ["ann"] turns ["friend"]
              (turns.get index).pending.visit := by
  rcases expands_once_for_each_place strangers strangersSpecification ["ann"]
    "b" with
    ⟨_, _, run, _, _⟩
  have below : ∀ subtree : IncludeTree, subtree.Plain →
      (IncludeTree.node [("friend", subtree)]).Plain := by
    intro subtree plain
    refine .node ?_ ?_
    · simp [IncludeTree.PlainName]
    · simp [plain]
  have plain : strangersSpecification.inclusion.Plain :=
    below _ (below _ (.node (by simp) (by simp)))
  have assembles : ∃ turns final,
      strangers.Assembles strangersSpecification ["ann"] "b" turns (.ok ())
        final ∧
        turns.map (fun turn => (turn.pending.object, turn.pending.path)) =
          [("ann", ""), ("baa", "friend")] ∧
        ∃ friend, MetIn strangers strangersSpecification ["ann"] turns
          ["friend"] friend ∧
          friend.tree.isEmpty = false := by
    refine ⟨_, _,
      .worked rfl (by exact .next rfl rfl (by exact .next rfl rfl (.done rfl))),
      ?_, ?_⟩
    · rfl
    · refine ⟨⟨"people", "baa", IncludeTree.empty.insert ["friend"], "friend"⟩,
        ?_, rfl⟩
      rw [← List.nil_append ["friend"]]
      refine .follow List.mem_cons_self ?_ ?_
      · exact .primary List.mem_cons_self
      · exact ⟨_, _, [], ⟨[], rfl, rfl⟩, List.mem_cons_self⟩
  rcases assembles with ⟨turns, final, assembles, listed, friend, met, inner⟩
  have once := ((run turns (.ok ()) final assembles).2 plain).2 rfl ["friend"]
    friend met inner
  exact ⟨turns, final, friend, assembles, listed, plain, met, inner, once⟩

end LiveAssembler

end JsonApi
