import JsonApi.Proofs.Document.Change
import JsonApi.Proofs.Document.Ending

/-!
# Steps of work on a document

For every function that works on a document there is one lemma about how it
ends: by which changes the document came about, and what the step was for.
The work stops at a refusal, or at a slot that had no resource object from the
beginning (`LiveAssembler.Stopped`).

An expansion follows the relationships of the include tree one after the other
(`LiveAssembler.expand_ends`).  What it meets depends on the world when it comes
to a relationship, which `LiveAssembler.ComesTo` gives a name.
-/

namespace JsonApi

open Assembly

variable {World Object : Type}

/-- Where an expansion may write: into the resource object in the slot of the
expanded object, for the relationships that the include tree asks for. -/
def Turn.Writes
    (turn : Turn World Object)
    (slot : Slot)
    (name : String) : Prop :=
  slot = turn.pending.slot ∧ name ∈ turn.pending.tree.children.map Prod.fst

namespace LiveAssembler

variable {assembler : LiveAssembler World Object}
  {admitted : Visit Object → Prop} {writable : Slot → String → Prop}
  {assembly before after : Assembly Object}

/-! ## Stops -/

/-- A stop is a refusal, or a slot that is to be written has no resource
object. -/
def Excused
    (writable : Slot → String → Prop)
    (before : Assembly Object) : Stop → Prop
  | .refused _ => True
  | .vacant slot => (∃ name, writable slot name) ∧ before.nodeAt? slot = none

/-- A stop, after changes of the document. -/
def Stopped
    (assembler : LiveAssembler World Object)
    (admitted : Visit Object → Prop)
    (writable : Slot → String → Prop)
    (before : Assembly Object)
    (stop : Stop)
    (left : Workspace World Object) : Prop :=
  Changes assembler admitted writable before left.assembly ∧
    Excused writable before stop

/-- A refusal that has left the document alone. -/
def Declined
    (before : Assembly Object)
    (stop : Stop)
    (left : Workspace World Object) : Prop :=
  left.assembly = before ∧ ∃ error, stop = .refused error

theorem Declined.stopped
    {stop : Stop}
    {left : Workspace World Object}
    (declined : Declined before stop left) :
    Stopped assembler admitted writable before stop left := by
  rcases declined with ⟨same, error, rfl⟩
  exact ⟨same ▸ .refl, True.intro⟩

theorem Stopped.of_changes
    {stop : Stop}
    {left : Workspace World Object}
    (stopped : Stopped assembler admitted writable after stop left)
    (changes : Changes assembler admitted writable before after) :
    Stopped assembler admitted writable before stop left := by
  refine ⟨changes.trans stopped.1, ?_⟩
  cases stop with
  | refused error => exact True.intro
  | vacant slot =>
      refine ⟨stopped.2.1, ?_⟩
      -- A resource object would have kept its slot.
      cases found : before.nodeAt? slot with
      | none => rfl
      | some node =>
          rcases changes.nodeAt? found with ⟨later, laterFound, _⟩
          rw [stopped.2.2] at laterFound
          cases laterFound

theorem Stopped.widen
    {allowed : Visit Object → Prop}
    {permitted : Slot → String → Prop}
    {stop : Stop}
    {left : Workspace World Object}
    (stopped : Stopped assembler admitted writable before stop left)
    (allow : ∀ visit, admitted visit → allowed visit)
    (permit : ∀ slot name, writable slot name → permitted slot name) :
    Stopped assembler allowed permitted before stop left := by
  refine ⟨stopped.1.widen allow permit, ?_⟩
  cases stop with
  | refused error => exact True.intro
  | vacant slot =>
      rcases stopped.2 with ⟨⟨name, isWritable⟩, vacant⟩
      exact ⟨⟨name, permit slot name isWritable⟩, vacant⟩

/-! ## Asking and projecting -/

variable {workspace : Workspace World Object} {fields : FieldSelection}
  {resourceType : String} {object : Object} {name : String}

theorem run_amend (change : Assembly Object → Assembly Object) :
    (Work.amend change).run workspace =
      .ok () ⟨change workspace.assembly, workspace.world⟩ :=
  rfl

theorem run_ask :
    (assembler.ask resourceType object name).run workspace =
      .ok (assembler.accessor resourceType object name workspace.world).1
        ⟨workspace.assembly,
          (assembler.accessor resourceType object name workspace.world).2⟩ :=
            rfl

theorem nodeAt_ends (slot : Slot) :
    Ends (fun node left => left = workspace ∧ workspace.assembly.nodeAt? slot =
        some node) (fun stop left => left = workspace ∧ stop = .vacant slot ∧
        workspace.assembly.nodeAt? slot = none)
      ((Work.nodeAt slot).run workspace) := by
  rw [Work.nodeAt, EStateM.run_bind, EStateM.run_get]
  dsimp only
  cases found : workspace.assembly.nodeAt? slot with
  | some node => exact ⟨rfl, rfl⟩
  | none => exact ⟨rfl, rfl, rfl⟩

/-- The accessor changes the world only. -/
theorem related_ends
    {id : Work World Object String}
    {tolerated : Stop → Workspace World Object → Prop}
    (refusals : ∀ error left, left.assembly = workspace.assembly →
      tolerated (.refused error) left)
    (named : ∀ world, Ends (fun _ left => left.assembly = workspace.assembly)
        tolerated (id.run ⟨workspace.assembly, world⟩)) :
    Ends
      (fun objects left => left.assembly = workspace.assembly ∧
        ∃ found, (assembler.seeing workspace.world).accessor resourceType object
          name = .ok found ∧
          objects = found.objects)
      tolerated
      ((assembler.related resourceType object name id).run workspace) := by
  rw [related, EStateM.run_bind, run_ask]
  dsimp only [seeing]
  cases (assembler.accessor resourceType object name workspace.world).1 with
  | ok found => exact ⟨rfl, found, rfl, rfl⟩
  | error cause =>
      apply Ends.bind (named _)
      intro text left _ same
      exact refusals _ left same

theorem linkageOf_ends
    {id : String}
    {declared : String × Relationship} :
    Ends (fun _ left => left.assembly = workspace.assembly)
      (Declined workspace.assembly)
      ((assembler.linkageOf resourceType id object declared).run
        workspace) := by
  have refusals : ∀ (error : AssemblyError) (left : Workspace World Object),
      left.assembly = workspace.assembly →
        Declined workspace.assembly (.refused error) left :=
    fun error left same => ⟨same, error, rfl⟩
  have named : ∀ world, Ends (fun _ left => left.assembly = workspace.assembly)
      (Declined workspace.assembly)
      ((pure id : Work World Object String).run ⟨workspace.assembly, world⟩) :=
    fun world => rfl
  rw [linkageOf]
  apply Ends.bind (related_ends refusals named)
  rintro objects left _ ⟨same, _⟩
  exact same

/-- Projecting leaves the document alone, also when it is refused. -/
theorem project_ends :
    Ends
      (fun node left => left.assembly = workspace.assembly ∧
        node.identifier = assembler.identify resourceType object)
      (Declined workspace.assembly)
      ((assembler.project fields resourceType object).run workspace) := by
  rw [project]
  split
  · exact ⟨rfl, _, rfl⟩
  · dsimp only
    split
    · have linked : ∀ (declared : List (String × Relationship)),
          Ends (fun _ left => left.assembly = workspace.assembly)
            (Declined workspace.assembly) ((declared.mapM
                (assembler.linkageOf resourceType (assembler.reader.identifierOf
                    resourceType object) object)).run workspace) := by
        intro declared
        refine Ends.mapM (fun item left same => ?_) rfl
        rw [← same]
        exact linkageOf_ends
      apply Ends.bind (linked _)
      intro linkages left _ same
      exact ⟨same, rfl⟩
    · exact ⟨rfl, rfl⟩

/-- After an object was queued there is an entry for it, unless nothing is to be
expanded. -/
theorem mem_expanded_enqueue
    {identifier : ResourceIdentifier}
    {pending : Pending Object}
    (inner : pending.tree.isEmpty = false) :
    (identifier, pending.path) ∈
      (assembly.enqueue identifier pending).expanded := by
  rcases enqueue_cases assembly identifier pending with
    ⟨known, same⟩ | ⟨_, joined⟩
  · rw [same]
    exact known.resolve_left (by simp [inner])
  · rw [joined]
    exact List.mem_cons_self

/-! ## Primary objects -/

/-- Whatever has a slot was queued for the root of the include tree, if there is
something to expand. -/
def Rooted (tree : IncludeTree) (assembly : Assembly Object) : Prop :=
  ∀ identifier, (assembly.slotOf? identifier).isSome = true →
    tree.isEmpty = false →
    (identifier, "") ∈ assembly.expanded

/-- A seat that is given to the last primary resource object, with its place in
the queue. -/
theorem changes_seat
    {node : ResourceNode}
    {pending : Pending Object}
    (isAdmitted : admitted pending.visit)
    (identified : node.identifier = assembler.identifierOf pending.visit)
    (held : assembly.nodeAt? pending.slot = some node)
    (absent : assembly.slotOf? node.identifier = none) :
    Changes assembler admitted writable assembly
      (enqueue { assembly with
          slots := (node.identifier, pending.slot) :: assembly.slots }
        node.identifier pending) := by
  have seats :
      Change assembler admitted writable assembly
        { assembly with
            slots := (node.identifier, pending.slot) :: assembly.slots } :=
    .seat held absent
  refine .tail (.single seats) ?_
  rw [identified]
  exact .enqueue isAdmitted List.lookup_cons_self

/-- Adding a primary object shows it, and gives it a slot and queues it if it
has none. -/
theorem addPrimary_ends
    (assembler : LiveAssembler World Object)
    (specification : QuerySpecification)
    (resourceType : String)
    (object : Object)
    (workspace : Workspace World Object) :
    Ends
      (fun _ left =>
        Changes assembler (⟨resourceType, object, specification.inclusion, ""⟩ =
            ·) (fun _ _ => False) workspace.assembly left.assembly ∧
          (left.assembly.slotOf?
              (assembler.identify resourceType object)).isSome = true ∧
          (Rooted specification.inclusion workspace.assembly →
            Rooted specification.inclusion left.assembly))
      (Stopped assembler (⟨resourceType, object, specification.inclusion, ""⟩ =
          ·) (fun _ _ => False) workspace.assembly)
      ((assembler.addPrimary specification resourceType object).run
          workspace) := by
  rw [addPrimary]
  apply Ends.bind (project_ends.imp (fun _ _ made => made) fun _ _ declined =>
      declined.stopped)
  rintro node ⟨_, world⟩ _ ⟨rfl, identified⟩
  rw [EStateM.run_bind, run_amend]
  dsimp only
  rw [EStateM.run_bind, EStateM.run_get, ← identified]
  have shows :
      Change assembler (⟨resourceType, object, specification.inclusion, ""⟩ = ·)
        (fun _ _ => False) workspace.assembly
        { workspace.assembly with
            primary := workspace.assembly.primary ++ [node] } :=
    .present workspace.assembly node
  simp only [List.length_append, List.length_singleton, Nat.add_sub_cancel]
  generalize isShown :
    ({ workspace.assembly with
        primary := workspace.assembly.primary ++ [node] } :
      Assembly Object) = shown at shows ⊢
  cases found : shown.slotOf? node.identifier with
  | some slot =>
      refine ⟨.single shows, by rw [found]; rfl, ?_⟩
      rw [← isShown]
      exact id
  | none =>
      have held : shown.nodeAt? (.primary workspace.assembly.primary.length) =
          some node := by
        simp [← isShown, nodeAt?]
      refine ⟨.head shows (changes_seat rfl identified held found), ?_, ?_⟩
      · rw [Assembly.slotOf?, enqueue_slots, List.lookup_cons_self]
        rfl
      · intro rooted identifier hasSlot inner
        rw [Assembly.slotOf?, enqueue_slots, lookup_cons_isSome] at hasSlot
        rcases hasSlot with rfl | old
        · exact mem_expanded_enqueue inner
        · apply expanded_subset_enqueue
          rw [← isShown] at old ⊢
          exact rooted identifier old inner

/-- Adding the primary objects gives slots to all of them. -/
theorem addPrimaries_ends
    (assembler : LiveAssembler World Object)
    (specification : QuerySpecification)
    (objects : List Object)
    (workspace : Workspace World Object) :
    Ends
      (fun _ left =>
        Changes assembler
          (∃ object ∈ objects, specification.primaryVisit object = ·)
          (fun _ _ => False) workspace.assembly left.assembly ∧
          (Rooted specification.inclusion workspace.assembly →
            Rooted specification.inclusion left.assembly) ∧
          ∀ object ∈ objects, (left.assembly.slotOf?
            (assembler.identifierOf
                (specification.primaryVisit object))).isSome = true)
      (Stopped assembler (∃ object ∈ objects, specification.primaryVisit
          object = ·) (fun _ _ => False) workspace.assembly)
      ((assembler.addPrimaries specification objects).run workspace) := by
  rw [addPrimaries]
  apply Ends.forM fun handled left =>
    Changes assembler (∃ object ∈ objects, specification.primaryVisit object =
        ·) (fun _ _ => False) workspace.assembly left.assembly ∧
      (Rooted specification.inclusion workspace.assembly →
        Rooted specification.inclusion left.assembly) ∧
      ∀ object ∈ handled, (left.assembly.slotOf?
        (assembler.identifierOf (specification.primaryVisit object))).isSome =
          true
  · rintro earlier object later left split _ ⟨changes, rooted, slotted⟩
    have member : object ∈ objects := by simp [split]
    have allow : ∀ visit, specification.primaryVisit object = visit →
        ∃ object ∈ objects, specification.primaryVisit object = visit :=
      fun visit isVisit => ⟨object, member, isVisit⟩
    apply (addPrimary_ends assembler specification specification.resourceType
        object left).imp
    · rintro _ last ⟨more, hasSlot, stays⟩
      refine ⟨changes.trans (more.widen allow fun _ _ => id),
        fun begun => stays (rooted begun),
        List.forall_mem_append.mpr ⟨?_, List.forall_mem_singleton.mpr hasSlot⟩⟩
      intro other isEarlier
      rcases Option.isSome_iff_exists.mp (slotted other isEarlier) with
        ⟨slot, found⟩
      rw [more.slotOf? found]
      rfl
    · exact fun _ _ stopped =>
        (stopped.widen allow fun _ _ => id).of_changes changes
  · exact ⟨.refl, id, List.forall_mem_nil _⟩

/-! ## Related objects -/

theorem place_ends :
    Ends
      (fun slot left =>
          Changes assembler admitted writable workspace.assembly left.assembly ∧
        left.assembly.slotOf? (assembler.identify resourceType object) =
          some slot)
      (Declined workspace.assembly)
      ((assembler.place fields resourceType object).run workspace) := by
  rw [place, EStateM.run_bind, EStateM.run_get]
  dsimp only
  cases found :
    workspace.assembly.slotOf? (assembler.identify resourceType object) with
  | some slot => exact ⟨.refl, found⟩
  | none =>
      apply Ends.bind project_ends
      rintro node ⟨_, world⟩ _ ⟨rfl, identified⟩
      rw [← identified] at found ⊢
      exact ⟨.single (.discover found), List.lookup_cons_self⟩

/-- Adding a related object leaves an entry for it, if there is something behind
it. -/
theorem addRelated_ends
    {tree : IncludeTree}
    {path : String}
    (isAdmitted : admitted ⟨resourceType, object, tree, path⟩) :
    Ends
      (fun _ left =>
          Changes assembler admitted writable workspace.assembly left.assembly ∧
        (tree.isEmpty = false →
          (assembler.identify resourceType object, path) ∈
            left.assembly.expanded))
      (Stopped assembler admitted writable workspace.assembly)
      ((assembler.addRelated fields resourceType tree path object).run
          workspace) := by
  rw [addRelated]
  apply Ends.bind
    (place_ends.imp (fun _ _ placed => placed) fun _ _ declined =>
        declined.stopped)
  rintro slot left _ ⟨changes, placed⟩
  rw [run_amend]
  let pending : Pending Object := ⟨resourceType, object, slot, tree, path⟩
  have queues :
      Change assembler admitted writable left.assembly
        (left.assembly.enqueue (assembler.identifierOf pending.visit)
            pending) :=
    .enqueue isAdmitted placed
  exact ⟨changes.tail queues, fun inner => mem_expanded_enqueue inner⟩

/-! ## Following a relationship -/

/-- The visits that following a relationship of an object leads to, as the world
is. -/
def branchVisits
    (assembler : LiveAssembler World Object)
    (world : World)
    (visit : Visit Object)
    (branch : String × IncludeTree) : List (Visit Object) :=
  (assembler.seeing world).branchVisits visit branch

/-- The resource object in a slot shows the linkage of a relationship. -/
def Shows
    (assembly : Assembly Object)
    (slot : Slot)
    (name : String)
    (linkage : Linkage) : Prop :=
  ∃ node, assembly.nodeAt? slot = some node ∧ node.linkage? name = some linkage

theorem Shows.changes
    {slot : Slot}
    {linkage : Linkage}
    (shows : Shows before slot name linkage)
    (changes : Changes assembler admitted writable before after)
    (kept : ¬writable slot name) :
    Shows after slot name linkage := by
  rcases shows with ⟨node, held, shown⟩
  rcases changes.nodeAt? held with ⟨later, laterHeld, carries, _⟩
  exact ⟨later, laterHeld, (carries.linkage name kept).trans shown⟩

theorem shows_writeLinkage
    {slot : Slot}
    {node : ResourceNode}
    (held : assembly.nodeAt? slot = some node)
    (linkage : Linkage) :
    Shows (assembly.writeLinkage slot name linkage) slot name linkage := by
  refine ⟨node.withLinkage name linkage, ?_,
    ResourceNode.linkage?_withLinkage_self ..⟩
  rw [nodeAt?_writeLinkage, if_pos rfl, held]
  rfl

theorem writeLinkage_ends
    {slot : Slot}
    (isWritable : writable slot name)
    (linkage : Linkage) :
    Ends
      (fun _ left =>
          Changes assembler admitted writable workspace.assembly left.assembly ∧
        Shows left.assembly slot name linkage)
      (Stopped assembler admitted writable workspace.assembly)
      ((Work.writeLinkage slot name linkage).run workspace) := by
  rw [Work.writeLinkage]
  apply Ends.bind ((nodeAt_ends slot).imp (fun _ _ found => found) ?_)
  · rintro node _ _ ⟨rfl, held⟩
    exact ⟨.single (.write isWritable linkage), shows_writeLinkage held linkage⟩
  · rintro _ _ ⟨rfl, rfl, vacant⟩
    exact ⟨.refl, ⟨name, isWritable⟩, vacant⟩

/-- Adding the objects that a relationship leads to leaves an entry for each of
them, if there is something behind the relationship. -/
theorem addAllRelated_ends
    {objects : List Object}
    {tree : IncludeTree}
    {path : String}
    (isAdmitted : ∀ object ∈ objects,
      admitted ⟨resourceType, object, tree, path⟩) :
    Ends
      (fun _ left =>
          Changes assembler admitted writable workspace.assembly left.assembly ∧
        (tree.isEmpty = false → ∀ object ∈ objects,
          (assembler.identify resourceType object, path) ∈
            left.assembly.expanded))
      (Stopped assembler admitted writable workspace.assembly)
      ((forM objects (assembler.addRelated fields resourceType tree path)).run
          workspace) := by
  apply Ends.forM fun handled left =>
    Changes assembler admitted writable workspace.assembly left.assembly ∧
      (tree.isEmpty = false → ∀ object ∈ handled,
        (assembler.identify resourceType object, path) ∈ left.assembly.expanded)
  · rintro earlier object later left split _ ⟨changes, entered⟩
    have member : object ∈ objects := by simp [split]
    apply (addRelated_ends (isAdmitted object member)).imp
    · rintro _ last ⟨more, entry⟩
      refine ⟨changes.trans more,
        fun inner => List.forall_mem_append.mpr ⟨?_, ?_⟩⟩
      · exact fun other isEarlier =>
          more.expanded_subset (entered inner other isEarlier)
      · exact List.forall_mem_singleton.mpr (entry inner)
    · exact fun _ _ stopped => stopped.of_changes changes
  · exact ⟨.refl, fun _ => List.forall_mem_nil _⟩

theorem idAt_ends
    {slot : Slot}
    (isWritable : writable slot name) :
    Ends (fun _ left => left.assembly = workspace.assembly)
      (Stopped assembler admitted writable workspace.assembly)
      ((ResourceNode.id <$> Work.nodeAt slot).run workspace) := by
  rw [map_eq_pure_bind]
  apply Ends.bind ((nodeAt_ends slot).imp (fun _ _ found => found) ?_)
  · rintro node _ _ ⟨rfl, _⟩
    exact rfl
  · rintro _ _ ⟨rfl, rfl, vacant⟩
    exact ⟨.refl, ⟨name, isWritable⟩, vacant⟩

theorem branchVisits_eq
    {world : World}
    {visit : Visit Object}
    {subtree : IncludeTree}
    {declared : Relationship}
    {found : Related Object}
    (isDeclared :
      assembler.schema.relationship? visit.resourceType name = some declared)
    (isFound :
      (assembler.seeing world).accessor visit.resourceType visit.object name =
        .ok found) :
    assembler.branchVisits world visit (name, subtree) =
      found.objects.map fun next =>
        ⟨declared.target, next, subtree, pathBelow visit.path name⟩ := by
  have seen :
      (assembler.seeing world).schema.relationship? visit.resourceType name =
        some declared :=
    isDeclared
  simp only [branchVisits, Assembler.branchVisits, seen, isFound]

/-- Following a relationship leaves an entry for every visit it leads to that
has something behind it, and its linkage where that is shown. -/
theorem followRelationship_ends
    {pending : Pending Object}
    {branch : String × IncludeTree}
    (isWritable : writable pending.slot branch.1)
    (isAdmitted :
      ∀ next ∈ assembler.branchVisits workspace.world pending.visit branch,
      admitted next) :
    Ends
      (fun _ left =>
          Changes assembler admitted writable workspace.assembly left.assembly ∧
        (∀ next ∈ assembler.branchVisits workspace.world pending.visit branch,
          next.tree.isEmpty = false →
            (assembler.identifierOf next, next.path) ∈ left.assembly.expanded) ∧
        ∃ linkage,
          (assembler.seeing workspace.world).linkage? pending.resourceType
            pending.object branch.1 =
            some linkage ∧
          (assembler.showsLinkage fields pending.resourceType branch.1 = true →
            Shows left.assembly pending.slot branch.1 linkage))
      (Stopped assembler admitted writable workspace.assembly)
      ((assembler.followRelationship fields pending branch).run workspace) := by
  obtain ⟨name, subtree⟩ := branch
  rw [followRelationship]
  dsimp only
  cases isDeclared :
    assembler.schema.relationship? pending.resourceType name with
  | none => exact ⟨.refl, True.intro⟩
  | some declared =>
      have refusals : ∀ (error : AssemblyError) (left : Workspace World Object),
          left.assembly = workspace.assembly →
            Stopped assembler admitted writable workspace.assembly
              (.refused error) left :=
        fun error left same => Declined.stopped ⟨same, error, rfl⟩
      apply Ends.bind (related_ends refusals fun world => idAt_ends isWritable)
      rintro objects ⟨_, world⟩ _ ⟨rfl, found, isFound, rfl⟩
      have visits :
          assembler.branchVisits workspace.world pending.visit (name, subtree) =
            found.objects.map fun next =>
              ⟨declared.target, next, subtree, pathBelow pending.path name⟩ :=
        branchVisits_eq isDeclared isFound
      have isLinkage :
          (assembler.seeing workspace.world).linkage? pending.resourceType
            pending.object name =
            some (.ofIdentifiers declared.toMany
              (found.objects.map (assembler.identify declared.target))) :=
        Assembler.linkage?_eq_some.mpr
          ⟨declared, found, isDeclared, isFound, rfl⟩
      rw [visits, List.forall_mem_map] at isAdmitted
      apply Ends.bind (addAllRelated_ends isAdmitted)
      rintro _ reached _ ⟨changes, entered⟩
      have entries : ∀ next ∈
          assembler.branchVisits workspace.world pending.visit (name, subtree),
          next.tree.isEmpty = false →
            (assembler.identifierOf next, next.path) ∈
              reached.assembly.expanded := by
        rw [visits]
        exact List.forall_mem_map.mpr fun object member inner =>
          entered inner object member
      split
      · apply (writeLinkage_ends isWritable _).imp
        · rintro _ left ⟨writes, shows⟩
          exact ⟨changes.trans writes,
            fun next member inner =>
              writes.expanded_subset (entries next member inner),
            _, isLinkage, fun _ => shows⟩
        · exact fun _ _ stopped => stopped.of_changes changes
      · rename_i hidden
        exact ⟨changes, entries, _, isLinkage, fun shown => absurd shown hidden⟩

/-! ## Expanding -/

/-- The expansion of an object comes to one of some branches, with `later` ones
still to follow: it has followed those before, and reached a workspace by
that. -/
def ComesTo
    (assembler : LiveAssembler World Object)
    (fields : FieldSelection)
    (turn : Turn World Object)
    (branches : List (String × IncludeTree))
    (branch : String × IncludeTree)
    (reached : Workspace World Object)
    (later : List (String × IncludeTree)) : Prop :=
  ∃ earlier, branches = earlier ++ branch :: later ∧
    (forM earlier (assembler.followRelationship fields turn.pending)).run
      turn.workspace =
      .ok () reached

variable {turn : Turn World Object}
  {branches later : List (String × IncludeTree)}
  {branch other : String × IncludeTree} {reached left : Workspace World Object}

theorem not_comesTo_nil :
  ¬assembler.ComesTo fields turn [] branch reached later := by
  rintro ⟨earlier, split, _⟩
  exact absurd split (by simp)

theorem comesTo_concat
    (succeeded :
      (forM branches (assembler.followRelationship fields turn.pending)).run
        turn.workspace =
        .ok () left)
    (comes :
      assembler.ComesTo fields turn (branches ++ [branch]) other reached
        later) :
    (∃ rest, later = rest ++ [branch] ∧
        assembler.ComesTo fields turn branches other reached rest) ∨
      (other = branch ∧ reached = left) := by
  rcases comes with ⟨earlier, split, followed⟩
  rcases later.eq_nil_or_concat with rfl | ⟨rest, last, rfl⟩
  · rcases List.append_inj' split rfl with ⟨rfl, same⟩
    cases same
    rw [succeeded] at followed
    cases followed
    exact Or.inr ⟨rfl, rfl⟩
  · rw [List.concat_eq_append, ← List.cons_append, ← List.append_assoc] at split
    rcases List.append_inj' split rfl with ⟨rfl, same⟩
    cases same
    exact Or.inl ⟨rest, List.concat_eq_append, earlier, rfl, followed⟩

/-- What the expansion of an object meets behind a relationship: where the
accessor leads to when the expansion comes to it. -/
def Meets
    (assembler : LiveAssembler World Object)
    (fields : FieldSelection)
    (turn : Turn World Object)
    (name : String)
    (next : Visit Object) : Prop :=
  ∃ subtree reached later,
    assembler.ComesTo fields turn turn.pending.tree.children (name, subtree)
      reached later ∧
      next ∈ assembler.branchVisits reached.world turn.pending.visit
        (name, subtree)

/-- What the expansion of an object meets. -/
def Finds
    (assembler : LiveAssembler World Object)
    (fields : FieldSelection)
    (turn : Turn World Object)
    (next : Visit Object) : Prop :=
  ∃ name, assembler.Meets fields turn name next

/-- What an expansion has done when it has followed some branches. -/
structure Followed
    (assembler : LiveAssembler World Object)
    (fields : FieldSelection)
    (turn : Turn World Object)
    (branches : List (String × IncludeTree))
    (left : Workspace World Object) : Prop where
  changes : Changes assembler (assembler.Finds fields turn) turn.Writes
    turn.workspace.assembly
    left.assembly
  /-- There are entries for all that was met and has something behind it. -/
  entered : ∀ {branch : String × IncludeTree} {reached : Workspace World Object}
    {later : List (String × IncludeTree)},
    assembler.ComesTo fields turn branches branch reached later →
      ∀ next ∈ assembler.branchVisits reached.world turn.pending.visit branch,
        next.tree.isEmpty = false →
          (assembler.identifierOf next, next.path) ∈ left.assembly.expanded
  /-- The linkage is that of what was met, when the relationship was followed
  last. -/
  linked : ∀ {branch : String × IncludeTree} {reached : Workspace World Object}
    {later : List (String × IncludeTree)},
    assembler.ComesTo fields turn branches branch reached later →
      branch.1 ∉ later.map Prod.fst →
        ∃ linkage,
          (assembler.seeing reached.world).linkage? turn.pending.resourceType
            turn.pending.object branch.1 = some linkage ∧
            (assembler.showsLinkage fields turn.pending.resourceType branch.1 =
                true →
              Shows left.assembly turn.pending.slot branch.1 linkage)

theorem followed_nil : Followed assembler fields turn [] turn.workspace where
  changes := .refl
  entered comes := absurd comes not_comesTo_nil
  linked comes := absurd comes not_comesTo_nil

/-- An expansion follows one more branch. -/
theorem Followed.concat
    (followed : Followed assembler fields turn branches left)
    (succeeded :
      (forM branches (assembler.followRelationship fields turn.pending)).run
        turn.workspace =
        .ok () left)
    (children : turn.pending.tree.children = branches ++ branch :: later) :
    Ends (fun _ => Followed assembler fields turn (branches ++ [branch]))
      (Stopped assembler (assembler.Finds fields turn) turn.Writes
          turn.workspace.assembly)
      ((assembler.followRelationship fields turn.pending branch).run left) := by
  have isFound :
      ∀ next ∈ assembler.branchVisits left.world turn.pending.visit branch,
      assembler.Finds fields turn next :=
    fun next member =>
      ⟨branch.1, branch.2, left, later, ⟨branches, children, succeeded⟩, member⟩
  have isChild : branch.1 ∈ turn.pending.tree.children.map Prod.fst := by
    simp [children]
  have follows :
      Ends _ (Stopped assembler (assembler.Finds fields turn)
          (fun slot name => slot = turn.pending.slot ∧ name = branch.1)
            left.assembly)
        ((assembler.followRelationship fields turn.pending branch).run left) :=
    followRelationship_ends ⟨rfl, rfl⟩ isFound
  have permit : ∀ (slot : Slot) (name : String),
      slot = turn.pending.slot ∧ name = branch.1 → turn.Writes slot name := by
    rintro slot name ⟨here, rfl⟩
    exact ⟨here, isChild⟩
  apply follows.imp
  · rintro _ last ⟨changes, entries, linkage, isLinkage, shows⟩
    refine ⟨followed.changes.trans (changes.widen (fun _ => id) permit), ?_, ?_⟩
    · intro other reached behind comes next member inner
      rcases comesTo_concat succeeded comes with ⟨rest, _, before⟩ | ⟨rfl, rfl⟩
      · exact changes.expanded_subset
          (followed.entered before next member inner)
      · exact entries next member inner
    · intro other reached behind comes isLast
      rcases comesTo_concat succeeded comes with
        ⟨rest, rfl, before⟩ | ⟨rfl, rfl⟩
      · rw [List.map_append, List.mem_append, not_or, List.map_singleton,
          List.mem_singleton] at isLast
        rcases followed.linked before isLast.1 with ⟨earlier, isEarlier, shown⟩
        exact ⟨earlier, isEarlier,
          fun wanted => (shown wanted).changes changes fun written =>
            isLast.2 written.2⟩
      · exact ⟨linkage, isLinkage, shows⟩
  · exact fun _ _ stopped =>
      (stopped.widen (fun _ => id) permit).of_changes followed.changes

/-- An expansion follows all branches, or stops after changes of the same
kind. -/
theorem expand_ends
    (assembler : LiveAssembler World Object)
    (fields : FieldSelection)
    (turn : Turn World Object) :
    Ends (fun _ => Followed assembler fields turn turn.pending.tree.children)
      (Stopped assembler (assembler.Finds fields turn) turn.Writes
          turn.workspace.assembly)
      ((assembler.expand fields turn.pending).run turn.workspace) := by
  rw [expand]
  apply Ends.forM (Followed assembler fields turn)
  · intro earlier branch later left split succeeded followed
    exact followed.concat succeeded split
  · exact followed_nil

end LiveAssembler

end JsonApi
