import JsonApi.Proofs.Document.WorkPlaces

/-!
# Queue order and levels

An accessor that always answers the same leads the work queue to the document
that is assembled level by level (`exists_assembles_live`).  Expanding an object
does not look at the queue, so that a level that is worked on from the front of
the queue leaves behind what the next level begins with (`drains_level`).
-/

namespace JsonApi

open Assembly

variable {Object α β : Type}

/-- A step on a document, and the same step on a workspace: both succeed with
the same document, or both are refused for the same reason. -/
def Mirrors (step : Except AssemblyError (Assembly Object)) :
    EStateM.Result Stop (Workspace Unit Object) Unit → Prop
  | .ok _ left => step = .ok left.assembly
  | .error stop _ => ∃ error, stop = .refused error ∧ step = .error error

namespace Mirrors

variable {step : Except AssemblyError (Assembly Object)}
  {continuation : Assembly Object → Except AssemblyError (Assembly Object)}
  {work next : Work Unit Object Unit} {workspace : Workspace Unit Object}

theorem run_eq_ok
    {assembly : Assembly Object}
    (mirrors : Mirrors (.ok assembly) (work.run workspace)) :
    work.run workspace = .ok () ⟨assembly, ()⟩ := by
  cases ending : work.run workspace with
  | ok result left =>
      rw [ending] at mirrors
      cases mirrors
      rfl
  | error stop left =>
      rw [ending] at mirrors
      rcases mirrors with ⟨error, _, absurdity⟩
      cases absurdity

theorem run_eq_error
    {error : AssemblyError}
    (mirrors : Mirrors (.error error) (work.run workspace)) :
    ∃ left, work.run workspace = .error (.refused error) left := by
  cases ending : work.run workspace with
  | ok result left =>
      rw [ending] at mirrors
      cases mirrors
  | error stop left =>
      rw [ending] at mirrors
      rcases mirrors with ⟨other, rfl, same⟩
      cases same
      exact ⟨left, rfl⟩

theorem bind
    (first : Mirrors step (work.run workspace))
    (second : ∀ left, work.run workspace = .ok () left →
      Mirrors (continuation left.assembly) (next.run left)) :
    Mirrors (step >>= continuation) ((do work; next).run workspace) := by
  rw [EStateM.run_bind]
  cases ending : work.run workspace with
  | ok result left =>
      rw [ending] at first
      have succeeded : step = .ok left.assembly := first
      rw [succeeded]
      exact second left ending
  | error stop left =>
      rw [ending] at first
      rcases first with ⟨error, isRefused, failed⟩
      rw [failed]
      exact ⟨error, isRefused, rfl⟩

theorem forM
    {items : List β}
    {steps : Assembly Object → β → Except AssemblyError (Assembly Object)}
    {works : β → Work Unit Object Unit}
    (invariant : Workspace Unit Object → Prop)
    (each : ∀ item ∈ items, ∀ left, invariant left →
      Mirrors (steps left.assembly item) ((works item).run left))
    (keeps : ∀ item ∈ items, ∀ left next, invariant left →
      (works item).run left = .ok () next → invariant next)
    (begun : invariant workspace) :
    Mirrors (items.foldlM steps workspace.assembly)
      ((ForM.forM items works).run workspace) := by
  induction items generalizing workspace with
  | nil => exact rfl
  | cons item items induction =>
      rw [List.foldlM_cons, List.forM_cons]
      apply bind (each item List.mem_cons_self workspace begun)
      intro left succeeded
      apply induction (fun other member =>
          each other (List.mem_cons_of_mem item member))
        (fun other member => keeps other (List.mem_cons_of_mem item member))
      exact keeps item List.mem_cons_self workspace left begun succeeded

end Mirrors

/-! ## Projecting -/

/-- The result of a computation that leaves a workspace alone. -/
def Workspace.settle
    {World : Type}
    (workspace : Workspace World Object) :
    Except AssemblyError α → EStateM.Result Stop (Workspace World Object) α
  | .ok result => .ok result workspace
  | .error error => .error (.refused error) workspace

theorem Workspace.settle_bind
    {workspace : Workspace Unit Object}
    {work : Work Unit Object α}
    {computation : Except AssemblyError α}
    {next : α → Work Unit Object β}
    {continuation : α → Except AssemblyError β}
    (first : work.run workspace = workspace.settle computation)
    (second : ∀ result,
      (next result).run workspace = workspace.settle (continuation result)) :
    (work >>= next).run workspace =
      workspace.settle (computation >>= continuation) := by
  rw [EStateM.run_bind, first]
  cases computation with
  | ok result => exact second result
  | error error => rfl

theorem Workspace.settle_mapM
    {workspace : Workspace Unit Object}
    {works : β → Work Unit Object α}
    {steps : β → Except AssemblyError α}
    (each : ∀ item, (works item).run workspace = workspace.settle (steps item))
    (items : List β) :
    (items.mapM works).run workspace = workspace.settle (items.mapM steps) := by
  induction items with
  | nil => rfl
  | cons item items induction =>
      rw [List.mapM_cons, List.mapM_cons]
      apply settle_bind (each item)
      intro result
      apply settle_bind induction
      intro results
      rfl

namespace Assembler

variable {assembler : Assembler Object} {fields : FieldSelection}
  {resourceType : String} {object : Object} {workspace : Workspace Unit Object}

theorem run_related
    {id : Work Unit Object String}
    {name text : String}
    (named : id.run workspace = .ok text workspace) :
    (assembler.live.related resourceType object name id).run workspace =
      workspace.settle (assembler.related resourceType text object name) := by
  have asked : (assembler.live.ask resourceType object name).run workspace =
      .ok (assembler.accessor resourceType object name) workspace := rfl
  rw [LiveAssembler.related, EStateM.run_bind, asked, related]
  cases assembler.accessor resourceType object name with
  | ok found => rfl
  | error cause =>
      simp only [EStateM.run_bind, named]
      rfl

theorem run_linkageOf
    {id : String}
    (declared : String × Relationship) :
    (assembler.live.linkageOf resourceType id object declared).run workspace =
      workspace.settle
        (assembler.linkageOf resourceType id object declared) := by
  have named : (pure id : Work Unit Object String).run workspace =
      .ok id workspace := rfl
  exact Workspace.settle_bind (run_related named) fun objects => rfl

theorem run_project :
    (assembler.live.project fields resourceType object).run workspace =
      workspace.settle (assembler.project fields resourceType object) := by
  have schema : assembler.live.schema = assembler.schema := rfl
  rw [LiveAssembler.project, project, schema]
  cases assembler.schema.attributesOf? resourceType with
  | none => rfl
  | some attributes =>
      have policy : assembler.live.policy = assembler.policy := rfl
      dsimp only
      rw [policy]
      split
      · exact Workspace.settle_bind (Workspace.settle_mapM run_linkageOf _)
          fun linkages => rfl
      · rfl

end Assembler

/-! ## Adding objects -/

namespace Assembler

variable {assembler : Assembler Object} {fields : FieldSelection}
  {specification : QuerySpecification} {resourceType : String} {object : Object}
  {workspace : Workspace Unit Object}

theorem mirrors_addPrimary :
    Mirrors (workspace.assembly.addPrimary assembler specification object)
      ((assembler.live.addPrimary specification specification.resourceType
          object).run workspace) := by
  rw [LiveAssembler.addPrimary, EStateM.run_bind, run_project]
  cases projected :
      assembler.project specification.fields specification.resourceType
        object with
  | error error => exact ⟨error, rfl, addPrimary_of_error projected⟩
  | ok node =>
      simp only [Workspace.settle, EStateM.run_bind, LiveAssembler.run_amend,
        EStateM.run_get, List.length_append, List.length_singleton,
        Nat.add_sub_cancel]
      have unchanged :
          slotOf? { workspace.assembly with
              primary := workspace.assembly.primary ++ [node] }
              node.identifier =
            workspace.assembly.slotOf? node.identifier := rfl
      rw [unchanged]
      cases found : workspace.assembly.slotOf? node.identifier with
      | some slot => exact addPrimary_of_present projected found
      | none => exact addPrimary_of_absent projected found

theorem mirrors_addRelated
    {tree : IncludeTree}
    {path : String} :
    Mirrors (workspace.assembly.addRelated assembler fields
        resourceType tree path object)
      ((assembler.live.addRelated fields resourceType tree path object).run
        workspace) := by
  have identified : assembler.live.identify resourceType object =
      assembler.identify resourceType object := rfl
  rw [LiveAssembler.addRelated, LiveAssembler.place, identified,
    EStateM.run_bind, EStateM.run_bind, EStateM.run_get]
  dsimp only
  cases found :
    workspace.assembly.slotOf? (assembler.identify resourceType object) with
  | some slot => exact addRelated_of_present tree path found
  | none =>
      dsimp only
      rw [EStateM.run_bind, run_project]
      cases projected : assembler.project fields resourceType object with
      | error error =>
          exact ⟨error, rfl, addRelated_of_error tree path found projected⟩
      | ok node => exact addRelated_of_absent tree path found projected

/-! ## Expanding -/

theorem run_nodeAt
    {slot : Slot}
    {node : ResourceNode}
    (held : workspace.assembly.nodeAt? slot = some node) :
    (Work.nodeAt slot).run workspace = .ok node workspace := by
  rw [Work.nodeAt, EStateM.run_bind, EStateM.run_get]
  dsimp only
  rw [held]
  rfl

theorem mirrors_followRelationship
    {pending : Pending Object}
    {branch : String × IncludeTree}
    {node : ResourceNode}
    (held : workspace.assembly.nodeAt? pending.slot = some node) :
    Mirrors (workspace.assembly.followRelationship assembler fields pending
        branch) ((assembler.live.followRelationship fields pending branch).run
        workspace) := by
  obtain ⟨name, subtree⟩ := branch
  have schema : assembler.live.schema = assembler.schema := rfl
  rw [LiveAssembler.followRelationship, followRelationship]
  dsimp only
  rw [schema]
  cases assembler.schema.relationship? pending.resourceType name with
  | none => exact ⟨_, rfl, rfl⟩
  | some declared =>
      dsimp only
      have named :
          (ResourceNode.id <$> Work.nodeAt pending.slot :
              Work Unit Object String).run workspace =
            .ok (workspace.assembly.idAt pending.slot) workspace := by
        rw [map_eq_pure_bind, EStateM.run_bind, run_nodeAt held, idAt, held]
        rfl
      rw [EStateM.run_bind, run_related named]
      cases assembler.related pending.resourceType
        (workspace.assembly.idAt pending.slot) pending.object name with
      | error error => exact ⟨error, rfl, rfl⟩
      | ok objects =>
          apply Mirrors.bind
          · apply Mirrors.forM (fun _ => True)
            · exact fun object _ left _ => mirrors_addRelated
            · exact fun _ _ _ _ _ _ => True.intro
            · exact True.intro
          · intro left succeeded
            have shows :
                assembler.live.showsLinkage fields pending.resourceType name =
                showsLinkage assembler fields pending.resourceType name := rfl
            rw [shows]
            split
            · have added :
                  Ends _ (LiveAssembler.Stopped assembler.live (fun _ => True)
                      (fun _ _ => False) workspace.assembly) ((forM objects
                        (assembler.live.addRelated fields declared.target
                          subtree (pathBelow pending.path name))).run
                      workspace) :=
                LiveAssembler.addAllRelated_ends fun _ _ => True.intro
              rcases (added.of_ok succeeded).1.nodeAt? held with
                ⟨later, stillHeld, _⟩
              rw [Work.writeLinkage, EStateM.run_bind, run_nodeAt stillHeld]
              rfl
            · rfl

theorem mirrors_expand
    {pending : Pending Object}
    {node : ResourceNode}
    (held : workspace.assembly.nodeAt? pending.slot = some node) :
    Mirrors (workspace.assembly.expand assembler fields pending)
      ((assembler.live.expand fields pending).run workspace) := by
  rw [expand, LiveAssembler.expand]
  apply Mirrors.forM fun left =>
    ∃ node, left.assembly.nodeAt? pending.slot = some node
  · rintro branch _ left ⟨still, stillHeld⟩
    exact mirrors_followRelationship stillHeld
  · rintro branch _ left next ⟨still, stillHeld⟩ succeeded
    have follows :
        Ends _ (LiveAssembler.Stopped assembler.live (fun _ => True)
            (fun _ _ => True)
            left.assembly)
          ((assembler.live.followRelationship fields pending branch).run
              left) :=
      LiveAssembler.followRelationship_ends True.intro fun _ _ => True.intro
    rcases (follows.of_ok succeeded).1.nodeAt? stillHeld with
      ⟨later, laterHeld, _⟩
    exact ⟨later, laterHeld⟩
  · exact ⟨node, held⟩

end Assembler

/-! ## The front of the queue -/

namespace Assembly

/-- The document with more in front of its queue. -/
def behind
    (assembly : Assembly Object)
    (front : List (Pending Object)) : Assembly Object :=
  { assembly with queue := front ++ assembly.queue }

variable {assembler : Assembler Object} {fields : FieldSelection}
  {assembly : Assembly Object} {front : List (Pending Object)}
  {pending : Pending Object}

theorem foldlM_behind
    {step : Assembly Object → β → Except AssemblyError (Assembly Object)}
    (steps : ∀ assembly item,
      step (assembly.behind front) item =
        (step assembly item).map (·.behind front))
    (items : List β)
    (assembly : Assembly Object) :
    items.foldlM step (assembly.behind front) =
      (items.foldlM step assembly).map (·.behind front) := by
  induction items generalizing assembly with
  | nil => rfl
  | cons item items induction =>
      rw [List.foldlM_cons, List.foldlM_cons, steps]
      cases step assembly item with
      | error error => rfl
      | ok next => exact induction next

theorem enqueue_behind
    (assembly : Assembly Object)
    (identifier : ResourceIdentifier)
    (pending : Pending Object) :
    (assembly.behind front).enqueue identifier pending =
      (assembly.enqueue identifier pending).behind front := by
  have expanded : (assembly.behind front).expanded = assembly.expanded := rfl
  rw [enqueue, enqueue, expanded]
  split
  · rfl
  · simp [behind]

theorem addRelated_behind
    (resourceType : String)
    (tree : IncludeTree)
    (path : String)
    (object : Object) :
    (assembly.behind front).addRelated assembler fields resourceType tree path
      object =
      (assembly.addRelated assembler fields resourceType tree path object).map
        (·.behind front) := by
  have slots :
      (assembly.behind front).slotOf? (assembler.identify resourceType object) =
      assembly.slotOf? (assembler.identify resourceType object) := rfl
  cases found : assembly.slotOf? (assembler.identify resourceType object) with
  | some slot =>
      rw [addRelated_of_present tree path found,
        addRelated_of_present tree path (slots.trans found),
        enqueue_behind assembly]
      rfl
  | none =>
      cases projected : assembler.project fields resourceType object with
      | error error =>
          rw [addRelated_of_error tree path found projected,
            addRelated_of_error tree path (slots.trans found) projected]
          rfl
      | ok node =>
          rw [addRelated_of_absent tree path found projected,
            addRelated_of_absent tree path (slots.trans found) projected]
          let placed : Assembly Object :=
            { assembly with
              included := assembly.included ++ [node]
              slots :=
                (assembler.identify resourceType object,
                    .included assembly.included.length) ::
                  assembly.slots }
          exact congrArg Except.ok (enqueue_behind placed _ _)

theorem followRelationship_behind (branch : String × IncludeTree) :
    (assembly.behind front).followRelationship assembler fields pending branch =
      (assembly.followRelationship assembler fields pending branch).map
        (·.behind front) := by
  obtain ⟨name, subtree⟩ := branch
  have id : (assembly.behind front).idAt pending.slot =
      assembly.idAt pending.slot := by
    rw [idAt, idAt]
    cases pending.slot <;> rfl
  rw [followRelationship, followRelationship, id]
  dsimp only
  cases assembler.schema.relationship? pending.resourceType name with
  | none => rfl
  | some declared =>
      dsimp only
      cases assembler.related pending.resourceType (assembly.idAt pending.slot)
        pending.object name with
      | error error => rfl
      | ok objects =>
          have added :
              objects.foldlM
                  (addRelated assembler fields declared.target subtree
                    (pathBelow pending.path name))
                  (assembly.behind front) =
                (objects.foldlM
                  (addRelated assembler fields declared.target subtree
                    (pathBelow pending.path name))
                  assembly).map (·.behind front) :=
            foldlM_behind (fun _ object => addRelated_behind _ _ _ object)
              objects assembly
          simp only [bind, Except.bind]
          rw [added]
          cases objects.foldlM
            (addRelated assembler fields declared.target subtree
                (pathBelow pending.path name))
            assembly with
          | error error => rfl
          | ok followed =>
              dsimp only [Except.map]
              split
              · cases pending.slot <;> rfl
              · rfl

/-- Expanding an object does not look at the queue. -/
theorem expand_behind :
    (assembly.behind front).expand assembler fields pending =
      (assembly.expand assembler fields pending).map (·.behind front) :=
  foldlM_behind (fun _ branch => followRelationship_behind branch) _ assembly

end Assembly

/-! ## Levels -/

namespace Assembler

open LiveAssembler

variable {assembler : Assembler Object} {fields : FieldSelection}
  {assembly : Assembly Object} {front : List (Pending Object)}
  {pending : Pending Object} {levels : Nat}

/-- What is to be expanded on one of the next levels. -/
def Shallow (levels : Nat) (pending : Pending Object) : Prop :=
  pending.tree.isEmpty = false ∧ pending.tree.depth ≤ levels

variable (fields) in
/-- One turn: the first object in front is expanded, and what it leads to stands
behind. -/
theorem turn_behind
    (sound : Sound assembler.live [] (assembly.behind (pending :: front)))
    (frontShallow : Shallow (levels + 1) pending)
    (shallow : ∀ other ∈ assembly.queue, Shallow levels other) :
    Outcome
      (fun next =>
        (assembler.live.expand fields pending).run ⟨assembly.behind front, ()⟩ =
            .ok () ⟨next.behind front, ()⟩ ∧
          Sound assembler.live [] (next.behind front) ∧
          ∀ other ∈ next.queue, Shallow levels other)
      (fun error => ∃ left,
        (assembler.live.expand fields pending).run ⟨assembly.behind front, ()⟩ =
          .error (.refused error) left)
      (assembly.expand assembler fields pending) := by
  let begun : Workspace Unit Object := ⟨assembly.behind (pending :: front), ()⟩
  have isFront : begun.assembly.queue = pending :: (front ++ assembly.queue) :=
    rfl
  have taken : Sound assembler.live [pending] (assembly.behind front) :=
    sound.take isFront
  rcases taken.exists_node (Or.inl List.mem_cons_self) with ⟨node, isHeld, _⟩
  have mirrors :
      Mirrors ((assembly.behind front).expand assembler fields pending)
      ((assembler.live.expand fields pending).run
        ⟨assembly.behind front, ()⟩) :=
    mirrors_expand isHeld
  have ends :=
    expand_ends assembler.live fields ⟨pending, ⟨assembly.behind front, ()⟩⟩
  rw [expand_behind] at mirrors
  cases expanded : assembly.expand assembler fields pending with
  | error error =>
      rw [expanded] at mirrors
      exact mirrors.run_eq_error
  | ok next =>
      rw [expanded] at mirrors
      have succeeded := mirrors.run_eq_ok
      have changes := (ends.of_ok succeeded).changes
      refine ⟨succeeded, (taken.changes changes).release, ?_⟩
      rcases changes.queue with ⟨joined, isQueue, all⟩
      have isNext : next.queue = assembly.queue ++ joined :=
        List.append_cancel_left (isQueue.trans (List.append_assoc ..))
      rw [isNext]
      refine List.forall_mem_append.mpr ⟨shallow, ?_⟩
      intro other member
      rcases all other member with ⟨⟨name, meets⟩, inner, _⟩
      have deeper := IncludeTree.depth_lt_of_mem meets.below.1
      exact ⟨inner, Nat.le_of_lt_succ (deeper.trans_le frontShallow.2)⟩

variable (fields) in
/-- A level is worked on from the front of the queue, and leaves what the next
one begins with. -/
theorem drains_level
    (sound : Sound assembler.live [] (assembly.behind front))
    (frontShallow : ∀ pending ∈ front, Shallow (levels + 1) pending)
    (shallow : ∀ pending ∈ assembly.queue, Shallow levels pending) :
    Outcome
      (fun next =>
        Sound assembler.live [] next ∧
          (∀ pending ∈ next.queue, Shallow levels pending) ∧
          ∀ turns outcome final,
            assembler.live.Drains fields ⟨next, ()⟩ turns outcome final →
              ∃ allTurns, assembler.live.Drains fields
                ⟨assembly.behind front, ()⟩ allTurns outcome final)
      (fun error => ∃ turns final,
        assembler.live.Drains fields ⟨assembly.behind front, ()⟩ turns
          (.error (.refused error)) final)
      (front.foldlM (expand assembler fields) assembly) := by
  induction front generalizing assembly with
  | nil =>
      exact ⟨sound, shallow, fun turns outcome final drains => ⟨turns, drains⟩⟩
  | cons pending front induction =>
      rw [List.foldlM_cons]
      have turned :=
        turn_behind fields sound (frontShallow pending List.mem_cons_self)
          shallow
      cases expanded : assembly.expand assembler fields pending with
      | error error =>
          rw [expanded] at turned
          rcases turned with ⟨left, stopped⟩
          exact ⟨_, left, .stop rfl stopped⟩
      | ok next =>
          rw [expanded] at turned
          rcases turned with ⟨succeeded, soundNext, shallowNext⟩
          have others := induction soundNext
            (fun other member =>
                frontShallow other (List.mem_cons_of_mem pending member))
            shallowNext
          apply others.imp
          · rintro last ⟨soundLast, shallowLast, continues⟩
            refine ⟨soundLast, shallowLast, ?_⟩
            intro turns outcome final drains
            rcases continues turns outcome final drains with
              ⟨allTurns, allDrains⟩
            exact ⟨_, .next rfl succeeded allDrains⟩
          · rintro error ⟨turns, final, drains⟩
            exact ⟨_, final, .next rfl succeeded drains⟩

/-- As many levels as what waits is deep drain the queue. -/
theorem drains_levels
    (sound : Sound assembler.live [] assembly)
    (shallow : ∀ pending ∈ assembly.queue, Shallow levels pending) :
    Outcome
      (fun final => ∃ turns,
        assembler.live.Drains fields ⟨assembly, ()⟩ turns (.ok ()) ⟨final, ()⟩)
      (fun error => ∃ turns final,
        assembler.live.Drains fields ⟨assembly, ()⟩ turns
          (.error (.refused error)) final)
      (expandLevels assembler fields levels assembly) := by
  induction levels generalizing assembly with
  | zero =>
      have drained : assembly.queue = [] := by
        apply List.eq_nil_iff_forall_not_mem.mpr
        intro pending member
        rcases shallow pending member with ⟨inner, bounded⟩
        rcases List.exists_mem_of_ne_nil _
          (List.isEmpty_eq_false_iff.mp inner) with
          ⟨⟨name, subtree⟩, child⟩
        have deeper := IncludeTree.depth_lt_of_mem child
        omega
      exact ⟨[], .done drained⟩
  | succ levels induction =>
      have whole :
          behind { assembly with queue := [] } assembly.queue = assembly := by
        rw [behind, List.append_nil]
      rw [← whole] at sound
      have level := drains_level fields sound shallow (List.forall_mem_nil _)
      rw [whole] at level
      rw [expandLevels]
      apply Outcome.bind level
      rintro next ⟨soundNext, shallowNext, continues⟩
      apply (induction soundNext shallowNext).imp
      · rintro final ⟨turns, drains⟩
        exact continues turns (.ok ()) ⟨final, ()⟩ drains
      · rintro error ⟨turns, final, drains⟩
        rcases continues turns _ final drains with ⟨allTurns, allDrains⟩
        exact ⟨allTurns, final, allDrains⟩

/-- The primary objects are added in the same way. -/
theorem mirrors_addPrimaries
    {specification : QuerySpecification}
    {objects : List Object}
    {workspace : Workspace Unit Object} :
    Mirrors (objects.foldlM
        (Assembly.addPrimary assembler specification) workspace.assembly)
      ((assembler.live.addPrimaries specification objects).run workspace) := by
  rw [addPrimaries]
  apply Mirrors.forM fun _ => True
  · exact fun object _ left _ => mirrors_addPrimary
  · exact fun _ _ _ _ _ _ => True.intro
  · exact True.intro

/-- With an accessor that answers as ever, the work queue leads to the document
that is assembled level by level, or is refused for the same reason. -/
theorem exists_assembles_live
    (assembler : Assembler Object)
    (specification : QuerySpecification)
    (objects : List Object) :
    Outcome
      (fun final => ∃ turns,
        assembler.live.Assembles specification objects () turns (.ok ())
          ⟨final, ()⟩)
      (fun error => ∃ turns final,
        assembler.live.Assembles specification objects () turns
          (.error (.refused error)) final)
      (Assembly.run assembler specification objects) := by
  have mirrors : Mirrors
      (objects.foldlM (Assembly.addPrimary assembler specification) .empty)
      ((assembler.live.addPrimaries specification objects).run ⟨.empty, ()⟩) :=
    mirrors_addPrimaries
  rw [Assembly.run]
  cases added :
    objects.foldlM (Assembly.addPrimary assembler specification) .empty with
  | error error =>
      rw [added] at mirrors
      rcases mirrors.run_eq_error with ⟨left, stopped⟩
      exact ⟨[], left, .refused stopped⟩
  | ok begun =>
      rw [added] at mirrors
      have succeeded := mirrors.run_eq_ok
      have ends :=
        addPrimaries_ends assembler.live specification objects ⟨.empty, ()⟩
      have changes := (ends.of_ok succeeded).1
      have shallow : ∀ pending ∈ begun.queue,
          Shallow specification.inclusion.depth pending := by
        rcases changes.queue with ⟨joined, isQueue, all⟩
        have isJoined : begun.queue = joined := isQueue
        rw [isJoined]
        intro pending member
        rcases all pending member with ⟨⟨object, _, isVisit⟩, inner, _⟩
        have isTree : specification.inclusion = pending.tree :=
          congrArg Visit.tree isVisit
        exact ⟨inner, (congrArg IncludeTree.depth isTree).ge⟩
      apply (drains_levels (sound_empty.changes changes) shallow).imp
      · rintro final ⟨turns, drains⟩
        exact ⟨turns, .worked succeeded drains⟩
      · rintro error ⟨turns, final, drains⟩
        exact ⟨turns, final, .worked succeeded drains⟩

/-- A work queue with an accessor that answers as ever assembles what the levels
do. -/
theorem run_eq_of_assembles
    {specification : QuerySpecification}
    {objects : List Object}
    {turns : List (Turn Unit Object)}
    {outcome : Except Stop Unit}
    {final : Workspace Unit Object}
    (assembles :
      assembler.live.Assembles specification objects () turns outcome final) :
    (outcome = .ok () ∧
        Assembly.run assembler specification objects = .ok final.assembly) ∨
      ∃ error, outcome = .error (.refused error) ∧
        Assembly.run assembler specification objects = .error error := by
  have queued := exists_assembles_live assembler specification objects
  cases result : Assembly.run assembler specification objects with
  | ok document =>
      rw [result] at queued
      rcases queued with ⟨others, again⟩
      rcases assembles.unique again with ⟨_, rfl, rfl⟩
      exact Or.inl ⟨rfl, rfl⟩
  | error error =>
      rw [result] at queued
      rcases queued with ⟨others, otherFinal, again⟩
      rcases assembles.unique again with ⟨_, rfl, _⟩
      exact Or.inr ⟨error, rfl, rfl⟩

end Assembler

end JsonApi
