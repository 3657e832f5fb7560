import JsonApi.Proofs.Document.SlotTable
import Mathlib.Logic.Hydra
import Mathlib.Tactic.Abel

/-!
# The loop of a work queue

The queue grows while it is worked on, and the accessor may lead to new objects
for ever.  What joins the queue stands deeper in the include tree, however, so
that the loop takes one tree depth out of a finite collection and puts any
number of smaller ones into it (`wellFounded_turns`).  All work on a queue
therefore ends (`exists_drains`), in one way only.
-/

namespace JsonApi

open Assembly

variable {World Object : Type}

namespace LiveAssembler

variable {assembler : LiveAssembler World Object} {fields : FieldSelection}
  {specification : QuerySpecification} {objects : List Object} {world : World}
  {workspace final other : Workspace World Object}
  {turns : List (Turn World Object)} {outcome : Except Stop Unit}

/-! ## Termination -/

/-- One turn of the loop leads from a workspace to the next one. -/
def Turns
    (assembler : LiveAssembler World Object)
    (fields : FieldSelection)
    (earlier later : Workspace World Object) : Prop :=
  ∃ pending rest, earlier.assembly.queue = pending :: rest ∧
    (assembler.expand fields pending).run (earlier.withQueue rest) =
      .ok () later

/-- The depths of the include tree at the places of what waits in the queue. -/
def waitingDepths (workspace : Workspace World Object) : Multiset Nat :=
  (workspace.assembly.queue.map fun pending => pending.tree.depth : List Nat)

/-- What an expansion meets stands at a place right below. -/
theorem Meets.below
    {turn : Turn World Object}
    {name : String}
    {next : Visit Object}
    (meets : assembler.Meets fields turn name next) :
    (name, next.tree) ∈ turn.pending.tree.children ∧
      next.path = pathBelow turn.pending.path name := by
  rcases meets with ⟨subtree, reached, later, ⟨earlier, split, _⟩, member⟩
  rcases Assembler.mem_branchVisits.mp member with ⟨_, _, _, _, _, _, rfl⟩
  rw [split]
  exact ⟨List.mem_append_right _ List.mem_cons_self, rfl⟩

/-- A turn takes one depth away, and adds smaller ones only. -/
theorem Turns.cutExpand
    {later : Workspace World Object}
    (turns : assembler.Turns fields workspace later) :
    Relation.CutExpand (· < ·) (waitingDepths later)
      (waitingDepths workspace) := by
  rcases turns with ⟨pending, rest, front, succeeded⟩
  have ends := expand_ends assembler fields ⟨pending, workspace.withQueue rest⟩
  have followed := ends.of_ok succeeded
  rcases followed.changes.queue with ⟨joined, isQueue, all⟩
  refine ⟨(joined.map fun pending => pending.tree.depth : List Nat),
    pending.tree.depth, ?_, ?_⟩
  · intro depth member
    rcases List.mem_map.mp (Multiset.mem_coe.mp member) with ⟨new, isNew, rfl⟩
    rcases (all new isNew).1 with ⟨name, meets⟩
    exact IncludeTree.depth_lt_of_mem meets.below.1
  · have same : (workspace.withQueue rest).assembly.queue = rest := rfl
    rw [same] at isQueue
    simp only [waitingDepths, isQueue, front, List.map_append, List.map_cons,
      ← Multiset.coe_add, ← Multiset.cons_coe, ← Multiset.singleton_add]
    abel

/-- The loop goes on for a finite number of turns only, from every workspace. -/
theorem wellFounded_turns
    (assembler : LiveAssembler World Object)
    (fields : FieldSelection) :
    WellFounded fun later earlier => assembler.Turns fields earlier later :=
  Subrelation.wf (fun turns => turns.cutExpand)
    (InvImage.wf waitingDepths Nat.lt_wfRel.wf.cutExpand)

theorem exists_drains
    (assembler : LiveAssembler World Object)
    (fields : FieldSelection)
    (workspace : Workspace World Object) :
    ∃ turns outcome final,
      assembler.Drains fields workspace turns outcome final := by
  induction workspace using (wellFounded_turns assembler fields).induction with
  | _ workspace induction =>
      cases front : workspace.assembly.queue with
      | nil => exact ⟨[], .ok (), workspace, .done front⟩
      | cons pending rest =>
          cases ending : (assembler.expand fields pending).run
            (workspace.withQueue rest) with
          | error stop final =>
              exact ⟨_, .error stop, final, .stop front ending⟩
          | ok result expanded =>
              rcases induction expanded ⟨pending, rest, front, ending⟩ with
                ⟨turns, outcome, final, others⟩
              exact ⟨_, outcome, final, .next front ending others⟩

/-- The work on a queue goes one way. -/
theorem Drains.unique
    {otherTurns : List (Turn World Object)}
    {otherOutcome : Except Stop Unit}
    (drains : assembler.Drains fields workspace turns outcome final)
    (again : assembler.Drains fields workspace otherTurns otherOutcome other) :
    otherTurns = turns ∧ otherOutcome = outcome ∧ other = final := by
  induction drains generalizing otherTurns with
  | done drained =>
      cases again with
      | done _ => exact ⟨rfl, rfl, rfl⟩
      | stop front _ => cases drained.symm.trans front
      | next front _ _ => cases drained.symm.trans front
  | stop front stopped =>
      cases again with
      | done drained => cases drained.symm.trans front
      | stop otherFront otherStopped =>
          cases front.symm.trans otherFront
          cases stopped.symm.trans otherStopped
          exact ⟨rfl, rfl, rfl⟩
      | next otherFront succeeded _ =>
          cases front.symm.trans otherFront
          cases stopped.symm.trans succeeded
  | next front succeeded _ induction =>
      cases again with
      | done drained => cases drained.symm.trans front
      | stop otherFront stopped =>
          cases front.symm.trans otherFront
          cases succeeded.symm.trans stopped
      | next otherFront otherSucceeded others =>
          cases front.symm.trans otherFront
          cases succeeded.symm.trans otherSucceeded
          rcases induction others with ⟨rfl, rfl, rfl⟩
          exact ⟨rfl, rfl, rfl⟩

/-- A document is assembled in one way. -/
theorem Assembles.unique
    {otherTurns : List (Turn World Object)}
    {otherOutcome : Except Stop Unit}
    (assembles :
      assembler.Assembles specification objects world turns outcome final)
    (again : assembler.Assembles specification objects world otherTurns
      otherOutcome other) :
    otherTurns = turns ∧ otherOutcome = outcome ∧ other = final := by
  cases assembles with
  | refused stopped =>
      cases again with
      | refused otherStopped =>
          cases stopped.symm.trans otherStopped
          exact ⟨rfl, rfl, rfl⟩
      | worked succeeded _ => cases stopped.symm.trans succeeded
  | worked succeeded drains =>
      cases again with
      | refused stopped => cases succeeded.symm.trans stopped
      | worked otherSucceeded others =>
          cases succeeded.symm.trans otherSucceeded
          exact drains.unique others

end LiveAssembler

end JsonApi
