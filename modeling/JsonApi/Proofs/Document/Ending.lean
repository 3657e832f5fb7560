import JsonApi.Document.WorkQueue
import Mathlib.Data.List.Induction

/-!
# How work ends

Work on a document ends with a result or with a stop, and leaves a workspace
in both cases.  `Ends` says of both what holds of them there.
-/

namespace JsonApi

variable {World Object α β : Type}

/-- The result is wanted in the workspace that is left, or else the stop is
tolerated there. -/
def Ends
    (wanted : α → Workspace World Object → Prop)
    (tolerated : Stop → Workspace World Object → Prop) :
    EStateM.Result Stop (Workspace World Object) α → Prop
  | .ok result workspace => wanted result workspace
  | .error stop workspace => tolerated stop workspace

namespace Ends

variable {wanted widened : α → Workspace World Object → Prop}
  {tolerated excused : Stop → Workspace World Object → Prop}
  {workspace : Workspace World Object}

theorem imp
    {ending : EStateM.Result Stop (Workspace World Object) α}
    (ends : Ends wanted tolerated ending)
    (widen : ∀ result left, wanted result left → widened result left)
    (excuse : ∀ stop left, tolerated stop left → excused stop left) :
    Ends widened excused ending := by
  cases ending with
  | ok result left => exact widen result left ends
  | error stop left => exact excuse stop left ends

theorem of_ok
    {work : Work World Object α}
    {result : α}
    {left : Workspace World Object}
    (ends : Ends wanted tolerated (work.run workspace))
    (succeeded : work.run workspace = .ok result left) :
    wanted result left := by
  rw [succeeded] at ends
  exact ends

theorem of_error
    {work : Work World Object α}
    {stop : Stop}
    {left : Workspace World Object}
    (ends : Ends wanted tolerated (work.run workspace))
    (stopped : work.run workspace = .error stop left) :
    tolerated stop left := by
  rw [stopped] at ends
  exact ends

theorem bind
    {next : β → Workspace World Object → Prop}
    {work : Work World Object α}
    {continuation : α → Work World Object β}
    (first : Ends wanted tolerated (work.run workspace))
    (second : ∀ result left, work.run workspace = .ok result left →
      wanted result left →
      Ends next tolerated ((continuation result).run left)) :
    Ends next tolerated ((work >>= continuation).run workspace) := by
  rw [EStateM.run_bind]
  cases ending : work.run workspace with
  | ok result left =>
      rw [ending] at first
      exact second result left ending first
  | error stop left =>
      rw [ending] at first
      exact first

/-- A loop keeps an invariant about the items handled so far. -/
theorem forM
    {step : β → Work World Object PUnit}
    {items : List β}
    (invariant : List β → Workspace World Object → Prop)
    (steps : ∀ earlier item later left, items = earlier ++ item :: later →
      (ForM.forM earlier step).run workspace = .ok ⟨⟩ left →
        invariant earlier left →
        Ends (fun _ => invariant (earlier ++ [item])) tolerated
          ((step item).run left))
    (begun : invariant [] workspace) :
    Ends (fun _ => invariant items) tolerated
      ((ForM.forM items step).run workspace) := by
  -- By induction from the end, since the invariant speaks of what comes before.
  induction items using List.reverseRecOn with
  | nil => exact begun
  | append_singleton items item induction =>
      have before := induction fun earlier other later left split =>
        steps earlier other (later ++ [item]) left (by simp [split])
      rw [List.forM_append]
      apply bind before
      intro result left succeeded kept
      have last := steps items item [] left rfl succeeded kept
      simpa using last

/-- Mapping a list keeps what each of its steps keeps. -/
theorem mapM
    {step : β → Work World Object α}
    {items : List β}
    {invariant : Workspace World Object → Prop}
    (steps : ∀ item left, invariant left →
      Ends (fun _ => invariant) tolerated ((step item).run left))
    (begun : invariant workspace) :
    Ends (fun _ => invariant) tolerated ((items.mapM step).run workspace) := by
  induction items generalizing workspace with
  | nil => exact begun
  | cons item items induction =>
      rw [List.mapM_cons]
      apply bind (steps item workspace begun)
      intro result left _ kept
      apply bind (induction kept)
      intro results last _ keptLast
      exact keptLast

end Ends

end JsonApi
