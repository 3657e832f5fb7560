import JsonApi.Proofs.Sorting.Stretches

/-!
# Sorting by runs

A run that is found in the list is sorted as it stands, or, if it is strictly
descending, in reverse.  A run stands for a stretch of the list: it has been
sorted, or it is left for later as it is (`Sorting.Run.Stands`).  Cutting,
joining and collapsing keep the stretches in their places, so that in the end
one run stands for the whole list.
-/

namespace JsonApi

namespace Sorting

variable {α : Type} {compare : α → α → Ordering} {members : α → Prop}
  {isLazy : Bool} {elements : List α}

/-! ## Runs found in the list -/

/-- What follows a run continues it step by step, and therefore altogether. -/
theorem pairwise_continuation
    {last : α}
    (preorder : IsPreorderOn compare members)
    (descending : Bool)
    (isLast : members last)
    (areMembers : ∀ other ∈ elements, members other) :
    (last :: elements.take
        (continuation compare descending last elements)).Pairwise
      fun earlier later =>
        decide (compare later earlier = .lt) = descending := by
  induction elements generalizing last with
  | nil => simp
  | cons next later induction =>
      rcases List.forall_mem_cons.mp areMembers with ⟨isNext, laterMembers⟩
      rw [continuation]
      split
      · rename_i continues
        have rest := induction isNext laterMembers
        rw [List.take_succ_cons]
        apply List.pairwise_cons.mpr
        refine ⟨?_, rest⟩
        intro other member
        rcases List.mem_cons.mp member with rfl | isLater
        · exact continues
        · have isOther := laterMembers other (List.mem_of_mem_take isLater)
          have further := (List.pairwise_cons.mp rest).1 other isLater
          cases descending with
          | true =>
              rw [decide_eq_true_iff] at continues further ⊢
              exact preorder.lt_of_lt_of_le isOther isNext isLast further
                (by simp [continues])
          | false =>
              rw [decide_eq_false_iff_not] at continues further ⊢
              exact preorder.not_lt_trans isLast isNext isOther continues
                further
      · simp

/-- A run in ascending order is its own stable arrangement. -/
theorem sorts_of_ascending
    (ascending : IsPreorderOn compare members → Ascending compare elements) :
    Sorts compare members elements elements where
  perm := List.Perm.refl elements
  stable preorder := (stableSort_of_pairwise (ascending preorder)).symm

/-- Of elements in strictly descending order no two are equal. -/
theorem reverse_filter_of_descending
    {reference : α}
    (preorder : IsPreorderOn compare members)
    (isReference : members reference)
    (areMembers : ∀ other ∈ elements, members other)
    (descending :
      elements.Pairwise fun earlier later => compare later earlier = .lt) :
    (elements.filter (compare reference · = .eq)).reverse =
      elements.filter (compare reference · = .eq) := by
  match equal : elements.filter (compare reference · = .eq) with
  | [] => rfl
  | [_] => rfl
  | first :: second :: others =>
      have isFirst : first ∈ elements.filter (compare reference · = .eq) := by
        simp [equal]
      have isSecond :
          second ∈ elements.filter (compare reference · = .eq) := by
        simp [equal]
      simp only [List.mem_filter, decide_eq_true_iff] at isFirst isSecond
      have less : compare second first = .lt := by
        have filtered := descending.filter (compare reference · = .eq)
        rw [equal] at filtered
        exact (List.pairwise_cons.mp filtered).1 second (by simp)
      have same := preorder.congr_left isReference
        (areMembers second isSecond.1) (areMembers first isFirst.1) isSecond.2
      rw [isFirst.2, less] at same
      cases same

/-- A run in strictly descending order is sorted by reversing it. -/
theorem sorts_of_descending
    (areMembers : ∀ other ∈ elements, members other)
    (descending : IsPreorderOn compare members →
      elements.Pairwise fun earlier later => compare later earlier = .lt) :
    Sorts compare members elements elements.reverse := by
  apply Sorts.of_arranges elements.reverse_perm areMembers
  intro preorder
  refine ⟨elements.reverse_perm, ?_, ?_⟩
  · apply List.pairwise_reverse.mpr
    exact (descending preorder).imp fun less => by simp [less]
  · intro reference member
    rw [List.filter_reverse]
    exact reverse_filter_of_descending preorder (areMembers reference member)
      areMembers (descending preorder)

/-- The first run of a list is sorted as it stands or in reverse. -/
theorem leadingRun_sorts
    (compare : α → α → Ordering)
    (areMembers : ∀ other ∈ elements, members other) :
    let found := elements.take (leadingRun compare elements).1
    Sorts compare members found
      (if (leadingRun compare elements).2 then found.reverse else found) := by
  match elements, areMembers with
  | [], _ => exact sorts_of_ascending fun _ => List.Pairwise.nil
  | [_], _ => exact sorts_of_ascending fun _ => List.pairwise_singleton ..
  | first :: second :: rest, areMembers =>
      have foundMembers := forall_mem_take areMembers
      rcases List.forall_mem_cons.mp areMembers with ⟨isFirst, areOthers⟩
      have pairwise : ∀ preorder : IsPreorderOn compare members,
          ((first :: second :: rest).take
            (leadingRun compare (first :: second :: rest)).1).Pairwise
              fun earlier later => decide (compare later earlier = .lt) =
                (leadingRun compare (first :: second :: rest)).2 := by
        intro preorder
        have whole := pairwise_continuation preorder
          (decide (compare second first = .lt)) isFirst areOthers
        rwa [continuation, if_pos rfl] at whole
      cases descends : (leadingRun compare (first :: second :: rest)).2 with
      | true =>
          simp only [descends, decide_eq_true_iff] at pairwise
          exact sorts_of_descending (foundMembers _) pairwise
      | false =>
          simp only [descends, decide_eq_false_iff_not] at pairwise
          apply sorts_of_ascending
          intro preorder
          refine (pairwise preorder).imp_of_mem ?_
          intro earlier later isEarlier isLater notLess
          exact preorder.not_gt (foundMembers _ earlier isEarlier)
            (foundMembers _ later isLater) notLess

/-! ## Cutting -/

/-- The run stands for the stretch: it has been sorted, or it is the stretch
as it is and may be sorted later. -/
structure Run.Stands
    (compare : α → α → Ordering)
    (members : α → Prop)
    (isLazy : Bool)
    (stretch : List α)
    (run : Run α) : Prop where
  areMembers : ∀ other ∈ stretch, members other
  sorts :
    run.isSorted = true → Sorts compare members stretch run.elements
  isLater :
    run.isSorted = false → run.elements = stretch ∧ isLazy = true

theorem Run.Stands.sorted
    {stretch sorted : List α}
    (areMembers : ∀ other ∈ stretch, members other)
    (sorts : Sorts compare members stretch sorted) :
    Run.Stands compare members isLazy stretch ⟨sorted, true⟩ where
  areMembers := areMembers
  sorts _ := sorts
  isLater notSorted := by cases notSorted

theorem Run.Stands.later
    {stretch : List α}
    (areMembers : ∀ other ∈ stretch, members other)
    (lazy : isLazy = true) :
    Run.Stands compare members isLazy stretch ⟨stretch, false⟩ where
  areMembers := areMembers
  sorts isSorted := by cases isSorted
  isLater _ := ⟨rfl, lazy⟩

theorem Run.Stands.length_eq
    {stretch : List α}
    {run : Run α}
    (stands : run.Stands compare members isLazy stretch) :
    run.elements.length = stretch.length := by
  cases isSorted : run.isSorted with
  | true => exact (stands.sorts isSorted).perm.length_eq
  | false => rw [(stands.isLater isSorted).1]

/-- What is cut off stands for as many elements as it has. -/
theorem cutRun_stands
    {wanted : Nat}
    (positive : 0 < wanted)
    (nonempty : elements ≠ [])
    (areMembers : ∀ other ∈ elements, members other) :
    Outcome
      (fun run => 0 < run.elements.length ∧
        run.Stands compare members isLazy
          (elements.take run.elements.length))
      (fun _ => ¬IsPreorderOn compare members)
      (cutRun compare wanted (!isLazy) elements) := by
  have takeMembers := forall_mem_take areMembers
  have length := List.length_pos_iff.mpr nonempty
  -- It is enough that a nonempty beginning of the list is what it stands for.
  have enough : ∀ (count : Nat) (run : Run α), 0 < count →
      run.Stands compare members isLazy (elements.take count) →
        0 < run.elements.length ∧
          run.Stands compare members isLazy
            (elements.take run.elements.length) := by
    intro count run isPositive stands
    rw [stands.length_eq, List.length_take]
    refine ⟨by omega, ?_⟩
    rwa [← List.take_eq_take_min]
  have found := leadingRun_sorts compare areMembers
  rw [cutRun]
  generalize leadingRun compare elements = leading at found ⊢
  rcases leading with ⟨length, descending⟩
  dsimp only
  split
  · rename_i isLong
    have positiveLength := Nat.lt_of_lt_of_le positive isLong
    exact enough _ _ positiveLength
      (Run.Stands.sorted (takeMembers _) found)
  · cases isLazy with
    | false =>
        refine Outcome.map_imp
          (sortShort_achieves compare (takeMembers shortLength)) ?_
          fun _ isDisorder => isDisorder
        intro sorted sorts
        exact enough shortLength _ (by decide)
          (Run.Stands.sorted (takeMembers _) sorts)
    | true =>
        exact enough wanted _ positive (Run.Stands.later (takeMembers _) rfl)

/-- The list is cut into stretches, for which the runs stand. -/
theorem cutRuns_stand
    {wanted count : Nat}
    (positive : 0 < wanted)
    (areMembers : ∀ other ∈ elements, members other)
    (enough : elements.length ≤ count) :
    Outcome
      (fun runs => ∃ stretches : List (List α),
        stretches.flatten = elements ∧
          List.Forall₂ (Run.Stands compare members isLazy) stretches runs)
      (fun _ => ¬IsPreorderOn compare members)
      (cutRuns compare wanted (!isLazy) count elements) := by
  induction count generalizing elements with
  | zero =>
      have empty : elements = [] :=
        List.eq_nil_of_length_eq_zero (Nat.le_zero.mp enough)
      rw [empty]
      exact ⟨[], rfl, List.Forall₂.nil⟩
  | succ count induction =>
      cases elements with
      | nil => exact ⟨[], rfl, List.Forall₂.nil⟩
      | cons first others =>
          refine Outcome.bind
            (cutRun_stands positive (List.cons_ne_nil _ _) areMembers) ?_
          rintro run ⟨isPositive, stands⟩
          have laterMembers := forall_mem_drop areMembers run.elements.length
          have shorter :
              ((first :: others).drop run.elements.length).length ≤ count := by
            rw [List.length_drop]
            omega
          refine Outcome.bind (induction laterMembers shorter) ?_
          rintro runs ⟨stretches, isLater, allStand⟩
          refine ⟨_ :: stretches, ?_, List.Forall₂.cons stands allStand⟩
          rw [List.flatten_cons, isLater, List.take_append_drop]

/-! ## Joining -/

/-- Runs that are left for later will be sorted. -/
def SortsLater
    (compare : α → α → Ordering)
    (members : α → Prop)
    (isLazy : Bool)
    (sortLater : List α → Except Disorder (List α)) : Prop :=
  isLazy = true → ∀ later : List α, (∀ other ∈ later, members other) →
    Achieves compare members later (sortLater later)

/-- If all runs are sorted at once, nothing is asked of what would sort them
later. -/
theorem sortsLater_of_eager
    (compare : α → α → Ordering)
    (members : α → Prop)
    (sortLater : List α → Except Disorder (List α)) :
    SortsLater compare members false sortLater :=
  fun isLazy => nomatch isLazy

section Joining

variable {sortLater : List α → Except Disorder (List α)} {room : Nat}

theorem Run.Stands.settle
    {stretch : List α}
    {run : Run α}
    (sortsLater : SortsLater compare members isLazy sortLater)
    (stands : run.Stands compare members isLazy stretch) :
    Achieves compare members stretch (run.settle sortLater) := by
  rw [Run.settle]
  split
  · rename_i isSorted
    exact stands.sorts isSorted
  · rename_i notSorted
    rcases stands.isLater (Bool.eq_false_iff.mpr notSorted) with
      ⟨isStretch, lazy⟩
    rw [isStretch]
    exact sortsLater lazy stretch stands.areMembers

theorem joinRuns_stands
    {lefts rights : List α}
    {left right : Run α}
    (sortsLater : SortsLater compare members isLazy sortLater)
    (leftStands : left.Stands compare members isLazy lefts)
    (rightStands : right.Stands compare members isLazy rights) :
    Outcome (Run.Stands compare members isLazy (lefts ++ rights))
      (fun _ => ¬IsPreorderOn compare members)
      (joinRuns compare sortLater room left right) := by
  have areMembers :=
    List.forall_mem_append.mpr
      ⟨leftStands.areMembers, rightStands.areMembers⟩
  rw [joinRuns]
  split
  · refine Outcome.bind (leftStands.settle sortsLater) ?_
    intro sortedLefts leftSorts
    refine Outcome.bind (rightStands.settle sortsLater) ?_
    intro sortedRights rightSorts
    exact Run.Stands.sorted areMembers
      (merge_sorts leftStands.areMembers rightStands.areMembers leftSorts
        rightSorts)
  · rename_i bothLater
    simp only [not_or, Bool.not_eq_true] at bothLater
    rcases leftStands.isLater bothLater.2.1 with ⟨isLeft, lazy⟩
    rw [isLeft, (rightStands.isLater bothLater.2.2).1]
    exact Run.Stands.later areMembers lazy

/-- The runs that wait, the nearest one first, stand for the list that lies
in front. -/
inductive Wait
    (compare : α → α → Ordering)
    (members : α → Prop)
    (isLazy : Bool) :
    List α → List (Run α × Nat) → Prop where
  | nil : Wait compare members isLazy [] []
  | cons
      {earlier stretch : List α}
      {waiting : List (Run α × Nat)}
      {run : Run α}
      (depth : Nat)
      (wait : Wait compare members isLazy earlier waiting)
      (stands : run.Stands compare members isLazy stretch) :
      Wait compare members isLazy (earlier ++ stretch)
        ((run, depth) :: waiting)

/-- Collapsing leaves all stretches in their places, and nothing waits any
more if there is no limit to the depth. -/
theorem collapse_stands
    {depth : Nat}
    {earlier stretch : List α}
    {waiting : List (Run α × Nat)}
    {run : Run α}
    (sortsLater : SortsLater compare members isLazy sortLater)
    (wait : Wait compare members isLazy earlier waiting)
    (stands : run.Stands compare members isLazy stretch) :
    Outcome
      (fun reached => ∃ before here : List α,
        before ++ here = earlier ++ stretch ∧
          Wait compare members isLazy before reached.1 ∧
          reached.2.Stands compare members isLazy here ∧
          (depth = 0 → before = []))
      (fun _ => ¬IsPreorderOn compare members)
      (collapse (joinRuns compare sortLater room) depth waiting run) := by
  induction wait generalizing run stretch with
  | nil => exact ⟨[], stretch, rfl, Wait.nil, stands, fun _ => rfl⟩
  | cons leftDepth wait leftStands induction =>
      rename_i earlier left waiting leftRun
      rw [collapse]
      split
      · refine Outcome.bind (joinRuns_stands sortsLater leftStands stands) ?_
        intro joined joinedStands
        rw [List.append_assoc]
        exact induction joinedStands
      · rename_i notDeep
        refine ⟨earlier ++ left, stretch, rfl,
          Wait.cons leftDepth wait leftStands, stands, ?_⟩
        intro isZero
        rw [isZero] at notDeep
        exact absurd (Nat.zero_le leftDepth) notDeep

/-- All runs are joined to one, which stands for the whole list. -/
theorem joinAll_stands
    {total scanned : Nat}
    {earlier stretch : List α}
    {waiting : List (Run α × Nat)}
    {run : Run α}
    {stretches : List (List α)}
    {runs : List (Run α)}
    (sortsLater : SortsLater compare members isLazy sortLater)
    (wait : Wait compare members isLazy earlier waiting)
    (stands : run.Stands compare members isLazy stretch)
    (allStand :
      List.Forall₂ (Run.Stands compare members isLazy) stretches runs) :
    Outcome
      (Run.Stands compare members isLazy
        (earlier ++ stretch ++ stretches.flatten))
      (fun _ => ¬IsPreorderOn compare members)
      (joinAll (joinRuns compare sortLater room) total waiting run scanned
        runs) := by
  induction allStand generalizing earlier stretch waiting run scanned with
  | nil =>
      refine (collapse_stands sortsLater wait stands).map_imp ?_
        fun _ isDisorder => isDisorder
      rintro ⟨others, joined⟩ ⟨before, here, isWhole, _, joinedStands, none⟩
      rw [none rfl, List.nil_append] at isWhole
      rw [List.flatten_nil, List.append_nil, ← isWhole]
      exact joinedStands
  | cons nextStands _ induction =>
      refine Outcome.bind (collapse_stands sortsLater wait stands) ?_
      rintro ⟨others, joined⟩ ⟨before, here, isWhole, nextWait,
        joinedStands, _⟩
      rw [← isWhole, List.flatten_cons, ← List.append_assoc]
      exact induction (Wait.cons _ nextWait joinedStands) nextStands

theorem wantedLength_pos
    {total : Nat}
    (nonempty : 0 < total) :
    0 < wantedLength total := by
  rw [wantedLength]
  split
  · omega
  · rename_i isLong
    have wide : 1 ≤ total.log2 := by
      apply (Nat.le_log2 (by omega)).mpr
      omega
    have twice : 2 ≤ 2 ^ ((1 + total.log2) / 2) :=
      Nat.le_self_pow (by omega) 2
    exact Nat.div_pos (Nat.le_trans twice (Nat.le_add_right _ _)) (by decide)

/-- Sorting by runs sorts the list. -/
theorem sortRuns_achieves
    (compare : α → α → Ordering)
    (room : Nat)
    (areMembers : ∀ other ∈ elements, members other)
    (sortsLater : SortsLater compare members isLazy sortLater) :
    Achieves compare members elements
      (sortRuns compare sortLater (!isLazy) room elements) := by
  cases elements with
  | nil => exact Sorts.nil
  | cons first others =>
      have positive := wantedLength_pos (Nat.succ_pos others.length)
      refine Outcome.bind
        (cutRuns_stand positive areMembers (Nat.le_refl _)) ?_
      rintro runs ⟨stretches, isWhole, allStand⟩
      cases allStand with
      | nil => cases isWhole
      | cons stands allStand =>
          refine Outcome.bind
            (joinAll_stands sortsLater Wait.nil stands allStand) ?_
          intro whole wholeStands
          rw [List.nil_append, ← List.flatten_cons, isWhole] at wholeStands
          exact wholeStands.settle sortsLater

end Joining

end Sorting

end JsonApi
