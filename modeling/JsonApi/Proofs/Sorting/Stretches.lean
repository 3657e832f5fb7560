import JsonApi.Proofs.Sorting.Merging

/-!
# Short stretches

Short stretches are sorted by insertion from the end, in groups of four, and
in halves that are merged from both ends.  Each of these sorts achieves the
stable arrangement, and none loses an element whatever the comparison is.
-/

namespace JsonApi

namespace Sorting

variable {α : Type} {compare : α → α → Ordering} {members : α → Prop}
  {elements others sorted : List α}

/-! ## Insertion from the end -/

/-- Inserting an element merges it with the list, seen from the end. -/
theorem insertBack_eq
    (compare : α → α → Ordering)
    (element : α)
    (reversed : List α) :
    insertBack compare element reversed =
      mergeAll (backwards compare) [element] reversed := by
  induction reversed with
  | nil => simp [insertBack]
  | cons last earlier induction =>
      rw [insertBack, mergeAll_cons_cons, induction, mergeAll_nil_left]
      rfl

theorem insertBack_sorts
    {element : α}
    (isMember : members element)
    (areMembers : ∀ other ∈ elements, members other)
    (sorts : Sorts compare members elements sorted) :
    Sorts compare members (elements ++ [element])
      (insertBack compare element sorted.reverse).reverse := by
  have alone : ∀ other ∈ [element], members other :=
    List.forall_mem_singleton.mpr isMember
  rw [insertBack_eq]
  constructor
  · apply (List.reverse_perm _).trans
    apply (mergeAll_perm ..).trans
    apply List.perm_append_comm.trans
    exact (sorted.reverse_perm.trans sorts.perm).append_right [element]
  · intro preorder
    have mergeable : Mergeable compare members sorted [element] :=
      ⟨preorder, sorts.forall_mem areMembers, alone,
        sorts.ascending preorder areMembers, List.pairwise_singleton ..⟩
    have forwards := mergeable.reverse_mergeAll_backwards
    rw [List.reverse_singleton] at forwards
    rw [forwards, sorts.stable preorder,
      ← mergeAll_stableSort preorder areMembers alone]
    rfl

theorem insertAll_sorts
    (areMembers : ∀ other ∈ elements, members other)
    (otherMembers : ∀ other ∈ others, members other)
    (sorts : Sorts compare members elements sorted) :
    Sorts compare members (elements ++ others)
      (insertAll compare sorted others) := by
  induction others generalizing elements sorted with
  | nil => simpa [insertAll] using sorts
  | cons element others induction =>
      rcases List.forall_mem_cons.mp otherMembers with ⟨isMember, laterMembers⟩
      have inserted := insertBack_sorts isMember areMembers sorts
      have longer : ∀ other ∈ elements ++ [element], members other :=
        List.forall_mem_append.mpr
          ⟨areMembers, List.forall_mem_singleton.mpr isMember⟩
      have rest := induction longer laterMembers inserted
      rw [List.append_assoc] at rest
      simpa [insertAll] using rest

theorem Sorts.nil :
    Sorts compare members ([] : List α) [] where
  perm := List.Perm.refl []
  stable _ := rfl

/-! ## Groups of four -/

theorem sortTwo_perm
    (compare : α → α → Ordering)
    (first second : α) :
    [(sortTwo compare first second).1, (sortTwo compare first second).2].Perm
      [first, second] := by
  rw [sortTwo]
  split
  · exact List.Perm.swap first second []
  · exact List.Perm.refl _

theorem sortTwo_sorts
    (compare : α → α → Ordering)
    {first second : α}
    (isFirst : members first)
    (isSecond : members second) :
    Sorts compare members [first, second]
      [(sortTwo compare first second).1, (sortTwo compare first second).2]
    where
  perm := sortTwo_perm compare first second
  stable preorder := by
    rw [sortTwo, preorder.swap isFirst isSecond]
    cases ordering : compare first second <;>
      simp [stableSort, insertSorted, ordering]

theorem mergePairs_perm
    (compare : α → α → Ordering)
    (left right : α × α) :
    (mergePairs compare left right).Perm
      [left.1, left.2, right.1, right.2] := by
  have middle : ∀ least earlier later greatest : α,
      [least, (sortTwo compare earlier later).1,
          (sortTwo compare earlier later).2, greatest].Perm
        ([least, greatest] ++ [earlier, later]) := by
    intro least earlier later greatest
    refine List.Perm.cons least ?_
    apply (List.perm_append_comm_assoc [_, _] [greatest] []).trans
    exact (sortTwo_perm compare earlier later).cons greatest
  rw [mergePairs]
  apply (middle ..).trans
  rw [← Multiset.coe_eq_coe]
  simp only [List.cons_append, List.nil_append, ← Multiset.cons_coe,
    Multiset.coe_nil, ← Multiset.singleton_add]
  by_cases below : compare right.1 left.1 = .lt
  · by_cases above : compare right.2 left.2 = .lt
    · simp only [below, above, decide_true, if_true]
      abel
    · simp only [below, above, decide_true, decide_false, if_true, if_false,
        Bool.false_eq_true]
      abel
  · by_cases above : compare right.2 left.2 = .lt
    · simp only [below, above, decide_true, decide_false, if_true, if_false,
        Bool.false_eq_true]
    · simp only [below, above, decide_false, if_false, Bool.false_eq_true]
      abel

/-- Between two pairs the three comparisons decide as a merge does. -/
theorem mergePairs_eq_mergeAll
    {left right : α × α}
    (preorder : IsPreorderOn compare members)
    (firstLeft : members left.1)
    (secondLeft : members left.2)
    (firstRight : members right.1)
    (secondRight : members right.2)
    (leftAscending : compare left.1 left.2 ≠ .gt)
    (rightAscending : compare right.1 right.2 ≠ .gt) :
    mergePairs compare left right =
      mergeAll compare [left.1, left.2] [right.1, right.2] := by
  have leftStays : compare left.2 left.1 ≠ .lt :=
    preorder.not_lt firstLeft secondLeft leftAscending
  have rightStays : compare right.2 right.1 ≠ .lt :=
    preorder.not_lt firstRight secondRight rightAscending
  rw [mergePairs]
  by_cases below : compare right.1 left.1 = .lt
  · by_cases above : compare right.2 left.2 = .lt
    · by_cases crosses : compare right.2 left.1 = .lt <;>
        simp [mergeAll_cons_cons, sortTwo, below, above, crosses]
    · have apart : compare right.2 left.1 ≠ .lt := fun less =>
        above (preorder.lt_of_lt_of_le secondRight firstLeft secondLeft less
          leftAscending)
      simp [mergeAll_cons_cons, sortTwo, below, above, leftStays, apart]
  · by_cases above : compare right.2 left.2 = .lt
    · have crosses : compare right.1 left.2 = .lt :=
        preorder.lt_of_le_of_lt firstRight secondRight secondLeft
          rightAscending above
      simp [mergeAll_cons_cons, sortTwo, below, above, rightStays, crosses]
    · by_cases crosses : compare right.1 left.2 = .lt <;>
        simp [mergeAll_cons_cons, sortTwo, below, above, crosses]

/-- Merging two sorted pairs sorts their elements. -/
theorem mergePairs_sorts
    {left right : α × α}
    {lefts rights : List α}
    (leftMembers : ∀ other ∈ lefts, members other)
    (rightMembers : ∀ other ∈ rights, members other)
    (leftSorts : Sorts compare members lefts [left.1, left.2])
    (rightSorts : Sorts compare members rights [right.1, right.2]) :
    Sorts compare members (lefts ++ rights)
      (mergePairs compare left right) where
  perm :=
    (mergePairs_perm compare left right).trans
      (leftSorts.perm.append rightSorts.perm)
  stable preorder := by
    have areLefts := leftSorts.forall_mem leftMembers
    have areRights := rightSorts.forall_mem rightMembers
    have leftAscending := leftSorts.ascending preorder leftMembers
    have rightAscending := rightSorts.ascending preorder rightMembers
    rw [mergePairs_eq_mergeAll preorder (areLefts left.1 (by simp))
      (areLefts left.2 (by simp)) (areRights right.1 (by simp))
      (areRights right.2 (by simp))
      ((List.pairwise_cons.mp leftAscending).1 left.2 (by simp))
      ((List.pairwise_cons.mp rightAscending).1 right.2 (by simp)),
      leftSorts.stable preorder, rightSorts.stable preorder,
      mergeAll_stableSort preorder leftMembers rightMembers]

theorem sortFour_sorts
    (compare : α → α → Ordering)
    (areMembers : ∀ other ∈ elements, members other) :
    Sorts compare members elements (sortFour compare elements) := by
  rw [sortFour.eq_def]
  split
  · rename_i first second third fourth
    simp only [List.forall_mem_cons] at areMembers
    rcases areMembers with ⟨isFirst, isSecond, isThird, isFourth, _⟩
    have lefts := sortTwo_sorts compare isFirst isSecond
    have rights := sortTwo_sorts compare isThird isFourth
    exact mergePairs_sorts (by simp [isFirst, isSecond])
      (by simp [isThird, isFourth]) lefts rights
  · exact insertAll_sorts (List.forall_mem_nil _) areMembers Sorts.nil

/-! ## Halves -/

theorem forall_mem_take
    (areMembers : ∀ other ∈ elements, members other)
    (count : Nat) :
    ∀ other ∈ elements.take count, members other :=
  fun other member => areMembers other (List.mem_of_mem_take member)

theorem forall_mem_drop
    (areMembers : ∀ other ∈ elements, members other)
    (count : Nat) :
    ∀ other ∈ elements.drop count, members other :=
  fun other member => areMembers other (List.mem_of_mem_drop member)

theorem Achieves.insertAll
    {half : Except Disorder (List α)}
    (areMembers : ∀ other ∈ elements, members other)
    (otherMembers : ∀ other ∈ others, members other)
    (achieves : Achieves compare members elements half) :
    Achieves compare members (elements ++ others)
      (half.map (insertAll compare · others)) :=
  achieves.map_imp
    (fun _ sorts => insertAll_sorts areMembers otherMembers sorts)
    fun _ isDisorder => isDisorder

theorem sortEight_achieves
    (compare : α → α → Ordering)
    (areMembers : ∀ other ∈ elements, members other)
    (length : elements.length = 8) :
    Achieves compare members elements (sortEight compare elements) := by
  have leftMembers := forall_mem_take areMembers 4
  have rightMembers := forall_mem_drop areMembers 4
  have merged := mergeEnds_achieves leftMembers rightMembers
    (sortFour_sorts compare leftMembers) (sortFour_sorts compare rightMembers)
    (by simp [length]) (by simp [length])
  rwa [List.take_append_drop] at merged

/-- A half of a stretch is sorted. -/
theorem sortHalf_achieves
    (compare : α → α → Ordering)
    {total : Nat}
    (areMembers : ∀ other ∈ elements, members other)
    (isHalf : total / 2 ≤ elements.length) :
    Achieves compare members elements (sortHalf compare total elements) := by
  have firstMembers := forall_mem_take areMembers
  have otherMembers := forall_mem_drop areMembers
  rw [sortHalf]
  split
  · have length : (elements.take 8).length = 8 := by
      rw [List.length_take]
      omega
    have sorted :=
      (sortEight_achieves compare (firstMembers 8) length).insertAll
        (firstMembers 8) (otherMembers 8)
    rwa [List.take_append_drop] at sorted
  · split
    · have sorted := insertAll_sorts (firstMembers 4) (otherMembers 4)
        (sortFour_sorts compare (firstMembers 4))
      rw [List.take_append_drop] at sorted
      exact sorted
    · exact insertAll_sorts (List.forall_mem_nil _) areMembers Sorts.nil

/-- A short stretch is sorted. -/
theorem sortShort_achieves
    (compare : α → α → Ordering)
    (areMembers : ∀ other ∈ elements, members other) :
    Achieves compare members elements (sortShort compare elements) := by
  have leftMembers := forall_mem_take areMembers (elements.length / 2)
  have rightMembers := forall_mem_drop areMembers (elements.length / 2)
  have leftHalf : elements.length / 2 ≤
      (elements.take (elements.length / 2)).length := by
    rw [List.length_take]
    omega
  have rightHalf : elements.length / 2 ≤
      (elements.drop (elements.length / 2)).length := by
    rw [List.length_drop]
    omega
  refine Outcome.bind (sortHalf_achieves compare leftMembers leftHalf) ?_
  intro lefts leftSorts
  refine Outcome.bind (sortHalf_achieves compare rightMembers rightHalf) ?_
  intro rights rightSorts
  have merged := mergeEnds_achieves leftMembers rightMembers leftSorts
    rightSorts (by rw [List.length_take, List.length_drop]; omega)
    (by rw [List.length_take, List.length_drop]; omega)
  rwa [List.take_append_drop] at merged

end Sorting

end JsonApi
