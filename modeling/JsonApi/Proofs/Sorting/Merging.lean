import JsonApi.Proofs.Outcome
import JsonApi.Proofs.Sorting.StableSort
import Mathlib.Algebra.Order.Group.Multiset
import Mathlib.Data.List.Infix
import Mathlib.Tactic.Abel

/-!
# Merging

A merge from the front and a merge from the back take the same elements in
opposite order.  Both lead to one list, `Sorting.mergeAll`, which is the
stable arrangement of two sorted lists.

The ends of a merge from both sides meet in the middle of that list
(`Sorting.mergeEnds_achieves`).  That they do not claim the same element is
seen by marking where elements come from: the front and the back of the whole
merge have no more elements of one list than the list has.
-/

namespace JsonApi

variable {α β : Type}

namespace Sorting

variable {compare : α → α → Ordering} {members : α → Prop}
  {takesRight : α → α → Bool} {steps : Nat} {lefts rights : List α}

/-! ## What a sort achieves -/

/-- The list is in ascending order. -/
def Ascending (compare : α → α → Ordering) (elements : List α) : Prop :=
  elements.Pairwise fun earlier later => compare earlier later ≠ .gt

/-- The list has the elements, and it is their stable arrangement if the
comparison is a preorder. -/
structure Sorts
    (compare : α → α → Ordering)
    (members : α → Prop)
    (elements sorted : List α) : Prop where
  perm : sorted.Perm elements
  stable :
    IsPreorderOn compare members → sorted = stableSort compare elements

/-- The elements are sorted; only if the comparison is no preorder there need
be no result. -/
def Achieves
    (compare : α → α → Ordering)
    (members : α → Prop)
    (elements : List α) :
    Except Disorder (List α) → Prop :=
  Outcome (Sorts compare members elements)
    fun _ => ¬IsPreorderOn compare members

theorem Sorts.of_arranges
    {elements sorted : List α}
    (perm : sorted.Perm elements)
    (areMembers : ∀ other ∈ elements, members other)
    (arranges : IsPreorderOn compare members →
      Arranges compare elements sorted) :
    Sorts compare members elements sorted where
  perm := perm
  stable preorder := (arranges preorder).eq_stableSort preorder areMembers

theorem Sorts.ascending
    {elements sorted : List α}
    (sorts : Sorts compare members elements sorted)
    (preorder : IsPreorderOn compare members)
    (areMembers : ∀ other ∈ elements, members other) :
    Ascending compare sorted := by
  rw [sorts.stable preorder]
  exact pairwise_stableSort preorder areMembers

theorem Sorts.forall_mem
    {elements sorted : List α}
    (sorts : Sorts compare members elements sorted)
    (areMembers : ∀ other ∈ elements, members other) :
    ∀ other ∈ sorted, members other :=
  fun other member => areMembers other (sorts.perm.mem_iff.mp member)

/-! ## Steps of a merge -/

/-- The steps of a merge take elements from the fronts of both lists. -/
theorem mergeSteps_split
    (takesRight : α → α → Bool)
    (steps : Nat)
    (lefts rights : List α) :
    ∃ fromLeft fromRight,
      lefts = fromLeft ++ (mergeSteps takesRight steps lefts rights).lefts ∧
      rights = fromRight ++ (mergeSteps takesRight steps lefts rights).rights ∧
      (mergeSteps takesRight steps lefts rights).taken.Perm
        (fromLeft ++ fromRight) := by
  induction steps, lefts, rights using mergeSteps.induct takesRight with
  | case1 steps left lefts right rights takes induction =>
      rcases induction with ⟨fromLeft, fromRight, isLeft, isRight, perm⟩
      refine ⟨fromLeft, right :: fromRight, ?_, ?_, ?_⟩
      · simpa [mergeSteps, takes] using isLeft
      · simpa [mergeSteps, takes] using isRight
      · simpa [mergeSteps, takes] using
          (perm.cons right).trans List.perm_middle.symm
  | case2 steps left lefts right rights keeps induction =>
      rcases induction with ⟨fromLeft, fromRight, isLeft, isRight, perm⟩
      refine ⟨left :: fromLeft, fromRight, ?_, ?_, ?_⟩
      · simpa [mergeSteps, keeps] using isLeft
      · simpa [mergeSteps, keeps] using isRight
      · simpa [mergeSteps, keeps] using perm.cons left
  | case3 steps lefts rights noStep =>
      have none : mergeSteps takesRight steps lefts rights =
          ⟨[], lefts, rights⟩ := by
        rw [mergeSteps]
        exact noStep
      rw [none]
      exact ⟨[], [], rfl, rfl, List.Perm.refl _⟩

/-- No element is lost on the way. -/
theorem mergeSteps_perm
    (takesRight : α → α → Bool)
    (steps : Nat)
    (lefts rights : List α) :
    let reached := mergeSteps takesRight steps lefts rights
    (reached.taken ++ reached.lefts ++ reached.rights).Perm
      (lefts ++ rights) := by
  rcases mergeSteps_split takesRight steps lefts rights with
    ⟨fromLeft, fromRight, isLeft, isRight, perm⟩
  generalize mergeSteps takesRight steps lefts rights = reached at *
  dsimp only
  rw [isLeft, isRight, List.append_assoc, List.append_assoc]
  apply (perm.append_right (reached.lefts ++ reached.rights)).trans
  rw [List.append_assoc]
  apply List.Perm.append_left
  rw [← List.append_assoc, ← List.append_assoc]
  exact List.perm_append_comm.append_right reached.rights

/-- As long as no list can be used up, every step takes an element. -/
theorem length_taken
    (takesRight : α → α → Bool)
    (leftEnough : steps ≤ lefts.length)
    (rightEnough : steps ≤ rights.length) :
    (mergeSteps takesRight steps lefts rights).taken.length = steps := by
  induction steps generalizing lefts rights with
  | zero => simp [mergeSteps]
  | succ steps induction =>
      cases lefts with
      | nil => simp at leftEnough
      | cons left lefts =>
          cases rights with
          | nil => simp at rightEnough
          | cons right rights =>
              simp only [List.length_cons, Nat.add_le_add_iff_right]
                at leftEnough rightEnough
              rw [mergeSteps]
              split
              · have enough : steps ≤ (left :: lefts).length :=
                  Nat.le_succ_of_le leftEnough
                simp [induction enough rightEnough]
              · have enough : steps ≤ (right :: rights).length :=
                  Nat.le_succ_of_le rightEnough
                simp [induction leftEnough enough]

/-- Merging does not look at more of the elements than the comparison does. -/
theorem mergeSteps_map
    (view : β → α)
    (takesRight : α → α → Bool)
    (steps : Nat)
    (lefts rights : List β) :
    mergeSteps takesRight steps (lefts.map view) (rights.map view) =
      let viewed :=
        mergeSteps (fun left right => takesRight (view left) (view right))
          steps lefts rights
      ⟨viewed.taken.map view, viewed.lefts.map view,
        viewed.rights.map view⟩ := by
  induction steps generalizing lefts rights with
  | zero => simp [mergeSteps]
  | succ steps induction =>
      cases lefts with
      | nil => simp [mergeSteps]
      | cons left lefts =>
          cases rights with
          | nil => simp [mergeSteps]
          | cons right rights =>
              have keepsLeft := induction (left :: lefts) rights
              have keepsRight := induction lefts (right :: rights)
              rw [List.map_cons] at keepsLeft keepsRight
              simp only [List.map_cons, mergeSteps]
              split
              · simp [keepsLeft]
              · simp [keepsRight]

/-! ## The whole merge -/

/-- All elements of two lists, merged from the front. -/
def mergeAll
    (compare : α → α → Ordering)
    (lefts rights : List α) :
    List α :=
  let whole := mergeFront compare (lefts.length + rights.length) lefts rights
  whole.taken ++ whole.lefts ++ whole.rights

@[simp]
theorem mergeAll_nil_left
    (compare : α → α → Ordering)
    (rights : List α) :
    mergeAll compare [] rights = rights := by
  simp [mergeAll, mergeFront, mergeSteps]

@[simp]
theorem mergeAll_nil_right
    (compare : α → α → Ordering)
    (lefts : List α) :
    mergeAll compare lefts [] = lefts := by
  simp [mergeAll, mergeFront, mergeSteps]

theorem mergeAll_cons_cons
    (compare : α → α → Ordering)
    (left right : α)
    (lefts rights : List α) :
    mergeAll compare (left :: lefts) (right :: rights) =
      if compare right left = .lt then
        right :: mergeAll compare (left :: lefts) rights
      else left :: mergeAll compare lefts (right :: rights) := by
  have first : (left :: lefts).length + (right :: rights).length =
      (left :: lefts).length + rights.length + 1 := rfl
  have second : (left :: lefts).length + rights.length =
      lefts.length + (right :: rights).length := by
    simp only [List.length_cons]
    omega
  rw [mergeAll, first, mergeFront, mergeSteps]
  by_cases less : compare right left = .lt
  · simp [mergeAll, mergeFront, less]
  · rw [second]
    simp [mergeAll, mergeFront, less]

theorem mergeAll_perm
    (compare : α → α → Ordering)
    (lefts rights : List α) :
    (mergeAll compare lefts rights).Perm (lefts ++ rights) :=
  mergeSteps_perm _ _ lefts rights

/-- Some steps from the front begin the whole merge. -/
theorem mergeAll_eq_front
    (compare : α → α → Ordering)
    (steps : Nat)
    (lefts rights : List α) :
    mergeAll compare lefts rights =
      (mergeFront compare steps lefts rights).taken ++
        mergeAll compare (mergeFront compare steps lefts rights).lefts
          (mergeFront compare steps lefts rights).rights := by
  induction steps generalizing lefts rights with
  | zero => simp [mergeFront, mergeSteps]
  | succ steps induction =>
      cases lefts with
      | nil => simp [mergeFront, mergeSteps]
      | cons left lefts =>
          cases rights with
          | nil => simp [mergeFront, mergeSteps]
          | cons right rights =>
              rw [mergeAll_cons_cons]
              by_cases less : compare right left = .lt
              · rw [if_pos less, induction (left :: lefts) rights]
                simp [mergeFront, mergeSteps, less]
              · rw [if_neg less, induction lefts (right :: rights)]
                simp [mergeFront, mergeSteps, less]

/-! ## Merging sorted lists -/

theorem mem_mergeAll {element : α} :
    element ∈ mergeAll compare lefts rights ↔
      element ∈ lefts ∨ element ∈ rights := by
  rw [(mergeAll_perm compare lefts rights).mem_iff, List.mem_append]

theorem ascending_mergeAll
    (preorder : IsPreorderOn compare members)
    (leftMembers : ∀ other ∈ lefts, members other)
    (rightMembers : ∀ other ∈ rights, members other)
    (leftAscending : Ascending compare lefts)
    (rightAscending : Ascending compare rights) :
    Ascending compare (mergeAll compare lefts rights) := by
  induction lefts generalizing rights with
  | nil => simpa using rightAscending
  | cons left lefts leftInduction =>
      induction rights with
      | nil => simpa using leftAscending
      | cons right rights rightInduction =>
          rcases List.forall_mem_cons.mp leftMembers with
            ⟨isLeft, areLefts⟩
          rcases List.forall_mem_cons.mp rightMembers with
            ⟨isRight, areRights⟩
          rcases List.pairwise_cons.mp leftAscending with
            ⟨leftBelow, leftsAscending⟩
          rcases List.pairwise_cons.mp rightAscending with
            ⟨rightBelow, rightsAscending⟩
          rw [mergeAll_cons_cons]
          split
          · rename_i less
            apply List.pairwise_cons.mpr
            refine ⟨?_, rightInduction areRights rightsAscending⟩
            intro other member
            rcases mem_mergeAll.mp member with inLefts | inRights
            · have notAbove :=
                not_gt_of_mem_cons preorder isLeft leftBelow inLefts
              simp [preorder.lt_of_lt_of_le isRight isLeft
                (leftMembers other inLefts) less notAbove]
            · exact rightBelow other inRights
          · rename_i notLess
            apply List.pairwise_cons.mpr
            refine ⟨?_,
              leftInduction areLefts rightMembers leftsAscending
                rightAscending⟩
            intro other member
            rcases mem_mergeAll.mp member with inLefts | inRights
            · exact leftBelow other inLefts
            · have first : compare left right ≠ .gt := by
                rw [preorder.swap isRight isLeft]
                simpa using notLess
              rcases List.mem_cons.mp inRights with rfl | later
              · exact first
              · exact preorder.trans isLeft isRight (areRights other later)
                  first (rightBelow other later)

/-- Of equal elements those of the left list come first. -/
theorem filter_mergeAll
    (preorder : IsPreorderOn compare members)
    {reference : α}
    (isReference : members reference)
    (leftMembers : ∀ other ∈ lefts, members other)
    (rightMembers : ∀ other ∈ rights, members other)
    (leftAscending : Ascending compare lefts) :
    (mergeAll compare lefts rights).filter (compare reference · = .eq) =
      lefts.filter (compare reference · = .eq) ++
        rights.filter (compare reference · = .eq) := by
  induction lefts generalizing rights with
  | nil => simp
  | cons left lefts leftInduction =>
      induction rights with
      | nil => simp
      | cons right rights rightInduction =>
          rcases List.forall_mem_cons.mp leftMembers with
            ⟨isLeft, areLefts⟩
          rcases List.forall_mem_cons.mp rightMembers with
            ⟨isRight, areRights⟩
          rcases List.pairwise_cons.mp leftAscending with
            ⟨leftBelow, leftsAscending⟩
          rw [mergeAll_cons_cons]
          split
          · rename_i less
            rw [List.filter_cons, rightInduction areRights]
            by_cases equal : compare reference right = .eq
            · -- No left element equals the reference, as all are greater.
              have noLeft :
                  (left :: lefts).filter (compare reference · = .eq) =
                    [] := by
                apply List.filter_eq_nil_iff.mpr
                intro other member
                have notAbove :=
                  not_gt_of_mem_cons preorder isLeft leftBelow member
                have isOther := leftMembers other member
                simp [preorder.congr_left isReference isRight isOther equal,
                  preorder.lt_of_lt_of_le isRight isLeft isOther less
                    notAbove]
              simp [noLeft, equal]
            · simp [equal]
          · rw [List.filter_cons, List.filter_cons,
              leftInduction areLefts rightMembers leftsAscending]
            split <;> simp

/-- Two lists that are in ascending order by a preorder. -/
structure Mergeable
    (compare : α → α → Ordering)
    (members : α → Prop)
    (lefts rights : List α) : Prop where
  preorder : IsPreorderOn compare members
  leftMembers : ∀ other ∈ lefts, members other
  rightMembers : ∀ other ∈ rights, members other
  leftAscending : Ascending compare lefts
  rightAscending : Ascending compare rights

/-- Sorting leads to lists that can be merged. -/
theorem Sorts.mergeable
    {sortedLefts sortedRights : List α}
    (left : Sorts compare members lefts sortedLefts)
    (right : Sorts compare members rights sortedRights)
    (preorder : IsPreorderOn compare members)
    (leftMembers : ∀ other ∈ lefts, members other)
    (rightMembers : ∀ other ∈ rights, members other) :
    Mergeable compare members sortedLefts sortedRights where
  preorder := preorder
  leftMembers := left.forall_mem leftMembers
  rightMembers := right.forall_mem rightMembers
  leftAscending := left.ascending preorder leftMembers
  rightAscending := right.ascending preorder rightMembers

/-- Merging sorted lists sorts them together. -/
theorem mergeAll_stableSort
    (preorder : IsPreorderOn compare members)
    (leftMembers : ∀ other ∈ lefts, members other)
    (rightMembers : ∀ other ∈ rights, members other) :
    mergeAll compare (stableSort compare lefts) (stableSort compare rights) =
      stableSort compare (lefts ++ rights) := by
  have left := arranges_stableSort preorder leftMembers
  have right := arranges_stableSort preorder rightMembers
  have areLefts : ∀ other ∈ stableSort compare lefts, members other :=
    fun other member => leftMembers other (mem_stableSort.mp member)
  have areRights : ∀ other ∈ stableSort compare rights, members other :=
    fun other member => rightMembers other (mem_stableSort.mp member)
  have areMembers : ∀ other ∈ lefts ++ rights, members other :=
    List.forall_mem_append.mpr ⟨leftMembers, rightMembers⟩
  refine Arranges.eq_stableSort ⟨?_, ?_, ?_⟩ preorder areMembers
  · exact (mergeAll_perm ..).trans (left.perm.append right.perm)
  · exact ascending_mergeAll preorder areLefts areRights left.ascending
      right.ascending
  · intro reference member
    have isReference := areMembers reference member
    rw [filter_mergeAll preorder isReference areLefts areRights
      left.ascending, filter_stableSort preorder isReference leftMembers,
      filter_stableSort preorder isReference rightMembers,
      List.filter_append]

/-! ## Merging from the back -/

/-- The order is read backwards. -/
def backwards (compare : α → α → Ordering) (first second : α) : Ordering :=
  compare second first

theorem backwards_preorder (preorder : IsPreorderOn compare members) :
    IsPreorderOn (backwards compare) members where
  swap isFirst isSecond := preorder.swap isSecond isFirst
  trans isFirst isSecond isThird below above :=
    preorder.trans isThird isSecond isFirst above below

/-- Reversing a list that is arranged backwards arranges it. -/
theorem arranges_reverse
    {elements sorted : List α}
    (preorder : IsPreorderOn compare members)
    (areMembers : ∀ other ∈ elements, members other)
    (arranges : Arranges (backwards compare) elements.reverse sorted) :
    Arranges compare elements sorted.reverse where
  perm :=
    sorted.reverse_perm.trans (arranges.perm.trans elements.reverse_perm)
  ascending := List.pairwise_reverse.mpr arranges.ascending
  stable := by
    intro reference member
    have same := arranges.stable reference (List.mem_reverse.mpr member)
    have isReference := areMembers reference member
    have symmetric : ∀ other, members other →
        (compare other reference = .eq ↔ compare reference other = .eq) :=
      fun other isOther =>
        ⟨preorder.eq_back isOther isReference,
          preorder.eq_back isReference isOther⟩
    have forwards : ∀ list : List α, (∀ other ∈ list, members other) →
        list.filter (backwards compare reference · = .eq) =
          list.filter (compare reference · = .eq) := by
      intro list inList
      apply List.filter_congr
      intro other isListed
      simp [backwards, symmetric other (inList other isListed)]
    have inSorted : ∀ other ∈ sorted, members other :=
      fun other isSorted =>
        areMembers other
          (List.mem_reverse.mp (arranges.perm.mem_iff.mp isSorted))
    have inReverse : ∀ other ∈ elements.reverse, members other :=
      fun other isReversed => areMembers other (List.mem_reverse.mp isReversed)
    rw [forwards sorted inSorted, forwards _ inReverse,
      List.filter_reverse] at same
    rw [List.filter_reverse, same, List.reverse_reverse]

/-- Sorting backwards sorts from the end. -/
theorem reverse_stableSort_backwards
    {elements : List α}
    (preorder : IsPreorderOn compare members)
    (areMembers : ∀ other ∈ elements, members other) :
    (stableSort (backwards compare) elements.reverse).reverse =
      stableSort compare elements := by
  have areReversed : ∀ other ∈ elements.reverse, members other :=
    fun other member => areMembers other (List.mem_reverse.mp member)
  have arranges :=
    arranges_stableSort (backwards_preorder preorder) areReversed
  exact (arranges_reverse preorder areMembers arranges).eq_stableSort
    preorder areMembers

/-- The steps of a merge of the lists in the other order. -/
theorem mergeSteps_swap
    (takesRight : α → α → Bool)
    (steps : Nat)
    (lefts rights : List α) :
    mergeSteps takesRight steps lefts rights =
      let swapped :=
        mergeSteps (fun right left => !takesRight left right)
          steps rights lefts
      ⟨swapped.taken, swapped.rights, swapped.lefts⟩ := by
  induction steps generalizing lefts rights with
  | zero => simp [mergeSteps]
  | succ steps induction =>
      cases lefts with
      | nil => cases rights <;> simp [mergeSteps]
      | cons left lefts =>
          cases rights with
          | nil => simp [mergeSteps]
          | cons right rights =>
              simp only [mergeSteps]
              cases takes : takesRight left right with
              | true => simp [induction (left :: lefts) rights]
              | false => simp [induction lefts (right :: rights)]

/-- A merge from the back is one from the front, of the lists in the other
order and with the order read backwards. -/
theorem mergeBack_eq
    (compare : α → α → Ordering)
    (steps : Nat)
    (lefts rights : List α) :
    mergeBack compare steps lefts rights =
      let front := mergeFront (backwards compare) steps rights lefts
      ⟨front.taken, front.rights, front.lefts⟩ := by
  rw [mergeBack, mergeSteps_swap]
  have same :
      (fun right left => !decide (compare right left ≠ .lt)) =
        fun right left => decide (backwards compare left right = .lt) := by
    funext right left
    by_cases less : compare right left = .lt <;> simp [backwards, less]
  rw [same, mergeFront]

/-- Of sorted lists, the whole merge from the back is that from the front. -/
theorem Mergeable.reverse_mergeAll_backwards
    (mergeable : Mergeable compare members lefts rights) :
    (mergeAll (backwards compare) rights.reverse lefts.reverse).reverse =
      mergeAll compare lefts rights := by
  rcases mergeable with
    ⟨preorder, leftMembers, rightMembers, leftAscending, rightAscending⟩
  have areMembers : ∀ other ∈ lefts ++ rights, members other :=
    List.forall_mem_append.mpr ⟨leftMembers, rightMembers⟩
  have reversed : ∀ list : List α, Ascending compare list →
      list.reverse = stableSort (backwards compare) list.reverse := by
    intro list ascending
    exact (stableSort_of_pairwise (List.pairwise_reverse.mpr ascending)).symm
  have forwards :=
    mergeAll_stableSort preorder leftMembers rightMembers
  rw [stableSort_of_pairwise leftAscending,
    stableSort_of_pairwise rightAscending] at forwards
  rw [reversed rights rightAscending, reversed lefts leftAscending,
    mergeAll_stableSort (backwards_preorder preorder)
      (fun other member => rightMembers other (List.mem_reverse.mp member))
      (fun other member => leftMembers other (List.mem_reverse.mp member)),
    ← List.reverse_append, reverse_stableSort_backwards preorder areMembers,
    forwards]

/-- Some steps from the back end the whole merge. -/
theorem Mergeable.mergeAll_eq_back
    (mergeable : Mergeable compare members lefts rights)
    (steps : Nat) :
    ∃ earlier,
      mergeAll compare lefts rights =
        earlier ++
          (mergeBack compare steps lefts.reverse
            rights.reverse).taken.reverse := by
  rw [← mergeable.reverse_mergeAll_backwards, mergeAll_eq_front _ steps,
    mergeBack_eq, List.reverse_append]
  exact ⟨_, rfl⟩

/-! ## Merging from the side of the shorter list -/

/-- Enough steps use up one of the lists. -/
theorem mergeSteps_used_up
    (takesRight : α → α → Bool)
    (enough : lefts.length + rights.length ≤ steps) :
    (mergeSteps takesRight steps lefts rights).lefts = [] ∨
      (mergeSteps takesRight steps lefts rights).rights = [] := by
  induction steps generalizing lefts rights with
  | zero =>
      have noLefts : lefts = [] := by
        apply List.eq_nil_of_length_eq_zero
        omega
      simp [mergeSteps, noLefts]
  | succ steps induction =>
      cases lefts with
      | nil => simp [mergeSteps]
      | cons left lefts =>
          cases rights with
          | nil => simp [mergeSteps]
          | cons right rights =>
              simp only [List.length_cons] at enough
              rw [mergeSteps]
              split
              · apply induction
                simp only [List.length_cons]
                omega
              · apply induction
                simp only [List.length_cons]
                omega

theorem merge_perm
    (compare : α → α → Ordering)
    (lefts rights : List α) :
    (merge compare lefts rights).Perm (lefts ++ rights) := by
  rw [merge]
  split
  · exact mergeSteps_perm _ _ lefts rights
  · apply (List.reverse_perm _).trans
    apply (mergeSteps_perm _ _ lefts.reverse rights.reverse).trans
    exact lefts.reverse_perm.append rights.reverse_perm

theorem Mergeable.merge_eq_mergeAll
    (mergeable : Mergeable compare members lefts rights) :
    merge compare lefts rights = mergeAll compare lefts rights := by
  rw [merge]
  split
  · rfl
  · rw [← mergeable.reverse_mergeAll_backwards, mergeBack_eq, mergeAll,
      mergeFront, Nat.add_comm, List.length_reverse, List.length_reverse]
    have enough : rights.reverse.length + lefts.reverse.length ≤
        rights.length + lefts.length := by
      simp
    rcases mergeSteps_used_up
      (fun left right => decide (backwards compare right left = .lt))
      enough with noRights | noLefts
    · simp [noRights]
    · simp [noLefts]

/-- Merging two sorted lists sorts their elements. -/
theorem merge_sorts
    {sortedLefts sortedRights : List α}
    (leftMembers : ∀ other ∈ lefts, members other)
    (rightMembers : ∀ other ∈ rights, members other)
    (left : Sorts compare members lefts sortedLefts)
    (right : Sorts compare members rights sortedRights) :
    Sorts compare members (lefts ++ rights)
      (merge compare sortedLefts sortedRights) where
  perm := (merge_perm ..).trans (left.perm.append right.perm)
  stable preorder := by
    have mergeable := left.mergeable right preorder leftMembers rightMembers
    rw [mergeable.merge_eq_mergeAll, left.stable preorder,
      right.stable preorder,
      mergeAll_stableSort preorder leftMembers rightMembers]

/-! ## Merging from both ends -/

/-- What lies between the beginning and the end of a list. -/
theorem eq_take_between
    {whole first rest before last : List α}
    (starts : whole = first ++ rest)
    (ends : whole = before ++ last)
    (apart : whole.length ≤ rest.length + before.length) :
    whole =
      first ++ rest.take (rest.length + before.length - whole.length) ++
        last := by
  have firstLength := congrArg List.length starts
  rw [List.length_append] at firstLength
  rcases List.append_eq_append_iff.mp (starts.symm.trans ends) with
    ⟨between, rfl, rfl⟩ | ⟨between, rfl, rfl⟩
  · have length :
        (between ++ last).length + (first ++ between).length - whole.length =
          between.length := by
      rw [starts]
      simp only [List.length_append]
      omega
    rw [length, List.take_left, starts, List.append_assoc]
  · have empty : between = [] := by
      rw [ends] at apart
      simp only [List.length_append] at apart
      apply List.eq_nil_of_length_eq_zero
      omega
    have same : rest.length + before.length - whole.length = 0 := by
      rw [ends, empty]
      simp [Nat.add_comm]
    rw [same, starts]
    simp [empty]

/-- Merging from both ends neither loses nor repeats an element. -/
theorem mergeEnds_perm
    {sorted : List α}
    (merged : mergeEnds compare lefts rights = .ok sorted) :
    sorted.Perm (lefts ++ rights) := by
  rcases mergeSteps_split (fun left right => compare right left = .lt)
    ((lefts.length + rights.length) / 2) lefts rights with
    ⟨firstLefts, firstRights, leftStart, rightStart, front⟩
  rcases mergeSteps_split (fun left right => compare right left ≠ .lt)
    ((lefts.length + rights.length) / 2) lefts.reverse rights.reverse with
    ⟨lastLefts, lastRights, leftEnd, rightEnd, back⟩
  rw [mergeEnds, mergeFront, mergeBack] at merged
  generalize mergeSteps (fun left right => compare right left = .lt)
    ((lefts.length + rights.length) / 2) lefts rights = first at *
  generalize mergeSteps (fun left right => compare right left ≠ .lt)
    ((lefts.length + rights.length) / 2) lefts.reverse rights.reverse = last
    at *
  rw [List.reverse_eq_append_iff] at leftEnd rightEnd
  split at merged
  · rename_i apart
    have isLeft := eq_take_between leftStart leftEnd (by simpa using apart.1)
    have isRight :=
      eq_take_between rightStart rightEnd (by simpa using apart.2)
    rw [List.length_reverse] at isLeft isRight
    rw [Except.ok.injEq] at merged
    rw [← merged, ← Multiset.coe_eq_coe]
    rw [← Multiset.coe_eq_coe, ← Multiset.coe_add] at front back
    generalize first.lefts.take _ = middleLeft at *
    generalize first.rights.take _ = middleRight at *
    rw [isLeft, isRight]
    simp only [← Multiset.coe_add, Multiset.coe_reverse, front, back]
    abel
  · cases merged

/-- The beginning and the end of the whole merge do not overlap. -/
theorem Mergeable.mergeAll_eq_ends
    {half : Nat}
    (mergeable : Mergeable compare members lefts rights)
    (leftEnough : half ≤ lefts.length)
    (rightEnough : half ≤ rights.length) :
    ∃ between,
      mergeAll compare lefts rights =
        (mergeFront compare half lefts rights).taken ++ between ++
          (mergeBack compare half lefts.reverse
            rights.reverse).taken.reverse := by
  have starts := mergeAll_eq_front compare half lefts rights
  rcases mergeable.mergeAll_eq_back half with ⟨earlier, ends⟩
  have total := (mergeAll_perm compare lefts rights).length_eq
  have firsts : (mergeFront compare half lefts rights).taken.length = half :=
    length_taken _ leftEnough rightEnough
  have lasts :
      (mergeBack compare half lefts.reverse rights.reverse).taken.length =
        half := by
    apply length_taken
    · simpa using leftEnough
    · simpa using rightEnough
  have apart := congrArg List.length ends
  rw [total] at apart
  simp only [List.length_append, List.length_reverse, lasts] at apart
  rcases List.append_eq_append_iff.mp (starts.symm.trans ends) with
    ⟨between, isEarlier, _⟩ | ⟨between, isFirst, _⟩
  · rw [isEarlier] at ends
    exact ⟨between, ends⟩
  · have empty : between = [] := by
      have length := congrArg List.length isFirst
      rw [firsts, List.length_append] at length
      apply List.eq_nil_of_length_eq_zero
      omega
    rw [empty, List.append_nil] at isFirst
    rw [← isFirst] at ends
    exact ⟨[], by rw [List.append_nil]; exact ends⟩

/-- Whatever is counted, what one end or the other leaves is enough for all
elements. -/
theorem Mergeable.countP_le_left
    {half : Nat}
    (mergeable : Mergeable compare members lefts rights)
    (counted : α → Bool)
    (leftEnough : half ≤ lefts.length)
    (rightEnough : half ≤ rights.length) :
    let front := mergeFront compare half lefts rights
    let back := mergeBack compare half lefts.reverse rights.reverse
    (lefts ++ rights).countP counted ≤
      (front.lefts ++ front.rights).countP counted +
        (back.lefts ++ back.rights).countP counted := by
  rcases mergeable.mergeAll_eq_ends leftEnough rightEnough with
    ⟨between, whole⟩
  have all := (mergeAll_perm compare lefts rights).countP_eq counted
  have front :=
    (mergeSteps_perm (fun left right => compare right left = .lt) half lefts
      rights).countP_eq counted
  have back :=
    (mergeSteps_perm (fun left right => compare right left ≠ .lt) half
      lefts.reverse rights.reverse).countP_eq counted
  rw [whole] at all
  rw [mergeFront, mergeBack] at *
  simp only [List.countP_append, List.countP_reverse] at *
  omega

/-- Elements that are marked with the list which they come from. -/
def marked (side : Bool) (elements : List α) : List (α × Bool) :=
  elements.map (·, side)

theorem map_fst_marked
    (side : Bool)
    (elements : List α) :
    (marked side elements).map Prod.fst = elements := by
  rw [marked, List.map_map]
  exact List.map_id elements

theorem length_marked
    (side : Bool)
    (elements : List α) :
    (marked side elements).length = elements.length :=
  List.length_map _

theorem reverse_marked
    (side : Bool)
    (elements : List α) :
    (marked side elements).reverse = marked side elements.reverse :=
  List.map_reverse.symm

/-- Marks do not matter for the order. -/
theorem Mergeable.mark
    (mergeable : Mergeable compare members lefts rights) :
    Mergeable (fun first second : α × Bool => compare first.1 second.1)
      (fun other => members other.1) (marked true lefts)
      (marked false rights) where
  preorder := mergeable.preorder.comap id
  leftMembers := List.forall_mem_map.mpr mergeable.leftMembers
  rightMembers := List.forall_mem_map.mpr mergeable.rightMembers
  leftAscending := List.pairwise_map.mpr mergeable.leftAscending
  rightAscending := List.pairwise_map.mpr mergeable.rightAscending

/-- By their marks, the elements that a merge leaves are told apart. -/
theorem countP_rest
    (takesRight : α × Bool → α × Bool → Bool)
    (steps : Nat)
    (lefts rights : List α)
    (side : Bool) :
    let reached :=
      mergeSteps takesRight steps (marked true lefts) (marked false rights)
    (reached.lefts ++ reached.rights).countP (·.2 == side) =
      if side then reached.lefts.length else reached.rights.length := by
  rcases mergeSteps_split takesRight steps (marked true lefts)
    (marked false rights) with ⟨fromLeft, fromRight, isLeft, isRight, _⟩
  generalize mergeSteps takesRight steps (marked true lefts)
    (marked false rights) = reached at *
  have areLeft : ∀ other ∈ reached.lefts, other.2 = true := by
    intro other member
    have inLefts : other ∈ marked true lefts := by
      rw [isLeft]
      exact List.mem_append_right fromLeft member
    rcases List.mem_map.mp inLefts with ⟨_, _, rfl⟩
    rfl
  have areRight : ∀ other ∈ reached.rights, other.2 = false := by
    intro other member
    have inRights : other ∈ marked false rights := by
      rw [isRight]
      exact List.mem_append_right fromRight member
    rcases List.mem_map.mp inRights with ⟨_, _, rfl⟩
    rfl
  have leftCount : reached.lefts.countP (·.2 == side) =
      if side then reached.lefts.length else 0 := by
    cases side <;> simp +contextual [areLeft]
  have rightCount : reached.rights.countP (·.2 == side) =
      if side then 0 else reached.rights.length := by
    cases side <;> simp +contextual [areRight]
  dsimp only
  rw [List.countP_append, leftCount, rightCount]
  cases side <;> simp

/-- In a preorder, the ends of a merge do not claim the same element. -/
theorem Mergeable.ends_apart
    {half : Nat}
    (mergeable : Mergeable compare members lefts rights)
    (leftEnough : half ≤ lefts.length)
    (rightEnough : half ≤ rights.length) :
    let front := mergeFront compare half lefts rights
    let back := mergeBack compare half lefts.reverse rights.reverse
    lefts.length ≤ front.lefts.length + back.lefts.length ∧
      rights.length ≤ front.rights.length + back.rights.length := by
  have counted := fun side : Bool =>
    mergeable.mark.countP_le_left (fun other : α × Bool => other.2 == side)
      ((length_marked true lefts).symm ▸ leftEnough)
      ((length_marked false rights).symm ▸ rightEnough)
  simp only [reverse_marked, mergeFront, mergeBack, countP_rest] at counted
  have all := countP_rest (fun _ _ => true) 0 lefts rights
  have front :=
    mergeSteps_map Prod.fst (fun left right => compare right left = .lt) half
      (marked true lefts) (marked false rights)
  have back :=
    mergeSteps_map Prod.fst (fun left right => compare right left ≠ .lt) half
      (marked true lefts.reverse) (marked false rights.reverse)
  simp only [map_fst_marked] at front back
  rw [mergeFront, mergeBack, front, back]
  simp only [mergeSteps, length_marked] at all
  simp only [all] at counted
  simp only [List.length_map]
  exact ⟨by simpa using counted true, by simpa using counted false⟩

/-- Two arrangements of at most one element are the same. -/
theorem eq_of_perm_of_length_le_one
    {first second : List α}
    (perm : first.Perm second)
    (short : second.length ≤ 1) :
    first = second := by
  match second, short with
  | [], _ => exact List.perm_nil.mp perm
  | [_], _ => exact List.perm_singleton.mp perm

/-- Of sorted lists with about the same length, the ends of a merge meet in
the whole merge. -/
theorem Mergeable.mergeEnds_eq_ok
    (mergeable : Mergeable compare members lefts rights)
    (notShorter : lefts.length ≤ rights.length)
    (notLonger : rights.length ≤ lefts.length + 1) :
    mergeEnds compare lefts rights = .ok (mergeAll compare lefts rights) := by
  have isHalf : (lefts.length + rights.length) / 2 = lefts.length := by omega
  have leftEnough : lefts.length ≤ lefts.length := Nat.le_refl _
  have apart := mergeable.ends_apart leftEnough notShorter
  rcases mergeable.mergeAll_eq_ends leftEnough notShorter with
    ⟨between, whole⟩
  have merged : ∃ sorted, mergeEnds compare lefts rights = .ok sorted := by
    rw [mergeEnds, isHalf, if_pos apart]
    exact ⟨_, rfl⟩
  rcases merged with ⟨sorted, merged⟩
  have perm :=
    (mergeAll_perm compare lefts rights).trans (mergeEnds_perm merged).symm
  have length := (mergeEnds_perm merged).length_eq
  rw [merged]
  rw [mergeEnds, isHalf, if_pos apart, Except.ok.injEq] at merged
  rw [whole, ← merged] at perm ⊢
  rw [← merged] at length
  have firsts :
      (mergeFront compare lefts.length lefts rights).taken.length =
        lefts.length :=
    length_taken _ leftEnough notShorter
  have lasts :
      (mergeBack compare lefts.length lefts.reverse
        rights.reverse).taken.length = lefts.length := by
    apply length_taken
    · simp
    · simpa using notShorter
  simp only [List.append_assoc] at perm length ⊢
  simp only [List.length_append, List.length_reverse, firsts, lasts] at length
  rw [List.perm_append_left_iff] at perm
  rw [← List.append_assoc (List.take _ _), List.perm_append_right_iff] at perm
  have same := eq_of_perm_of_length_le_one perm.symm (by
    have middle := perm.length_eq
    simp only [List.length_append] at middle
    omega)
  rw [← same, List.append_assoc]

/-- Merging two sorted lists with about the same length from both ends sorts
their elements. -/
theorem mergeEnds_achieves
    {sortedLefts sortedRights : List α}
    (leftMembers : ∀ other ∈ lefts, members other)
    (rightMembers : ∀ other ∈ rights, members other)
    (left : Sorts compare members lefts sortedLefts)
    (right : Sorts compare members rights sortedRights)
    (notShorter : lefts.length ≤ rights.length)
    (notLonger : rights.length ≤ lefts.length + 1) :
    Achieves compare members (lefts ++ rights)
      (mergeEnds compare sortedLefts sortedRights) := by
  have succeeds : IsPreorderOn compare members →
      mergeEnds compare sortedLefts sortedRights =
        .ok (stableSort compare (lefts ++ rights)) := by
    intro preorder
    rw [← mergeAll_stableSort preorder leftMembers rightMembers,
      ← left.stable preorder, ← right.stable preorder]
    apply (left.mergeable right preorder leftMembers
      rightMembers).mergeEnds_eq_ok
    · rw [left.perm.length_eq, right.perm.length_eq]
      exact notShorter
    · rw [left.perm.length_eq, right.perm.length_eq]
      exact notLonger
  cases merged : mergeEnds compare sortedLefts sortedRights with
  | ok sorted =>
      refine ⟨(mergeEnds_perm merged).trans (left.perm.append right.perm), ?_⟩
      intro preorder
      rw [succeeds preorder] at merged
      exact (Except.ok.inj merged).symm
  | error disorder =>
      intro preorder
      rw [succeeds preorder] at merged
      cases merged

end Sorting

end JsonApi
