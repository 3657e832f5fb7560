import JsonApi.Sorting
import Mathlib.Order.Compare
import Mathlib.Order.Lattice

/-!
# Stable sorting by a total preorder

If the comparison is a total preorder of the elements, sorting puts them in
ascending order and leaves equal ones in the order in which they stood.
Preorders may be reversed, joined one after the other, and read off the places
that elements have in a linear order.
-/

namespace JsonApi

variable {α : Type}

/-- The comparison is a total preorder of the elements for which `members`
holds. -/
structure IsPreorderOn
    (compare : α → α → Ordering)
    (members : α → Prop) : Prop where
  swap : ∀ {first second : α}, members first → members second →
    compare second first = (compare first second).swap
  trans : ∀ {first second third : α}, members first → members second →
    members third →
    compare first second ≠ .gt → compare second third ≠ .gt →
      compare first third ≠ .gt

theorem ordering_eq_of_ne_gt_iff
    {left right : Ordering}
    (below : left ≠ .gt ↔ right ≠ .gt)
    (above : left.swap ≠ .gt ↔ right.swap ≠ .gt) :
    left = right := by
  cases left <;> cases right <;> simp_all

namespace IsPreorderOn

variable {compare other : α → α → Ordering} {members : α → Prop}
  {first second third : α}

theorem refl
    (preorder : IsPreorderOn compare members)
    (isFirst : members first) :
    compare first first = .eq := by
  have same := preorder.swap isFirst isFirst
  cases ordering : compare first first with
  | eq => rfl
  | lt => simp [ordering] at same
  | gt => simp [ordering] at same

theorem eq_back
    (preorder : IsPreorderOn compare members)
    (isFirst : members first)
    (isSecond : members second)
    (equal : compare first second = .eq) :
    compare second first = .eq := by
  rw [preorder.swap isFirst isSecond, equal]
  rfl

/-- Equal elements compare alike with a third one. -/
theorem congr_left
    (preorder : IsPreorderOn compare members)
    (isFirst : members first)
    (isSecond : members second)
    (isThird : members third)
    (equal : compare first second = .eq) :
    compare first third = compare second third := by
  have back := preorder.eq_back isFirst isSecond equal
  apply ordering_eq_of_ne_gt_iff
  · constructor
    · exact preorder.trans isSecond isFirst isThird (by simp [back])
    · exact preorder.trans isFirst isSecond isThird (by simp [equal])
  · rw [← preorder.swap isFirst isThird, ← preorder.swap isSecond isThird]
    constructor
    · exact fun above =>
        preorder.trans isThird isFirst isSecond above (by simp [equal])
    · exact fun above =>
        preorder.trans isThird isSecond isFirst above (by simp [back])

theorem lt_of_lt_of_le
    (preorder : IsPreorderOn compare members)
    (isFirst : members first)
    (isSecond : members second)
    (isThird : members third)
    (less : compare first second = .lt)
    (below : compare second third ≠ .gt) :
    compare first third = .lt := by
  have notGreater :=
    preorder.trans isFirst isSecond isThird (by simp [less]) below
  cases ordering : compare first third with
  | lt => rfl
  | gt => exact absurd ordering notGreater
  | eq =>
      -- Then the third would compare with the second as the first does, which
      -- is less.
      have same := preorder.congr_left isFirst isThird isSecond ordering
      rw [less] at same
      rw [preorder.swap isThird isSecond, ← same] at below
      exact absurd rfl below

theorem not_lt
    (preorder : IsPreorderOn compare members)
    (isFirst : members first)
    (isSecond : members second)
    (below : compare first second ≠ .gt) :
    compare second first ≠ .lt := by
  rw [preorder.swap isFirst isSecond]
  cases ordering : compare first second with
  | lt => simp
  | eq => simp
  | gt => exact absurd ordering below

theorem not_gt
    (preorder : IsPreorderOn compare members)
    (isFirst : members first)
    (isSecond : members second)
    (above : compare second first ≠ .lt) :
    compare first second ≠ .gt := by
  rw [preorder.swap isSecond isFirst]
  cases ordering : compare second first with
  | lt => exact absurd ordering above
  | eq => simp
  | gt => simp

theorem not_lt_trans
    (preorder : IsPreorderOn compare members)
    (isFirst : members first)
    (isSecond : members second)
    (isThird : members third)
    (below : compare second first ≠ .lt)
    (above : compare third second ≠ .lt) :
    compare third first ≠ .lt :=
  preorder.not_lt isFirst isThird
    (preorder.trans isFirst isSecond isThird
      (preorder.not_gt isFirst isSecond below)
      (preorder.not_gt isSecond isThird above))

theorem lt_of_le_of_lt
    (preorder : IsPreorderOn compare members)
    (isFirst : members first)
    (isSecond : members second)
    (isThird : members third)
    (below : compare first second ≠ .gt)
    (less : compare second third = .lt) :
    compare first third = .lt := by
  have notGreater :=
    preorder.trans isFirst isSecond isThird below (by simp [less])
  cases ordering : compare first third with
  | lt => rfl
  | gt => exact absurd ordering notGreater
  | eq =>
      -- Then the first would be greater than the second, as the third is.
      have same := preorder.congr_left isFirst isThird isSecond ordering
      rw [preorder.swap isSecond isThird, less] at same
      exact absurd same below

/-- Elements that compare as their places in a linear order do form a
preorder. -/
theorem of_place
    {β : Type}
    [LinearOrder β]
    (place : α → β)
    (agrees : ∀ {first second : α}, members first → members second →
      compare first second = cmp (place first) (place second)) :
    IsPreorderOn compare members where
  swap isFirst isSecond := by
    rw [agrees isFirst isSecond, agrees isSecond isFirst, cmp_swap]
  trans isFirst isSecond isThird below above := by
    rw [agrees isFirst isSecond, (cmp_compares _ _).ne_gt] at below
    rw [agrees isSecond isThird, (cmp_compares _ _).ne_gt] at above
    rw [agrees isFirst isThird, (cmp_compares _ _).ne_gt]
    exact below.trans above

theorem comap
    {β : Type}
    {view : β → α}
    {others : β → Prop}
    (preorder : IsPreorderOn compare members)
    (within : ∀ {element : β}, others element → members (view element)) :
    IsPreorderOn (fun first second => compare (view first) (view second))
      others where
  swap isFirst isSecond := preorder.swap (within isFirst) (within isSecond)
  trans isFirst isSecond isThird :=
    preorder.trans (within isFirst) (within isSecond) (within isThird)

theorem reverse (preorder : IsPreorderOn compare members) :
    IsPreorderOn (fun first second => (compare first second).swap) members where
  swap isFirst isSecond := by rw [preorder.swap isFirst isSecond]
  trans isFirst isSecond isThird below above := by
    rw [← preorder.swap isFirst isSecond] at below
    rw [← preorder.swap isSecond isThird] at above
    rw [← preorder.swap isFirst isThird]
    exact preorder.trans isThird isSecond isFirst above below

/-- A second preorder may decide between elements that the first one does not
tell apart. -/
theorem andThen
    (preorder : IsPreorderOn compare members)
    (next : IsPreorderOn other members) :
    IsPreorderOn (fun first second =>
        (compare first second).then (other first second)) members where
  swap isFirst isSecond := by
    rw [preorder.swap isFirst isSecond, next.swap isFirst isSecond,
      Ordering.swap_then]
  trans := by
    intro first second third isFirst isSecond isThird below above
    cases lower : compare first second with
    | gt => simp [lower] at below
    | lt =>
        have notGreater : compare second third ≠ .gt := by
          intro greater
          simp [greater] at above
        simp [preorder.lt_of_lt_of_le isFirst isSecond isThird lower notGreater]
    | eq =>
        rw [preorder.congr_left isFirst isSecond isThird lower]
        rw [lower] at below
        cases upper : compare second third with
        | gt => simp [upper] at above
        | lt => simp
        | eq =>
            rw [upper] at above
            exact next.trans isFirst isSecond isThird below above

end IsPreorderOn

/-! ## Sorting -/

variable {compare : α → α → Ordering} {members : α → Prop} {element : α}
  {elements : List α}

theorem pairwise_insertSorted
    (preorder : IsPreorderOn compare members)
    (isMember : members element)
    (areMembers : ∀ other ∈ elements, members other)
    (ascending : elements.Pairwise fun earlier later =>
      compare earlier later ≠ .gt) :
    (insertSorted compare element elements).Pairwise fun earlier later =>
      compare earlier later ≠ .gt := by
  induction elements with
  | nil => exact List.pairwise_singleton _ _
  | cons head tail induction =>
      rcases List.forall_mem_cons.mp areMembers with ⟨headMember, tailMembers⟩
      rcases List.pairwise_cons.mp ascending with ⟨headBelow, tailAscending⟩
      rw [insertSorted]
      split
      · rename_i behind
        apply List.pairwise_cons.mpr
        refine ⟨?_, induction tailMembers tailAscending⟩
        intro other member
        rcases List.mem_cons.mp
          ((insertSorted_perm compare element tail).mem_iff.mp member) with
          isElement | inTail
        · rw [isElement, preorder.swap isMember headMember, behind]
          simp
        · exact headBelow other inTail
      · rename_i before
        apply List.pairwise_cons.mpr
        refine ⟨?_, ascending⟩
        intro other member
        rcases List.mem_cons.mp member with isHead | inTail
        · rw [isHead]
          exact before
        · exact preorder.trans isMember headMember (tailMembers other inTail)
            before (headBelow other inTail)

theorem mem_stableSort {other : α} :
    other ∈ stableSort compare elements ↔ other ∈ elements :=
  (stableSort_perm compare elements).mem_iff

/-- Elements in ascending order stay where they are. -/
theorem stableSort_of_pairwise
    (ascending : elements.Pairwise fun earlier later =>
      compare earlier later ≠ .gt) :
    stableSort compare elements = elements := by
  induction elements with
  | nil => rfl
  | cons head tail induction =>
      rcases List.pairwise_cons.mp ascending with ⟨first, rest⟩
      rw [stableSort, induction rest]
      cases tail with
      | nil => rfl
      | cons next others => exact if_neg (first next List.mem_cons_self)

/-- Sorting puts the elements in ascending order. -/
theorem pairwise_stableSort
    (preorder : IsPreorderOn compare members)
    (areMembers : ∀ other ∈ elements, members other) :
    (stableSort compare elements).Pairwise fun earlier later =>
      compare earlier later ≠ .gt := by
  induction elements with
  | nil => exact List.Pairwise.nil
  | cons head tail induction =>
      rcases List.forall_mem_cons.mp areMembers with ⟨headMember, tailMembers⟩
      exact pairwise_insertSorted preorder headMember
        (fun other member => tailMembers other (mem_stableSort.mp member))
          (induction tailMembers)

/-- An element is inserted in front of all that it equals. -/
theorem filter_insertSorted
    (preorder : IsPreorderOn compare members)
    {reference : α}
    (isReference : members reference)
    (isMember : members element)
    (areMembers : ∀ other ∈ elements, members other) :
    (insertSorted compare element elements).filter (compare reference · = .eq) =
      (element :: elements).filter (compare reference · = .eq) := by
  induction elements with
  | nil => rfl
  | cons head tail induction =>
      rcases List.forall_mem_cons.mp areMembers with ⟨headMember, tailMembers⟩
      rw [insertSorted]
      split
      · rename_i behind
        rw [List.filter_cons, induction tailMembers]
        by_cases equal : compare reference element = .eq
        · -- What the element passes is less than it, and so it does not equal
          -- the reference.
          have passed :=
            preorder.congr_left isReference isMember headMember equal
          simp [equal, passed, behind]
        · simp [equal, List.filter_cons]
      · rfl

/-- Sorting leaves equal elements in the order in which they stood. -/
theorem filter_stableSort
    (preorder : IsPreorderOn compare members)
    {reference : α}
    (isReference : members reference)
    (areMembers : ∀ other ∈ elements, members other) :
    (stableSort compare elements).filter (compare reference · = .eq) =
      elements.filter (compare reference · = .eq) := by
  induction elements with
  | nil => rfl
  | cons head tail induction =>
      rcases List.forall_mem_cons.mp areMembers with ⟨headMember, tailMembers⟩
      have sortedMembers : ∀ other ∈ stableSort compare tail, members other :=
        fun other member => tailMembers other (mem_stableSort.mp member)
      rw [stableSort,
        filter_insertSorted preorder isReference headMember sortedMembers,
        List.filter_cons, List.filter_cons, induction tailMembers]

/-! ## Stable arrangements -/

/-- The list has the elements in ascending order, equal ones in the order in
which they stood. -/
structure Arranges
    (compare : α → α → Ordering)
    (elements sorted : List α) : Prop where
  perm : sorted.Perm elements
  ascending :
    sorted.Pairwise fun earlier later => compare earlier later ≠ .gt
  stable : ∀ reference ∈ elements,
    sorted.filter (compare reference · = .eq) =
      elements.filter (compare reference · = .eq)

theorem arranges_stableSort
    (preorder : IsPreorderOn compare members)
    (areMembers : ∀ other ∈ elements, members other) :
    Arranges compare elements (stableSort compare elements) where
  perm := stableSort_perm compare elements
  ascending := pairwise_stableSort preorder areMembers
  stable reference member :=
    filter_stableSort preorder (areMembers reference member) areMembers

/-- What is greater than nothing behind it is greater than nothing from itself
on. -/
theorem not_gt_of_mem_cons
    {head other : α}
    {tail : List α}
    (preorder : IsPreorderOn compare members)
    (isHead : members head)
    (below : ∀ later ∈ tail, compare head later ≠ .gt)
    (member : other ∈ head :: tail) :
    compare head other ≠ .gt := by
  rcases List.mem_cons.mp member with rfl | inTail
  · simp [preorder.refl isHead]
  · exact below other inTail

/-- Two lists in ascending order are the same if they have the same elements
and agree on the order of equal ones. -/
theorem eq_of_ascending
    {first second : List α}
    (preorder : IsPreorderOn compare members)
    (areMembers : ∀ other ∈ first, members other)
    (perm : first.Perm second)
    (firstAscending :
      first.Pairwise fun earlier later => compare earlier later ≠ .gt)
    (secondAscending :
      second.Pairwise fun earlier later => compare earlier later ≠ .gt)
    (agree : ∀ reference ∈ first,
      first.filter (compare reference · = .eq) =
        second.filter (compare reference · = .eq)) :
    first = second := by
  induction first generalizing second with
  | nil => exact (List.nil_perm.mp perm).symm
  | cons head tail induction =>
      cases second with
      | nil => exact absurd perm.symm.nil_eq (List.cons_ne_nil head tail).symm
      | cons other others =>
          rcases List.pairwise_cons.mp firstAscending with
            ⟨headBelow, tailAscending⟩
          rcases List.pairwise_cons.mp secondAscending with
            ⟨otherBelow, othersAscending⟩
          have headMember := areMembers head List.mem_cons_self
          have otherInFirst := perm.mem_iff.mpr List.mem_cons_self
          have otherMember := areMembers other otherInFirst
          -- Each of the two heads stands in the other list, too.
          have notAbove : compare head other ≠ .gt :=
            not_gt_of_mem_cons preorder headMember headBelow otherInFirst
          have notBelow : compare other head ≠ .gt :=
            not_gt_of_mem_cons preorder otherMember otherBelow
              (perm.mem_iff.mp List.mem_cons_self)
          have equal : compare head other = .eq := by
            rw [preorder.swap headMember otherMember] at notBelow
            cases ordering : compare head other with
            | eq => rfl
            | lt => simp [ordering] at notBelow
            | gt => exact absurd ordering notAbove
          have heads := agree head List.mem_cons_self
          simp only [List.filter_cons, preorder.refl headMember, equal,
            decide_true, if_true, List.cons.injEq] at heads
          rcases heads with ⟨rfl, _⟩
          congr 1
          refine induction
            (fun element member =>
              areMembers element (List.mem_cons_of_mem head member))
            perm.cons_inv tailAscending othersAscending ?_
          intro reference member
          have both := agree reference (List.mem_cons_of_mem head member)
          simp only [List.filter_cons] at both
          split at both
          · exact List.tail_eq_of_cons_eq both
          · exact both

/-- There is one stable arrangement of some elements. -/
theorem Arranges.eq_stableSort
    {sorted : List α}
    (arranges : Arranges compare elements sorted)
    (preorder : IsPreorderOn compare members)
    (areMembers : ∀ other ∈ elements, members other) :
    sorted = stableSort compare elements := by
  have other := arranges_stableSort preorder areMembers
  apply eq_of_ascending preorder _
    (arranges.perm.trans other.perm.symm) arranges.ascending other.ascending
  · intro reference member
    have isElement := arranges.perm.mem_iff.mp member
    rw [arranges.stable reference isElement, other.stable reference isElement]
  · exact fun element member =>
      areMembers element (arranges.perm.mem_iff.mp member)

end JsonApi
