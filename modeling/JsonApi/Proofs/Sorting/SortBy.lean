import JsonApi.Proofs.Sorting.Runs

/-!
# Quicksort and the whole sort

Dividing a list at a pivot and sorting both sides sorts the list, if all that
goes left is less than all that goes right.  With that, the sort is described
as a whole: whatever it returns is a rearrangement of the elements, and by a
total preorder it returns the stable one (`sortBy_achieves`).
-/

namespace JsonApi

namespace Sorting

variable {α : Type} {compare : α → α → Ordering} {members : α → Prop}
  {elements : List α}

/-! ## Dividing -/

theorem divide_perm
    (goesLeft : α → Bool)
    (place : Nat)
    (placeGoesLeft : Bool)
    (elements : List α) :
    ((divide goesLeft place placeGoesLeft elements).1 ++
      (divide goesLeft place placeGoesLeft elements).2).Perm elements := by
  rw [divide]
  dsimp only
  rw [List.partition_eq_filter_filter, ← List.map_append]
  have whole := (List.filter_append_perm
    (fun (entry : α × Nat) =>
      if entry.2 = place then placeGoesLeft else goesLeft entry.1)
    elements.zipIdx).map Prod.fst
  rw [List.zipIdx_map_fst] at whole
  exact whole

theorem mem_of_mem_divide_left
    {goesLeft : α → Bool}
    {place : Nat}
    {placeGoesLeft : Bool}
    {other : α}
    (member : other ∈ (divide goesLeft place placeGoesLeft elements).1) :
    other ∈ elements :=
  (divide_perm goesLeft place placeGoesLeft elements).mem_iff.mp
    (List.mem_append_left _ member)

theorem mem_of_mem_divide_right
    {goesLeft : α → Bool}
    {place : Nat}
    {placeGoesLeft : Bool}
    {other : α}
    (member : other ∈ (divide goesLeft place placeGoesLeft elements).2) :
    other ∈ elements :=
  (divide_perm goesLeft place placeGoesLeft elements).mem_iff.mp
    (List.mem_append_right _ member)

/-- If the element at the place would be answered likewise, dividing asks all
elements. -/
theorem divide_eq_filter
    {goesLeft : α → Bool}
    {place : Nat}
    {placeGoesLeft : Bool}
    (agrees : ∀ element, elements[place]? = some element →
      goesLeft element = placeGoesLeft) :
    divide goesLeft place placeGoesLeft elements =
      (elements.filter goesLeft, elements.filter (!goesLeft ·)) := by
  have asked : ∀ entry ∈ elements.zipIdx,
      (if entry.2 = place then placeGoesLeft else goesLeft entry.1) =
        goesLeft entry.1 := by
    intro entry member
    split
    · rename_i isPlace
      have found := List.mem_zipIdx_iff_getElem?.mp member
      rw [isPlace] at found
      exact (agrees entry.1 found).symm
    · rfl
  rw [divide]
  dsimp only
  have lefts :
      elements.zipIdx.filter (fun entry =>
        if entry.2 = place then placeGoesLeft else goesLeft entry.1) =
        elements.zipIdx.filter (goesLeft ∘ Prod.fst) :=
    List.filter_congr asked
  have rights :
      elements.zipIdx.filter (not ∘ fun entry =>
        if entry.2 = place then placeGoesLeft else goesLeft entry.1) =
        elements.zipIdx.filter ((!goesLeft ·) ∘ Prod.fst) :=
    List.filter_congr fun entry member =>
      congrArg not (asked entry member)
  rw [List.partition_eq_filter_filter, lefts, rights, ← List.filter_map,
    ← List.filter_map, List.zipIdx_map_fst]

/-- A division that puts all elements on one side changes nothing. -/
theorem filter_append_filter_not
    {goesLeft : α → Bool}
    {side : Bool}
    (same : ∀ other ∈ elements, goesLeft other = side) :
    elements.filter goesLeft ++ elements.filter (!goesLeft ·) = elements := by
  cases side with
  | true =>
      rw [List.filter_eq_self.mpr same, List.filter_eq_nil_iff.mpr,
        List.append_nil]
      intro other member
      simp [same other member]
  | false =>
      rw [List.filter_eq_nil_iff.mpr, List.filter_eq_self.mpr, List.nil_append]
      · intro other member
        simp [same other member]
      · intro other member
        simp [same other member]

/-- If all on the left are less than all on the right, equal elements are on
the same side. -/
theorem goesLeft_eq_of_eq
    {goesLeft : α → Bool}
    (preorder : IsPreorderOn compare members)
    (areMembers : ∀ other ∈ elements, members other)
    (divides : ∀ left ∈ elements, ∀ right ∈ elements, goesLeft left = true →
      goesLeft right = false → compare left right = .lt)
    {reference other : α}
    (isElement : reference ∈ elements)
    (isOther : other ∈ elements)
    (equal : compare reference other = .eq) :
    goesLeft other = goesLeft reference := by
  have back := preorder.eq_back (areMembers reference isElement)
    (areMembers other isOther) equal
  cases otherLeft : goesLeft other with
  | true =>
      cases referenceLeft : goesLeft reference with
      | true => rfl
      | false =>
          have less :=
            divides other isOther reference isElement otherLeft referenceLeft
          simp [less] at back
  | false =>
      cases referenceLeft : goesLeft reference with
      | false => rfl
      | true =>
          have less :=
            divides reference isElement other isOther referenceLeft otherLeft
          simp [less] at equal

/-- Sorting two sides sorts the whole, if all on the left are less than all on
the right. -/
theorem stableSort_filter
    {goesLeft : α → Bool}
    (preorder : IsPreorderOn compare members)
    (areMembers : ∀ other ∈ elements, members other)
    (divides : ∀ left ∈ elements, ∀ right ∈ elements, goesLeft left = true →
      goesLeft right = false → compare left right = .lt) :
    stableSort compare (elements.filter goesLeft) ++
        stableSort compare (elements.filter (!goesLeft ·)) =
      stableSort compare elements := by
  have sideMembers : ∀ side : α → Bool,
      ∀ other ∈ elements.filter side, members other :=
    fun side other member => areMembers other (List.mem_of_mem_filter member)
  refine Arranges.eq_stableSort ⟨?_, ?_, ?_⟩ preorder areMembers
  · exact ((stableSort_perm ..).append (stableSort_perm ..)).trans
      (List.filter_append_perm goesLeft elements)
  · apply List.pairwise_append.mpr
    refine ⟨pairwise_stableSort preorder (sideMembers _),
      pairwise_stableSort preorder (sideMembers _), ?_⟩
    intro left isLeft right isRight
    simp only [mem_stableSort, List.mem_filter, Bool.not_eq_true']
      at isLeft isRight
    simp [divides left isLeft.1 right isRight.1 isLeft.2 isRight.2]
  · intro reference isElement
    have isReference := areMembers reference isElement
    rw [List.filter_append,
      filter_stableSort preorder isReference (sideMembers _),
      filter_stableSort preorder isReference (sideMembers _)]
    rw [List.filter_comm, List.filter_comm _ (!goesLeft ·)]
    -- All that equal the reference are on its side.
    apply filter_append_filter_not
    intro other member
    rw [List.mem_filter, decide_eq_true_iff] at member
    exact goesLeft_eq_of_eq preorder areMembers divides isElement member.1
      member.2

/-! ## Quicksort -/

section Pivot

variable {pivot : α} {place : Nat} {sortedLefts sortedRights : List α}

/-- By a preorder the pivot itself would go right. -/
theorem divide_below
    (preorder : IsPreorderOn compare members)
    (pivotMember : members pivot)
    (isPivot : elements[place]? = some pivot) :
    divide (compare · pivot = .lt) place false elements =
      (elements.filter (compare · pivot = .lt),
        elements.filter fun other => !decide (compare other pivot = .lt)) := by
  apply divide_eq_filter
  rw [isPivot]
  rintro _ ⟨rfl⟩
  simp [preorder.refl pivotMember]

/-- Sorting what is less than a pivot and what is not sorts the list. -/
theorem sorts_of_below
    (areMembers : ∀ other ∈ elements, members other)
    (isPivot : elements[place]? = some pivot) :
    let sides := divide (compare · pivot = .lt) place false elements
    Sorts compare members sides.1 sortedLefts →
      Sorts compare members sides.2 sortedRights →
        Sorts compare members elements (sortedLefts ++ sortedRights) := by
  intro sides left right
  have pivotMember := areMembers pivot (List.mem_of_getElem? isPivot)
  refine ⟨(left.perm.append right.perm).trans (divide_perm ..), ?_⟩
  intro preorder
  have divided : sides = _ := divide_below preorder pivotMember isPivot
  rw [left.stable preorder, right.stable preorder, divided]
  apply stableSort_filter preorder areMembers
  intro lesser isLesser greater isGreater less notLess
  rw [decide_eq_true_iff] at less
  rw [decide_eq_false_iff_not] at notLess
  have isMember := areMembers greater isGreater
  exact preorder.lt_of_lt_of_le (areMembers lesser isLesser) pivotMember
    isMember less (preorder.not_gt pivotMember isMember notLess)

/-- If nothing is less than the pivot, what is not greater is sorted. -/
theorem sorts_of_least
    (areMembers : ∀ other ∈ elements, members other)
    (isPivot : elements[place]? = some pivot)
    (isLeast : IsPreorderOn compare members →
      ∀ other ∈ elements, compare other pivot ≠ .lt) :
    let sides := divide (compare pivot · ≠ .lt) place true elements
    Sorts compare members sides.2 sortedRights →
      Sorts compare members elements (sides.1 ++ sortedRights) := by
  intro sides right
  have pivotMember := areMembers pivot (List.mem_of_getElem? isPivot)
  refine ⟨(right.perm.append_left sides.1).trans (divide_perm ..), ?_⟩
  intro preorder
  have divided : sides = _ := divide_eq_filter (by
    rw [isPivot]
    rintro _ ⟨rfl⟩
    simp [preorder.refl pivotMember])
  have divides : ∀ lesser ∈ elements, ∀ greater ∈ elements,
      decide (compare pivot lesser ≠ .lt) = true →
      decide (compare pivot greater ≠ .lt) = false →
        compare lesser greater = .lt := by
    intro lesser isLesser greater isGreater notGreater less
    rw [decide_eq_true_iff] at notGreater
    rw [decide_eq_false_iff_not, not_not] at less
    have isMember := areMembers lesser isLesser
    exact preorder.lt_of_le_of_lt isMember pivotMember
      (areMembers greater isGreater)
      (preorder.not_gt isMember pivotMember notGreater) less
  rw [right.stable preorder, divided,
    ← stableSort_filter preorder areMembers divides]
  congr 1
  refine (stableSort_of_pairwise (List.pairwise_of_forall_mem_list ?_)).symm
  intro first isFirst second isSecond
  rw [List.mem_filter, decide_eq_true_iff] at isFirst isSecond
  have firstMember := areMembers first isFirst.1
  have secondMember := areMembers second isSecond.1
  exact preorder.trans firstMember pivotMember secondMember
    (preorder.not_gt firstMember pivotMember isFirst.2)
    (preorder.not_gt pivotMember secondMember
      (isLeast preorder second isSecond.1))

/-- No element is less than the bound, if there is one. -/
def BoundedBy
    (compare : α → α → Ordering)
    (members : α → Prop)
    (bound : Option α)
    (elements : List α) : Prop :=
  ∀ least ∈ bound,
    members least ∧ ∀ other ∈ elements, compare other least ≠ .lt

theorem BoundedBy.of_subset
    {bound : Option α}
    {part : List α}
    (bounded : BoundedBy compare members bound elements)
    (within : ∀ other ∈ part, other ∈ elements) :
    BoundedBy compare members bound part := by
  intro least isLeast
  rcases bounded least isLeast with ⟨leastMember, isBound⟩
  exact ⟨leastMember, fun other member => isBound other (within other member)⟩

/-- The pivot bounds what does not go left. -/
theorem boundedBy_pivot
    (preorder : IsPreorderOn compare members)
    (pivotMember : members pivot)
    (isPivot : elements[place]? = some pivot) :
    BoundedBy compare members (some pivot)
      (divide (compare · pivot = .lt) place false elements).2 := by
  rintro _ ⟨rfl⟩
  refine ⟨pivotMember, ?_⟩
  intro other member
  rw [divide_below preorder pivotMember isPivot] at member
  simpa using (List.mem_filter.mp member).2

/-- A pivot that is not above the bound, or has nothing to its left, is a least
element. -/
theorem not_lt_of_not_between
    {bound : Option α}
    (preorder : IsPreorderOn compare members)
    (areMembers : ∀ other ∈ elements, members other)
    (isPivot : elements[place]? = some pivot)
    (bounded : BoundedBy compare members bound elements)
    (notBetween : ¬(bound.all (compare · pivot = .lt) = true ∧
      (divide (compare · pivot = .lt) place false elements).1 ≠ [])) :
    ∀ other ∈ elements, compare other pivot ≠ .lt := by
  have pivotMember := areMembers pivot (List.mem_of_getElem? isPivot)
  intro other isElement less
  apply notBetween
  constructor
  · apply (Option.all_eq_true _ bound).mpr
    intro least isLeast
    rcases bounded least isLeast with ⟨leastMember, isBound⟩
    have otherMember := areMembers other isElement
    have notGreater :=
      preorder.not_gt leastMember otherMember (isBound other isElement)
    simp [preorder.lt_of_le_of_lt leastMember otherMember pivotMember
      notGreater less]
  · rw [divide_below preorder pivotMember isPivot]
    apply List.ne_nil_of_mem (a := other)
    simp [isElement, less]

end Pivot

/-- Quicksort sorts the list, if all elements are at least as great as the
bound. -/
theorem quicksort_achieves
    {limit : Nat}
    {bound : Option α}
    (areMembers : ∀ other ∈ elements, members other)
    (bounded : IsPreorderOn compare members →
      BoundedBy compare members bound elements) :
    Achieves compare members elements
      (quicksort compare limit bound elements) := by
  induction limit generalizing bound elements with
  | zero =>
      rw [quicksort]
      split
      · exact sortShort_achieves compare areMembers
      · exact sortRuns_achieves compare 0 areMembers
          (sortsLater_of_eager compare members Except.ok)
  | succ limit induction =>
      rw [quicksort]
      split
      · exact sortShort_achieves compare areMembers
      · dsimp only
        generalize pivotIn compare elements 0 elements.length _ _ = place
        have isPivot : elements[place.val]? = some (elements.get place) :=
          List.getElem?_eq_getElem place.isLt
        generalize elements.get place = pivot at isPivot ⊢
        have pivotMember := areMembers pivot (List.mem_of_getElem? isPivot)
        split
        · refine Outcome.bind (induction ?_ ?_) fun sortedRights right => ?_
          · exact fun other member =>
              areMembers other (mem_of_mem_divide_right member)
          · exact fun preorder =>
              boundedBy_pivot preorder pivotMember isPivot
          · refine Outcome.bind (induction ?_ ?_) fun sortedLefts left => ?_
            · exact fun other member =>
                areMembers other (mem_of_mem_divide_left member)
            · exact fun preorder => (bounded preorder).of_subset
                fun _ => mem_of_mem_divide_left
            · exact sorts_of_below areMembers isPivot left right
        · rename_i notBetween
          refine Outcome.bind (induction ?_ ?_) fun sortedGreater greater => ?_
          · exact fun other member =>
              areMembers other (mem_of_mem_divide_right member)
          · exact fun _ _ isLeast => nomatch isLeast
          · refine sorts_of_least areMembers isPivot ?_ greater
            exact fun preorder => not_lt_of_not_between preorder areMembers
              isPivot (bounded preorder) notBetween

end Sorting

open Sorting

variable {α : Type} {compare : α → α → Ordering} {members : α → Prop}
  {elements : List α}

/-- The sort rearranges the elements, and by a total preorder it arranges them
stably; only if the comparison is none there may be no result. -/
theorem sortBy_achieves (areMembers : ∀ other ∈ elements, members other) :
    Achieves compare members elements (sortBy compare elements) := by
  rw [sortBy]
  split
  · exact insertAll_sorts (List.forall_mem_nil _) areMembers Sorts.nil
  · have isEager : decide (elements.length ≤ 2 * shortLength) =
        !!decide (elements.length ≤ 2 * shortLength) := by
      simp
    rw [isEager]
    apply sortRuns_achieves compare _ areMembers
    intro _ later laterMembers
    exact quicksort_achieves laterMembers fun _ _ isLeast => nomatch isLeast

/-- No element is lost or repeated, whatever the comparison is. -/
theorem sortBy_perm
    {sorted : List α}
    (isSorted : sortBy compare elements = .ok sorted) :
    sorted.Perm elements := by
  have achieves : Achieves compare (fun _ => True) elements _ :=
    sortBy_achieves fun _ _ => True.intro
  exact (achieves.of_ok isSorted).perm

/-- By a total preorder the sort does not give up. -/
theorem sortBy_eq_ok
    (preorder : IsPreorderOn compare members)
    (areMembers : ∀ other ∈ elements, members other) :
    sortBy compare elements = .ok (stableSort compare elements) := by
  have achieves : Achieves compare members elements _ :=
    sortBy_achieves areMembers
  cases sorted : sortBy compare elements with
  | ok result =>
      rw [sorted] at achieves
      rw [achieves.stable preorder]
  | error disorder =>
      rw [sorted] at achieves
      exact absurd preorder achieves

end JsonApi
