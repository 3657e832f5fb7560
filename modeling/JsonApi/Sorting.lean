/-!
# Sorting

`stableSort` says what sorting by a total preorder amounts to: the elements in
ascending order, equal ones in the order in which they stood.

`sortBy` is the sort that collections are put in order with.  Up to twenty
elements are inserted one after the other.  More elements are cut into runs:
stretches that are in order already, short stretches that are sorted at once,
and in long lists stretches that a quicksort gets to see later.  Neighbouring
runs are merged, as deep in a balanced tree as their places ask for.

Short stretches are sorted in two halves, which are merged from both ends at
the same time.  If the comparison is no order the two ends may claim the same
element.  The sort notices this, and then it gives up and has no result.
-/

namespace JsonApi

variable {α : Type}

/-! ## Stable sorting by insertion -/

/-- Puts an element in front of the first one that is not before it. -/
def insertSorted
    (compare : α → α → Ordering)
    (element : α) :
    List α → List α
  | [] => [element]
  | head :: tail =>
    if compare element head = .gt then
      head :: insertSorted compare element tail
    else element :: head :: tail

/-- The elements in ascending order, equal ones in the order in which they
stood. -/
def stableSort (compare : α → α → Ordering) : List α → List α
  | [] => []
  | head :: tail => insertSorted compare head (stableSort compare tail)

/-- Inserting adds exactly the element. -/
theorem insertSorted_perm
    (compare : α → α → Ordering)
    (element : α)
    (elements : List α) :
    (insertSorted compare element elements).Perm (element :: elements) := by
  induction elements with
  | nil => exact List.Perm.refl _
  | cons head tail hypothesis =>
    unfold insertSorted
    split
    · exact (hypothesis.cons head).trans (List.Perm.swap element head tail)
    · exact List.Perm.refl _

/-- Sorting neither loses nor repeats an element. -/
theorem stableSort_perm
    (compare : α → α → Ordering)
    (elements : List α) :
    (stableSort compare elements).Perm elements := by
  induction elements with
  | nil => exact List.Perm.refl _
  | cons head tail hypothesis =>
    exact (insertSorted_perm compare head _).trans (hypothesis.cons head)

/-- Why a sort gives up. -/
inductive Disorder where
  /-- Both ends of a merge claim the same element. -/
  | crossedEnds
deriving DecidableEq

namespace Sorting

/-! ## Merging -/

/-- What some steps of a merge take, in the order in which they take it, and
what they leave. -/
structure Merging (α : Type) where
  taken : List α
  lefts : List α
  rights : List α

/-- Some steps of a merge.  The heads of both lists decide which of them is
taken next, and there are no more steps when a list is used up. -/
def mergeSteps (takesRight : α → α → Bool) :
    Nat → List α → List α → Merging α
  | steps + 1, left :: lefts, right :: rights =>
    if takesRight left right then
      let later := mergeSteps takesRight steps (left :: lefts) rights
      { later with taken := right :: later.taken }
    else
      let later := mergeSteps takesRight steps lefts (right :: rights)
      { later with taken := left :: later.taken }
  | _, lefts, rights => ⟨[], lefts, rights⟩

/-- Merges from the front: a right element goes first only if it is before the
left one. -/
def mergeFront (compare : α → α → Ordering) :
    Nat → List α → List α → Merging α :=
  mergeSteps fun left right => compare right left = .lt

/-- Merges from the back, both lists being given in reverse: a left element
goes last only if the right one is before it. -/
def mergeBack (compare : α → α → Ordering) :
    Nat → List α → List α → Merging α :=
  mergeSteps fun left right => compare right left ≠ .lt

/-- Merges two lists, from the side of the shorter one. -/
def merge
    (compare : α → α → Ordering)
    (lefts rights : List α) :
    List α :=
  let steps := lefts.length + rights.length
  if lefts.length ≤ rights.length then
    let front := mergeFront compare steps lefts rights
    front.taken ++ front.lefts ++ front.rights
  else
    let back := mergeBack compare steps lefts.reverse rights.reverse
    (back.taken ++ back.lefts ++ back.rights).reverse

/-- Merges two lists from both ends, one half of the elements from each end.
There is no result if the ends claim the same element. -/
def mergeEnds
    (compare : α → α → Ordering)
    (lefts rights : List α) :
    Except Disorder (List α) :=
  let half := (lefts.length + rights.length) / 2
  let front := mergeFront compare half lefts rights
  let back := mergeBack compare half lefts.reverse rights.reverse
  let leftRest := front.lefts.length + back.lefts.length
  let rightRest := front.rights.length + back.rights.length
  if lefts.length ≤ leftRest ∧ rights.length ≤ rightRest then
    -- Of an odd number of elements one is claimed by neither end.
    .ok (front.taken ++ front.lefts.take (leftRest - lefts.length) ++
      front.rights.take (rightRest - rights.length) ++ back.taken.reverse)
  else .error .crossedEnds

/-! ## Short stretches -/

/-- Puts an element into a list that is given in reverse, behind all that it
is not before. -/
def insertBack
    (compare : α → α → Ordering)
    (element : α) :
    List α → List α
  | [] => [element]
  | last :: earlier =>
    if compare element last = .lt then
      last :: insertBack compare element earlier
    else element :: last :: earlier

/-- Inserts elements into a list one after the other, each from the end. -/
def insertAll
    (compare : α → α → Ordering)
    (sorted elements : List α) :
    List α :=
  (elements.foldl
    (fun reversed element => insertBack compare element reversed)
    sorted.reverse).reverse

/-- Sorts two elements. -/
def sortTwo
    (compare : α → α → Ordering)
    (first second : α) :
    α × α :=
  if compare second first = .lt then (second, first) else (first, second)

/-- Merges two sorted pairs with three comparisons: for the least element, for
the greatest one, and between the two that are left. -/
def mergePairs
    (compare : α → α → Ordering)
    (left right : α × α) :
    List α :=
  let crossesBelow := decide (compare right.1 left.1 = .lt)
  let crossesAbove := decide (compare right.2 left.2 = .lt)
  let least := if crossesBelow then right.1 else left.1
  let greatest := if crossesAbove then left.2 else right.2
  let earlier :=
    if crossesBelow then left.1
    else if crossesAbove then right.1
    else left.2
  let later :=
    if crossesAbove then right.2
    else if crossesBelow then left.2
    else right.1
  let middle := sortTwo compare earlier later
  [least, middle.1, middle.2, greatest]

/-- Sorts four elements with five comparisons. -/
def sortFour (compare : α → α → Ordering) : List α → List α
  | [first, second, third, fourth] =>
    mergePairs compare
      (sortTwo compare first second) (sortTwo compare third fourth)
  | elements => insertAll compare [] elements

/-- Sorts eight elements. -/
def sortEight
    (compare : α → α → Ordering)
    (elements : List α) :
    Except Disorder (List α) :=
  mergeEnds compare
    (sortFour compare (elements.take 4)) (sortFour compare (elements.drop 4))

/-- Sorts one half of a stretch with so many elements: the first ones at once
and the others by insertion. -/
def sortHalf
    (compare : α → α → Ordering)
    (total : Nat)
    (half : List α) :
    Except Disorder (List α) :=
  if 16 ≤ total then
    (sortEight compare (half.take 8)).map (insertAll compare · (half.drop 8))
  else if 8 ≤ total then
    .ok (insertAll compare (sortFour compare (half.take 4)) (half.drop 4))
  else .ok (insertAll compare [] half)

/-- Sorts a short stretch. -/
def sortShort
    (compare : α → α → Ordering)
    (elements : List α) :
    Except Disorder (List α) := do
  let half := elements.length / 2
  let lefts ← sortHalf compare elements.length (elements.take half)
  let rights ← sortHalf compare elements.length (elements.drop half)
  mergeEnds compare lefts rights

/-- The greatest length of a short stretch. -/
def shortLength : Nat := 32

/-! ## Runs -/

/-- A stretch of the list, which may have been sorted. -/
structure Run (α : Type) where
  elements : List α
  isSorted : Bool

/-- How many elements continue a run behind its last one. -/
def continuation
    (compare : α → α → Ordering)
    (descending : Bool) :
    α → List α → Nat
  | _, [] => 0
  | last, next :: later =>
    if decide (compare next last = .lt) = descending then
      continuation compare descending next later + 1
    else 0

/-- The length of the run that a list begins with, and whether the run is
strictly descending. -/
def leadingRun (compare : α → α → Ordering) : List α → Nat × Bool
  | first :: second :: later =>
    let descending := decide (compare second first = .lt)
    (continuation compare descending second later + 2, descending)
  | elements => (elements.length, false)

/-- Cuts off the first run: a long one as it is found in the list, and
otherwise a stretch that is sorted now, or else left for later. -/
def cutRun
    (compare : α → α → Ordering)
    (wanted : Nat)
    (eager : Bool)
    (elements : List α) :
    Except Disorder (Run α) :=
  let (length, descending) := leadingRun compare elements
  if wanted ≤ length then
    let found := elements.take length
    .ok ⟨if descending then found.reverse else found, true⟩
  else if eager then
    (sortShort compare (elements.take shortLength)).map (⟨·, true⟩)
  else .ok ⟨elements.take wanted, false⟩

/-- Cuts a list into runs, of which there are at most as many as elements. -/
def cutRuns
    (compare : α → α → Ordering)
    (wanted : Nat)
    (eager : Bool) :
    Nat → List α → Except Disorder (List (Run α))
  | _, [] => .ok []
  | 0, _ :: _ => .ok []
  | count + 1, elements => do
    let run ← cutRun compare wanted eager elements
    let others ←
      cutRuns compare wanted eager count
        (elements.drop run.elements.length)
    pure (run :: others)

/-- The elements of a run in order. -/
def Run.settle
    (sortLater : List α → Except Disorder (List α))
    (run : Run α) :
    Except Disorder (List α) :=
  if run.isSorted then .ok run.elements else sortLater run.elements

/-- Joins neighbouring runs.  Runs that are both left for later stay so, as
long as there is room to sort them then. -/
def joinRuns
    (compare : α → α → Ordering)
    (sortLater : List α → Except Disorder (List α))
    (room : Nat)
    (left right : Run α) :
    Except Disorder (Run α) :=
  let total := left.elements.length + right.elements.length
  if room < total ∨ left.isSorted ∨ right.isSorted then do
    let lefts ← left.settle sortLater
    let rights ← right.settle sortLater
    pure ⟨merge compare lefts rights, true⟩
  else .ok ⟨left.elements ++ right.elements, false⟩

/-- How deep in a balanced tree two neighbouring stretches are joined: the
number of leading bits that their middles have in common, as fractions of the
whole. -/
def joinDepth (total left middle right : Nat) : Nat :=
  let scale := (Nat.pow 2 62 + total - 1) / total
  let differing := (scale * (left + middle)) ^^^ (scale * (middle + right))
  if differing = 0 then 64 else 63 - differing.log2

/-- Joins a run with those that wait in front of it, as long as they are at
least so deep. -/
def collapse
    (join : Run α → Run α → Except Disorder (Run α))
    (depth : Nat) :
    List (Run α × Nat) → Run α → Except Disorder (List (Run α × Nat) × Run α)
  | [], run => .ok ([], run)
  | (left, leftDepth) :: waiting, run =>
    if depth ≤ leftDepth then do
      let joined ← join left run
      collapse join depth waiting joined
    else .ok ((left, leftDepth) :: waiting, run)

/-- Joins a run, behind which the list has been scanned so far, with those
that wait in front of it and those that follow. -/
def joinAll
    (join : Run α → Run α → Except Disorder (Run α))
    (total : Nat)
    (waiting : List (Run α × Nat))
    (run : Run α)
    (scanned : Nat) :
    List (Run α) → Except Disorder (Run α)
  | [] => (collapse join 0 waiting run).map Prod.snd
  | next :: later => do
    let reached := scanned + next.elements.length
    let depth :=
      joinDepth total (scanned - run.elements.length) scanned reached
    let (others, joined) ← collapse join depth waiting run
    joinAll join total ((joined, depth) :: others) next reached later

/-- How long a run in a list of so many elements has to be. -/
def wantedLength (total : Nat) : Nat :=
  if total ≤ 4096 then min (total - total / 2) 64
  else
    let shift := (1 + total.log2) / 2
    (Nat.pow 2 shift + total / Nat.pow 2 shift) / 2

/-- Sorts a list by runs. -/
def sortRuns
    (compare : α → α → Ordering)
    (sortLater : List α → Except Disorder (List α))
    (eager : Bool)
    (room : Nat)
    (elements : List α) :
    Except Disorder (List α) := do
  let total := elements.length
  match ← cutRuns compare (wantedLength total) eager total elements with
  | [] => pure []
  | run :: later =>
    let join := joinRuns compare sortLater room
    let whole ← joinAll join total [] run run.elements.length later
    whole.settle sortLater

/-! ## Quicksort -/

/-- The place of the median of three elements. -/
def medianOfThree
    (compare : α → α → Ordering)
    (elements : List α)
    (first second third : Fin elements.length) :
    Fin elements.length :=
  let belowSecond :=
    decide (compare (elements.get first) (elements.get second) = .lt)
  let belowThird :=
    decide (compare (elements.get first) (elements.get third) = .lt)
  if belowSecond = belowThird then
    let ascending :=
      decide (compare (elements.get second) (elements.get third) = .lt)
    if ascending = belowSecond then second else third
  else first

/-- The place of an element near the median of a stretch: the median of three
elements, which are chosen in the same way from three eighths of it. -/
def pivotIn
    (compare : α → α → Ordering)
    (elements : List α)
    (start length : Nat)
    (inside : start + length ≤ elements.length)
    (nonempty : 0 < length) :
    Fin elements.length :=
  if wide : 8 ≤ length then
    let part := length / 8
    medianOfThree compare elements
      (pivotIn compare elements start part (by omega) (by omega))
      (pivotIn compare elements (start + 4 * part) part (by omega) (by omega))
      (pivotIn compare elements (start + 7 * part) part (by omega) (by omega))
  else ⟨start, by omega⟩
termination_by length

/-- Divides a list in two without changing the order on either side; the
element at one place is not asked where it goes. -/
def divide
    (goesLeft : α → Bool)
    (place : Nat)
    (placeGoesLeft : Bool)
    (elements : List α) :
    List α × List α :=
  let sides := elements.zipIdx.partition fun (element, index) =>
    if index = place then placeGoesLeft else goesLeft element
  (sides.1.map Prod.fst, sides.2.map Prod.fst)

/-- Sorts a stretch by quicksort; after too many divisions it is sorted by
runs.  All elements are at least as great as the bound. -/
def quicksort (compare : α → α → Ordering) :
    Nat → Option α → List α → Except Disorder (List α)
  | 0, _, elements =>
    if elements.length ≤ shortLength then sortShort compare elements
    else sortRuns compare .ok true 0 elements
  | limit + 1, bound, elements =>
    if isShort : elements.length ≤ shortLength then
      sortShort compare elements
    else
      let place :=
        pivotIn compare elements 0 elements.length (by omega) (by omega)
      let pivot := elements.get place
      let (lefts, rights) :=
        divide (fun element => compare element pivot = .lt) place false
          elements
      if bound.all (fun least => compare least pivot = .lt) ∧ lefts ≠ [] then do
        let sortedRights ← quicksort compare limit (some pivot) rights
        let sortedLefts ← quicksort compare limit bound lefts
        pure (sortedLefts ++ sortedRights)
      else do
        -- The pivot is a least element, and all equal ones are sorted now.
        let (equals, greater) :=
          divide (fun element => compare pivot element ≠ .lt) place true
            elements
        let sortedGreater ← quicksort compare limit none greater
        pure (equals ++ sortedGreater)

/-- How many elements are sorted with memory for all of them. -/
def fullRoom : Nat := 1000000

end Sorting

open Sorting

/-- The elements in order, unless the sort notices that the comparison is no
order and gives up. -/
def sortBy
    (compare : α → α → Ordering)
    (elements : List α) :
    Except Disorder (List α) :=
  let total := elements.length
  if total ≤ 20 then .ok (insertAll compare [] elements)
  else
    let sortLater (later : List α) : Except Disorder (List α) :=
      quicksort compare (2 * later.length.log2) none later
    sortRuns compare sortLater (total ≤ 2 * shortLength)
      (max (total - total / 2) (min total fullRoom)) elements

end JsonApi
