import JsonApi.Filter.Reading
import Mathlib.Data.Finset.Card

/-!
# First occurrences

Fields of a filter and requested include paths are checked once each, in the
order in which they first occur.  `FirstOccurring` says what that means without
going through the list: which texts there are, and that each stands before
those that first occur behind it.  Where a check reports at most one fault of
a text, the faults reported for the first occurrences are those of such a list,
in its order (`exists_firstOccurring_filterMap`).
-/

namespace JsonApi

variable {texts : List String}

theorem mem_firstOccurrences {text : String} :
    text ∈ firstOccurrences texts ↔ text ∈ texts := by
  induction texts with
  | nil => simp [firstOccurrences]
  | cons first rest induction =>
      rw [firstOccurrences, List.mem_cons, List.mem_cons, List.mem_filter,
        induction]
      by_cases isFirst : text = first <;> simp [isFirst]

theorem firstOccurrences_of_nodup (distinct : texts.Nodup) :
    firstOccurrences texts = texts := by
  induction texts with
  | nil => rfl
  | cons text texts induction =>
      rcases List.nodup_cons.mp distinct with ⟨absent, rest⟩
      have kept : texts.filter (fun other => other ≠ text) = texts := by
        apply List.filter_eq_self.mpr
        intro other member
        simpa using ne_of_mem_of_not_mem member absent
      rw [firstOccurrences, induction rest, kept]

/-- First occurrences stand in the order of their places. -/
theorem pairwise_firstOccurrences (texts : List String) :
    (firstOccurrences texts).Pairwise fun first second =>
      texts.idxOf first < texts.idxOf second := by
  induction texts with
  | nil => exact .nil
  | cons text texts induction =>
      have differs {other : String}
          (member : other ∈ (firstOccurrences texts).filter fun other =>
              other ≠ text) :
          text ≠ other := by
        have kept := (List.mem_filter.mp member).2
        exact Ne.symm (by simpa using kept)
      rw [firstOccurrences, List.pairwise_cons]
      constructor
      · intro other member
        rw [List.idxOf_cons_self, List.idxOf_cons_ne texts (differs member)]
        exact Nat.succ_pos _
      · -- Behind the first text, all places are one greater.
        apply List.Pairwise.imp_of_mem _ (induction.filter _)
        intro first second firstMember secondMember earlier
        rw [List.idxOf_cons_ne texts (differs firstMember),
          List.idxOf_cons_ne texts (differs secondMember)]
        exact Nat.succ_lt_succ earlier

/-- There are as many first occurrences as different texts. -/
theorem length_firstOccurrences (texts : List String) :
    (firstOccurrences texts).length = texts.toFinset.card := by
  have distinct : (firstOccurrences texts).Nodup :=
    (pairwise_firstOccurrences texts).imp fun earlier same =>
      absurd (same ▸ earlier) (Nat.lt_irrefl _)
  have sameTexts : (firstOccurrences texts).toFinset = texts.toFinset := by
    ext text
    rw [List.mem_toFinset, List.mem_toFinset, mem_firstOccurrences]
  rw [← sameTexts, List.toFinset_card_of_nodup distinct]

/-- The texts of a list that are wanted, each once, in the order in which they
first occur. -/
structure FirstOccurring
    (wanted : String → Prop)
    (texts listed : List String) : Prop where
  mem_iff : ∀ text, text ∈ listed ↔ text ∈ texts ∧ wanted text
  ordered : listed.Pairwise fun first second =>
    texts.idxOf first < texts.idxOf second

/-- Each result belongs to a text that is kept. -/
theorem forall₂_filterMap
    {α β : Type}
    (report : α → Option β)
    (items : List α) :
    List.Forall₂ (fun item result => report item = some result)
      (items.filter fun item => (report item).isSome)
        (items.filterMap report) := by
  induction items with
  | nil => exact .nil
  | cons item items induction =>
      cases reported : report item with
      | none => simpa [reported] using induction
      | some result => simpa [reported] using induction

/-- What is reported of first occurrences is reported of the texts at fault, one
result for each. -/
theorem exists_firstOccurring_filterMap
    {α : Type}
    (report : String → Option α)
    (texts : List String) :
    ∃ listed,
      FirstOccurring (fun text => ∃ result, report text = some result) texts
        listed ∧
        List.Forall₂ (fun text result => report text = some result) listed
          ((firstOccurrences texts).filterMap report) := by
  refine ⟨_, ⟨?_, (pairwise_firstOccurrences texts).filter _⟩,
    forall₂_filterMap report _⟩
  intro text
  rw [List.mem_filter, mem_firstOccurrences, Option.isSome_iff_exists]

end JsonApi
