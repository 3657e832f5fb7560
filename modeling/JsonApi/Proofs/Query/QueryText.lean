import JsonApi.Proofs.Filter.Support
import JsonApi.Proofs.Query.Decoding
import Mathlib.Data.List.Basic

/-!
# Filters of query strings

Values in a query string are texts, and so are all scalars of the filter that
is gathered from it (`QueryParameters.allText_ofQueryString`).
-/

namespace JsonApi

namespace FilterBranch

/-- The items of a sequence are the values of its entries. -/
theorem mem_of_sequence?
    {entries : List (String × FilterInput)}
    {items : List FilterInput}
    (isSequence : sequence? entries = some items) :
    ∀ item ∈ items, ∃ entry ∈ entries, entry.2 = item := by
  unfold sequence? at isSequence
  split at isSequence
  · cases isSequence
  · rcases Option.map_eq_some_iff.mp isSequence with ⟨placed, isPlaced, equal⟩
    subst equal
    intro item member
    rcases List.mem_map.mp member with ⟨pair, sorted, isItem⟩
    have unsorted := (stableSort_perm _ placed).mem_iff.mp sorted
    rcases Outcome.mem_of_mapM_eq_some isPlaced pair unsorted with
      ⟨entry, entryMember, positioned⟩
    rcases Option.map_eq_some_iff.mp positioned with ⟨position, _, isPair⟩
    refine ⟨entry, entryMember, ?_⟩
    rw [← isItem, ← isPair]

theorem allText_inputOf
    {entries : List (String × FilterInput)}
    (texts : ∀ entry ∈ entries, FilterInput.AllText entry.2) :
    (inputOf entries).AllText := by
  rw [inputOf]
  split
  · rename_i items isSequence
    apply FilterInput.AllText.list
    intro item member
    rcases mem_of_sequence? isSequence item member with
      ⟨entry, entryMember, isItem⟩
    rw [← isItem]
    exact texts entry entryMember
  · exact FilterInput.AllText.map texts

mutual

/-- The leaves of a gathered filter are texts. -/
theorem allText_toInput (branch : FilterBranch) : branch.toInput.AllText := by
  match branch with
  | .leaf value =>
      rw [toInput]
      exact FilterInput.AllText.scalar value
  | .branch entries =>
      rw [toInput]
      exact allText_inputOf (allText_entriesToInput entries)

theorem allText_entriesToInput (entries : List (String × FilterBranch)) :
    ∀ entry ∈ entriesToInput entries, FilterInput.AllText entry.2 := by
  match entries with
  | [] =>
      rw [entriesToInput]
      exact fun entry member => nomatch member
  | (key, inner) :: entries =>
      rw [entriesToInput]
      exact List.forall_mem_cons.mpr
        ⟨allText_toInput inner, allText_entriesToInput entries⟩

end

end FilterBranch

namespace QueryParameters

/-! ## Decoding leaves the filter alone -/

@[simp]
theorem filter_addSortEntry
    (parameters : QueryParameters)
    (entry : String) :
    (parameters.addSortEntry entry).filter = parameters.filter := by
  rw [addSortEntry]
  split <;> rfl

@[simp]
theorem filter_addSort
    (parameters : QueryParameters)
    (written : String) :
    (parameters.addSort written).filter = parameters.filter := by
  rw [addSort]
  induction Text.splitAt ',' written generalizing parameters with
  | nil => rfl
  | cons entry entries induction =>
      rw [List.foldl_cons, induction, filter_addSortEntry]

@[simp]
theorem filter_addInclusions
    (parameters : QueryParameters)
    (written : String) :
    (parameters.addInclusions written).filter = parameters.filter := by
  rw [addInclusions]
  split <;> rfl

@[simp]
theorem filter_addPage
    (parameters : QueryParameters)
    (name written : String) :
    (parameters.addPage name written).filter = parameters.filter := by
  rw [addPage]
  split
  · split <;> rfl
  · rfl

namespace Decoding

theorem filter_add
    (decoding : Decoding)
    (pair : String × String) :
    (decoding.add pair).parameters.filter = decoding.parameters.filter := by
  rcases add_cases pair with ⟨path, _, _, added⟩ | ⟨change, effect, changed⟩
  · rw [added, addFilter]
    split <;> rfl
  · rw [changed]
    cases effect with
    | ignored => rfl
    | refused name reason known => rfl
    | sort => exact filter_addSort _ _
    | page isPage known => exact filter_addPage _ _ _
    | fields resourceType => rfl
    | inclusions => exact filter_addInclusions _ _

theorem allText_finish
    {decoding : Decoding}
    (noFilter : decoding.parameters.filter = .empty) :
    decoding.finish.filter.AllText := by
  rw [finish]
  split
  · exact FilterBranch.allText_toInput _
  · rw [noFilter]
    exact FilterInput.AllText.map fun entry member => nomatch member

end Decoding

theorem allText_ofPairs (pairs : List (String × String)) :
    (ofPairs pairs).filter.AllText := by
  have general :
      ∀ decoding : Decoding,
        (pairs.foldl Decoding.add decoding).parameters.filter =
          decoding.parameters.filter := by
    induction pairs with
    | nil => exact fun _ => rfl
    | cons pair rest induction =>
        intro decoding
        rw [List.foldl_cons, induction, Decoding.filter_add]
  exact Decoding.allText_finish (general {})

/-- All scalars in the filter of a query string are texts. -/
theorem allText_ofQueryString (query : String) :
    (ofQueryString query).filter.AllText := by
  rw [ofQueryString]
  split
  · exact allText_ofPairs _
  · exact allText_ofPairs _

end QueryParameters

end JsonApi
