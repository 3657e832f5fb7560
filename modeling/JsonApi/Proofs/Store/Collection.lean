import JsonApi.Proofs.Filter.Meaning
import JsonApi.Proofs.Json.Order
import JsonApi.Proofs.Sorting.SortBy
import JsonApi.Proofs.Store.Loading

/-!
# What a collection holds

A specification is answered with the records of a type that satisfy its filter,
read without compiling it.  None is left out or repeated, of two records the
earlier one does not come after the later one by the sort keys, and records that
the keys do not tell apart stay in the order of the fixture.
-/

namespace JsonApi

/-- Whether a record satisfies the filter of a specification, if it has one. -/
def Store.meets
    (store : Store)
    (specification : QuerySpecification)
    (record : Record) : Bool :=
  specification.filter.all fun filter => filter.holds (store.fieldValues record)

/-- Whether every item of a collection is on the page. -/
def Page.HoldsAll (page : Page) (total : Nat) : Prop :=
  ∀ index < total, page.offset ≤ index ∧ index < page.offset + page.size

instance (page : Page) (total : Nat) : Decidable (page.HoldsAll total) :=
  inferInstanceAs (Decidable (∀ index < total, _))

namespace Record

/-- The value that stands for a field in the order of records. -/
def sortValue (record : Record) (field : String) : Json :=
  (record.field? field).getD .null

/-- The records have equal values for every key. -/
def ties (keys : List SortKey) (left right : Record) : Bool :=
  keys.all fun key =>
    (left.sortValue key.field).order (right.sortValue key.field) = .eq

/-- By one key a record comes after another, if its value is greater or the key
is descending and its value is less. -/
def IsBehind (key : SortKey) (left right : Record) : Prop :=
  (left.sortValue key.field).order (right.sortValue key.field) =
    if key.descending then .lt else .gt

/-- By some key a record comes after another, and the keys before that one do
not tell them apart. -/
def ComesAfter (keys : List SortKey) (left right : Record) : Prop :=
  ∃ before key after,
    keys = before ++ key :: after ∧ ties before left right = true ∧
      IsBehind key left right

/-- A number stands in a field of some record. -/
def NumberUnder
    (records : List Record)
    (field : String)
    (number : Number) : Prop :=
  ∃ record ∈ records, record.field? field = some (.number number)

theorem numberIn_sortValue
    {records : List Record}
    {record : Record}
    (member : record ∈ records)
    (field : String) :
    Json.NumberIn (NumberUnder records field) (record.sortValue field) := by
  intro number isNumber
  rw [sortValue] at isNumber
  cases found : record.field? field with
  | none =>
      rw [found] at isNumber
      cases isNumber
  | some value =>
      rw [found, Option.getD_some] at isNumber
      exact ⟨record, member, found.trans (congrArg some isNumber)⟩

end Record

namespace Store

variable {store : Store} {keys : List SortKey} {left right : Record}

theorem compareByKey_eq_order
    (key : SortKey)
    (left right : Record) :
    compareByKey key left right =
      if key.descending then
        ((left.sortValue key.field).order (right.sortValue key.field)).swap
      else (left.sortValue key.field).order (right.sortValue key.field) := rfl

theorem compareByKey_eq_eq_iff {key : SortKey} :
    compareByKey key left right = .eq ↔
      (left.sortValue key.field).order (right.sortValue key.field) = .eq := by
  rw [compareByKey_eq_order]
  split
  · exact Ordering.swap_eq_eq
  · rfl

theorem compareByKey_eq_gt_iff {key : SortKey} :
    compareByKey key left right = .gt ↔ Record.IsBehind key left right := by
  rw [compareByKey_eq_order, Record.IsBehind]
  split
  · exact Ordering.swap_eq_gt
  · rfl

theorem compareByKeys_eq_eq_iff :
    compareByKeys keys left right = .eq ↔
      Record.ties keys left right = true := by
  induction keys with
  | nil => simp [compareByKeys, Record.ties]
  | cons key keys induction =>
      rw [compareByKeys, Ordering.then_eq_eq, compareByKey_eq_eq_iff, induction]
      simp [Record.ties]

/-- The first key that tells two records apart decides. -/
theorem compareByKeys_eq_gt_iff :
    compareByKeys keys left right = .gt ↔
      Record.ComesAfter keys left right := by
  induction keys with
  | nil =>
      constructor
      · intro absurdity
        cases absurdity
      · rintro ⟨before, key, after, split, -⟩
        cases before <;> cases split
  | cons key keys induction =>
      rw [compareByKeys, Ordering.then_eq_gt, compareByKey_eq_eq_iff,
        compareByKey_eq_gt_iff,
        induction]
      constructor
      · rintro (behind | ⟨same, before, later, after, split, tied, behind⟩)
        · exact ⟨[], key, keys, rfl, rfl, behind⟩
        · refine ⟨key :: before, later, after, congrArg (key :: ·) split, ?_,
            behind⟩
          simpa [Record.ties, same] using tied
      · rintro ⟨before, later, after, split, tied, behind⟩
        cases before with
        | nil =>
            cases split
            exact Or.inl behind
        | cons first before =>
            cases split
            rw [Record.ties, List.all_cons, Bool.and_eq_true,
              decide_eq_true_eq] at tied
            exact Or.inr ⟨tied.1, before, later, after, rfl, tied.2, behind⟩

/-- The sort keys order records if the numbers under each of their fields are
consistent. -/
theorem isPreorderOn_compareByKeys
    {records : List Record}
    (consistent :
      ∀ key ∈ keys, Number.Consistent (Record.NumberUnder records key.field)) :
    IsPreorderOn (compareByKeys keys) (· ∈ records) := by
  induction keys with
  | nil => exact ⟨fun _ _ => rfl, fun _ _ _ _ _ => by simp [compareByKeys]⟩
  | cons key keys induction =>
      rcases List.forall_mem_cons.mp consistent with ⟨ofKey, ofKeys⟩
      have values : IsPreorderOn
          (fun left right : Record =>
            (left.sortValue key.field).order (right.sortValue key.field))
          (· ∈ records) :=
        (Json.isPreorderOn_order ofKey).comap fun member =>
          Record.numberIn_sortValue member key.field
      have byKey : IsPreorderOn (compareByKey key) (· ∈ records) := by
        cases descending : key.descending with
        | false =>
            have same : compareByKey key = fun left right =>
                (left.sortValue key.field).order
                  (right.sortValue key.field) := by
              ext left right
              simp [compareByKey_eq_order, descending]
            rw [same]
            exact values
        | true =>
            have same : compareByKey key = fun left right =>
                ((left.sortValue key.field).order
                    (right.sortValue key.field)).swap := by
              ext left right
              simp [compareByKey_eq_order, descending]
            rw [same]
            exact values.reverse
      exact byKey.andThen (induction ofKeys)

/-! ## Answering -/

variable {specification : QuerySpecification} {records : List Record}

/-- A filter that compiles decides as it does without being compiled. -/
theorem matching_eq
    (store : Store)
    (records : List Record)
    (compiles : ∀ filter, specification.filter = some filter →
      ∃ predicate, filter.toPredicate = .ok predicate) :
    store.matching records specification =
      (sortBy (compareByKeys specification.sort)
        (records.filter (store.meets specification))).mapError
          .disordered := by
  rw [matching]
  cases isFilter : specification.filter with
  | none =>
      have same : store.satisfies none = store.meets specification := by
        ext record
        simp [satisfies, meets, isFilter]
      rw [← same]
      rfl
  | some filter =>
      rcases compiles filter isFilter with ⟨predicate, compiled⟩
      have same :
          store.satisfies (some predicate) = store.meets specification := by
        ext record
        simp [satisfies, meets, isFilter,
          Filter.holds_of_compile filter predicate compiled]
      simp only [compiled]
      rw [← same]
      rfl

/-- Records with consistent numbers under the sort keys are sorted. -/
theorem sortBy_eq_ok_of_consistent
    (consistent : ∀ key ∈ specification.sort,
      Number.Consistent (Record.NumberUnder records key.field)) :
    sortBy (compareByKeys specification.sort)
        (records.filter (store.meets specification)) =
      .ok (stableSort (compareByKeys specification.sort)
        (records.filter (store.meets specification))) :=
  sortBy_eq_ok (isPreorderOn_compareByKeys consistent)
    fun _ => List.mem_of_mem_filter

theorem take_drop_of_holdsAll
    {page : Page}
    (items : List Record)
    (everything : page.HoldsAll items.length) :
    (items.drop page.offset).take page.size = items := by
  rcases Nat.eq_zero_or_pos items.length with empty | inhabited
  · rw [List.length_eq_zero_iff.mp empty, List.drop_nil, List.take_nil]
  · have first := (everything 0 inhabited).1
    have last := (everything (items.length - 1) (by omega)).2
    have atStart : page.offset = 0 := by omega
    rw [atStart, List.drop_zero]
    exact List.take_of_length_le (by omega)

theorem Sound.nodup
    {schema : Schema}
    (sound : Sound schema store)
    (resourceType : String) :
    (store.recordsOf resourceType).Nodup :=
  List.Nodup.of_map Record.id (sound.records resourceType).distinct

/-- A page that holds everything has the records that satisfy the filter, each
once, in the order of the sort keys and otherwise in the order of the
fixture. -/
theorem findCollection_all
    {schema : Schema}
    (loaded : store.LoadedWith schema)
    {resourceType : String}
    (declared : schema.hasType resourceType = true)
    (compiles : ∀ filter, specification.filter = some filter →
      ∃ predicate, filter.toPredicate = .ok predicate)
    (consistent : ∀ key ∈ specification.sort,
      Number.Consistent
        (Record.NumberUnder (store.recordsOf resourceType) key.field))
    (everything : specification.page.HoldsAll
      ((store.recordsOf resourceType).filter
          (store.meets specification)).length) :
    ∃ slice, store.findCollection resourceType specification = .ok slice ∧
      slice.items.Nodup ∧
      (∀ record, record ∈ slice.items ↔
        record ∈ store.recordsOf resourceType ∧
          store.meets specification record = true) ∧
      slice.total = slice.items.length ∧
      (slice.items.Pairwise fun earlier later =>
        ¬Record.ComesAfter specification.sort earlier later) ∧
      ∀ record ∈ slice.items,
        slice.items.filter (Record.ties specification.sort record) =
          ((store.recordsOf resourceType).filter
              (store.meets specification)).filter
            (Record.ties specification.sort record) := by
  have sound := sound_of_loadedWith loaded
  let satisfying :=
    (store.recordsOf resourceType).filter (store.meets specification)
  let sorted := stableSort (compareByKeys specification.sort) satisfying
  have reordered : sorted.Perm satisfying := stableSort_perm _ _
  have preorder := isPreorderOn_compareByKeys consistent
  have within : ∀ record ∈ satisfying, record ∈ store.recordsOf resourceType :=
    fun _ => List.mem_of_mem_filter
  refine ⟨⟨sorted, sorted.length⟩, ?_, ?_, ?_, rfl, ?_, ?_⟩
  · rcases Dictionary.find?_of_contains
      (sound.complete resourceType declared) with
      ⟨records, found⟩
    rw [findCollection, found]
    show (store.matching records specification).bind _ = _
    rw [← recordsOf_of_find? found, matching_eq store _ compiles,
      sortBy_eq_ok_of_consistent consistent]
    show Except.ok (CollectionSlice.mk
      ((sorted.drop specification.page.offset).take specification.page.size)
        sorted.length) = _
    rw [take_drop_of_holdsAll sorted (by rwa [reordered.length_eq])]
  · exact reordered.nodup_iff.mpr ((sound.nodup resourceType).filter _)
  · intro record
    exact reordered.mem_iff.trans List.mem_filter
  · apply (pairwise_stableSort preorder within).imp
    intro earlier later notGreater comesAfter
    exact notGreater (compareByKeys_eq_gt_iff.mpr comesAfter)
  · intro record member
    have tied : (fun other =>
        decide (compareByKeys specification.sort record other = .eq)) =
        Record.ties specification.sort record := by
      ext other
      simp [compareByKeys_eq_eq_iff]
    rw [← tied]
    exact filter_stableSort preorder
      (within record (reordered.mem_iff.mp member)) within

/-! ## Rated books -/

/-- Books have authors and, most of them, a rating. -/
def bookshelf : Schema :=
  ((Schema.empty.withType "books" ["rating"]).withType "people"
      ["name"]).withRelationship "books" "authors" ⟨"people", true⟩

/-- All but the last book are by Anna; the first and the fourth have the same
rating. -/
def shelfFixture : Fixture :=
  [("books",
    [⟨.string "1", [("rating", .ofInt 3)], [("authors", .array [.string "a"])]⟩,
      ⟨.string "2", [], [("authors", .array [.string "b", .string "a"])]⟩,
      ⟨.string "3", [("rating", .ofInt 5)],
        [("authors", .array [.string "a"])]⟩,
      ⟨.string "4", [("rating", .ofInt 3)],
        [("authors", .array [.string "a"])]⟩,
      ⟨.string "5", [("rating", .ofInt 4)],
        [("authors", .array [.string "b"])]⟩]),
    ("people",
      [⟨.string "a", [("name", .string "Anna")], []⟩, ⟨.string "b", [], []⟩])]

def shelf : Store :=
  (ofFixture bookshelf shelfFixture).toOption.getD ⟨[]⟩

/-- Whether a value is an integer if it is a number. -/
def isWhole : Json → Bool
  | .number number => number.toInt64?.isSome
  | _ => true

/-- Asks for the books by Anna, the best first. -/
def shelfSpecification : QuerySpecification where
  resourceType := "books"
  filter := some (.comparison "authors.name" "eq" [.string "Anna"])
  sort := [⟨"rating", true⟩]
  page := ⟨1, 20⟩
  fields := .all
  inclusion := IncludeTree.empty
  complexity := ⟨0, 0, 0, 0⟩

theorem findCollection_all_shelf :
    ∃ slice, shelf.findCollection "books" shelfSpecification = .ok slice ∧
      slice.items.map Record.id = ["3", "1", "4", "2"] ∧
      slice.items.Pairwise fun earlier later =>
        ¬Record.ComesAfter shelfSpecification.sort earlier later := by
  have loaded : shelf.LoadedWith bookshelf := ⟨shelfFixture, rfl⟩
  have compiles : ∀ filter, shelfSpecification.filter = some filter →
      ∃ predicate, filter.toPredicate = .ok predicate := by
    intro filter isFilter
    cases isFilter
    exact ⟨_, rfl⟩
  have consistent : ∀ key ∈ shelfSpecification.sort,
      Number.Consistent
        (Record.NumberUnder (shelf.recordsOf "books") key.field) := by
    have integers : ∀ record ∈ shelf.recordsOf "books",
        (record.field? "rating").all isWhole = true := by
      decide
    intro key isKey
    cases List.mem_singleton.mp isKey
    refine Or.inl ?_
    rintro number ⟨record, member, found⟩
    have isInteger := integers record member
    rw [found] at isInteger
    exact isInteger
  have everything : shelfSpecification.page.HoldsAll
      ((shelf.recordsOf "books").filter
          (shelf.meets shelfSpecification)).length := by
    decide
  rcases findCollection_all loaded (by decide) compiles consistent
    everything with
    ⟨slice, found, _, _, _, ordered, _⟩
  refine ⟨slice, found, ?_, ordered⟩
  cases found
  decide

end Store

end JsonApi
