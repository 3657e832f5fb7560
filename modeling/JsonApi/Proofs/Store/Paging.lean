import JsonApi.Proofs.Store.Collection
import Mathlib.Data.List.Range

/-!
# The pages of a collection

A specification asks for one page of a collection, and the pages from the first
to the last one are the whole collection cut into pieces.  Nothing is lost
between two pages and nothing stands on both of them.  The greatest count, at
which the offset of a page is stopped, lies behind every collection that can be
counted, and so a page behind the last one is empty however great its number is.

Sorting looks at no page, and so either all pages are found or none
(`Store.findCollection_pages`).
-/

namespace JsonApi

/-- Pieces of one size that follow each other are the beginning of the list. -/
theorem flatMap_take_drop
    {α : Type}
    (items : List α)
    (size count : Nat) :
    (List.range count).flatMap
      (fun index => (items.drop (index * size)).take size) =
      items.take (count * size) := by
  induction count with
  | zero => simp
  | succ count induction =>
      rw [List.range_succ, List.flatMap_append, induction,
        List.flatMap_singleton, Nat.succ_mul]
      exact List.take_add.symm

namespace Page

variable {α : Type} {number size total : Nat}

/-- The items of a list that stand on a page. -/
def cut (page : Page) (items : List α) : List α :=
  (items.drop page.offset).take page.size

theorem le_lastNumber_mul (positive : 1 ≤ size) :
    total ≤ Page.lastNumber ⟨number, size⟩ total * size := by
  have covered : total ≤ (total + size - 1) / size * size := by
    have remainder := Nat.mod_lt (total + size - 1) positive
    have division := Nat.div_add_mod' (total + size - 1) size
    omega
  exact covered.trans (Nat.mul_le_mul_right size (Nat.le_max_left _ _))

/-- A page before the last one ends before the collection does. -/
theorem mul_lt_of_lt_lastNumber
    {earlier : Nat}
    (positive : 1 ≤ size)
    (counted : 1 ≤ earlier)
    (before : earlier < Page.lastNumber ⟨number, size⟩ total) :
    earlier * size < total := by
  have among : earlier < (total + size - 1) / size := by
    rcases lt_max_iff.mp before with less | absurdity
    · exact less
    · omega
  have ends := (Nat.le_div_iff_mul_le positive).mp (Nat.succ_le_of_lt among)
  rw [Nat.succ_mul] at ends
  omega

theorem offset_eq_min (number size : Nat) :
    Page.offset ⟨number, size⟩ =
      min ((number - 1) * size) (Text.wordLimit - 1) :=
  rfl

theorem offset_of_lt (within : (number - 1) * size < Text.wordLimit) :
    Page.offset ⟨number, size⟩ = (number - 1) * size := by
  rw [offset_eq_min]
  omega

variable {items : List α}

/-- Before the last page no offset is stopped, and every page is full. -/
theorem length_cut_of_lt
    {reporter : Nat}
    (positive : 1 ≤ size)
    (countable : items.length < Text.wordLimit)
    (counted : 1 ≤ number)
    (before : number < Page.lastNumber ⟨reporter, size⟩ items.length) :
    (Page.cut ⟨number, size⟩ items).length = size := by
  have ends := mul_lt_of_lt_lastNumber positive counted before
  have begins : (number - 1) * size + size = number * size := by
    rw [← Nat.succ_mul, Nat.succ_eq_add_one, Nat.sub_add_cancel counted]
  rw [cut, offset_of_lt (by omega), List.length_take, List.length_drop]
  exact Nat.min_eq_left (show size ≤ _ by omega)

theorem cut_of_lastNumber_lt
    {reporter : Nat}
    (positive : 1 ≤ size)
    (countable : items.length < Text.wordLimit)
    (behind : Page.lastNumber ⟨reporter, size⟩ items.length < number) :
    Page.cut ⟨number, size⟩ items = [] := by
  have covered : items.length ≤ (number - 1) * size :=
    (le_lastNumber_mul positive).trans
      (Nat.mul_le_mul_right size (Nat.le_sub_one_of_lt behind))
  have outside : items.length ≤ Page.offset ⟨number, size⟩ := by
    rw [offset_eq_min]
    omega
  rw [cut, List.drop_eq_nil_of_le outside, List.take_nil]

/-- The pages up to the last one are the whole list, cut into pieces. -/
theorem flatMap_cut
    {reporter : Nat}
    (positive : 1 ≤ size)
    (countable : items.length < Text.wordLimit) :
    (List.range' 1 (Page.lastNumber ⟨reporter, size⟩ items.length)).flatMap
        (fun number => Page.cut ⟨number, size⟩ items) =
      items := by
  have pieces :
      ∀ index ∈ List.range (Page.lastNumber ⟨reporter, size⟩ items.length),
      Page.cut ⟨1 + index, size⟩ items =
        (items.drop (index * size)).take size := by
    intro index member
    have begins : (1 + index - 1) * size < Text.wordLimit := by
      rw [Nat.add_sub_cancel_left]
      rcases Nat.eq_zero_or_pos index with first | later
      · rw [first, Nat.zero_mul]
        exact Nat.zero_lt_of_lt countable
      · have within :=
          mul_lt_of_lt_lastNumber positive later (List.mem_range.mp member)
        omega
    rw [cut, offset_of_lt begins, Nat.add_sub_cancel_left]
  rw [List.range'_eq_map_range, List.flatMap_map, List.flatMap_congr pieces,
    flatMap_take_drop]
  exact List.take_of_length_le (le_lastNumber_mul positive)

end Page

/-- The specification with another page. -/
def QuerySpecification.atPage
    (specification : QuerySpecification)
    (page : Page) :
    QuerySpecification :=
  { specification with page := page }

namespace Store

variable {store : Store} {schema : Schema} {resourceType : String}
  {specification : QuerySpecification}

/-- All records of a type that satisfy a specification, in its order, whatever
its page is.  There are none if sorting gives up. -/
def answer
    (store : Store)
    (resourceType : String)
    (specification : QuerySpecification) :
    Except Disorder (List Record) :=
  sortBy (compareByKeys specification.sort)
    ((store.recordsOf resourceType).filter (store.meets specification))

theorem length_answer_le
    {answer : List Record}
    (answered : store.answer resourceType specification = .ok answer) :
    answer.length ≤ (store.recordsOf resourceType).length := by
  rw [(sortBy_perm answered).length_eq]
  exact List.length_filter_le _ _

/-- Up to twenty records are always answered with. -/
theorem exists_answer_of_few
    (few : ((store.recordsOf resourceType).filter
      (store.meets specification)).length ≤ 20) :
    ∃ answer, store.answer resourceType specification = .ok answer := by
  rw [answer, sortBy, if_pos few]
  exact ⟨_, rfl⟩

/-- Records with consistent numbers under the sort keys are answered with in
their order. -/
theorem exists_answer_of_consistent
    (consistent : ∀ key ∈ specification.sort,
      Number.Consistent
        (Record.NumberUnder (store.recordsOf resourceType) key.field)) :
    ∃ answer, store.answer resourceType specification = .ok answer ∧
      answer.Pairwise fun earlier later =>
        ¬Record.ComesAfter specification.sort earlier later := by
  refine ⟨_, sortBy_eq_ok_of_consistent consistent, ?_⟩
  apply (pairwise_stableSort (isPreorderOn_compareByKeys consistent)
    fun _ => List.mem_of_mem_filter).imp
  intro earlier later notGreater comesAfter
  exact notGreater (compareByKeys_eq_gt_iff.mpr comesAfter)

/-- If sorting gives up, there are more than twenty records, and under some
sort key their numbers do not go together. -/
theorem inconsistent_of_disorder
    {disorder : Disorder}
    (gaveUp : store.answer resourceType specification = .error disorder) :
    20 < ((store.recordsOf resourceType).filter
        (store.meets specification)).length ∧
      ∃ key ∈ specification.sort,
        ¬Number.Consistent
          (Record.NumberUnder (store.recordsOf resourceType) key.field) := by
  constructor
  · by_contra few
    rcases exists_answer_of_few (Nat.le_of_not_lt few) with ⟨answer, answered⟩
    rw [gaveUp] at answered
    cases answered
  · by_contra noKey
    have consistent : ∀ key ∈ specification.sort,
        Number.Consistent
          (Record.NumberUnder (store.recordsOf resourceType) key.field) :=
      fun key member => not_not.mp fun inconsistent =>
        noKey ⟨key, member, inconsistent⟩
    rcases exists_answer_of_consistent consistent with ⟨answer, answered, _⟩
    rw [gaveUp] at answered
    cases answered

/-- A specification whose filter compiles is answered with its page of the
whole answer. -/
theorem findCollection_eq
    (loaded : store.LoadedWith schema)
    (declared : schema.hasType resourceType = true)
    (compiles : ∀ filter, specification.filter = some filter →
      ∃ predicate, filter.toPredicate = .ok predicate) :
    store.findCollection resourceType specification =
      ((store.answer resourceType specification).map fun answer =>
        ⟨specification.page.cut answer, answer.length⟩).mapError
          .disordered := by
  have sound := sound_of_loadedWith loaded
  rcases Dictionary.find?_of_contains
    (sound.complete resourceType declared) with ⟨records, found⟩
  rw [findCollection, found]
  show (store.matching records specification).bind _ = _
  rw [← recordsOf_of_find? found, matching_eq store _ compiles, answer]
  cases sortBy (compareByKeys specification.sort)
    ((store.recordsOf resourceType).filter (store.meets specification)) with
  | ok answer => rfl
  | error disorder => rfl

/-- The pages up to the last one are the whole answer, all of them full but
the last one, and a page behind the last one is empty; every page reports the
same total.  There is no page at all only if sorting gives up, and that takes
more than twenty records, whose numbers under the sort keys do not go
together. -/
theorem findCollection_pages
    (loaded : store.LoadedWith schema)
    (declared : schema.hasType resourceType = true)
    (compiles : ∀ filter, specification.filter = some filter →
      ∃ predicate, filter.toPredicate = .ok predicate)
    -- No machine holds more records than it can count.
    (countable : (store.recordsOf resourceType).length < Text.wordLimit)
    {size : Nat}
    (positive : 1 ≤ size) :
    let found :=
      (store.recordsOf resourceType).filter (store.meets specification)
    (∀ disorder, store.answer resourceType specification = .error disorder →
      20 < found.length ∧
        (∃ key ∈ specification.sort,
          ¬Number.Consistent
            (Record.NumberUnder (store.recordsOf resourceType) key.field)) ∧
        ∀ number,
          store.findCollection resourceType
              (specification.atPage ⟨number, size⟩) =
            .error (.disordered disorder)) ∧
      ∀ answer, store.answer resourceType specification = .ok answer →
        answer.Perm found ∧
          ((∀ key ∈ specification.sort,
              Number.Consistent
                (Record.NumberUnder (store.recordsOf resourceType)
                  key.field)) →
            answer.Pairwise fun earlier later =>
              ¬Record.ComesAfter specification.sort earlier later) ∧
          ∃ slices : Nat → CollectionSlice Record,
            (∀ number, 1 ≤ number →
              store.findCollection resourceType
                  (specification.atPage ⟨number, size⟩) =
                .ok (slices number)) ∧
            ∀ reporter, 1 ≤ reporter →
              let last :=
                Page.lastNumber ⟨reporter, size⟩ (slices reporter).total
              (List.range' 1 last).flatMap
                  (fun number => (slices number).items) = answer ∧
                (∀ number, 1 ≤ number → number < last →
                  (slices number).items.length = size) ∧
                ∀ number, last < number →
                  (slices number).items = [] ∧
                    (slices number).total = (slices reporter).total := by
  have page : ∀ number,
      store.findCollection resourceType
          (specification.atPage ⟨number, size⟩) =
        ((store.answer resourceType specification).map fun answer =>
          ⟨Page.cut ⟨number, size⟩ answer, answer.length⟩).mapError
            .disordered :=
    fun number => findCollection_eq loaded declared compiles
  refine ⟨?_, ?_⟩
  · intro disorder gaveUp
    rcases inconsistent_of_disorder gaveUp with ⟨many, inconsistent⟩
    refine ⟨many, inconsistent, ?_⟩
    intro number
    rw [page number, gaveUp]
    rfl
  · intro answer answered
    have counted : answer.length < Text.wordLimit :=
      (length_answer_le answered).trans_lt countable
    refine ⟨sortBy_perm answered, ?_,
      fun number => ⟨Page.cut ⟨number, size⟩ answer, answer.length⟩, ?_, ?_⟩
    · intro consistent
      rcases exists_answer_of_consistent consistent with
        ⟨other, otherAnswered, ordered⟩
      rw [answered] at otherAnswered
      cases otherAnswered
      exact ordered
    · intro number _
      rw [page number, answered]
      rfl
    · intro reporter _
      refine ⟨Page.flatMap_cut positive counted, ?_, ?_⟩
      · intro number first before
        exact Page.length_cut_of_lt positive counted first before
      · intro number behind
        exact ⟨Page.cut_of_lastNumber_lt positive counted behind, rfl⟩

/-- The four books by Anna on pages of three; the page with the greatest number
is empty. -/
theorem findCollection_pages_shelf :
    ∃ slices : Nat → CollectionSlice Record,
      (∀ number, 1 ≤ number →
        shelf.findCollection "books" (shelfSpecification.atPage ⟨number, 3⟩) =
          .ok (slices number)) ∧
        ((slices 1).items ++ (slices 2).items).map Record.id =
          ["3", "1", "4", "2"] ∧
        (slices 1).items.length = 3 ∧
        (slices 18446744073709551615).items = [] ∧
          (slices 18446744073709551615).total = 4 := by
  have loaded : shelf.LoadedWith bookshelf := ⟨shelfFixture, rfl⟩
  have compiles : ∀ filter, shelfSpecification.filter = some filter →
      ∃ predicate, filter.toPredicate = .ok predicate := by
    intro filter isFilter
    cases isFilter
    exact ⟨_, rfl⟩
  have declared : bookshelf.hasType "books" = true := by decide
  rcases exists_answer_of_few (by decide : ((shelf.recordsOf "books").filter
    (shelf.meets shelfSpecification)).length ≤ 20) with ⟨answer, isAnswer⟩
  rcases (findCollection_pages loaded declared compiles (by decide)
    (by decide : 1 ≤ 3)).2 answer isAnswer with
    ⟨_, _, slices, answered, partitions⟩
  have total : (slices 1).total = 4 := by
    have counted :
        ((shelf.findCollection "books" (shelfSpecification.atPage
            ⟨1, 3⟩)).toOption.map CollectionSlice.total) = some 4 := by
      decide
    rw [answered 1 le_rfl] at counted
    exact Option.some.inj counted
  rcases partitions 1 le_rfl with ⟨whole, full, behind⟩
  rw [total] at whole full behind
  refine ⟨slices, answered, ?_, full 1 le_rfl (by decide), ?_⟩
  · have both : (slices 1).items ++ (slices 2).items = answer := by
      rw [← whole]
      exact congrArg ((slices 1).items ++ ·) (List.append_nil _).symm
    rw [both]
    cases isAnswer
    decide
  · rcases behind 18446744073709551615 (by decide) with ⟨empty, same⟩
    exact ⟨empty, same⟩

/-- Twenty-one books with ranks that differ and are not told apart. -/
def rankedFixture : Fixture :=
  let ranks : List Number :=
    [.integer 9007199254740992, .binary ⟨0x4340000000000000⟩,
      .integer 9007199254740993]
  [("books",
    (List.replicate 7 ranks).flatten.zipIdx.map fun (rank, index) =>
      ⟨.ofNat index, [("rank", .number rank)], []⟩)]

/-- Books have a rank. -/
def ranking : Schema :=
  Schema.empty.withType "books" ["rank"]

def rankedStore : Store :=
  (ofFixture ranking rankedFixture).toOption.getD ⟨[]⟩

/-- Asks for the first five books by rank. -/
def rankedSpecification : QuerySpecification :=
  { shelfSpecification with
    filter := none
    sort := [⟨"rank", false⟩]
    page := ⟨1, 5⟩ }

/-- Of so many books with such ranks there is not even a first page. -/
theorem findCollection_pages_ranked :
    rankedStore.LoadedWith ranking ∧
      ranking.hasType "books" = true ∧
      rankedSpecification.filter = none ∧
      rankedStore.findCollection "books"
          (rankedSpecification.atPage ⟨1, 5⟩) =
        .error (.disordered .crossedEnds) :=
  ⟨⟨rankedFixture, rfl⟩, by decide, rfl, rfl⟩

end Store

end JsonApi
