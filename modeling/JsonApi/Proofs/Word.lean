import JsonApi.Proofs.Dictionary
import JsonApi.Proofs.Query.Complexity
import JsonApi.Proofs.Query.Page
import JsonApi.Word

/-!
# Computing in machine words

What is computed in words is what is computed in counts, wherever that fits.
-/

/-!
## The exact results of operations on words

Every operation on words is known by the counts that its operands and its result
stand for: it has the exact result wherever that fits, and the saturating ones
are those on counts.  A quotient that is rounded up always fits, and a sum fits
if it does as a whole.
-/

namespace JsonApi.Word

open JsonApi.Text

/-! ### Exact results -/

theorem toNat_lt (word : UInt64) : word.toNat < wordLimit :=
  word.toNat_lt

theorem ofNat?_eq_some_iff
    {count : Nat}
    {word : UInt64} :
    ofNat? count = some word ↔ word.toNat = count := by
  have bounded := toNat_lt word
  rw [ofNat?]
  constructor
  · intro held
    split at held
    · rename_i fits
      cases held
      exact UInt64.toNat_ofNat_of_lt fits
    · cases held
  · rintro rfl
    rw [if_pos bounded, UInt64.ofNat_toNat]

theorem ofNat?_eq_none_iff {count : Nat} :
    ofNat? count = none ↔ wordLimit ≤ count := by
  rw [ofNat?]
  split <;> simp <;> omega

theorem toNat_greatest : greatest.toNat = wordLimit - 1 :=
  UInt64.toNat_ofNat_of_lt (by decide)

/-- A count that is stopped at the greatest word. -/
theorem toNat_getD_greatest (count : Nat) :
    ((ofNat? count).getD greatest).toNat = min count (wordLimit - 1) := by
  cases held : ofNat? count with
  | none =>
      have exceeds := ofNat?_eq_none_iff.mp held
      rw [Option.getD_none, toNat_greatest]
      omega
  | some word =>
      have bounded := toNat_lt word
      have value := ofNat?_eq_some_iff.mp held
      rw [Option.getD_some]
      omega

theorem toNat_saturatingAdd (left right : UInt64) :
    (saturatingAdd left right).toNat =
      Text.saturatingAdd left.toNat right.toNat :=
  toNat_getD_greatest _

theorem toNat_saturatingMul (left right : UInt64) :
    (saturatingMul left right).toNat =
      Text.saturatingMul left.toNat right.toNat :=
  toNat_getD_greatest _

theorem exists_ofNat?
    {count : Nat}
    (fits : count < wordLimit) :
    ∃ word, ofNat? count = some word ∧ word.toNat = count :=
  ⟨.ofNat count, if_pos fits, UInt64.toNat_ofNat_of_lt fits⟩

theorem exists_sub?
    {left right : UInt64}
    (fits : right.toNat ≤ left.toNat) :
    ∃ difference, sub? left right = some difference ∧
      difference.toNat = left.toNat - right.toNat := by
  have ordered : right ≤ left := UInt64.le_iff_toNat_le.mpr fits
  exact ⟨left - right, if_pos ordered, UInt64.toNat_sub_of_le _ _ ordered⟩

/-- A quotient fits also when it is rounded up, because something was left over
then. -/
theorem exists_ceilDiv?
    (dividend : UInt64)
    {divisor : UInt64}
    (positive : 1 ≤ divisor.toNat) :
    ∃ quotient, ceilDiv? dividend divisor = some quotient ∧
      quotient.toNat =
        (dividend.toNat + divisor.toNat - 1) / divisor.toNat := by
  have nonzero : divisor ≠ 0 := by
    rintro rfl
    exact absurd positive (by decide)
  have parts := Nat.div_add_mod dividend.toNat divisor.toNat
  have below := Nat.mod_lt dividend.toNat positive
  rw [ceilDiv?, if_neg nonzero]
  split
  · rename_i inexact
    rw [UInt64.lt_iff_toNat_lt, UInt64.toNat_mod, UInt64.toNat_zero] at inexact
    have fits : dividend.toNat / divisor.toNat + 1 < wordLimit := by
      have bounded := toNat_lt dividend
      have atLeastOnce :=
        Nat.mul_le_mul_right (dividend.toNat / divisor.toNat) positive
      omega
    have isNext : (dividend.toNat + divisor.toNat - 1) / divisor.toNat =
        dividend.toNat / divisor.toNat + 1 := by
      apply Nat.div_eq_of_lt_le
      · rw [Nat.add_mul, Nat.mul_comm]
        omega
      · rw [Nat.add_mul, Nat.add_mul, Nat.mul_comm]
        omega
    rw [isNext, add?, UInt64.toNat_div]
    exact exists_ofNat? fits
  · rename_i noRest
    rw [UInt64.lt_iff_toNat_lt, UInt64.toNat_mod, UInt64.toNat_zero] at noRest
    refine ⟨_, rfl, ?_⟩
    rw [UInt64.toNat_div]
    symm
    apply Nat.div_eq_of_lt_le
    · rw [Nat.mul_comm]
      omega
    · rw [Nat.add_mul, Nat.mul_comm]
      omega

/-- Adding to a count that fits is adding to the count: a count that does not
fit is no part of one that does. -/
theorem ofNat?_bind (count added : Nat) :
    (ofNat? count).bind (fun word => ofNat? (word.toNat + added)) =
      ofNat? (count + added) := by
  cases held : ofNat? count with
  | none =>
      have exceeds := ofNat?_eq_none_iff.mp held
      exact (ofNat?_eq_none_iff.mpr (by omega)).symm
  | some word => rw [Option.bind_some, ofNat?_eq_some_iff.mp held]

theorem ofNat?_bind_add?
    (left : UInt64)
    (count : Nat) :
    (ofNat? count).bind (add? left) = ofNat? (left.toNat + count) := by
  rw [Nat.add_comm, ← ofNat?_bind]
  congr 1
  funext word
  rw [add?, Nat.add_comm]

/-- Adding counts one after the other gives their sum if that fits. -/
theorem sum?_eq
    (counts : List Nat)
    (start : UInt64) :
    sum? counts start = ofNat? (start.toNat + counts.sum) := by
  induction counts generalizing start with
  | nil => exact (ofNat?_eq_some_iff.mpr rfl).symm
  | cons count counts induction =>
      have step := ofNat?_bind (start.toNat + count) counts.sum
      simp only [← induction] at step
      rw [List.sum_cons, ← Nat.add_assoc]
      exact step

/-! ### Signed numbers -/

/-- A word as a signed number, which stops at the greatest one. -/
theorem toInt_getD_toInt64? (word : UInt64) :
    ((toInt64? word).getD Int64.maxValue).toInt =
      min (word.toNat : Int) int64Max := by
  have greatest : Int64.maxValue.toUInt64.toNat = 2 ^ 63 - 1 := by decide
  have greatestNumber : Int64.maxValue.toInt = int64Max := by decide
  have limit : int64Max = 2 ^ 63 - 1 := by decide
  rw [toInt64?]
  split
  · rename_i fits
    have bounded := UInt64.le_iff_toNat_le.mp fits
    have held : word.toInt64.toInt = word.toNat := by
      rw [← UInt64.ofNat_toNat (x := word), UInt64.toInt64_ofNat',
        Int64.toInt_ofNat_of_lt (by omega), UInt64.ofNat_toNat]
    rw [Option.getD_some, held]
    omega
  · rename_i exceeds
    rw [UInt64.le_iff_toNat_le] at exceeds
    rw [Option.getD_none, greatestNumber]
    omega

/-- A signed number that is not negative is held by a word. -/
theorem toNat_getD_ofInt64?
    (number : Int64)
    (positive : 0 ≤ number.toInt)
    (default : UInt64) :
    (((ofInt64? number).getD default).toNat : Int) = number.toInt := by
  have ordered : 0 ≤ number := Int64.le_iff_toInt_le.mpr positive
  rw [ofInt64?, if_pos ordered, Option.getD_some,
    Int64.toNat_toUInt64_of_le ordered, Int64.toInt_eq_toNatClampNeg ordered]

theorem toInt_max (left right : Int64) :
    (max left right).toInt = max left.toInt right.toInt := by
  show (if left ≤ right then right else left).toInt = _
  rw [apply_ite Int64.toInt, Int.max_def]
  simp only [Int64.le_iff_toInt_le]

theorem toNat_magnitude (number : Int64) :
    (magnitude number).toNat = number.toInt.natAbs := by
  have value := BitVec.toInt_eq_toNat_cond number.toBitVec
  rw [Int64.toInt_toBitVec, Int64.toBitVec.eq_def,
    UInt64.toNat_toBitVec] at value
  have bounded := number.toUInt64.toNat_lt
  rw [magnitude]
  split
  · rename_i negative
    rw [Int64.lt_iff_toInt_lt, Int64.toInt_zero] at negative
    have size : UInt64.size = 2 ^ 64 := rfl
    rw [Int64.toUInt64_neg, UInt64.toNat_neg, size]
    split at value <;> omega
  · rename_i positive
    rw [Int64.lt_iff_toInt_lt, Int64.toInt_zero] at positive
    split at value <;> omega

end JsonApi.Word

/-!
## Computing with pages in words

Pages in words are resolved as pages in counts are
(`WordPage.map_toPage_resolve`). A resolved page has a number and a size, and
this is what the operations behind it need: the number of items before the page,
the number of the last page and the numbers of the pages that its links lead to
all have a result, and the result is exact (`WordPage.resolve_exact`).
-/

namespace JsonApi

open JsonApi.Text

namespace WordPage

variable {page : WordPage}

/-- A page is resolved in words as it is resolved in counts. -/
theorem map_toPage_resolve
    (settings : WordPageSettings)
    (request : WordPageRequest) :
    (resolve settings request).map toPage =
      Page.resolve settings.toSettings request.toRequest := by
  have number : (request.number.getD 1).toInt =
      (request.number.map Int64.toInt).getD 1 := by
    cases request.number <;> rfl
  have wanted :
      (request.size.getD
          ((Word.toInt64? settings.defaultSize).getD Int64.maxValue)).toInt =
        (request.size.map Int64.toInt).getD
          (min (settings.defaultSize.toNat : Int) int64Max) := by
    cases request.size with
    | none => exact Word.toInt_getD_toInt64? settings.defaultSize
    | some size => rfl
  rw [resolve, Page.resolve, WordPageRequest.toRequest,
    WordPageSettings.toSettings]
  dsimp only
  rw [← number, ← wanted]
  generalize request.number.getD 1 = number
  generalize request.size.getD _ = size
  have refused : number < 1 ↔ number.toInt < 1 := Int64.lt_iff_toInt_lt
  by_cases early : number < 1
  · rw [if_pos early, if_pos (refused.mp early)]
    rfl
  · have positive := mt refused.mpr early
    rw [if_neg early, if_neg positive]
    have counted := Word.toNat_magnitude number
    have atLeastOne : (max size 1).toInt = max size.toInt 1 :=
      Word.toInt_max size 1
    have sized := Word.toNat_getD_ofInt64? (max size 1) (by omega) 1
    simp only [Except.map, toPage, UInt64.toNat_min, UInt64.toNat_max,
      UInt64.toNat_one, Except.ok.injEq, Page.mk.injEq]
    omega

/-- Before a page that is counted from one there is a number of items. -/
theorem exists_offset? (counted : 1 ≤ page.number.toNat) :
    ∃ offset, page.offset? = some offset ∧
      offset.toNat = page.toPage.offset := by
  have fits : (1 : UInt64).toNat ≤ page.number.toNat := counted
  rcases Word.exists_sub? fits with ⟨before, isBefore, value⟩
  refine ⟨Word.saturatingMul before page.size, ?_, ?_⟩
  · rw [offset?, isBefore]
    rfl
  · rw [Word.toNat_saturatingMul, value]
    rfl

theorem exists_lastNumber?
    (sized : 1 ≤ page.size.toNat)
    (total : UInt64) :
    ∃ last, page.lastNumber? total = some last ∧
      last.toNat = page.toPage.lastNumber total.toNat := by
  rcases Word.exists_ceilDiv? total sized with ⟨needed, isNeeded, value⟩
  refine ⟨max needed 1, ?_, ?_⟩
  · rw [lastNumber?, isNeeded]
    rfl
  · rw [UInt64.toNat_max, value]
    rfl

theorem exists_previousNumber?
    {last : UInt64}
    {total : Nat}
    (isLast : last.toNat = page.toPage.lastNumber total) :
    ∃ previous, page.previousNumber? last = some previous ∧
      previous.map UInt64.toNat = page.toPage.previousNumber? total := by
  have later : 1 < page.number ↔ 1 < page.toPage.number :=
    UInt64.lt_iff_toNat_lt
  rw [previousNumber?, Page.previousNumber?]
  by_cases behindFirst : 1 < page.number
  · have fits : (1 : UInt64).toNat ≤ page.number.toNat :=
      (later.mp behindFirst).le
    rcases Word.exists_sub? fits with ⟨before, isBefore, value⟩
    rw [if_pos behindFirst, if_pos (later.mp behindFirst), isBefore]
    refine ⟨_, rfl, ?_⟩
    rw [Option.map_some, UInt64.toNat_min, value, isLast]
    rfl
  · rw [if_neg behindFirst, if_neg (mt later.mpr behindFirst)]
    exact ⟨none, rfl, rfl⟩

/-- There is a page behind one that is not the last, and its number is a word
like that of the last. -/
theorem exists_nextNumber?
    {last : UInt64}
    {total : Nat}
    (isLast : last.toNat = page.toPage.lastNumber total) :
    ∃ next, page.nextNumber? last = some next ∧
      next.map UInt64.toNat = page.toPage.nextNumber? total := by
  have earlier : page.number < last ↔
      page.toPage.number < page.toPage.lastNumber total := by
    rw [← isLast]
    exact UInt64.lt_iff_toNat_lt
  rw [nextNumber?, Page.nextNumber?]
  by_cases beforeLast : page.number < last
  · have fits : page.number.toNat + (1 : UInt64).toNat < wordLimit :=
      Nat.lt_of_le_of_lt (UInt64.lt_iff_toNat_lt.mp beforeLast)
        (Word.toNat_lt last)
    rcases Word.exists_ofNat? fits with ⟨next, isNext, value⟩
    rw [if_pos beforeLast, if_pos (earlier.mp beforeLast), Word.add?, isNext]
    refine ⟨_, rfl, ?_⟩
    rw [Option.map_some, value]
    rfl
  · rw [if_neg beforeLast, if_neg (mt earlier.mpr beforeLast)]
    exact ⟨none, rfl, rfl⟩

/-- The links of a page lead to the pages that they lead to in counts. -/
theorem exists_linkNumbers?
    (sized : 1 ≤ page.size.toNat)
    (total : UInt64) :
    ∃ numbers, page.linkNumbers? total = some numbers ∧
      Dictionary.mapValues UInt64.toNat numbers =
        page.toPage.linkNumbers total.toNat := by
  rcases exists_lastNumber? sized total with ⟨last, isLast, lastExact⟩
  rcases exists_previousNumber? lastExact with
    ⟨previous, isPrevious, previousExact⟩
  rcases exists_nextNumber? lastExact with ⟨next, isNext, nextExact⟩
  rw [linkNumbers?, isLast, Page.linkNumbers, ← lastExact, ← previousExact,
    ← nextExact]
  simp only [Option.bind_eq_bind, Option.bind_some, isPrevious, isNext]
  refine ⟨_, rfl, ?_⟩
  cases next <;> cases previous <;> rfl

theorem links?_eq
    (sized : 1 ≤ page.size.toNat)
    (base : Url)
    (total : UInt64) :
    page.links? base total =
      some (Page.links base page.toPage total.toNat) := by
  rcases exists_linkNumbers? sized total with ⟨numbers, held, value⟩
  rw [links?, held, Page.links, ← value]
  simp [Dictionary.mapValues, toPage]

theorem toPage_inj {first second : WordPage} :
    first.toPage = second.toPage ↔ first = second := by
  obtain ⟨number, size⟩ := first
  obtain ⟨otherNumber, otherSize⟩ := second
  rw [toPage, toPage, Page.mk.injEq, WordPage.mk.injEq, UInt64.toNat_inj,
    UInt64.toNat_inj]

theorem resolve_eq_ok_iff
    {settings : WordPageSettings}
    {request : WordPageRequest} :
    resolve settings request = .ok page ↔
      Page.resolve settings.toSettings request.toRequest = .ok page.toPage := by
  rw [← map_toPage_resolve]
  cases resolve settings request with
  | error error => simp [Except.map]
  | ok found => rw [Except.map, Except.ok.injEq, Except.ok.injEq, toPage_inj]

theorem resolve_eq_error_iff
    {settings : WordPageSettings}
    {request : WordPageRequest}
    {error : ValidationError} :
    resolve settings request = .error error ↔
      Page.resolve settings.toSettings request.toRequest = .error error := by
  rw [← map_toPage_resolve]
  cases resolve settings request <;> simp [Except.map]

/-- What is computed from a page has a result for every total and every URL, and
an exact one. -/
structure Exact (page : WordPage) : Prop where
  /-- The number of the items before the page is the product, stopped at the
  greatest word. -/
  offset : ∃ offset, page.offset? = some offset ∧
    offset.toNat = page.toPage.offset ∧
    (offset.toNat : Int) =
      min (((page.number.toNat : Int) - 1) * page.size.toNat) (2 ^ 64 - 1)
  /-- The last page is the quotient rounded up, or one. -/
  lastNumber : ∀ total : UInt64, ∃ last, page.lastNumber? total = some last ∧
    last.toNat = page.toPage.lastNumber total.toNat ∧
    last.toNat = max 1 ⌈(total.toNat : ℚ) / page.size.toNat⌉₊
  /-- The links lead to the pages that they lead to in counts. -/
  links : ∀ (base : Url) (total : UInt64),
    page.links? base total = some (Page.links base page.toPage total.toNat)

theorem exact_of_resolve
    {settings : WordPageSettings}
    {request : WordPageRequest}
    (resolved : resolve settings request = .ok page) :
    page.Exact := by
  rcases Page.bounds_of_resolve (resolve_eq_ok_iff.mp resolved) with
    ⟨counted, sized, _⟩
  constructor
  · rcases exists_offset? counted with ⟨offset, isOffset, value⟩
    exact ⟨offset, isOffset, value, value ▸ Page.offset_eq counted⟩
  · intro total
    rcases exists_lastNumber? sized total with ⟨last, isLast, value⟩
    exact ⟨last, isLast, value, value ▸ Page.lastNumber_eq sized total.toNat⟩
  · exact links?_eq sized

/-- Computing with pages in words is exact.  A request is refused if and only if
its number is below one.  Otherwise the page has the number that is given, or
one, and the size that is given, or else the default as far as it is a signed
word, brought within one and the greatest size, which is itself brought to one.
What is computed from such a page is exact. -/
theorem resolve_exact
    (settings : WordPageSettings)
    (request : WordPageRequest) :
    (resolve settings request).map toPage =
        Page.resolve settings.toSettings request.toRequest ∧
      (∀ error, resolve settings request = .error error ↔
        ∃ number, request.number = some number ∧ number < 1 ∧
          error = .invalidPageNumber number.toInt) ∧
      (∀ page, resolve settings request = .ok page ↔
        (∀ number, request.number = some number → 1 ≤ number) ∧
          (page.number.toNat : Int) = (request.number.map Int64.toInt).getD 1 ∧
          (page.size.toNat : Int) =
            min (max ((request.size.map Int64.toInt).getD
                (min (settings.defaultSize.toNat : Int) (2 ^ 63 - 1))) 1)
              (max (settings.maxSize.toNat : Int) 1)) ∧
      ∀ page, resolve settings request = .ok page → page.Exact := by
  refine ⟨map_toPage_resolve settings request, ?_, ?_,
    fun _ => exact_of_resolve⟩
  · intro error
    rw [resolve_eq_error_iff, Page.resolve_eq_error_iff]
    simp [WordPageRequest.toRequest, Int64.lt_iff_toInt_lt]
  · intro page
    have given :
        (∀ number, request.number = some number → 1 ≤ number) ↔
          1 ≤ (request.number.map Int64.toInt).getD 1 := by
      cases request.number <;> simp [Int64.le_iff_toInt_le]
    rw [resolve_eq_ok_iff, Page.resolve_eq_ok_iff, given]
    rfl

/-- A default size that is no signed word counts as the greatest of these. -/
example :
    (resolve ⟨Word.greatest, Word.greatest⟩ ⟨some Int64.maxValue, none⟩).map
      toPage =
      .ok ⟨2 ^ 63 - 1, 2 ^ 63 - 1⟩ :=
  rfl

end WordPage

/-!
## Computing complexity in words

Counting a size in words gives the size if it fits, and nothing otherwise,
because no count on the way is greater (`Word.sum?_eq`,
`Filter.countNodes?_eq`).  Stopping at the greatest word after every step is the
same as stopping the weighted sum once, and it never brings a score above the
budget below it (`WordScore.ofParts?_exact`).
-/

namespace Filter

mutual

/-- The nodes of a filter are counted in words if their number fits. -/
theorem countNodes?_eq : ∀ filter : Filter,
  filter.countNodes? = Word.ofNat? filter.nodeCount
  | .comparison .. => by
      rw [countNodes?, nodeCount]
      rfl
  | .nullCheck .. => by
      rw [countNodes?, nodeCount]
      rfl
  | .conjunction children => by
      rw [countNodes?, nodeCount, addNodes?_eq children 0, UInt64.toNat_zero,
        Nat.zero_add]
      exact Word.ofNat?_bind_add? 1 (nodeCounts children)
  | .disjunction children => by
      rw [countNodes?, nodeCount, addNodes?_eq children 0, UInt64.toNat_zero,
        Nat.zero_add]
      exact Word.ofNat?_bind_add? 1 (nodeCounts children)

/-- The nodes of some filters are added to a count if the sum fits. -/
theorem addNodes?_eq : ∀ (children : List Filter) (sum : UInt64),
    addNodes? children sum = Word.ofNat? (sum.toNat + nodeCounts children)
  | [], sum => by
      rw [addNodes?, nodeCounts]
      exact (Word.ofNat?_eq_some_iff.mpr rfl).symm
  | child :: children, sum => by
      have rest : addNodes? children =
          fun next => Word.ofNat? (next.toNat + nodeCounts children) :=
        funext (addNodes?_eq children)
      rw [addNodes?, countNodes?_eq child, rest, nodeCounts, ← Nat.add_assoc,
        ← Word.ofNat?_bind, ← Word.ofNat?_bind_add?]
      exact (Option.bind_assoc _ _ _).symm

end

end Filter

theorem IncludeTree.countLengths?_eq (tree : IncludeTree) :
    tree.countLengths? = Word.ofNat? (ComplexityScore.pathLengths tree) := by
  rw [countLengths?, Word.sum?_eq, UInt64.toNat_zero, Nat.zero_add,
    ComplexityScore.pathLengths_eq_sum]

theorem FieldSelection.count?_eq (selection : FieldSelection) :
    selection.count? = Word.ofNat? selection.total := by
  rw [count?, Word.sum?_eq, UInt64.toNat_zero, Nat.zero_add, total,
    List.sum_eq_foldr]

namespace WordScore

variable {weights : WordWeights} {tree : IncludeTree} {fields : FieldSelection}
  {filter : Option Filter} {score : WordScore} {budget : UInt64}

/-- The score of parts whose sizes fit is their score in counts. -/
theorem exists_ofParts?
    (weights : WordWeights)
    (lengthsFit : ComplexityScore.pathLengths tree < wordLimit)
    (fieldsFit : fields.total < wordLimit)
    (nodesFit : (filter.map Filter.nodeCount).getD 0 < wordLimit) :
    ∃ score, ofParts? weights tree fields filter = some score ∧
      score.toScore = .ofParts weights.toWeights tree fields filter := by
  have counted : (filter.map Filter.countNodes?).getD (some 0) =
      Word.ofNat? ((filter.map Filter.nodeCount).getD 0) := by
    cases filter with
    | none => rfl
    | some filter => exact filter.countNodes?_eq
  rcases Word.exists_ofNat? lengthsFit with ⟨lengths, isLengths, lengthsValue⟩
  rcases Word.exists_ofNat? fieldsFit with ⟨selected, isSelected, selectedValue⟩
  rcases Word.exists_ofNat? nodesFit with ⟨nodes, isNodes, nodesValue⟩
  refine ⟨ofSizes weights lengths selected nodes, ?_, ?_⟩
  · rw [ofParts?, tree.countLengths?_eq, fields.count?_eq, counted, isLengths,
      isSelected, isNodes]
    rfl
  · simp only [ofSizes, toScore, ComplexityScore.ofParts,
      Word.toNat_saturatingMul, Word.toNat_saturatingAdd, lengthsValue,
      selectedValue, nodesValue, WordWeights.toWeights]

/-- A score in words is enforced as it is in counts. -/
theorem enforce_eq
    {limits : Limits}
    (same : limits.complexityBudget = budget.toNat) :
    score.toScore.enforce limits = score.enforce budget := by
  rw [enforce, ComplexityScore.enforce, same]
  simp only [UInt64.lt_iff_toNat_lt]
  rfl

theorem enforce_eq_error_iff :
    score.enforce budget = .error (.overBudget score.total.toNat budget.toNat) ↔
      budget.toNat < score.total.toNat := by
  rw [← UInt64.lt_iff_toNat_lt, enforce]
  split <;> simp [*]

theorem enforce_eq_ok_iff :
    score.enforce budget = .ok () ↔ score.total.toNat ≤ budget.toNat := by
  rw [← Nat.not_lt, ← UInt64.lt_iff_toNat_lt, enforce]
  split <;> simp [*]

/-- A score in words is exact, and so is its comparison with the budget.  Where
the sizes of the parts fit into words there is a score, and it is the one in
counts; its total is the unlimited weighted sum, stopped at the greatest word.
Every budget below the greatest word refuses the score if and only if the
unlimited sum exceeds it. -/
theorem ofParts?_exact
    (weights : WordWeights)
    (tree : IncludeTree)
    (fields : FieldSelection)
    (filter : Option Filter)
    (lengthsFit : ComplexityScore.pathLengths tree < wordLimit)
    (fieldsFit : fields.total < wordLimit)
    (nodesFit : (filter.map Filter.nodeCount).getD 0 < wordLimit) :
    ∃ score, ofParts? weights tree fields filter = some score ∧
      score.toScore = .ofParts weights.toWeights tree fields filter ∧
      score.total.toNat =
        min (ComplexityScore.weightedSum weights.toWeights tree fields filter)
          (2 ^ 64 - 1) ∧
      ∀ budget : UInt64,
        (∀ limits : Limits, limits.complexityBudget = budget.toNat →
          score.toScore.enforce limits = score.enforce budget) ∧
        (budget.toNat < 2 ^ 64 - 1 →
          (score.enforce budget =
              .error (.overBudget score.total.toNat budget.toNat) ↔
            budget.toNat <
              ComplexityScore.weightedSum weights.toWeights tree fields
                filter) ∧
          (score.enforce budget = .ok () ↔
            ComplexityScore.weightedSum weights.toWeights tree fields filter ≤
              budget.toNat)) := by
  rcases exists_ofParts? weights lengthsFit fieldsFit nodesFit with
    ⟨score, isScore, value⟩
  have greatest : wordLimit - 1 = 2 ^ 64 - 1 := by decide
  have total : score.total.toNat =
      min (ComplexityScore.weightedSum weights.toWeights tree fields filter)
        (2 ^ 64 - 1) := by
    rw [← greatest, ← ComplexityScore.total_eq_min, ← value]
    rfl
  refine ⟨score, isScore, value, total,
    fun budget => ⟨fun _ => enforce_eq, fun below => ?_⟩⟩
  rw [enforce_eq_error_iff, enforce_eq_ok_iff, total]
  omega

/-- Two inclusions of the greatest weight: the sum that does not fit is refused
by every budget below the greatest word. -/
theorem ofParts?_exact_greatestWeight :
    ∃ score,
      ofParts? ⟨Word.greatest, 2, 3⟩
        (IncludeTree.ofPaths [["author"], ["tags"]]) ⟨[("articles", ["title"])]⟩
        (some (.nullCheck "title" false)) = some score ∧
        score.total.toNat = 2 ^ 64 - 1 ∧
        score.enforce (Word.greatest - 1) =
          .error (.overBudget (2 ^ 64 - 1) (2 ^ 64 - 2)) := by
  rcases ofParts?_exact ⟨Word.greatest, 2, 3⟩
    (IncludeTree.ofPaths [["author"], ["tags"]]) ⟨[("articles", ["title"])]⟩
    (some (.nullCheck "title" false)) (by decide) (by decide) (by decide) with
    ⟨score, isScore, _, total, enforced⟩
  have stopped : score.total.toNat = 2 ^ 64 - 1 := by
    rw [total]
    decide
  have refused :=
    ((enforced (Word.greatest - 1)).2 (by decide)).1.mpr (by decide)
  rw [stopped] at refused
  exact ⟨score, isScore, stopped, refused⟩

end WordScore

end JsonApi
