import JsonApi.Document.Assembly
import JsonApi.Query.Specification
import JsonApi.Text.Basic

/-!
# Counts in machine words

A machine word holds a count of the unsigned 64-bit range, or a number of the
signed one.  An operation has no result where the exact one does not fit into a
word, nor has a division by zero; the saturating operations give the greatest
word instead.
-/

namespace JsonApi.Word

open JsonApi.Text

/-- The word that holds a count, if it fits. -/
def ofNat? (count : Nat) : Option UInt64 :=
  if count < wordLimit then some (.ofNat count) else none

/-- The greatest word. -/
def greatest : UInt64 :=
  .ofNat (wordLimit - 1)

/-- The sum of two words, if it fits. -/
def add? (left right : UInt64) : Option UInt64 :=
  ofNat? (left.toNat + right.toNat)

/-- The difference of two words, if it is not negative. -/
def sub? (left right : UInt64) : Option UInt64 :=
  if right ≤ left then some (left - right) else none

/-- The quotient of two words, rounded up, unless the divisor is zero. -/
def ceilDiv? (dividend divisor : UInt64) : Option UInt64 :=
  if divisor = 0 then none
  else if 0 < dividend % divisor then add? (dividend / divisor) 1
  else some (dividend / divisor)

/-- The sum of two words, stopped at the greatest one. -/
def saturatingAdd (left right : UInt64) : UInt64 :=
  (ofNat? (left.toNat + right.toNat)).getD greatest

/-- The product of two words, stopped at the greatest one. -/
def saturatingMul (left right : UInt64) : UInt64 :=
  (ofNat? (left.toNat * right.toNat)).getD greatest

/-- The sum of some counts, added to a word one after the other, if it always
fits. -/
def sum? (counts : List Nat) (start : UInt64) : Option UInt64 :=
  counts.foldlM (fun sum count => ofNat? (sum.toNat + count)) start

/-- The signed number that equals a word, if there is one. -/
def toInt64? (word : UInt64) : Option Int64 :=
  if word ≤ Int64.maxValue.toUInt64 then some word.toInt64 else none

/-- The word that equals a signed number, if there is one. -/
def ofInt64? (number : Int64) : Option UInt64 :=
  if 0 ≤ number then some number.toUInt64 else none

/-- The distance of a signed number from zero. -/
def magnitude (number : Int64) : UInt64 :=
  if number < 0 then (-number).toUInt64 else number.toUInt64

end JsonApi.Word

/-!
## Pages in machine words

Page numbers and sizes as they are computed with: requested ones are signed
words, those of the settings and of the page itself are unsigned ones.  What
depends on an operation that may have no result may have none itself.
-/

namespace JsonApi

/-- Bounds of pages, in words. -/
structure WordPageSettings where
  defaultSize : UInt64
  maxSize : UInt64

/-- The bounds that the words stand for. -/
def WordPageSettings.toSettings (settings : WordPageSettings) : PageSettings :=
  ⟨settings.defaultSize.toNat, settings.maxSize.toNat⟩

/-- The page number and size of a request, in words. -/
structure WordPageRequest where
  number : Option Int64
  size : Option Int64

/-- The request that the words stand for. -/
def WordPageRequest.toRequest (request : WordPageRequest) : PageRequest :=
  ⟨request.number.map Int64.toInt, request.size.map Int64.toInt⟩

/-- A page of a collection, in words. -/
structure WordPage where
  number : UInt64
  size : UInt64

namespace WordPage

/-- The page that the words stand for. -/
def toPage (page : WordPage) : Page :=
  ⟨page.number.toNat, page.size.toNat⟩

/-- Resolves a requested page. -/
def resolve
    (settings : WordPageSettings)
    (request : WordPageRequest) :
    Except ValidationError WordPage :=
  let number := request.number.getD 1
  if number < 1 then .error (.invalidPageNumber number.toInt)
  else
    let size := request.size.getD
      ((Word.toInt64? settings.defaultSize).getD Int64.maxValue)
    .ok ⟨Word.magnitude number,
      min ((Word.ofInt64? (max size 1)).getD 1) (max settings.maxSize 1)⟩

/-- The number of items before the page. -/
def offset? (page : WordPage) : Option UInt64 := do
  let before ← Word.sub? page.number 1
  return Word.saturatingMul before page.size

/-- The number of the last page of a collection, which is at least one. -/
def lastNumber? (page : WordPage) (total : UInt64) : Option UInt64 := do
  let needed ← Word.ceilDiv? total page.size
  return max needed 1

/-- The number of the page before this one, which is not behind the last page.

The outer option is for a number that is no word, the inner one for the first
page. -/
def previousNumber?
    (page : WordPage)
    (last : UInt64) : Option (Option UInt64) :=
  if 1 < page.number then (Word.sub? page.number 1).map fun before =>
    some (min before last)
  else some none

/-- The number of the page behind this one. -/
def nextNumber? (page : WordPage) (last : UInt64) : Option (Option UInt64) :=
  if page.number < last then (Word.add? page.number 1).map some else some none

/-- The page numbers that the links of a page lead to, in the order of the
links' names. -/
def linkNumbers?
    (page : WordPage)
    (total : UInt64) : Option (List (String × UInt64)) := do
  let optional (name : String) (number : Option UInt64) :
      List (String × UInt64) :=
    number.toList.map fun number => (name, number)
  let last ← page.lastNumber? total
  let previous ← page.previousNumber? last
  let next ← page.nextNumber? last
  return [("first", 1), ("last", last)] ++ optional "next" next ++
    optional "prev" previous ++
    [("self", page.number)]

/-- The links of a page. -/
def links?
    (base : Url)
    (page : WordPage)
    (total : UInt64) : Option (List (String × String)) := do
  let numbers ← page.linkNumbers? total
  return Dictionary.mapValues
    (fun number => (Page.url base number.toNat page.size.toNat).text) numbers

end WordPage

/-!
## Complexity in machine words

The sizes of the parts of a request are counted one by one in words, and have no
result where they do not fit.  The weighted score of these sizes is stopped at
the greatest word, at every step.
-/

/-- The total length of the include paths, counted in words. -/
def IncludeTree.countLengths? (tree : IncludeTree) : Option UInt64 :=
  Word.sum? (tree.leafPaths.map List.length) 0

/-- The number of selected fields of all types, counted in words. -/
def FieldSelection.count? (selection : FieldSelection) : Option UInt64 :=
  Word.sum? (selection.byType.map fun entry => entry.2.length) 0

namespace Filter

mutual

/-- The number of nodes of a filter, counted in words. -/
def countNodes? : Filter → Option UInt64
  | .comparison .. => some 1
  | .nullCheck .. => some 1
  | .conjunction children => do Word.add? 1 (← addNodes? children 0)
  | .disjunction children => do Word.add? 1 (← addNodes? children 0)

/-- A count with the numbers of nodes of some filters added, one after the
other. -/
def addNodes? : List Filter → UInt64 → Option UInt64
  | [], sum => some sum
  | child :: children, sum => do
    let next ← Word.add? sum (← child.countNodes?)
    addNodes? children next

end

end Filter

/-- The weights of the parts of a complexity score, in words. -/
structure WordWeights where
  inclusion : UInt64
  field : UInt64
  filter : UInt64

/-- The weights that the words stand for. -/
def WordWeights.toWeights (weights : WordWeights) : ComplexityWeights :=
  ⟨weights.inclusion.toNat, weights.field.toNat, weights.filter.toNat⟩

/-- The weighted complexity of a request, by part, in words. -/
structure WordScore where
  inclusions : UInt64
  fields : UInt64
  filter : UInt64
  total : UInt64

namespace WordScore

/-- The score that the words stand for. -/
def toScore (score : WordScore) : ComplexityScore :=
  ⟨score.inclusions.toNat, score.fields.toNat, score.filter.toNat,
      score.total.toNat⟩

/-- The score of parts of some sizes. -/
def ofSizes
    (weights : WordWeights)
    (lengths fields nodes : UInt64) : WordScore :=
  let inclusionScore := Word.saturatingMul weights.inclusion lengths
  let fieldScore := Word.saturatingMul weights.field fields
  let filterScore := Word.saturatingMul weights.filter nodes
  ⟨inclusionScore, fieldScore, filterScore,
    Word.saturatingAdd (Word.saturatingAdd inclusionScore fieldScore)
      filterScore⟩

/-- Scores the parts of a request. -/
def ofParts?
    (weights : WordWeights)
    (tree : IncludeTree)
    (fields : FieldSelection)
    (filter : Option Filter) : Option WordScore := do
  let lengths ← tree.countLengths?
  let selected ← fields.count?
  let nodes ← (filter.map Filter.countNodes?).getD (some 0)
  return ofSizes weights lengths selected nodes

/-- Refuses a score above the budget. -/
def enforce (score : WordScore) (budget : UInt64) : Except QueryError Unit :=
  if budget < score.total
    then .error (.overBudget score.total.toNat budget.toNat) else .ok ()

end WordScore

end JsonApi
