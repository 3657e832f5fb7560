import JsonApi.Dictionary
import JsonApi.Fault
import JsonApi.Filter.Basic
import JsonApi.Schema
import JsonApi.Sorting
import JsonApi.Text.Basic

/-!
# From query strings to parameters

A query string is a list of pairs.  Their names are read as families with
segments, the filter parameters are gathered into a tree, and everything that
is understood becomes the parameters of a request.  Pages and sort keys are
resolved from these.
-/

/-!
## Query strings as pairs

A query string lists pairs of a name and a value.  Pairs are separated by
ampersands and empty ones are skipped; a pair without an equals sign has an
empty value.  In names and values a plus sign stands for a space and bytes may
be percent-encoded.  Writing keeps ASCII letters, digits and four marks, and
turns a space into a plus sign.
-/

namespace JsonApi.Form

open JsonApi.Text

/-- Reads one name or value. -/
def decode (characters : List Char) : String :=
  let spaced := characters.map fun character =>
    if character = '+' then ' ' else character
  ofUtf8 (percentDecode (spaced.flatMap String.utf8EncodeChar))

/-- Reads one pair. -/
def decodePair (characters : List Char) : String × String :=
  let name := characters.takeWhile (· ≠ '=')
  let value := (characters.dropWhile (· ≠ '=')).drop 1
  (decode name, decode value)

/-- The pairs of a query string in the order in which they stand. -/
def parse (query : List Char) : List (String × String) :=
  ((pieces '&' query).filter fun piece => !piece.isEmpty).map decodePair

/-- The characters that are written as themselves. -/
def isKept (character : Char) : Bool :=
  character.isAlphanum || character = '*' || character = '-' ||
    character = '.' || character = '_'

/-- Writes one name or value. -/
def encode (text : String) : List Char :=
  text.toList.flatMap fun character =>
    if character = ' ' then ['+'] else percentEncodeCharacter isKept character

/-- Writes one pair. -/
def encodePair (pair : String × String) : List Char :=
  encode pair.1 ++ '=' :: encode pair.2

/-- The query string of some pairs. -/
def print (pairs : List (String × String)) : List Char :=
  joinPieces '&' (pairs.map encodePair)

end JsonApi.Form

/-!
## Names of query parameters

The name of a parameter is a family followed by segments in brackets, such as
`filter[author][name]`.  The family holds no opening bracket and a segment no
bracket at all; a segment may be empty.  A name that is not of this form is
refused.
-/

namespace JsonApi

/-- A parameter name taken apart. -/
structure ParameterKey where
  family : String
  segments : List String
deriving DecidableEq

namespace ParameterKey

/-- Reads bracketed segments.

`opened?` holds the characters of the segment that is open, last one first. -/
def readSegments? : Option (List Char) → List Char → Option (List String)
  | none, [] => some []
  | some _, [] => none
  | none, head :: tail =>
      if head = '[' then readSegments? (some []) tail else none
  | some opened, head :: tail =>
    if head = ']' then
      (readSegments? none tail).map (String.ofList opened.reverse :: ·)
    else if head = '[' then none
    else readSegments? (some (head :: opened)) tail

/-- Takes a parameter name apart. -/
def read? (name : String) : Option ParameterKey :=
  let characters := name.toList
  (readSegments? none (characters.dropWhile (· ≠ '['))).map fun segments =>
    ⟨String.ofList (characters.takeWhile (· ≠ '[')), segments⟩

/-- The name that a key was taken from. -/
def text (key : ParameterKey) : String :=
  key.family ++
    String.join (key.segments.map fun segment => "[" ++ segment ++ "]")

end ParameterKey

/-!
## Filter parameters gathered into a tree

The filter parameters of a query string name leaves of a tree: the bracketed
segments are the path and the value is the leaf.  An empty segment takes the
number of entries at its place as its key, which appends.  A key cannot hold
both a value and further entries.

A branch whose keys are all whole numbers becomes a list in the order of these
numbers; every other branch becomes a map.
-/

/-- A filter value, or the entries below a filter key. -/
inductive FilterBranch where
  | leaf (value : String)
  | branch (entries : List (String × FilterBranch))

namespace FilterBranch

/-- The key that a segment names among some entries. -/
def keyOf
    (segment : String)
    (entries : List (String × FilterBranch)) : String :=
  if segment = "" then toString entries.length else segment

/-- Adds a leaf at a path, or gives the key that would hold both a value and
entries. -/
def insertLeaf (value : String) :
    List String → List (String × FilterBranch) →
      Except String (List (String × FilterBranch))
  | [], entries => .ok entries
  | [segment], entries =>
    let key := keyOf segment entries
    match Dictionary.find? entries key with
    | some (.branch _) => .error key
    | _ => .ok (Dictionary.insert key (.leaf value) entries)
  | segment :: next :: path, entries =>
    let key := keyOf segment entries
    match Dictionary.find? entries key with
    | some (.leaf _) => .error key
    | some (.branch inner) =>
      (insertLeaf value (next :: path) inner).map fun changed =>
        Dictionary.insert key (.branch changed) entries
    | none =>
      (insertLeaf value (next :: path) []).map fun created =>
        Dictionary.insert key (.branch created) entries

/-- The position that a key names in a list. -/
def position? (key : String) : Option Nat :=
  Text.readWord? key.toList

/-- The inputs of a branch whose keys are all positions, in the order of
these. -/
def sequence? (entries : List (String × FilterInput)) :
    Option (List FilterInput) :=
  if entries.isEmpty then none
  else
    (entries.mapM fun entry => (position? entry.1).map fun position =>
        (position, entry.2)).map fun placed =>
      (stableSort (fun left right => compare left.1 right.1) placed).map
      Prod.snd

/-- The input of a branch: a list if its keys are positions, and a map
otherwise. -/
def inputOf (entries : List (String × FilterInput)) : FilterInput :=
  match sequence? entries with
  | some items => .list items
  | none => .map entries

mutual

/-- The filter input that a tree stands for. -/
def toInput : FilterBranch → FilterInput
  | .leaf value => .scalar (.string value)
  | .branch entries => inputOf (entriesToInput entries)

/-- The filter inputs of some entries, each under its key. -/
def entriesToInput : List (String × FilterBranch) → List (String × FilterInput)
  | [] => []
  | (key, inner) :: entries => (key, inner.toInput) :: entriesToInput entries

end

end FilterBranch

/-!
## Pages

A page has a number, counted from one, and a size.  The requested size is
brought within one and the greatest size allowed; the requested number is not
changed, so that a page behind the last one is empty.
-/

open JsonApi.Text

/-- The page number and size of a request. -/
structure PageRequest where
  number : Option Int := none
  size : Option Int := none
deriving DecidableEq

/-- A page of a collection. -/
structure Page where
  number : Nat
  size : Nat
deriving DecidableEq

namespace Page

/-- The number of items before the page, stopped at the greatest 64-bit
count. -/
def offset (page : Page) : Nat :=
  saturatingMul (page.number - 1) page.size

/-- The number of the last page of a collection, which is at least one. -/
def lastNumber (page : Page) (total : Nat) : Nat :=
  max ((total + page.size - 1) / page.size) 1

/-- Resolves a requested page. -/
def resolve
    (settings : PageSettings)
    (request : PageRequest) :
    Except ValidationError Page :=
  let number := request.number.getD 1
  if number < 1 then .error (.invalidPageNumber number)
  else
    let size := request.size.getD (min settings.defaultSize int64Max)
    .ok ⟨number.toNat, min (max size 1).toNat (max settings.maxSize 1)⟩

end Page

end JsonApi

/-!
## Sort keys

A sort entry is the name of a field, with a hyphen in front for descending
order.  A type with an allow-list is sorted by the fields on it, and any other
type by its attributes and its identifier.  A field requested several times
counts once, at its last place.
-/

namespace JsonApi

/-- A field to sort by, with the direction. -/
structure SortKey where
  field : String
  descending : Bool
deriving DecidableEq

namespace SortKey

/-- Reads one sort entry. -/
def read (entry : String) : Except ValidationError SortKey :=
  match Text.trimCharacters entry.toList with
  | [] | ['-'] => .error .emptySortField
  | '-' :: field => .ok ⟨String.ofList field, true⟩
  | field => .ok ⟨String.ofList field, false⟩

/-- The entry that requests a sort key. -/
def text (key : SortKey) : String :=
  if key.descending then "-" ++ key.field else key.field

end SortKey

/-- Whether a resource type may be sorted by a field. -/
def SortSettings.allows
    (settings : SortSettings)
    (schema : Schema)
    (resourceType field : String) : Bool :=
  match Dictionary.find? settings.whitelist resourceType with
  | some allowed => allowed.contains field
  | none => field = idField || schema.hasAttribute resourceType field

namespace SortKey

/-- The sort keys with one more at the end; an earlier one for its field is
dropped. -/
def append (keys : List SortKey) (key : SortKey) : List SortKey :=
  keys.filter (fun earlier => earlier.field ≠ key.field) ++ [key]

/-- Resolves requested sort keys, or reports each one that is not allowed. -/
def resolve
    (settings : SortSettings)
    (schema : Schema)
    (resourceType : String)
    (requested : List SortKey) : Except ValidationErrors (List SortKey) :=
  let refused := requested.filter fun key =>
    !settings.allows schema resourceType key.field
  ValidationErrors.unlessAny
    (refused.map fun key => .unsupportedSortField resourceType key.field)
    (requested.foldl append [])

end SortKey

/-!
## Query parameters

The parameters of a request before anything is checked against a schema.
`QueryParameters.ofQueryString` decodes a query string: parameters that are
not understood are kept as errors, and families other than `filter`, `sort`,
`page`, `fields` and `include` are left alone.
-/

open JsonApi.Text

/-- The parameters of one request. -/
structure QueryParameters where
  filter : FilterInput := .empty
  sort : List SortKey := []
  page : PageRequest := {}
  /-- The requested fields by resource type. -/
  fields : List (String × List String) := []
  /-- The requested include paths. -/
  inclusions : List String := []
  /-- What was wrong with the query string. -/
  parseErrors : List ValidationError := []

namespace QueryParameters

/-- The trimmed pieces of a comma list. -/
def commaPieces (written : String) : List String :=
  (pieces ',' written.toList).map fun piece =>
    String.ofList (trimCharacters piece)

/-- Adds the outcome of reading one sort entry. -/
def addSortEntry
    (parameters : QueryParameters)
    (entry : String) : QueryParameters :=
  match SortKey.read entry with
  | .ok key => { parameters with sort := parameters.sort ++ [key] }
  | .error error =>
      { parameters with parseErrors := parameters.parseErrors ++ [error] }

/-- Adds the entries of a sort value. -/
def addSort
    (parameters : QueryParameters)
    (written : String) : QueryParameters :=
  (splitAt ',' written).foldl addSortEntry parameters

/-- Adds the entries of an include value; a blank value has none. -/
def addInclusions
    (parameters : QueryParameters)
    (written : String) : QueryParameters :=
  if (trimCharacters written.toList).isEmpty then parameters
  else { parameters with
      inclusions := parameters.inclusions ++ commaPieces written }

/-- Adds the entries of a fields value, of which the empty ones are dropped. -/
def addFields
    (parameters : QueryParameters)
    (resourceType written : String) :
    QueryParameters :=
  let held := (Dictionary.find? parameters.fields resourceType).getD []
  let named := (commaPieces written).filter fun piece => piece ≠ ""
  { parameters with
    fields := Dictionary.insert resourceType (held ++ named) parameters.fields }

/-- Sets the fields of a type, in place of those it has. -/
def setFields
    (parameters : QueryParameters)
    (resourceType : String)
    (names : List String) :
    QueryParameters :=
  { parameters with
      fields := Dictionary.insert resourceType names parameters.fields }

/-- Sets the page number. -/
def setPageNumber
    (parameters : QueryParameters)
    (number : Int) : QueryParameters :=
  { parameters with page := { parameters.page with number := some number } }

/-- Sets the page size. -/
def setPageSize (parameters : QueryParameters) (size : Int) : QueryParameters :=
  { parameters with page := { parameters.page with size := some size } }

/-- Adds an error of decoding. -/
def addError
    (parameters : QueryParameters)
    (parameter reason : String) : QueryParameters :=
  { parameters with
    parseErrors :=
      parameters.parseErrors ++ [.malformedParameter parameter reason] }

/-- The member of the page family that sets the page number. -/
def pageNumberName : String := "number"

/-- The member of the page family that sets the page size. -/
def pageSizeName : String := "size"

/-- Reads the value of a member of the page family. -/
def addPage
    (parameters : QueryParameters)
    (name written : String) : QueryParameters :=
  match readInt64? (trimCharacters written.toList) with
  | some value =>
    if name = pageNumberName then parameters.setPageNumber value
    else parameters.setPageSize value
  | none =>
      parameters.addError s!"page[{name}]"
        s!"expects an integer, got '{written}'"

/-- Parameters decoded so far, with the filter leaves gathered so far. -/
structure Decoding where
  parameters : QueryParameters := {}
  filterEntries : List (String × FilterBranch) := []
  /-- Whether a filter parameter was met, also one that was refused. -/
  sawFilter : Bool := false

namespace Decoding

/-- Changes the parameters and leaves the filter alone. -/
def update
    (decoding : Decoding)
    (change : QueryParameters → QueryParameters) : Decoding :=
  { decoding with parameters := change decoding.parameters }

/-- Adds a filter leaf at the path that the segments name. -/
def addFilter
    (decoding : Decoding)
    (name : String)
    (path : List String)
    (written : String) :
    Decoding :=
  match FilterBranch.insertLeaf written path decoding.filterEntries with
  | .ok entries => { decoding with filterEntries := entries, sawFilter := true }
  | .error key =>
    { decoding with
      parameters := decoding.parameters.addError name
        s!"'{key}' is used both as a value and as a nested filter"
      sawFilter := true }

/-- Decodes a parameter whose name was taken apart. -/
def addKeyed
    (decoding : Decoding)
    (name : String)
    (key : ParameterKey)
    (written : String) :
    Decoding :=
  if key.family = "filter" then
    match key.segments with
    | [] => decoding.update fun parameters =>
      parameters.addError "filter" "expects filter[field]=value"
    | path => decoding.addFilter name path written
  else if key.family = "sort" ∧ key.segments = [] then
    decoding.update fun parameters => parameters.addSort written
  else if key.family = "page" then
    match key.segments with
    | [member] =>
      if member = pageNumberName ∨ member = pageSizeName then
        decoding.update fun parameters => parameters.addPage member written
      else
        decoding.update fun parameters =>
          parameters.addError name
            "only page[number] and page[size] are supported"
    | _ =>
      decoding.update fun parameters =>
        parameters.addError name
          "only page[number] and page[size] are supported"
  else if key.family = "fields" then
    match key.segments with
    | [resourceType] =>
      decoding.update fun parameters =>
        parameters.addFields resourceType written
    | _ =>
      decoding.update fun parameters =>
        parameters.addError name "expects fields[type]=a,b"
  else if key.family = "include" ∧ key.segments = [] then
    decoding.update fun parameters => parameters.addInclusions written
  else decoding

/-- Decodes one pair of a query string. -/
def add (decoding : Decoding) (pair : String × String) : Decoding :=
  match ParameterKey.read? pair.1 with
  | none =>
    decoding.update fun parameters =>
      parameters.addError pair.1 "unbalanced brackets"
  | some key => decoding.addKeyed pair.1 key pair.2

/-- The parameters with the gathered filter. -/
def finish (decoding : Decoding) : QueryParameters :=
  if decoding.sawFilter then
    { decoding.parameters with
        filter := (FilterBranch.branch decoding.filterEntries).toInput }
  else decoding.parameters

end Decoding

/-- Decodes the pairs of a query string. -/
def ofPairs (pairs : List (String × String)) : QueryParameters :=
  (pairs.foldl Decoding.add {}).finish

/-- Decodes a query string; one question mark may stand in front. -/
def ofQueryString (query : String) : QueryParameters :=
  match query.toList with
  | '?' :: rest => ofPairs (Form.parse rest)
  | characters => ofPairs (Form.parse characters)

end QueryParameters

end JsonApi

/-!
## Filter trees changed in place

While a query string is decoded there is one filter tree, which every filter
parameter changes where its path leads.  A branch that is missing on the way is
made before it is known whether the rest of the path fits, and a parameter that
is refused leaves the tree as it is at that moment.
-/

namespace JsonApi

namespace FilterBranch

/-- The entries with something under the key: an empty branch if there was
nothing. -/
def openBranch
    (key : String)
    (entries : List (String × FilterBranch)) :
    List (String × FilterBranch) :=
  if Dictionary.contains entries key then entries
  else Dictionary.insert key (.branch []) entries

/-- Adds a leaf at a path by changing the entries on the way.

Gives the entries that are left and, if the path does not fit, the key that
would hold both a value and entries. -/
def grow (value : String) :
    List String → List (String × FilterBranch) →
      List (String × FilterBranch) × Option String
  | [], entries => (entries, none)
  | [segment], entries =>
    let key := keyOf segment entries
    match Dictionary.find? entries key with
    | some (.branch _) => (entries, some key)
    | _ => (Dictionary.insert key (.leaf value) entries, none)
  | segment :: next :: path, entries =>
    let key := keyOf segment entries
    let opened := openBranch key entries
    match Dictionary.find? opened key with
    | some (.branch inner) =>
      let (changed, refused?) := grow value (next :: path) inner
      (Dictionary.insert key (.branch changed) opened, refused?)
    | _ => (opened, some key)

end FilterBranch

namespace QueryParameters

namespace Decoding

/-- Adds a filter leaf in place; what a refused path has done to the entries
stays. -/
def growFilter
    (decoding : Decoding)
    (name : String)
    (path : List String)
    (written : String) :
    Decoding :=
  match FilterBranch.grow written path decoding.filterEntries with
  | (entries, none) =>
      { decoding with filterEntries := entries, sawFilter := true }
  | (entries, some key) =>
    { decoding with
      filterEntries := entries
      parameters := decoding.parameters.addError name
        s!"'{key}' is used both as a value and as a nested filter"
      sawFilter := true }

/-- Decodes one pair of a query string, changing the filter tree in place. -/
def addInPlace (decoding : Decoding) (pair : String × String) : Decoding :=
  match ParameterKey.read? pair.1 with
  | some key =>
    if key.family = "filter" ∧ key.segments ≠ [] then
      decoding.growFilter pair.1 key.segments pair.2
    else decoding.add pair
  | none => decoding.add pair

end Decoding

/-- Decodes the pairs of a query string with one filter tree that is changed in
place. -/
def ofPairsInPlace (pairs : List (String × String)) : QueryParameters :=
  (pairs.foldl Decoding.addInPlace {}).finish

end QueryParameters

end JsonApi
