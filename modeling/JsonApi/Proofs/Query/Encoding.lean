import JsonApi.Proofs.Query.CommaList
import JsonApi.Proofs.Query.FilterWriting
import JsonApi.Proofs.Query.Form
import Mathlib.Data.List.Perm.Basic

/-!
# Request parameters written as query strings

Request parameters are written as one parameter for each leaf of the filter,
one for each fieldset and one for each other part that is there.  In whatever
order these stand in a query string, the request parameters are decoded from it
(`QueryParameters.ofQueryString_print`).

Decoding collects the parameters of each family by themselves
(`Decoding.foldl_add_pair`).  Of most families there is at most one parameter;
the order of fieldsets and of filter leaves does not matter, as dictionaries
ascend and trees are known by their leaves.
-/

namespace JsonApi

open JsonApi.Text

/-- One parameter of a query string. -/
inductive Parameter where
  | filter (path : List String) (value : String)
  | sort (keys : List SortKey)
  | pageNumber (number : Int)
  | pageSize (size : Int)
  | fields (resourceType : String) (names : List String)
  | inclusions (paths : List String)

namespace Parameter

/-- The family of a parameter with the segments behind it. -/
def key : Parameter → ParameterKey
  | filter path _ => ⟨"filter", path⟩
  | sort _ => ⟨"sort", []⟩
  | pageNumber _ => ⟨"page", [QueryParameters.pageNumberName]⟩
  | pageSize _ => ⟨"page", [QueryParameters.pageSizeName]⟩
  | fields resourceType _ => ⟨"fields", [resourceType]⟩
  | inclusions _ => ⟨"include", []⟩

/-- What is written behind the name of a parameter. -/
def value : Parameter → String
  | filter _ value => value
  | sort keys => joinWith ',' (keys.map SortKey.text)
  | pageNumber number => toString number
  | pageSize size => toString size
  | fields _ names => joinWith ',' names
  | inclusions paths => joinWith ',' paths

/-- The name and the value of a parameter. -/
def pair (parameter : Parameter) : String × String :=
  (parameter.key.text, parameter.value)

/-- A parameter that is read back from its name and value. -/
inductive Readable : Parameter → Prop where
  | filter
      {path : List String}
      (value : String)
      (nonempty : path ≠ [])
      (segments : ∀ segment ∈ path, IsSegment segment) :
      Readable (.filter path value)
  | sort
      {keys : List SortKey}
      (nonempty : keys ≠ [])
      (writable : ∀ key ∈ keys, key.Writable) :
      Readable (.sort keys)
  | pageNumber
      {number : Int}
      (bounded : isInt64 number = true) :
      Readable (.pageNumber number)
  | pageSize
      {size : Int}
      (bounded : isInt64 size = true) :
      Readable (.pageSize size)
  | fields
      {resourceType : String}
      {names : List String}
      (segment : IsSegment resourceType)
      (entries : ∀ name ∈ names, IsListEntry name) :
      Readable (.fields resourceType names)
  | inclusions
      {paths : List String}
      (nonempty : paths ≠ [])
      (entries : ∀ path ∈ paths, IsListEntry path) :
      Readable (.inclusions paths)

theorem Readable.segments
    {parameter : Parameter}
    (readable : parameter.Readable) :
    ∀ segment ∈ parameter.key.segments, IsSegment segment := by
  cases readable with
  | filter value nonempty segments => exact segments
  | sort nonempty writable => exact List.forall_mem_nil _
  | pageNumber bounded => exact List.forall_mem_singleton.mpr (by decide)
  | pageSize bounded => exact List.forall_mem_singleton.mpr (by decide)
  | fields segment entries => exact List.forall_mem_singleton.mpr segment
  | inclusions nonempty entries => exact List.forall_mem_nil _

/-! ## The parameters of one family -/

def leaf? : Parameter → Option (List String × String)
  | filter path value => some (path, value)
  | _ => none

def sortKeys? : Parameter → Option (List SortKey)
  | sort keys => some keys
  | _ => none

def pageNumber? : Parameter → Option Int
  | pageNumber number => some number
  | _ => none

def pageSize? : Parameter → Option Int
  | pageSize size => some size
  | _ => none

def fieldset? : Parameter → Option (String × List String)
  | fields resourceType names => some (resourceType, names)
  | _ => none

def inclusions? : Parameter → Option (List String)
  | inclusions paths => some paths
  | _ => none

end Parameter

namespace QueryParameters

open Parameter

/-- A comma list, which is left out if it has no entries. -/
def unlessEmpty {α : Type} : List α → Option (List α)
  | [] => none
  | entries => some entries

/-- The parameters that request parameters are written as. -/
def written (parameters : QueryParameters) : List Parameter :=
  parameters.filter.leaves.map (fun leaf => .filter leaf.1 leaf.2) ++
    ((unlessEmpty parameters.sort).toList.map .sort ++
      (parameters.page.number.toList.map .pageNumber ++
        (parameters.page.size.toList.map .pageSize ++
          (parameters.fields.map (fun entry => .fields entry.1 entry.2) ++
            (unlessEmpty parameters.inclusions).toList.map .inclusions))))

/-- Request parameters that can be written as a query string. -/
structure Encodable (parameters : QueryParameters) : Prop where
  noErrors : parameters.parseErrors = []
  /-- The filter asks for nothing or is a map that can be written. -/
  filter : parameters.filter = .empty ∨
    parameters.filter.Writable ∧ ∃ entries, parameters.filter = .map entries
  sort : ∀ key ∈ parameters.sort, key.Writable
  pageNumber : ∀ number ∈ parameters.page.number, isInt64 number = true
  pageSize : ∀ size ∈ parameters.page.size, isInt64 size = true
  ascending : Dictionary.Ascending parameters.fields
  resourceTypes : ∀ entry ∈ parameters.fields, IsSegment entry.1
  names : ∀ entry ∈ parameters.fields, ∀ name ∈ entry.2, IsListEntry name
  inclusions : ∀ path ∈ parameters.inclusions, IsListEntry path

variable {parameters : QueryParameters}

theorem mem_unlessEmpty
    {α : Type}
    {entries others : List α}
    (member : others ∈ unlessEmpty entries) :
    others = entries ∧ entries ≠ [] := by
  cases entries with
  | nil => cases member
  | cons first rest =>
      cases member
      exact ⟨rfl, List.cons_ne_nil first rest⟩

theorem readable_of_mem_leaves
    (encodable : parameters.Encodable)
    {leaf : List String × String}
    (isLeaf : leaf ∈ parameters.filter.leaves) :
    (Parameter.filter leaf.1 leaf.2).Readable := by
  rcases encodable.filter with isEmpty | ⟨writable, entries, isMap⟩
  · rw [isEmpty] at isLeaf
    cases isLeaf
  · refine .filter leaf.2 ?_ fun segment inPath =>
      (writable.isSegment_of_mem_leaves isLeaf segment inPath).2
    intro atRoot
    rw [isMap] at isLeaf
    obtain ⟨path, value⟩ := leaf
    cases atRoot
    exact FilterInput.nil_not_mem_entryLeaves isLeaf

/-- Everything that is written can be read back. -/
theorem readable_of_mem_written (encodable : parameters.Encodable) :
    ∀ parameter ∈ parameters.written, parameter.Readable := by
  intro parameter member
  simp only [written, List.mem_append, List.mem_map,
    Option.mem_toList] at member
  rcases member with ⟨leaf, isLeaf, rfl⟩ | ⟨keys, isSort, rfl⟩ |
    ⟨number, isNumber, rfl⟩ |
    ⟨size, isSize, rfl⟩ | ⟨entry, isEntry, rfl⟩ | ⟨paths, isInclusions, rfl⟩
  · exact readable_of_mem_leaves encodable isLeaf
  · rcases mem_unlessEmpty isSort with ⟨rfl, nonempty⟩
    exact .sort nonempty encodable.sort
  · exact .pageNumber (encodable.pageNumber number isNumber)
  · exact .pageSize (encodable.pageSize size isSize)
  · exact .fields (encodable.resourceTypes entry isEntry)
      (encodable.names entry isEntry)
  · rcases mem_unlessEmpty isInclusions with ⟨rfl, nonempty⟩
    exact .inclusions nonempty encodable.inclusions

/-! ## Decoding one parameter -/

/-- The fieldsets with further names for one type. -/
def withFieldset
    (fieldsets : List (String × List String))
    (entry : String × List String) :
    List (String × List String) :=
  Dictionary.insert entry.1
    ((Dictionary.find? fieldsets entry.1).getD [] ++ entry.2) fieldsets

/-- The request parameters with what one parameter adds to them.  Leaves of the
filter are gathered elsewhere. -/
def withParameter (parameters : QueryParameters) : Parameter → QueryParameters
  | .filter _ _ => parameters
  | .sort keys => { parameters with sort := parameters.sort ++ keys }
  | .pageNumber number => parameters.setPageNumber number
  | .pageSize size => parameters.setPageSize size
  | .fields resourceType names =>
    { parameters with
        fields := withFieldset parameters.fields (resourceType, names) }
  | .inclusions paths =>
      { parameters with inclusions := parameters.inclusions ++ paths }

theorem addPage_number
    {number : Int}
    (bounded : isInt64 number = true)
    (parameters : QueryParameters) :
    parameters.addPage pageNumberName (toString number) =
      parameters.setPageNumber number := by
  rw [addPage, trimCharacters_toString, readInt64?_toString bounded]
  exact if_pos rfl

theorem addPage_size
    {size : Int}
    (bounded : isInt64 size = true)
    (parameters : QueryParameters) :
    parameters.addPage pageSizeName (toString size) =
      parameters.setPageSize size := by
  rw [addPage, trimCharacters_toString, readInt64?_toString bounded]
  exact if_neg (by decide)

theorem addFields_joinWith
    {resourceType : String}
    {names : List String}
    (entries : ∀ name ∈ names, IsListEntry name)
    (parameters : QueryParameters) :
    parameters.addFields resourceType (joinWith ',' names) =
      { parameters with
          fields := withFieldset parameters.fields (resourceType, names) } := by
  rw [addFields, filter_commaPieces_joinWith entries]
  rfl

namespace Decoding

variable {decoding : Decoding} {parameter : Parameter}

theorem add_pair
    (decoding : Decoding)
    (readable : parameter.Readable) :
    decoding.add parameter.pair =
      decoding.addKeyed parameter.key.text parameter.key parameter.value := by
  have noBracket : '[' ∉ parameter.key.family.toList := by
    cases parameter <;> dsimp only [key] <;> decide
  rw [add, pair, ParameterKey.read?_text noBracket readable.segments]

/-- A filter parameter adds its leaf. -/
theorem add_pair_of_leaf
    {path : List String}
    {value : String}
    {entries : List (String × FilterBranch)}
    (readable : (Parameter.filter path value).Readable)
    (added :
      FilterBranch.insertLeaf value path decoding.filterEntries = .ok entries) :
    decoding.add (Parameter.filter path value).pair =
      ⟨decoding.parameters, entries, true⟩ := by
  rw [add_pair decoding readable]
  cases readable with
  | filter value nonempty segments =>
      cases path with
      | nil => exact absurd rfl nonempty
      | cons first others =>
          show decoding.addFilter _ (first :: others) value = _
          rw [addFilter, added]

/-- Every other parameter changes the request parameters only. -/
theorem add_pair_of_noLeaf
    (readable : parameter.Readable)
    (noLeaf : parameter.leaf? = none) :
    decoding.add parameter.pair =
      decoding.update (·.withParameter parameter) := by
  rw [add_pair decoding readable]
  cases readable with
  | filter value nonempty segments => cases noLeaf
  | sort nonempty writable =>
      simp only [addKeyed, key, value, withParameter,
        addSort_joinWith _ nonempty writable]
      rfl
  | pageNumber bounded =>
      simp only [addKeyed, key, value, withParameter, addPage_number bounded]
      rfl
  | pageSize bounded =>
      simp only [addKeyed, key, value, withParameter, addPage_size bounded]
      rfl
  | fields segment entries =>
      simp only [addKeyed, key, value, withParameter,
        addFields_joinWith entries]
      rfl
  | inclusions nonempty entries =>
      simp only [addKeyed, key, value, withParameter,
        addInclusions_joinWith _ nonempty entries]
      rfl

/-- Decoding collects the leaves of the filter on one side and all else on the
other. -/
theorem foldl_add_pair
    {parameters : List Parameter}
    (readable : ∀ parameter ∈ parameters, parameter.Readable)
    (decoding : Decoding)
    {entries : List (String × FilterBranch)}
    (gathered : FilterBranch.insertLeaves (parameters.filterMap leaf?)
      decoding.filterEntries =
      .ok entries) :
    (parameters.map pair).foldl add decoding =
      ⟨parameters.foldl withParameter decoding.parameters, entries,
        decoding.sawFilter || !(parameters.filterMap leaf?).isEmpty⟩ := by
  induction parameters generalizing decoding with
  | nil =>
      cases gathered
      simp
  | cons parameter parameters induction =>
      rcases List.forall_mem_cons.mp readable with ⟨isFirst, others⟩
      rw [List.map_cons, List.foldl_cons, List.foldl_cons]
      cases isLeaf : parameter.leaf? with
      | none =>
          rw [List.filterMap_cons_none isLeaf] at gathered ⊢
          rw [add_pair_of_noLeaf isFirst isLeaf,
            induction others (decoding.update _) gathered]
          rfl
      | some leaf =>
          cases isFirst with
          | @filter path value nonempty segments =>
              rw [List.filterMap_cons_some isLeaf] at gathered ⊢
              cases isLeaf
              rw [FilterBranch.insertLeaves, List.foldlM_cons] at gathered
              rcases Outcome.bind_eq_ok_iff.mp gathered with
                ⟨changed, added, rest⟩
              rw [add_pair_of_leaf (.filter value nonempty segments) added,
                induction others ⟨decoding.parameters, changed, true⟩ rest]
              simp [withParameter]
          | _ => cases isLeaf

end Decoding

/-! ## Decoding all parameters -/

/-- The parameters of each family are collected by themselves. -/
theorem foldl_withParameter
    (added : List Parameter)
    (parameters : QueryParameters) :
    added.foldl withParameter parameters =
      { filter := parameters.filter
        sort := (added.filterMap sortKeys?).foldl (· ++ ·) parameters.sort
        page :=
          ⟨(added.filterMap pageNumber?).foldl (fun _ number => some number)
              parameters.page.number,
            (added.filterMap pageSize?).foldl (fun _ size => some size)
              parameters.page.size⟩
        fields :=
          (added.filterMap fieldset?).foldl withFieldset parameters.fields
        inclusions :=
          (added.filterMap inclusions?).foldl (· ++ ·) parameters.inclusions
        parseErrors := parameters.parseErrors } := by
  induction added generalizing parameters with
  | nil => rfl
  | cons parameter added induction =>
      rw [List.foldl_cons, induction]
      cases parameter <;> rfl

/-- Fieldsets of different types are all kept, whatever their order. -/
theorem foldl_withFieldset
    {fieldsets : List (String × List String)}
    (distinct : (Dictionary.keys fieldsets).Nodup) :
    Dictionary.Ascending (fieldsets.foldl withFieldset []) ∧
      (fieldsets.foldl withFieldset []).Perm fieldsets := by
  induction fieldsets using List.reverseRecOn with
  | nil => exact ⟨Dictionary.Ascending.nil, List.Perm.refl _⟩
  | append_singleton fieldsets last induction =>
      rw [Dictionary.keys, List.map_append, List.nodup_append] at distinct
      rcases induction distinct.1 with ⟨ascending, order⟩
      have absent :
          last.1 ∉ Dictionary.keys (fieldsets.foldl withFieldset []) := by
        rw [Dictionary.keys, (order.map Prod.fst).mem_iff]
        intro earlier
        exact distinct.2.2 last.1 earlier last.1 (by simp) rfl
      rw [List.foldl_append, List.foldl_cons, List.foldl_nil, withFieldset,
        Dictionary.find?_eq_none absent]
      refine ⟨ascending.insert _ _, ?_⟩
      exact (Dictionary.insert_perm _ absent).trans
        ((order.cons last).trans
            (List.perm_append_singleton last fieldsets).symm)

/-- A list that can only be reordered in one way. -/
theorem eq_toList_of_perm
    {α : Type}
    {element? : Option α}
    {elements : List α}
    (order : elements.Perm element?.toList) :
    elements = element?.toList := by
  cases element? with
  | none => exact List.perm_nil.mp order
  | some element => exact List.perm_singleton.mp order

theorem foldl_unlessEmpty
    {α : Type}
    (entries : List α) :
    (unlessEmpty entries).toList.foldl (· ++ ·) [] = entries := by
  cases entries <;> rfl

theorem foldl_toList
    {α : Type}
    (element? : Option α) :
    element?.toList.foldl (fun _ element => some element) none = element? := by
  cases element? <;> rfl

variable {shuffled : List Parameter}

/-- Everything but the filter is collected, whatever the order of the
parameters. -/
theorem foldl_withParameter_of_perm
    (ascending : Dictionary.Ascending parameters.fields)
    (order : shuffled.Perm parameters.written) :
    shuffled.foldl withParameter {} =
      { parameters with filter := .empty, parseErrors := [] } := by
  have sort :
      shuffled.filterMap sortKeys? = (unlessEmpty parameters.sort).toList := by
    apply eq_toList_of_perm
    simpa [written, Function.comp_def, sortKeys?] using
      order.filterMap sortKeys?
  have pageNumber :
      shuffled.filterMap pageNumber? = parameters.page.number.toList := by
    apply eq_toList_of_perm
    simpa [written, Function.comp_def, pageNumber?] using
      order.filterMap pageNumber?
  have pageSize :
      shuffled.filterMap pageSize? = parameters.page.size.toList := by
    apply eq_toList_of_perm
    simpa [written, Function.comp_def, pageSize?] using
      order.filterMap pageSize?
  have inclusions :
      shuffled.filterMap inclusions? =
        (unlessEmpty parameters.inclusions).toList := by
    apply eq_toList_of_perm
    simpa [written, Function.comp_def, inclusions?] using
      order.filterMap inclusions?
  have fieldsets : (shuffled.filterMap fieldset?).Perm parameters.fields := by
    simpa [written, Function.comp_def, fieldset?] using
      order.filterMap fieldset?
  have distinct : (Dictionary.keys (shuffled.filterMap fieldset?)).Nodup :=
    (fieldsets.map Prod.fst).nodup_iff.mpr ascending.nodup_keys
  rcases foldl_withFieldset distinct with ⟨gathered, gatheredOrder⟩
  have fields := gathered.eq_of_perm ascending (gatheredOrder.trans fieldsets)
  rw [foldl_withParameter, sort, pageNumber, pageSize, inclusions]
  simp only [foldl_unlessEmpty, foldl_toList, fields]

/-- Request parameters are decoded from the pairs they are written as, in
whatever order these stand. -/
theorem ofPairs_of_perm
    (encodable : parameters.Encodable)
    (order : shuffled.Perm parameters.written) :
    ofPairs (shuffled.map pair) = parameters := by
  have readable : ∀ parameter ∈ shuffled, parameter.Readable :=
    fun parameter member =>
    readable_of_mem_written encodable parameter (order.mem_iff.mp member)
  have leaves : (shuffled.filterMap leaf?).Perm parameters.filter.leaves := by
    simpa [written, Function.comp_def, leaf?] using order.filterMap leaf?
  have others := foldl_withParameter_of_perm encodable.ascending order
  have noErrors := encodable.noErrors
  rcases encodable.filter with isEmpty | ⟨writable, entries, isMap⟩
  -- Without a filter parameter the filter stays empty; it is not made of an
  -- empty branch.
  · rw [isEmpty] at leaves
    have noLeaves : shuffled.filterMap leaf? = [] := List.perm_nil.mp leaves
    rw [ofPairs, Decoding.foldl_add_pair readable {} (by rw [noLeaves]; rfl),
      others, noLeaves,
      ← isEmpty, ← noErrors]
    rfl
  · rw [isMap] at writable leaves
    rcases FilterBranch.insertLeaves_of_perm writable leaves with
      ⟨held, gathered, back⟩
    have someLeaf : (shuffled.filterMap leaf?).isEmpty = false := by
      rcases writable.exists_leaf with ⟨path, value, isLeaf⟩
      rw [List.isEmpty_eq_false_iff]
      exact List.ne_nil_of_mem (leaves.mem_iff.mpr isLeaf)
    rw [ofPairs, Decoding.foldl_add_pair readable {} gathered, Decoding.finish,
      someLeaf, others]
    simp only [Bool.not_false, Bool.or_true, if_true, back, ← isMap, ← noErrors]

/-- A rearrangement of images comes from a rearrangement of what they are images
of. -/
theorem exists_perm_of_perm_map
    {α β : Type}
    {view : α → β}
    {items : List α}
    {images : List β}
    (order : images.Perm (items.map view)) :
    ∃ rearranged : List α, rearranged.Perm items ∧
      rearranged.map view = images := by
  have paired : List.Forall₂ (fun image item => image = view item)
      (items.map view) items := by
    rw [List.forall₂_map_left_iff]
    exact List.forall₂_same.mpr fun _ _ => rfl
  rcases List.perm_comp_forall₂ order paired with
    ⟨rearranged, same, rearrangedOrder⟩
  refine ⟨rearranged, rearrangedOrder, ?_⟩
  rw [← List.forall₂_eq_eq_eq]
  exact List.forall₂_map_left_iff.mpr
    (same.flip.imp fun _ _ equal => equal.symm)

theorem ofQueryString_ofList
    {characters : List Char}
    (noMark : characters.head? ≠ some '?') :
    ofQueryString (String.ofList characters) =
      ofPairs (Form.parse characters) := by
  rw [ofQueryString, String.toList_ofList]
  split
  · exact absurd rfl noMark
  · rfl

/-- Decoding undoes encoding: request parameters are decoded from every query
string that lists the pairs they are written as, in whatever order. -/
theorem ofQueryString_print
    {pairs : List (String × String)}
    (encodable : parameters.Encodable)
    (order : pairs.Perm (parameters.written.map pair)) :
    ofQueryString (String.ofList (Form.print pairs)) = parameters := by
  rcases exists_perm_of_perm_map order with ⟨shuffled, shuffledOrder, rfl⟩
  rw [ofQueryString_ofList (Form.head?_print_ne _), Form.parse_print,
    ofPairs_of_perm encodable shuffledOrder]

/-- Some articles of two authors, newest first, with their authors. -/
def newestArticles : QueryParameters where
  filter := .map
    [("name", .map
        [("in",
          .list [.scalar (.string "Anna"), .scalar (.string "Ben & Co")])]),
      ("year", .map [("gte", .scalar (.string "1965"))])]
  sort := [⟨"year", true⟩, ⟨"id", false⟩]
  page := ⟨none, some 5⟩
  fields := [("articles", ["title", "author"]), ("people", [])]
  inclusions := ["author", "author.country"]

theorem encodable_newestArticles : newestArticles.Encodable where
  noErrors := rfl
  filter := by
    have names :
        (FilterInput.list [.scalar (.string "Anna"),
            .scalar (.string "Ben & Co")]).Writable :=
      .list (by simp) (by decide) (by simp [FilterInput.Writable.scalar])
    have oneEntry : ∀ (key : String) {value : FilterInput},
        key ≠ "" ∧ IsSegment key →
        FilterBranch.position? key = none → value.Writable →
          (FilterInput.map [(key, value)]).Writable := by
      intro key value segment named writable
      exact .map (List.pairwise_singleton _ _) (by simpa using segment)
        (by simpa using named) (by simpa using writable)
    have name := oneEntry "in" (by decide) (by decide) names
    have year := oneEntry "gte" (by decide) (by decide) (.scalar "1965")
    refine Or.inr ⟨.map (Dictionary.ascending_iff_keys.mpr (by decide))
        (by decide) ⟨_, List.mem_cons_self, by decide⟩ ?_, _, rfl⟩
    simpa using ⟨name, year⟩
  sort := by decide
  pageNumber := by decide
  pageSize := by decide
  ascending := Dictionary.ascending_iff_keys.mpr (by decide)
  resourceTypes := by decide
  names := by decide
  inclusions := by decide

/-- The pairs that these request parameters are written as, mixed up. -/
def newestArticlesPairs : List (String × String) :=
  [("include", "author,author.country"), ("filter[name][in][1]", "Ben & Co"),
    ("fields[people]", ""), ("page[size]", "5"), ("filter[year][gte]", "1965"),
    ("filter[name][in][0]", "Anna"), ("fields[articles]", "title,author"),
      ("sort", "-year,id")]

theorem ofQueryString_print_newestArticles :
    newestArticles.Encodable ∧
      newestArticlesPairs.Perm (newestArticles.written.map pair) ∧
      ofQueryString (String.ofList (Form.print newestArticlesPairs)) =
        newestArticles := by
  have order : newestArticlesPairs.Perm (newestArticles.written.map pair) := by
    decide
  exact ⟨encodable_newestArticles, order,
    ofQueryString_print encodable_newestArticles order⟩

end QueryParameters

end JsonApi
