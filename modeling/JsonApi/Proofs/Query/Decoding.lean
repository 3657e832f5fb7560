import JsonApi.Query.Parameters

/-!
# The effect of one parameter

What a parameter does when it is decoded depends on its name and its value, and
not on what was decoded before: a filter parameter adds a leaf to the filter,
and every other one changes the parameters in one of a few ways that leave the
filter alone (`Decoding.add_cases`).  What all parameters keep is therefore
shown once for each of these ways, and so is that something about the parameters
can be changed before or after decoding (`Decoding.add_update`).
-/

namespace JsonApi.QueryParameters

/-- The reasons for which a parameter is refused because of its name. -/
def nameFaults : List String :=
  ["unbalanced brackets", "expects filter[field]=value",
    "only page[number] and page[size] are supported",
    "expects fields[type]=a,b"]

/-- The ways in which a pair that is no filter changes the parameters. -/
inductive Effect (pair : String × String) :
    (QueryParameters → QueryParameters) → Prop where
  | ignored : Effect pair id
  | refused
      (name reason : String)
      (known : reason ∈ nameFaults) :
      Effect pair fun parameters => parameters.addError name reason
  | sort : Effect pair fun parameters => parameters.addSort pair.2
  | page
      {member : String}
      (isPage : ParameterKey.read? pair.1 = some ⟨"page", [member]⟩)
      (known : member = pageNumberName ∨ member = pageSizeName) :
      Effect pair fun parameters => parameters.addPage member pair.2
  | fields (resourceType : String) :
      Effect pair fun parameters => parameters.addFields resourceType pair.2
  | inclusions : Effect pair fun parameters => parameters.addInclusions pair.2

namespace Decoding

/-- A pair adds a filter leaf, or it changes the parameters and leaves the
filter alone. -/
theorem add_cases (pair : String × String) :
    (∃ path, ParameterKey.read? pair.1 = some ⟨"filter", path⟩ ∧ path ≠ [] ∧
        ∀ decoding : Decoding,
          decoding.add pair = decoding.addFilter pair.1 path pair.2) ∨
      ∃ change, Effect pair change ∧
        ∀ decoding : Decoding, decoding.add pair = decoding.update change := by
  simp only [add]
  split
  · exact .inr
      ⟨_, .refused pair.1 "unbalanced brackets" (by decide), fun _ => rfl⟩
  · rename_i key isRead
    obtain ⟨family, segments⟩ := key
    simp only [addKeyed]
    by_cases isFilter : family = "filter"
    · subst isFilter
      cases segments with
      | nil =>
          exact .inr ⟨_, .refused "filter" "expects filter[field]=value"
              (by decide), fun _ => rfl⟩
      | cons segment path =>
          exact .inl ⟨segment :: path, isRead, List.cons_ne_nil segment path,
              fun _ => rfl⟩
    · simp only [if_neg isFilter]
      right
      split
      · exact ⟨_, .sort, fun _ => rfl⟩
      · split
        · rename_i isPage
          subst isPage
          split
          · rename_i member
            split
            · rename_i known
              exact ⟨_, .page isRead known, fun _ => rfl⟩
            · exact ⟨_, .refused pair.1
                "only page[number] and page[size] are supported" (by decide),
                fun _ => rfl⟩
          · exact ⟨_, .refused pair.1
              "only page[number] and page[size] are supported" (by decide),
              fun _ => rfl⟩
        · split
          · split
            · exact ⟨_, .fields _, fun _ => rfl⟩
            · exact ⟨_, .refused pair.1 "expects fields[type]=a,b" (by decide),
                fun _ => rfl⟩
          · split
            · exact ⟨_, .inclusions, fun _ => rfl⟩
            · exact ⟨id, .ignored, fun _ => rfl⟩

/-- Decoding a pair finds no fault with it. -/
def Accepts (decoding : Decoding) (pair : String × String) : Prop :=
  (decoding.add pair).parameters.parseErrors = decoding.parameters.parseErrors

/-- A filter parameter with at least one segment adds a leaf. -/
theorem add_filter
    {pair : String × String}
    {path : List String}
    (isFilter : ParameterKey.read? pair.1 = some ⟨"filter", path⟩)
    (nonempty : path ≠ [])
    (decoding : Decoding) :
    decoding.add pair = decoding.addFilter pair.1 path pair.2 := by
  rcases List.exists_cons_of_ne_nil nonempty with ⟨segment, rest, rfl⟩
  rw [add, isFilter]
  exact if_pos rfl

/-- A view of the parameters can be taken before or after decoding a pair if it
can be taken before or after each effect of the pair and after the error for a
filter that does not fit. -/
theorem add_update
    {pair : String × String}
    {view : QueryParameters → QueryParameters}
    (conflicts : ∀ parameters reason,
      (view parameters).addError pair.1 reason =
        view (parameters.addError pair.1 reason))
    (effects : ∀ {change}, Effect pair change →
      ∀ parameters, change (view parameters) = view (change parameters))
    (decoding : Decoding) :
    (decoding.update view).add pair = (decoding.add pair).update view := by
  have sameEntries :
      (decoding.update view).filterEntries = decoding.filterEntries := rfl
  rcases add_cases pair with ⟨path, _, _, added⟩ | ⟨change, effect, changed⟩
  · rw [added, added, addFilter, addFilter, sameEntries]
    split
    · rfl
    · exact congrArg
        (fun parameters =>
            ({ decoding with parameters, sawFilter := true } : Decoding))
        (conflicts decoding.parameters _)
  · rw [changed, changed]
    exact congrArg
      (fun parameters => { decoding with parameters := parameters })
      (effects effect decoding.parameters)

theorem finish_update
    {view : QueryParameters → QueryParameters}
    (filters : ∀ (parameters : QueryParameters) filter,
      { view parameters with filter } = view { parameters with filter })
    (decoding : Decoding) :
    (decoding.update view).finish = view decoding.finish := by
  have sameSight : (decoding.update view).sawFilter = decoding.sawFilter := rfl
  rw [finish, finish, sameSight]
  split
  · exact filters decoding.parameters _
  · rfl

end Decoding

theorem addSort_view
    {view : QueryParameters → QueryParameters}
    (entries : ∀ parameters entry,
      (view parameters).addSortEntry entry =
        view (parameters.addSortEntry entry))
    (parameters : QueryParameters)
    (written : String) :
    (view parameters).addSort written = view (parameters.addSort written) :=
  List.foldl_hom view entries

/-- What is decoded from some pairs. -/
def decode (pairs : List (String × String)) : Decoding :=
  pairs.foldl Decoding.add {}

theorem decode_append_singleton
    (pairs : List (String × String))
    (pair : String × String) :
    decode (pairs ++ [pair]) = (decode pairs).add pair := by
  rw [decode, List.foldl_append]
  rfl

theorem finish_decode (pairs : List (String × String)) :
    (decode pairs).finish = ofPairs pairs :=
  rfl

/-- The pairs that a query string is decoded from. -/
def pairsOf (query : String) : List (String × String) :=
  match query.toList with
  | '?' :: rest => Form.parse rest
  | characters => Form.parse characters

theorem ofPairs_pairsOf (query : String) :
    ofPairs (pairsOf query) = ofQueryString query := by
  unfold pairsOf ofQueryString
  split <;> simp_all

end JsonApi.QueryParameters
