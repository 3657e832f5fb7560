import JsonApi.Document.Assembly
import JsonApi.Proofs.Query.Decoding
import JsonApi.Proofs.Query.Encoding

/-!
# Page parameters apart from all others

The page parameters change nothing but the page of a request, and no other
parameter changes the page or depends on it.  When the page parameters of a
faultless request are replaced, the same request for another page is decoded
(`ofPairs_replaceIn`).
-/

namespace JsonApi

open JsonApi.Text

/-- The numbers of a page request are of the signed 64-bit range. -/
structure PageRequest.Bounded (request : PageRequest) : Prop where
  number : ∀ number, request.number = some number → isInt64 number = true
  size : ∀ size, request.size = some size → isInt64 size = true

namespace QueryParameters

variable {parameters : QueryParameters} {decoding : Decoding}
  {page : PageRequest} {pair : String × String} {pairs : List (String × String)}
  {change : QueryParameters → QueryParameters}

/-- The same request for another page. -/
def withPage
    (page : PageRequest)
    (parameters : QueryParameters) : QueryParameters :=
  { parameters with page := page }

/-- What was decoded so far, with another page. -/
def Decoding.withPage (page : PageRequest) (decoding : Decoding) : Decoding :=
  decoding.update (QueryParameters.withPage page)

/-- The name of a pair is not one of the two page parameters. -/
def NotPage (pair : String × String) : Prop :=
  pair.1 ≠ Page.numberParameter ∧ pair.1 ≠ Page.sizeParameter

instance (pair : String × String) : Decidable (NotPage pair) :=
  inferInstanceAs (Decidable (_ ∧ _))

/-! ## Errors are kept -/

theorem parseErrors_prefix_addSort
    (parameters : QueryParameters)
    (written : String) :
    parameters.parseErrors <+: (parameters.addSort written).parseErrors := by
  rw [addSort]
  induction splitAt ',' written generalizing parameters with
  | nil => exact List.prefix_refl _
  | cons entry entries induction =>
      refine List.IsPrefix.trans ?_ (induction _)
      rw [addSortEntry]
      split
      · exact List.prefix_refl _
      · exact List.prefix_append _ _

theorem parseErrors_prefix_addPage
    (parameters : QueryParameters)
    (name written : String) :
    parameters.parseErrors <+:
      (parameters.addPage name written).parseErrors := by
  rw [addPage]
  split
  · split <;> exact List.prefix_refl _
  · exact List.prefix_append _ _

/-- The errors found so far stay. -/
theorem Decoding.parseErrors_prefix_add
    (decoding : Decoding)
    (pair : String × String) :
    decoding.parameters.parseErrors <+:
      (decoding.add pair).parameters.parseErrors := by
  rcases add_cases pair with ⟨path, _, _, added⟩ | ⟨change, effect, changed⟩
  · rw [added, addFilter]
    split
    · exact List.prefix_refl _
    · exact List.prefix_append _ _
  · rw [changed]
    cases effect with
    | ignored => exact List.prefix_refl _
    | refused name reason known => exact List.prefix_append _ _
    | sort => exact parseErrors_prefix_addSort _ _
    | page isPage known => exact parseErrors_prefix_addPage _ _ _
    | fields resourceType => exact List.prefix_refl _
    | inclusions =>
        show decoding.parameters.parseErrors <+:
          (decoding.parameters.addInclusions pair.2).parseErrors
        rw [addInclusions]
        split <;> exact List.prefix_refl _

/-- Where no error was found, there was none before, and the last pair was
accepted. -/
theorem Decoding.faultless_of_add
    (faultless : (decoding.add pair).parameters.parseErrors = []) :
    decoding.parameters.parseErrors = [] ∧ decoding.Accepts pair := by
  have before : decoding.parameters.parseErrors = [] :=
    List.prefix_nil.mp (faultless ▸ decoding.parseErrors_prefix_add pair)
  exact ⟨before, faultless.trans before.symm⟩

/-! ## Parameters other than those of the page -/

theorem addSort_withPage
    (parameters : QueryParameters)
    (written : String) :
    (parameters.withPage page).addSort written =
      (parameters.addSort written).withPage page := by
  refine addSort_view (fun parameters entry => ?_) parameters written
  rw [addSortEntry, addSortEntry]
  split <;> rfl

/-- A pair that sets no page does the same whatever the page is. -/
theorem Effect.withPage
    (effect : Effect pair change)
    (notPage : NotPage pair)
    (parameters : QueryParameters) :
    change (parameters.withPage page) = (change parameters).withPage page := by
  cases effect with
  | ignored => rfl
  | refused name reason known => rfl
  | sort => exact addSort_withPage parameters pair.2
  | @page member isPage known =>
      have named := ParameterKey.text_of_read? isPage
      rcases known with rfl | rfl
      · exact absurd named.symm notPage.1
      · exact absurd named.symm notPage.2
  | fields resourceType => rfl
  | inclusions =>
      show (parameters.withPage page).addInclusions pair.2 =
        (parameters.addInclusions pair.2).withPage page
      rw [addInclusions, addInclusions]
      split <;> rfl

theorem Decoding.add_withPage
    (notPage : NotPage pair)
    (decoding : Decoding) :
    (decoding.withPage page).add pair = (decoding.add pair).withPage page :=
  add_update (fun _ _ => rfl) (fun effect => effect.withPage notPage) decoding

theorem Decoding.withPage_withPage
    (later : PageRequest)
    (decoding : Decoding) :
    (decoding.withPage page).withPage later = decoding.withPage later :=
  rfl

theorem Decoding.finish_withPage (decoding : Decoding) :
    (decoding.withPage page).finish = decoding.finish.withPage page :=
  finish_update (fun _ _ => rfl) decoding

/-! ## Page parameters -/

theorem addPage_cases
    (parameters : QueryParameters)
    (name written : String) :
    (∃ page, parameters.addPage name written = parameters.withPage page) ∨
      (parameters.addPage name written).parseErrors ≠
        parameters.parseErrors := by
  rw [addPage]
  split
  · left
    split
    · exact ⟨_, rfl⟩
    · exact ⟨_, rfl⟩
  · right
    simp [addError]

theorem read?_numberParameter :
    ParameterKey.read? Page.numberParameter =
      some ⟨"page", [pageNumberName]⟩ := by
  decide

theorem read?_sizeParameter :
    ParameterKey.read? Page.sizeParameter = some ⟨"page", [pageSizeName]⟩ := by
  decide

/-- A page parameter is decoded by the reader of pages. -/
theorem Decoding.add_page
    {member : String}
    (decoding : Decoding)
    (isPage : ParameterKey.read? pair.1 = some ⟨"page", [member]⟩)
    (known : member = pageNumberName ∨ member = pageSizeName) :
    decoding.add pair = decoding.update fun parameters =>
      parameters.addPage member pair.2 := by
  rw [add, isPage]
  show decoding.addKeyed _ _ _ = _
  rw [addKeyed, if_neg (show ¬"page" = "filter" by decide), if_neg (by simp),
    if_pos rfl]
  exact if_pos known

theorem Decoding.exists_add_page (isPage : ¬NotPage pair) :
    ∃ member, decoding.add pair =
      decoding.update fun parameters => parameters.addPage member pair.2 := by
  have named : pair.1 = Page.numberParameter ∨ pair.1 = Page.sizeParameter := by
    by_contra other
    exact isPage (not_or.mp other)
  rcases named with isNumber | isSize
  · exact ⟨_, decoding.add_page (isNumber ▸ read?_numberParameter) (.inl rfl)⟩
  · exact ⟨_, decoding.add_page (isSize ▸ read?_sizeParameter) (.inr rfl)⟩

/-- A page parameter that is accepted changes the page only. -/
theorem Decoding.Accepts.exists_withPage
    (accepts : decoding.Accepts pair)
    (isPage : ¬NotPage pair) :
    ∃ page, decoding.add pair = decoding.withPage page := by
  rcases Decoding.exists_add_page isPage with ⟨member, added⟩
  rw [Accepts, added] at accepts
  rcases addPage_cases decoding.parameters member pair.2 with
    ⟨page, changed⟩ | refused
  · refine ⟨page, ?_⟩
    rw [added]
    exact congrArg
      (fun parameters => { decoding with parameters := parameters }) changed
  · exact absurd accepts refused

/-! ## Replacing the page parameters -/

/-- Without faults, the page parameters leave no trace but the page. -/
theorem decode_filter_notPage
    (faultless : (decode pairs).parameters.parseErrors = [])
    (page : PageRequest) :
    (decode (pairs.filter fun pair => decide (NotPage pair))).withPage page =
      (decode pairs).withPage page := by
  induction pairs using List.reverseRecOn with
  | nil => rfl
  | append_singleton pairs pair induction =>
      rw [decode_append_singleton] at faultless
      rcases Decoding.faultless_of_add faultless with ⟨faultlessBefore, accepts⟩
      have before := induction faultlessBefore
      rw [List.filter_append, decode_append_singleton]
      by_cases notPage : NotPage pair
      · rw [List.filter_cons_of_pos (by simpa using notPage), List.filter_nil,
          decode_append_singleton, ← Decoding.add_withPage notPage, before,
          Decoding.add_withPage notPage]
      · rcases accepts.exists_withPage notPage with ⟨changed, added⟩
        rw [List.filter_cons_of_neg (by simpa using notPage), List.filter_nil,
          List.append_nil, before, added, Decoding.withPage_withPage]

/-- Page parameters with numbers set the page. -/
theorem Decoding.add_numbers
    {number size : Nat}
    (numberBounded : isInt64 number = true)
    (sizeBounded : isInt64 size = true)
    (decoding : Decoding) :
    (decoding.add (Page.numberParameter, toString number)).add
        (Page.sizeParameter, toString size) =
      decoding.withPage ⟨some number, some size⟩ := by
  have numberText : toString number = toString (number : Int) := rfl
  have sizeText : toString size = toString (size : Int) := rfl
  rw [add_page decoding read?_numberParameter (.inl rfl),
    add_page _ read?_sizeParameter (.inr rfl)]
  simp only [update, numberText, sizeText, addPage_number numberBounded,
    addPage_size sizeBounded]
  rfl

/-- With its page parameters replaced, a faultless request asks for another page
and nothing else. -/
theorem ofPairs_replaceIn
    {number size : Nat}
    (faultless : (ofPairs pairs).parseErrors = [])
    (numberBounded : isInt64 number = true)
    (sizeBounded : isInt64 size = true) :
    ofPairs (Page.replaceIn pairs number size) =
      (ofPairs pairs).withPage ⟨some number, some size⟩ := by
  have faultlessDecoding : (decode pairs).parameters.parseErrors = [] := by
    rw [← finish_decode, Decoding.finish] at faultless
    split at faultless <;> exact faultless
  have retained : Page.replaceIn pairs number size =
      (pairs.filter fun pair => decide (NotPage pair)) ++
        [(Page.numberParameter, toString number)] ++
          [(Page.sizeParameter, toString size)] := by
    rw [List.append_assoc]
    rfl
  rw [← finish_decode, retained, decode_append_singleton,
    decode_append_singleton, Decoding.add_numbers numberBounded sizeBounded,
    decode_filter_notPage faultlessDecoding, Decoding.finish_withPage,
    finish_decode]

/-! ## Numbers of pages -/

theorem isInt64_of_readInt64?
    {characters : List Char}
    {number : Int}
    (isRead : readInt64? characters = some number) :
    isInt64 number = true :=
  (Option.filter_eq_some_iff.mp isRead).2

theorem Decoding.page_add
    (notPage : NotPage pair)
    (decoding : Decoding) :
    (decoding.add pair).parameters.page = decoding.parameters.page := by
  have same : decoding.add pair =
      (decoding.add pair).withPage decoding.parameters.page :=
    add_withPage notPage decoding
  exact congrArg (fun decoding => decoding.parameters.page) same

theorem bounded_addPage
    (bounded : parameters.page.Bounded)
    (name written : String) :
    (parameters.addPage name written).page.Bounded := by
  rw [addPage]
  split
  · rename_i value isRead
    have isNumber := isInt64_of_readInt64? isRead
    split
    · exact ⟨fun number same => Option.some.inj same ▸ isNumber, bounded.size⟩
    · exact ⟨bounded.number, fun size same => Option.some.inj same ▸ isNumber⟩
  · exact bounded

theorem Decoding.bounded_add
    (bounded : decoding.parameters.page.Bounded)
    (pair : String × String) :
    (decoding.add pair).parameters.page.Bounded := by
  by_cases notPage : NotPage pair
  · rw [page_add notPage]
    exact bounded
  · rcases exists_add_page notPage with ⟨member, added⟩
    rw [added]
    exact bounded_addPage bounded member pair.2

/-- The numbers in the page parameters of a query string are of the signed
64-bit range. -/
theorem bounded_ofPairs (pairs : List (String × String)) :
    (ofPairs pairs).page.Bounded := by
  have decoded : (decode pairs).parameters.page.Bounded := by
    induction pairs using List.reverseRecOn with
    | nil => exact ⟨by simp [decode], by simp [decode]⟩
    | append_singleton pairs pair induction =>
        rw [decode_append_singleton]
        exact Decoding.bounded_add induction pair
  rw [← finish_decode, Decoding.finish]
  split <;> exact decoded

end QueryParameters

end JsonApi
