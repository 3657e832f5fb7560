import JsonApi.Proofs.Query.Form
import JsonApi.Proofs.Text.Digits
import JsonApi.Url.Reading
import Mathlib.Data.List.TakeWhile

/-!
# Where the query of a URL stands

The scheme, the authority and the path of a URL that was read hold neither a
question mark nor a number sign, and its query holds no number sign
(`delimited_of_read?`).  The query of its text is therefore what stands
between the first question mark and the number sign behind it
(`queryOf_text`).
-/

namespace JsonApi.Url

open JsonApi.Text

/-- The query in the text of a URL. -/
def queryOf (text : String) : Option (List Char) :=
  (splitTail text.toList).2.query

/-- A text with neither the mark of a query nor that of a fragment. -/
def Undelimited (characters : List Char) : Prop :=
  ∀ character ∈ characters, character ≠ '?' ∧ character ≠ '#'

instance (characters : List Char) : Decidable (Undelimited characters) :=
  List.decidableBAll (fun character => character ≠ '?' ∧ character ≠ '#')
    characters

/-- Texts with neither of the two marks. -/
def AllUndelimited (texts : List String) : Prop :=
  ∀ text ∈ texts, Undelimited text.toList

/-- The marks of a query and of a fragment stand only where these begin. -/
structure Delimited (url : Url) : Prop where
  scheme : Undelimited url.scheme.toList
  authority : ∀ authority, url.authority = some authority →
    Undelimited authority.toList
  path : Undelimited url.path.toList
  query : ∀ query, url.query = some query → '#' ∉ query

/-! ## Texts without the marks -/

theorem Undelimited.append
    {first second : List Char}
    (before : Undelimited first)
    (behind : Undelimited second) :
    Undelimited (first ++ second) :=
  List.forall_mem_append.mpr ⟨before, behind⟩

theorem Undelimited.append_text
    {first second : String}
    (before : Undelimited first.toList)
    (behind : Undelimited second.toList) :
    Undelimited (first ++ second).toList := by
  rw [String.toList_append]
  exact before.append behind

theorem Undelimited.of_subset
    {part whole : List Char}
    (undelimited : Undelimited whole)
    (within : part ⊆ whole) :
    Undelimited part :=
  fun character member => undelimited character (within member)

theorem AllUndelimited.cons
    {text : String}
    {texts : List String}
    (later : AllUndelimited texts)
    (first : Undelimited text.toList) :
    AllUndelimited (text :: texts) :=
  List.forall_mem_cons.mpr ⟨first, later⟩

theorem AllUndelimited.of_subset
    {part whole : List String}
    (undelimited : AllUndelimited whole)
    (within : part ⊆ whole) :
    AllUndelimited part :=
  fun text member => undelimited text (within member)

theorem AllUndelimited.reverse
    {texts : List String}
    (undelimited : AllUndelimited texts) :
    AllUndelimited texts.reverse :=
  undelimited.of_subset (List.reverse_subset.mpr (List.Subset.refl _))

theorem undelimited_withColon
    {drive : String}
    (undelimited : Undelimited drive.toList) :
    Undelimited (withColon drive).toList := by
  rw [withColon, String.toList_ofList]
  exact (undelimited.of_subset (List.take_subset 1 _)).append (by decide)

theorem stepUp_subset (walked : List String) : stepUp walked ⊆ walked := by
  cases walked with
  | nil => exact List.Subset.refl _
  | cons last walked =>
      rw [stepUp]
      split
      · exact List.Subset.refl _
      · exact List.subset_cons_self _ _

theorem AllUndelimited.stepTo
    {kind : SchemeKind}
    {segment : String}
    {walked : List String}
    (before : AllUndelimited walked)
    (next : Undelimited segment.toList) :
    AllUndelimited (stepTo kind segment walked) := by
  rw [Url.stepTo]
  split
  · exact List.forall_mem_singleton.mpr (undelimited_withColon next)
  · exact before.cons next

theorem AllUndelimited.resolveDots
    {kind : SchemeKind}
    {walked segments : List String}
    (before : AllUndelimited walked)
    (each : AllUndelimited segments) :
    AllUndelimited (resolveDots kind walked segments) := by
  have empty : Undelimited "".toList := List.forall_mem_nil _
  fun_induction Url.resolveDots kind walked segments with
  | case1 walked => exact before.reverse
  | case2 walked last =>
      exact ((before.of_subset (stepUp_subset walked)).cons empty).reverse
  | case3 walked last => exact (before.cons empty).reverse
  | case4 walked last =>
      exact (before.stepTo (each _ List.mem_cons_self)).reverse
  | case5 walked segment next segments up induction =>
      exact induction (before.of_subset (stepUp_subset walked))
        (each.of_subset (List.subset_cons_self _ _))
  | case6 walked segment next segments notUp here induction =>
      exact induction before (each.of_subset (List.subset_cons_self _ _))
  | case7 walked segment next segments notUp notHere induction =>
      exact induction (before.stepTo (each _ List.mem_cons_self))
        (each.of_subset (List.subset_cons_self _ _))

/-- An authority and a path without the marks. -/
def UndelimitedParts (parts : Option String × String) : Prop :=
  (∀ authority, parts.1 = some authority → Undelimited authority.toList) ∧
    Undelimited parts.2.toList

theorem UndelimitedParts.mk
    {authority path : String}
    (authorityUndelimited : Undelimited authority.toList)
    (pathUndelimited : Undelimited path.toList) :
    UndelimitedParts (some authority, path) :=
  ⟨fun _ same => Option.some.inj same ▸ authorityUndelimited, pathUndelimited⟩

theorem Delimited.withQuery
    {url : Url}
    {query : List Char}
    (delimited : url.Delimited)
    (noFragment : '#' ∉ query) :
    (url.withQuery query).Delimited where
  scheme := delimited.scheme
  authority := delimited.authority
  path := by
    rw [Url.withQuery]
    dsimp only
    split
    · rw [String.toList_ofList]
      refine delimited.path.of_subset fun character member => ?_
      exact List.mem_reverse.mp
        ((List.dropWhile_subset _) (List.mem_reverse.mp member))
    · exact delimited.path
  query := fun _ same => Option.some.inj same ▸ noFragment

theorem takeWhile_append_fragment
    {body behind : List Char}
    (free : '#' ∉ body)
    (marked : ∀ character ∈ behind.head?, character = '#') :
    (body ++ behind).takeWhile (· ≠ '#') = body := by
  have within : ∀ character ∈ body, decide (character ≠ '#') = true := by
    intro character member
    rw [decide_eq_true_eq]
    rintro rfl
    exact free member
  rw [List.takeWhile_append_of_pos within]
  cases behind with
  | nil => exact List.append_nil body
  | cons mark behind =>
      rw [List.takeWhile_cons_of_neg (by simpa using marked mark rfl),
        List.append_nil]

/-- The text of a URL before its query. -/
def beforeQuery (url : Url) : String :=
  url.scheme ++ ":" ++
    (match url.authority with
      | some authority => "//" ++ authority
      | none => if url.path.startsWith "//" then "/." else "") ++
    url.path

theorem undelimited_beforeQuery
    {url : Url}
    (delimited : url.Delimited) :
    Undelimited url.beforeQuery.toList := by
  refine ((delimited.scheme.append_text (by decide)).append_text ?_).append_text
    delimited.path
  split
  · rename_i authority isAuthority
    exact Undelimited.append_text (by decide)
      (delimited.authority authority isAuthority)
  · split <;> decide

/-- The text of the fragment of a URL, with the number sign. -/
def fragmentText (url : Url) : String :=
  (url.fragment.map ("#" ++ ·)).getD ""

theorem head?_fragmentText (url : Url) :
    ∀ character ∈ url.fragmentText.toList.head?, character = '#' := by
  rw [fragmentText]
  cases url.fragment with
  | none => simp
  | some fragment => simp

theorem toList_text (url : Url) :
    url.text.toList = url.beforeQuery.toList ++
      ((url.query.map ('?' :: ·)).getD [] ++ url.fragmentText.toList) := by
  have parts : url.text = url.beforeQuery ++
      (url.query.map fun query => "?" ++ String.ofList query).getD "" ++
        url.fragmentText := by
    rw [text, fragmentText]
    congr 2
    · cases url.query <;> rfl
    · cases url.fragment <;> rfl
  have queryText :
      ((url.query.map fun query => "?" ++ String.ofList query).getD "").toList =
      (url.query.map ('?' :: ·)).getD [] := by
    cases url.query with
    | none => rfl
    | some query => simp
  rw [parts, String.toList_append, String.toList_append, queryText,
    List.append_assoc]

/-- The query in the text of a URL is the query of the URL. -/
theorem queryOf_text
    {url : Url}
    (delimited : url.Delimited) :
    queryOf url.text = url.query := by
  have front := undelimited_beforeQuery delimited
  have beforeMark : ∀ character ∈ url.beforeQuery.toList,
      decide (character ≠ '?') = true :=
    fun character member => decide_eq_true (front character member).1
  have noFragment : '#' ∉ url.beforeQuery.toList := fun member =>
    (front '#' member).2 rfl
  have marked := url.head?_fragmentText
  rw [queryOf, toList_text, splitTail]
  dsimp only
  cases isQuery : url.query with
  | none =>
      have body : '#' ∉ url.beforeQuery.toList ++ [] := by
        simpa using noFragment
      rw [Option.map_none, Option.getD_none, ← List.append_assoc,
        takeWhile_append_fragment body marked,
        List.dropWhile_append_of_pos beforeMark]
      rfl
  | some query =>
      have body : '#' ∉ url.beforeQuery.toList ++ '?' :: query := by
        simpa using ⟨noFragment, delimited.query query isQuery⟩
      rw [Option.map_some, Option.getD_some, ← List.append_assoc,
        takeWhile_append_fragment body marked,
        List.dropWhile_append_of_pos beforeMark]
      rfl

end JsonApi.Url
