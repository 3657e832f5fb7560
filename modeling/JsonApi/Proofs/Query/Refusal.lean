import JsonApi.Proofs.Query.Appending
import JsonApi.Proofs.Text.Pieces
import JsonApi.Query.Parameters

/-!
# Refused filter parameters

A filter tree that is changed in place is changed only by paths that fit: a
branch that is made on the way is empty, so that the rest of the path always
fits below it, and where a path is refused nothing was made before
(`FilterBranch.grow_eq`).  Decoding in place is therefore decoding
(`QueryParameters.ofPairsInPlace_eq`), and a filter parameter that is refused
leaves one error behind and nothing else.  As the errors found so far have no
influence on what is decoded after them, a query string without that parameter
is decoded to the same without that error
(`QueryParameters.refused_filter_changes_nothing`).
-/

namespace JsonApi

namespace FilterBranch

open Dictionary

/-- The keys ascend at every depth. -/
inductive Ordered : FilterBranch → Prop where
  | leaf (value : String) : Ordered (.leaf value)
  | branch
      {entries : List (String × FilterBranch)}
      (ascending : Ascending entries)
      (inner : ∀ entry ∈ entries, Ordered entry.2) :
      Ordered (.branch entries)

theorem ordered_nil : Ordered (.branch []) :=
  .branch Ascending.nil (List.forall_mem_nil _)

theorem Sound.ordered
    {tree : FilterBranch}
    (sound : Sound tree) :
    Ordered tree := by
  induction sound with
  | leaf value => exact .leaf value
  | branch ascending _ _ induction => exact .branch ascending induction

theorem SoundEntries.ordered
    {entries : List (String × FilterBranch)}
    (sound : SoundEntries entries) :
    Ordered (.branch entries) :=
  .branch sound.ascending fun entry member => (sound.inner entry member).ordered

/-- Every path fits where there is nothing yet. -/
theorem exists_insertLeaf_nil
    (value : String)
    (path : List String) :
    ∃ created, insertLeaf value path [] = .ok created := by
  induction path with
  | nil => exact ⟨[], rfl⟩
  | cons segment path induction =>
      cases path with
      | nil => exact ⟨_, rfl⟩
      | cons next path =>
          rcases induction with ⟨created, succeeded⟩
          exact ⟨_, Outcome.map_eq_ok_iff.mpr ⟨created, succeeded, rfl⟩⟩

/-- Adding a leaf in place gives the entries with the leaf, or the entries as
they were. -/
theorem grow_eq
    (value : String)
    (path : List String)
    {entries : List (String × FilterBranch)}
    (ordered : Ordered (.branch entries)) :
    grow value path entries =
      match insertLeaf value path entries with
      | .ok changed => (changed, none)
      | .error key => (entries, some key) := by
  induction path generalizing entries with
  | nil => rfl
  | cons segment path induction =>
      cases ordered with
      | branch ascending inner =>
      cases path with
      | nil =>
          rw [grow, insertLeaf]
          cases find? entries (keyOf segment entries) with
          | none => rfl
          | some held => cases held <;> rfl
      | cons next path =>
          rw [grow, insertLeaf]
          dsimp only
          cases found : find? entries (keyOf segment entries) with
          | none =>
              have isNew : openBranch (keyOf segment entries) entries =
                  insert (keyOf segment entries) (.branch []) entries := by
                rw [openBranch, contains, found]
                rfl
              rcases exists_insertLeaf_nil value (next :: path) with
                ⟨created, succeeded⟩
              have below := induction ordered_nil
              rw [succeeded] at below
              rw [isNew, find?_insert_self]
              dsimp only
              rw [below, succeeded]
              dsimp only [Except.map]
              rw [ascending.insert_insert]
          | some held =>
              have kept :
                  openBranch (keyOf segment entries) entries = entries := by
                rw [openBranch, contains, found]
                rfl
              rw [kept, found]
              cases held with
              | leaf old => rfl
              | branch held =>
                  dsimp only
                  rw [induction (inner _ (mem_of_find? found))]
                  cases insertLeaf value (next :: path) held with
                  | ok changed => rfl
                  | error key =>
                      dsimp only [Except.map]
                      rw [ascending.insert_of_find? found]

/-- A path that is refused leaves the whole tree as it was. -/
theorem grow_of_refused
    {value key : String}
    {path : List String}
    {entries : List (String × FilterBranch)}
    (ordered : Ordered (.branch entries))
    (refused : (grow value path entries).2 = some key) :
    (grow value path entries).1 = entries := by
  rw [grow_eq value path ordered] at refused ⊢
  cases inserted : insertLeaf value path entries with
  | ok changed =>
      rw [inserted] at refused
      cases refused
  | error key => rfl

end FilterBranch

namespace QueryParameters

open JsonApi.Text

variable {decoding : Decoding} {before after pairs : List (String × String)}
  {pair : String × String} {change : QueryParameters → QueryParameters}

/-! ## Decoding in place -/

theorem Decoding.growFilter_eq
    (ordered : FilterBranch.Ordered (.branch decoding.filterEntries))
    (name : String)
    (path : List String)
    (written : String) :
    decoding.growFilter name path written =
      decoding.addFilter name path written := by
  rw [growFilter, addFilter, FilterBranch.grow_eq written path ordered]
  cases FilterBranch.insertLeaf written path decoding.filterEntries <;> rfl

theorem Decoding.addInPlace_eq
    (ordered : FilterBranch.Ordered (.branch decoding.filterEntries))
    (pair : String × String) :
    decoding.addInPlace pair = decoding.add pair := by
  rw [addInPlace]
  split
  · rename_i key isRead
    split
    · rename_i isFilter
      obtain ⟨family, segments⟩ := key
      obtain ⟨rfl, nonempty⟩ := isFilter
      rw [growFilter_eq ordered, add_filter isRead nonempty]
    · rfl
  · rfl

theorem foldl_addInPlace (pairs : List (String × String)) :
    pairs.foldl Decoding.addInPlace {} = decode pairs := by
  induction pairs using List.reverseRecOn with
  | nil => rfl
  | append_singleton pairs pair induction =>
      rw [List.foldl_append, induction, decode_append_singleton]
      exact Decoding.addInPlace_eq (gathered_decode pairs).sound.ordered pair

/-- With one filter tree that is changed in place, the same parameters are
decoded. -/
theorem ofPairsInPlace_eq (pairs : List (String × String)) :
    ofPairsInPlace pairs = ofPairs pairs := by
  rw [ofPairsInPlace, foldl_addInPlace, finish_decode]

/-! ## Errors found before -/

/-- The same parameters with some errors before theirs. -/
def behind
    (errors : List ValidationError)
    (parameters : QueryParameters) : QueryParameters :=
  { parameters with parseErrors := errors ++ parameters.parseErrors }

/-- What was decoded so far, with some errors before those found. -/
def Decoding.behind
    (errors : List ValidationError)
    (decoding : Decoding) : Decoding :=
  decoding.update (QueryParameters.behind errors)

variable (errors : List ValidationError)

theorem addError_behind
    (parameters : QueryParameters)
    (name reason : String) :
    (parameters.behind errors).addError name reason =
      (parameters.addError name reason).behind errors := by
  simp only [addError, behind, List.append_assoc]

theorem addSort_behind
    (parameters : QueryParameters)
    (written : String) :
    (parameters.behind errors).addSort written =
      (parameters.addSort written).behind errors := by
  refine addSort_view (fun parameters entry => ?_) parameters written
  rw [addSortEntry, addSortEntry]
  split
  · rfl
  · simp only [behind, List.append_assoc]

/-- What a pair does to the parameters does not depend on the errors found
before. -/
theorem Effect.behind
    (effect : Effect pair change)
    (parameters : QueryParameters) :
    change (parameters.behind errors) = (change parameters).behind errors := by
  cases effect with
  | ignored => rfl
  | refused name reason known =>
      exact addError_behind errors parameters name reason
  | sort => exact addSort_behind errors parameters pair.2
  | @page member isPage known =>
      show (parameters.behind errors).addPage member pair.2 =
        (parameters.addPage member pair.2).behind errors
      rw [addPage, addPage]
      split
      · split <;> rfl
      · exact addError_behind errors parameters _ _
  | fields resourceType => rfl
  | inclusions =>
      show (parameters.behind errors).addInclusions pair.2 =
        (parameters.addInclusions pair.2).behind errors
      rw [addInclusions, addInclusions]
      split <;> rfl

theorem Decoding.add_behind
    (decoding : Decoding)
    (pair : String × String) :
    (decoding.behind errors).add pair = (decoding.add pair).behind errors :=
  add_update (fun parameters reason => addError_behind errors parameters pair.1
      reason) (fun effect => effect.behind errors) decoding

theorem Decoding.foldl_add_behind
    (decoding : Decoding)
    (pairs : List (String × String)) :
    pairs.foldl Decoding.add (decoding.behind errors) =
      (pairs.foldl Decoding.add decoding).behind errors :=
  List.foldl_hom (Decoding.behind errors) fun decoding pair =>
    decoding.add_behind errors pair

theorem Decoding.finish_behind (decoding : Decoding) :
    (decoding.behind errors).finish = decoding.finish.behind errors :=
  finish_update (fun _ _ => rfl) decoding

/-! ## Refused filter parameters -/

/-- A pair is meant for the filter, or its name cannot be taken apart. -/
def NamesFilter (pair : String × String) : Prop :=
  ∀ key, ParameterKey.read? pair.1 = some key → key.family = "filter"

/-- The error for which a filter parameter is refused behind what was decoded
before. -/
inductive Refusal
    (decoding : Decoding)
    (pair : String × String) : ValidationError → Prop where
  | unbalanced (unreadable : ParameterKey.read? pair.1 = none) :
      Refusal decoding pair (.malformedParameter pair.1 "unbalanced brackets")
  | bare (isBare : ParameterKey.read? pair.1 = some ⟨"filter", []⟩) :
      Refusal decoding pair
        (.malformedParameter "filter" "expects filter[field]=value")
  | conflict
      {path : List String}
      {key : String}
      (isFilter : ParameterKey.read? pair.1 = some ⟨"filter", path⟩)
      (refused :
        (FilterBranch.grow pair.2 path decoding.filterEntries).2 = some key) :
      Refusal decoding pair (.malformedParameter pair.1
        s!"'{key}' is used both as a value and as a nested filter")

/-- A filter leaf that does not fit leaves an error and nothing else. -/
theorem Decoding.addFilter_of_conflict
    {name key written : String}
    {path : List String}
    (gathered : Gathered decoding)
    (inserted :
      FilterBranch.insertLeaf written path decoding.filterEntries =
        .error key) :
    decoding.addFilter name path written = decoding.update fun parameters =>
      parameters.addError name
        s!"'{key}' is used both as a value and as a nested filter" := by
  -- something stands in the way of the path, so that a filter parameter was met
  -- before
  have seen : decoding.sawFilter = true := by
    by_contra unseen
    rw [gathered.untouched (by simpa using unseen)] at inserted
    rcases FilterBranch.exists_insertLeaf_nil written path with
      ⟨created, succeeded⟩
    rw [succeeded] at inserted
    cases inserted
  rw [addFilter, inserted, ← seen]
  rfl

/-- A filter parameter that is refused leaves the error for it and nothing
else. -/
theorem Decoding.add_of_refused
    (gathered : Gathered decoding)
    (namesFilter : NamesFilter pair)
    (refused : ¬decoding.Accepts pair) :
    ∃ error, Refusal decoding pair error ∧
      decoding.add pair = decoding.update fun parameters =>
        { parameters with
            parseErrors := parameters.parseErrors ++ [error] } := by
  cases isRead : ParameterKey.read? pair.1 with
  | none =>
      refine ⟨_, .unbalanced isRead, ?_⟩
      rw [add, isRead]
      rfl
  | some key =>
      obtain ⟨family, path⟩ := key
      cases namesFilter _ isRead
      cases path with
      | nil =>
          refine ⟨_, .bare isRead, ?_⟩
          rw [add, isRead]
          rfl
      | cons segment path =>
          have added :=
            add_filter isRead (List.cons_ne_nil segment path) decoding
          cases inserted : FilterBranch.insertLeaf pair.2 (segment :: path)
              decoding.filterEntries with
          | ok entries =>
              rw [Accepts, added, addFilter, inserted] at refused
              exact absurd rfl refused
          | error key =>
              refine ⟨_, .conflict isRead ?_,
                added.trans (addFilter_of_conflict gathered inserted)⟩
              rw [FilterBranch.grow_eq _ _ gathered.sound.ordered, inserted]

/-- Without a filter parameter that is refused, the same is decoded without the
error for it. -/
theorem ofPairs_of_refused
    (namesFilter : NamesFilter pair)
    (refused : ¬(decode before).Accepts pair)
    (after : List (String × String)) :
    ∃ error later, Refusal (decode before) pair error ∧
      (ofPairs (before ++ after)).parseErrors =
        (decode before).parameters.parseErrors ++ later ∧
      ofPairs (before ++ pair :: after) =
        { ofPairs (before ++ after) with
          parseErrors :=
            (decode before).parameters.parseErrors ++ error :: later } := by
  rcases Decoding.add_of_refused (gathered_decode before) namesFilter
    refused with
    ⟨error, isRefusal, added⟩
  -- what is decoded before, apart from the errors
  let faultless : Decoding :=
    (decode before).update fun parameters =>
      { parameters with parseErrors := [] }
  let errors := (decode before).parameters.parseErrors
  have without : decode before = faultless.behind errors := by
    show _ = (faultless.update _)
    simp only [faultless, Decoding.update, behind, errors, List.append_nil]
  have withError :
      (decode before).add pair = faultless.behind (errors ++ [error]) := by
    rw [added]
    simp only [faultless, Decoding.behind, Decoding.update, behind, errors,
      List.append_nil]
  have shorter : ofPairs (before ++ after) =
      (after.foldl Decoding.add faultless).finish.behind errors := by
    rw [ofPairs, List.foldl_append]
    show (after.foldl Decoding.add (decode before)).finish = _
    rw [without, Decoding.foldl_add_behind, Decoding.finish_behind]
  have longer : ofPairs (before ++ pair :: after) =
      (after.foldl Decoding.add faultless).finish.behind
        (errors ++ [error]) := by
    rw [ofPairs, List.foldl_append, List.foldl_cons]
    show (after.foldl Decoding.add ((decode before).add pair)).finish = _
    rw [withError, Decoding.foldl_add_behind, Decoding.finish_behind]
  refine ⟨error, (after.foldl Decoding.add faultless).finish.parseErrors,
    isRefusal, ?_, ?_⟩
  · rw [shorter]
    rfl
  · rw [longer, shorter]
    simp only [behind, List.append_assoc, List.singleton_append, errors]

/-! ## Deleting a parameter -/

/-- The text of a query string behind the question mark that may stand in
front. -/
def textOf (query : String) : List Char :=
  match query.toList with
  | '?' :: rest => rest
  | characters => characters

/-- A query string without one of the pieces between its ampersands.

It is written with the question mark in front, because the piece that is first
then may begin with a question mark of its own. -/
def withoutPiece (query : String) (position : Nat) : String :=
  String.ofList
    ('?' :: joinPieces '&' ((pieces '&' (textOf query)).eraseIdx position))

theorem parse_textOf (query : String) :
    Form.parse (textOf query) = pairsOf query := by
  unfold textOf pairsOf
  split <;> simp_all

theorem parse_joinPieces
    {parts : List (List Char)}
    (free : ∀ part ∈ parts, '&' ∉ part) :
    Form.parse (joinPieces '&' parts) =
      (parts.filter fun piece => !piece.isEmpty).map Form.decodePair := by
  cases parts with
  | nil => rfl
  | cons first others =>
      rw [Form.parse, pieces_joinPieces (List.cons_ne_nil _ _) free]

theorem pairsOf_withoutPiece
    (query : String)
    (position : Nat) :
    pairsOf (withoutPiece query position) =
      (((pieces '&' (textOf query)).eraseIdx position).filter fun piece =>
          !piece.isEmpty).map Form.decodePair := by
  rw [pairsOf, withoutPiece, String.toList_ofList]
  exact parse_joinPieces fun part member =>
    not_mem_of_mem_pieces (List.mem_of_mem_eraseIdx member)

/-- A parameter is deleted with its piece of the text. -/
theorem exists_withoutPiece
    {query : String}
    (split : pairsOf query = before ++ pair :: after) :
    ∃ position, pairsOf (withoutPiece query position) = before ++ after := by
  rw [← parse_textOf, Form.parse] at split
  rcases List.map_eq_append_iff.mp split with
    ⟨first, others, filtered, rfl, isOthers⟩
  rcases List.map_eq_cons_iff.mp isOthers with ⟨piece, rest, rfl, rfl, rfl⟩
  rcases List.filter_eq_append_iff.mp filtered with
    ⟨left, right, cut, rfl, isRest⟩
  rcases List.filter_eq_cons_iff.mp isRest with
    ⟨skipped, behind, rfl, empty, _, rfl⟩
  refine ⟨(left ++ skipped).length, ?_⟩
  have deleted : (pieces '&' (textOf query)).eraseIdx (left ++ skipped).length =
      left ++ skipped ++ behind := by
    rw [cut, ← List.append_assoc,
      List.eraseIdx_append_of_length_le (Nat.le_refl _), Nat.sub_self,
      List.eraseIdx_cons_zero]
  have nothing : (skipped.filter fun piece => !piece.isEmpty) = [] :=
    List.filter_eq_nil_iff.mpr empty
  rw [pairsOf_withoutPiece, deleted, List.filter_append, List.filter_append,
    nothing, List.append_nil, List.map_append]

/-- A path that is refused leaves a filter tree that is changed in place as it
was, and with such a tree every query string is decoded.  A filter parameter
that is refused can therefore be deleted: every query string of the other
parameters is decoded to the same parameters with the same errors, except the
one for it. -/
theorem refused_filter_changes_nothing (query : String) :
    (∀ value path entries key, FilterBranch.Ordered (.branch entries) →
        (FilterBranch.grow value path entries).2 = some key →
          (FilterBranch.grow value path entries).1 = entries) ∧
      ofPairsInPlace (pairsOf query) = ofQueryString query ∧
      ∀ before pair after, pairsOf query = before ++ pair :: after →
        NamesFilter pair →
        ¬(decode before).Accepts pair →
          (∃ position,
              pairsOf (withoutPiece query position) = before ++ after) ∧
            ∀ shortened, pairsOf shortened = before ++ after →
              ∃ error later, Refusal (decode before) pair error ∧
                (ofQueryString shortened).parseErrors =
                  (decode before).parameters.parseErrors ++ later ∧
                ofQueryString query =
                  { ofQueryString shortened with
                    parseErrors :=
                      (decode before).parameters.parseErrors ++
                        error :: later } := by
  refine ⟨fun value path entries key => FilterBranch.grow_of_refused,
    (ofPairsInPlace_eq _).trans (ofPairs_pairsOf query), ?_⟩
  intro before pair after split namesFilter refused
  refine ⟨exists_withoutPiece split, ?_⟩
  intro shortened others
  rw [← ofPairs_pairsOf query, ← ofPairs_pairsOf shortened, split, others]
  exact ofPairs_of_refused namesFilter refused after

/-- A field with a value is not nested, so that a parameter with an operator for
it is refused. -/
theorem refused_filter_changes_nothing_nested :
    pairsOf "filter[a]=1&filter[a][eq]=2&sort=a" =
        [("filter[a]", "1")] ++ ("filter[a][eq]", "2") :: [("sort", "a")] ∧
      NamesFilter ("filter[a][eq]", "2") ∧
      ¬(decode [("filter[a]", "1")]).Accepts ("filter[a][eq]", "2") ∧
      ∃ error later,
        Refusal (decode [("filter[a]", "1")]) ("filter[a][eq]", "2") error ∧
        (ofQueryString "filter[a]=1&sort=a").parseErrors =
          (decode [("filter[a]", "1")]).parameters.parseErrors ++ later ∧
        ofQueryString "filter[a]=1&filter[a][eq]=2&sort=a" =
          { ofQueryString "filter[a]=1&sort=a" with
            parseErrors :=
              (decode [("filter[a]", "1")]).parameters.parseErrors ++
                error :: later } := by
  have split : pairsOf "filter[a]=1&filter[a][eq]=2&sort=a" =
      [("filter[a]", "1")] ++ ("filter[a][eq]", "2") :: [("sort", "a")] := by
        decide +kernel
  have others : pairsOf "filter[a]=1&sort=a" = [("filter[a]", "1")] ++
      [("sort", "a")] := by decide +kernel
  have isRead : ParameterKey.read? "filter[a][eq]" =
      some ⟨"filter", ["a", "eq"]⟩ := by decide +kernel
  have namesFilter : NamesFilter ("filter[a][eq]", "2") := by
    intro key named
    rw [isRead] at named
    cases named
    rfl
  have refused :
      ¬(decode [("filter[a]", "1")]).Accepts ("filter[a][eq]", "2") := by
    unfold Decoding.Accepts
    decide +kernel
  exact ⟨split, namesFilter, refused,
    ((refused_filter_changes_nothing _).2.2 _ _ _ split namesFilter refused).2 _
      others⟩

end QueryParameters

end JsonApi
