import JsonApi.Filter.Predicate
import JsonApi.Proofs.Dictionary
import JsonApi.Proofs.Filter.Leaves
import JsonApi.Proofs.Outcome

/-!
# Compiled filters

A leaf applies an operator to a field and operands (`Filter.application?`), and
one handler answers for it: the one registered for the field and the operator,
or else the one for the operator alone (`HandlerTable.Handles`).  It makes a
predicate of the leaf or refuses it (`HandlerTable.Makes`,
`HandlerTable.Refuses`).

A filter compiles when a predicate is made of each leaf; the result has the
shape of the filter with these predicates as its leaves (`Filter.image`).
Otherwise the first leaf that is refused decides on the error
(`Filter.compile_iff`).  Nothing is assumed of the handlers or of the way in
which a backend joins predicates.
-/

namespace JsonApi

variable {Predicate : Type}

/-! ## Handlers -/

/-- What a leaf asks of the handlers. -/
structure Application where
  field : String
  operator : String
  operands : List Operand

/-- What a handler makes of an application. -/
def Application.passedTo
    (application : Application)
    (handler : OperatorHandler Predicate) :
    Except CompileError Predicate :=
  handler application.field application.operator application.operands

/-- The application that a leaf stands for; a null check is the operator
`isnull` with one flag. -/
def Filter.application? : Filter → Option Application
  | .comparison field operator operands => some ⟨field, operator, operands⟩
  | .nullCheck field isNull => some ⟨field, Operator.isNullName, [.bool isNull]⟩
  | .conjunction _ => none
  | .disjunction _ => none

namespace HandlerTable

/-- The handler that answers for an operator on a field. -/
inductive Handles
    (table : HandlerTable Predicate)
    (field operator : String)
    (handler : OperatorHandler Predicate) : Prop where
  | ofField
      (registered : table.perField.lookup (field, operator) = some handler)
  | ofOperator
      (unregistered : table.perField.lookup (field, operator) = none)
      (registered : Dictionary.find? table.defaults operator = some handler)

variable {table : HandlerTable Predicate} {field operator : String}
  {handler : OperatorHandler Predicate}

theorem handles_iff_find? :
    table.Handles field operator handler ↔
      table.find? field operator = some handler := by
  rw [find?, Option.or_eq_some_iff]
  constructor
  · rintro (registered | ⟨unregistered, registered⟩)
    · exact Or.inl registered
    · exact Or.inr ⟨unregistered, registered⟩
  · rintro (registered | ⟨unregistered, registered⟩)
    · exact .ofField registered
    · exact .ofOperator unregistered registered

theorem find?_eq_none_iff :
    table.find? field operator = none ↔
      ∀ handler, ¬table.Handles field operator handler := by
  simp only [handles_iff_find?, Option.eq_none_iff_forall_ne_some, ne_eq]

theorem not_handles_empty :
  ¬(empty : HandlerTable Predicate).Handles field operator handler := by
  rw [handles_iff_find?]
  exact fun found => nomatch found

/-- A handler that is registered for a field answers for it, and all others stay
as they are. -/
theorem handles_withField_iff
    {newField newOperator : String}
    {newHandler : OperatorHandler Predicate} :
    (table.withField newField newOperator newHandler).Handles field operator
      handler ↔
      if field = newField ∧ operator = newOperator then handler = newHandler
      else table.Handles field operator handler := by
  rw [handles_iff_find?, handles_iff_find?, find?, find?, withField,
    Dictionary.lookup_cons_eq_if]
  split_ifs with same isNew isNew
  · exact ⟨fun found => (Option.some.inj found).symm, fun found => found ▸ rfl⟩
  · exact absurd (Prod.mk.inj same) isNew
  · exact absurd (Prod.ext isNew.1 isNew.2) same
  · have others := Dictionary.lookup_filter
      (fun key => decide (key ≠ (newField, newOperator))) table.perField
        (field, operator)
    rw [if_pos (decide_eq_true same)] at others
    rw [others]

/-- A default handler answers for the fields that have no handler of their
own. -/
theorem handles_withDefault_iff
    {newOperator : String}
    {newHandler : OperatorHandler Predicate} :
    (table.withDefault newOperator newHandler).Handles field operator handler ↔
      if operator = newOperator ∧
        table.perField.lookup (field, operator) = none then
        handler = newHandler
      else table.Handles field operator handler := by
  rw [handles_iff_find?, handles_iff_find?, find?, find?, withDefault]
  dsimp only
  cases ofField : table.perField.lookup (field, operator) with
  | some present =>
      simp only [Option.some_or, reduceCtorEq, and_false, if_false]
  | none =>
      simp only [Option.none_or, and_true]
      split_ifs with isNew
      · rw [isNew, Dictionary.find?_insert_self]
        exact ⟨fun same => (Option.some.inj same).symm, fun same => same ▸ rfl⟩
      · rw [Dictionary.find?_insert_of_ne isNew]

/-! ## Leaves -/

/-- The handler that answers for a leaf makes this predicate of it. -/
inductive Makes (table : HandlerTable Predicate) :
    Filter → Predicate → Prop where
  | accepted
      {leaf : Filter}
      {application : Application}
      {handler : OperatorHandler Predicate}
      {predicate : Predicate}
      (isLeaf : leaf.application? = some application)
      (handles : table.Handles application.field application.operator handler)
      (accepts : application.passedTo handler = .ok predicate) :
      Makes table leaf predicate

/-- No handler answers for a leaf, or the one that does refuses it. -/
inductive Refuses (table : HandlerTable Predicate) :
    Filter → CompileError → Prop where
  | unsupported
      {leaf : Filter}
      {application : Application}
      (isLeaf : leaf.application? = some application)
      (unhandled : ∀ handler,
        ¬table.Handles application.field application.operator handler) :
      Refuses table leaf
        (.unsupportedFilter application.field application.operator)
  | refused
      {leaf : Filter}
      {application : Application}
      {handler : OperatorHandler Predicate}
      {error : CompileError}
      (isLeaf : leaf.application? = some application)
      (handles : table.Handles application.field application.operator handler)
      (refuses : application.passedTo handler = .error error) :
      Refuses table leaf error

end HandlerTable

namespace Filter

variable {backend : FilterBackend Predicate} {table : HandlerTable Predicate}
  {leaf : Filter}

theorem compile_of_application
    {application : Application}
    (isLeaf : leaf.application? = some application) :
    leaf.compile backend table =
      compileLeaf table application.field application.operator
        application.operands := by
  cases leaf with
  | comparison field operator operands =>
      cases isLeaf
      rfl
  | nullCheck field isNull =>
      cases isLeaf
      rfl
  | conjunction children => cases isLeaf
  | disjunction children => cases isLeaf

/-- A leaf compiles to what is made of it. -/
theorem compile_of_makes
    (backend : FilterBackend Predicate)
    {predicate : Predicate}
    (makes : table.Makes leaf predicate) :
    leaf.compile backend table = .ok predicate := by
  cases makes with
  | accepted isLeaf handles accepts =>
      rw [compile_of_application isLeaf, compileLeaf,
        HandlerTable.handles_iff_find?.mp handles]
      exact accepts

/-- A leaf that is refused does not compile. -/
theorem compile_of_refuses
    (backend : FilterBackend Predicate)
    {error : CompileError}
    (refuses : table.Refuses leaf error) :
    leaf.compile backend table = .error error := by
  cases refuses with
  | unsupported isLeaf unhandled =>
      rw [compile_of_application isLeaf, compileLeaf,
        HandlerTable.find?_eq_none_iff.mpr unhandled]
  | refused isLeaf handles refuses =>
      rw [compile_of_application isLeaf, compileLeaf,
        HandlerTable.handles_iff_find?.mp handles]
      exact refuses

theorem leaf_compile_outcome
    {application : Application}
    (isLeaf : leaf.application? = some application) :
    Outcome (table.Makes leaf) (table.Refuses leaf)
      (leaf.compile backend table) := by
  rw [compile_of_application isLeaf, compileLeaf]
  cases found : table.find? application.field application.operator with
  | none => exact .unsupported isLeaf (HandlerTable.find?_eq_none_iff.mp found)
  | some handler =>
      have handles := HandlerTable.handles_iff_find?.mpr found
      cases result :
        handler application.field application.operator application.operands with
      | ok predicate =>
          dsimp only
          rw [result]
          exact .accepted isLeaf handles result
      | error error =>
          dsimp only
          rw [result]
          exact .refused isLeaf handles result

/-! ## Trees -/

mutual

/-- The predicate with the shape of a filter whose leaves have a given
meaning. -/
def image
    (backend : FilterBackend Predicate)
    (meaning : Filter → Predicate) :
    Filter → Predicate
  | .comparison field operator operands =>
      meaning (.comparison field operator operands)
  | .nullCheck field isNull => meaning (.nullCheck field isNull)
  | .conjunction children => backend.all (images backend meaning children)
  | .disjunction children => backend.any (images backend meaning children)

/-- The predicates with the shapes of some filters. -/
def images
    (backend : FilterBackend Predicate)
    (meaning : Filter → Predicate) :
    List Filter → List Predicate
  | [] => []
  | child :: children =>
      child.image backend meaning :: images backend meaning children

end

/-- The meaning of each leaf is what is made of it. -/
def MeansMade
    (table : HandlerTable Predicate)
    (leaves : List Filter)
    (meaning : Filter → Predicate) : Prop :=
  ∀ leaf ∈ leaves, table.Makes leaf (meaning leaf)

/-- A predicate is made of each leaf. -/
def AllMade (table : HandlerTable Predicate) (leaves : List Filter) : Prop :=
  ∀ leaf ∈ leaves, ∃ predicate, table.Makes leaf predicate

/-- The error is that of the first leaf that is refused. -/
def FirstRefused (table : HandlerTable Predicate) :
    List Filter → CompileError → Prop :=
  FirstFault (AllMade table) fun _ => table.Refuses

theorem leaf_compile_firstRefused
    {application : Application}
    (isLeaf : leaf.application? = some application) :
    Outcome
      (fun predicate => AllMade table [leaf] ∧
        ∀ meaning, MeansMade table [leaf] meaning → meaning leaf = predicate)
      (FirstRefused table [leaf]) (leaf.compile backend table) := by
  refine (leaf_compile_outcome isLeaf).imp ?_ ?_
  · intro predicate makes
    refine ⟨List.forall_mem_singleton.mpr ⟨predicate, makes⟩, ?_⟩
    intro meaning means
    have compiled :=
      compile_of_makes backend (means leaf (List.mem_singleton_self leaf))
    exact Except.ok.inj (compiled.symm.trans (compile_of_makes backend makes))
  · intro error refuses
    exact ⟨[], leaf, [], rfl, List.forall_mem_nil _, refuses⟩

mutual

/-- A filter compiles to its image, or the first leaf that is refused decides on
the error. -/
theorem compile_firstRefused (filter : Filter) :
    Outcome
      (fun predicate => AllMade table filter.leaves ∧
        ∀ meaning, MeansMade table filter.leaves meaning →
          filter.image backend meaning = predicate)
      (FirstRefused table filter.leaves) (filter.compile backend table) := by
  match filter with
  | .comparison field operator operands => exact leaf_compile_firstRefused rfl
  | .nullCheck field isNull => exact leaf_compile_firstRefused rfl
  | .conjunction children =>
      rw [compile, leaves]
      refine (compileList_firstRefused children).map_imp ?_ fun _ refused =>
        refused
      rintro predicates ⟨allMade, same⟩
      refine ⟨allMade, ?_⟩
      intro meaning means
      rw [image, same meaning means]
  | .disjunction children =>
      rw [compile, leaves]
      refine (compileList_firstRefused children).map_imp ?_ fun _ refused =>
        refused
      rintro predicates ⟨allMade, same⟩
      refine ⟨allMade, ?_⟩
      intro meaning means
      rw [image, same meaning means]

theorem compileList_firstRefused (children : List Filter) :
    Outcome
      (fun predicates => AllMade table (leavesOf children) ∧
        ∀ meaning, MeansMade table (leavesOf children) meaning →
          images backend meaning children = predicates)
      (FirstRefused table (leavesOf children))
        (compileList backend table children) := by
  match children with
  | [] => exact ⟨List.forall_mem_nil _, fun meaning means => rfl⟩
  | child :: rest =>
      have first := compile_firstRefused child
      have others := compileList_firstRefused rest
      rw [compileList, leavesOf]
      cases firstResult : child.compile backend table with
      | error error =>
          rw [firstResult] at first
          exact first.append_right (leavesOf rest)
      | ok predicate =>
          rw [firstResult] at first
          rcases first with ⟨firstMade, firstSame⟩
          cases restResult : compileList backend table rest with
          | error error =>
              rw [restResult] at others
              -- Nothing among the leaves of the first child was refused.
              exact FirstFault.append_left firstMade others
          | ok predicates =>
              rw [restResult] at others
              rcases others with ⟨othersMade, othersSame⟩
              refine ⟨List.forall_mem_append.mpr ⟨firstMade, othersMade⟩, ?_⟩
              intro meaning means
              rcases List.forall_mem_append.mp means with
                ⟨firstMeans, othersMeans⟩
              rw [images, firstSame meaning firstMeans,
                othersSame meaning othersMeans]

end

theorem not_allMade_of_refuses
    (earlier later : List Filter)
    {error : CompileError}
    (refuses : table.Refuses leaf error) :
    ¬AllMade table (earlier ++ leaf :: later) := by
  intro allMade
  rcases allMade leaf (by simp) with ⟨predicate, makes⟩
  let backend : FilterBackend Predicate :=
    ⟨fun _ => predicate, fun _ => predicate⟩
  have compiled := compile_of_makes backend makes
  rw [compile_of_refuses backend refuses] at compiled
  cases compiled

/-- If a predicate is made of each leaf, this gives all of them a meaning. -/
theorem exists_meansMade
    (default : Predicate)
    {leaves : List Filter}
    (allMade : AllMade table leaves) :
    ∃ meaning, MeansMade table leaves meaning := by
  have total : ∀ leaf, ∃ predicate, leaf ∈ leaves →
      table.Makes leaf predicate := by
    intro leaf
    by_cases member : leaf ∈ leaves
    · rcases allMade leaf member with ⟨predicate, makes⟩
      exact ⟨predicate, fun _ => makes⟩
    · exact ⟨default, fun isMember => absurd isMember member⟩
  exact Classical.skolem.mp total

/-- A filter compiles exactly when a predicate is made of each leaf, and then to
its image under what is made of them.  Otherwise the error is that of the first
leaf that is refused. -/
theorem compile_iff
    (backend : FilterBackend Predicate)
    (table : HandlerTable Predicate)
    (filter : Filter) :
    ((∃ predicate, filter.compile backend table = .ok predicate) ↔
        AllMade table filter.leaves) ∧
      (∀ predicate, filter.compile backend table = .ok predicate ↔
        ∃ meaning, MeansMade table filter.leaves meaning ∧
          filter.image backend meaning = predicate) ∧
      (∀ error, filter.compile backend table = .error error ↔
        FirstRefused table filter.leaves error) := by
  have outcome := @compile_firstRefused Predicate backend table filter
  have exclusive :
      ∀ error, FirstRefused table filter.leaves error →
        ¬AllMade table filter.leaves :=
    fun error => FirstFault.not_sound fun earlier _ later _ =>
      not_allMade_of_refuses earlier later
  have unique :
      ∀ error other, FirstRefused table filter.leaves error →
        FirstRefused table filter.leaves other → error = other := by
    intro error other
    refine FirstFault.unique
      (fun earlier _ later _ => not_allMade_of_refuses earlier later) ?_
    intro _ leaf error other refuses otherRefuses
    have compiled := compile_of_refuses backend refuses
    exact Except.error.inj
      (compiled.symm.trans (compile_of_refuses backend otherRefuses))
  refine ⟨?_, ?_, ?_⟩
  · exact (outcome.imp (fun _ compiled => compiled.1) fun _ refused =>
        refused).exists_ok_iff exclusive
  · intro predicate
    constructor
    · intro compiled
      rw [compiled] at outcome
      rcases outcome with ⟨allMade, same⟩
      rcases exists_meansMade predicate allMade with ⟨meaning, means⟩
      exact ⟨meaning, means, same meaning means⟩
    · rintro ⟨meaning, means, isImage⟩
      cases result : filter.compile backend table with
      | ok other =>
          rw [result] at outcome
          rw [← isImage, outcome.2 meaning means]
      | error error =>
          rw [result] at outcome
          exact absurd (fun leaf member => ⟨_, means leaf member⟩)
            (exclusive error outcome)
  · exact outcome.eq_error_iff (fun _ error compiled refused =>
        exclusive error refused compiled.1) unique

end Filter

end JsonApi
