import JsonApi.Proofs.Filter.Grammar
import JsonApi.Proofs.Filter.Shape
import JsonApi.Proofs.Query.ErrorFamilies

/-!
# Reading entry by entry

No entry of a scope has a say in how its siblings are read.  The faults of a
scope are those of its entries, each read as if it stood there alone, in the
order of the entries; without faults every entry gives one filter, and these
are joined (`FilterInput.EntryWise`).  An entry passes on what is wrong below it
and adds at most that a group is empty (`FilterInput.NestedEntryWise`).  Hence
what a scope gives is found again in what is read of the whole input
(`Reading.Within`), however many fields and groups stand around it.
-/

namespace JsonApi

open QuerySpecification (errorsOf)

@[simp]
theorem Reading.append_nothing (reading : Reading) :
    reading.append .nothing = reading := by
  simp only [append, nothing, List.append_nil]

namespace FilterInput

variable {rules : Rules} {scope : Option String}

/-! ## Entries by themselves -/

theorem length_filters_readOperator_le
    (rules : Rules)
    (field name : String)
    (input : FilterInput) :
    (readOperator rules field name input).filters.length ≤ 1 := by
  rw [readOperator]
  split
  · exact Nat.zero_le 1
  · split
    · exact Nat.zero_le 1
    · split <;> exact Nat.le_refl 1

theorem length_filters_closeGroup_le
    (key : String)
    (members : Reading) :
    (closeGroup key members).filters.length ≤ 1 := by
  rcases closeGroup_cases key members with ⟨_, closed⟩ | ⟨_, _, _, closed⟩
  · rw [closed]
    exact Nat.zero_le 1
  · rw [closed]
    exact Nat.le_refl 1

theorem length_filters_conjoined_le (reading : Reading) :
    reading.conjoined.filters.length ≤ 1 := by
  rw [Reading.conjoined]
  cases Filter.all? reading.filters with
  | none => exact Nat.zero_le 1
  | some joined => exact Nat.le_refl 1

/-- No entry gives more than one filter. -/
theorem length_filters_readEntry_le
    (rules : Rules)
    (scope : Option String)
    (key : String)
    (input : FilterInput) :
    (readEntry rules scope key input).filters.length ≤ 1 := by
  cases input with
  | scalar value =>
      rw [readEntry]
      split
      · exact Nat.zero_le 1
      · split
        · exact Nat.zero_le 1
        · exact length_filters_readOperator_le _ _ _ _
  | list items =>
      rw [readEntry]
      split
      · exact length_filters_closeGroup_le _ _
      · split
        · exact Nat.zero_le 1
        · exact length_filters_readOperator_le _ _ _ _
  | map entries =>
      rw [readEntry]
      split
      · exact length_filters_closeGroup_le _ _
      · split
        · exact Nat.zero_le 1
        · dsimp only
          split
          · exact Nat.zero_le 1
          · split <;> exact length_filters_conjoined_le _

theorem readScope_singleton (entry : String × FilterInput) :
    readScope rules scope [entry] = readEntry rules scope entry.1 entry.2 := by
  rw [readScope, readScope, Reading.append_nothing]

theorem readScope_cons
    (entry : String × FilterInput)
    (entries : List (String × FilterInput)) :
    readScope rules scope (entry :: entries) =
      (readScope rules scope [entry]).append
        (readScope rules scope entries) := by
  rw [readScope_singleton, readScope]

/-- An entry without faults gives one filter. -/
theorem exists_filter_of_faultless
    {entry : String × FilterInput}
    (faultless : (readScope rules scope [entry]).errors = []) :
    ∃ filter, readScope rules scope [entry] = ⟨[filter], []⟩ := by
  have atMostOne := length_filters_readEntry_le rules scope entry.1 entry.2
  have something : readEntry rules scope entry.1 entry.2 ≠ .nothing :=
    readEntry_ne_nothing scope entry.1 entry.2
  rw [← readScope_singleton] at atMostOne something
  rcases isRead : readScope rules scope [entry] with ⟨filters, errors⟩
  rw [isRead] at faultless atMostOne something
  cases faultless
  match filters, atMostOne with
  | [], _ => exact absurd rfl something
  | [filter], _ => exact ⟨filter, rfl⟩

/-- A scope is read as its entries are by themselves: all faults are kept, in
the order of the entries, and without faults each entry gives one filter. -/
structure EntryWise
    (rules : Rules)
    (scope : Option String)
    (entries : List (String × FilterInput)) : Prop where
  errors : (readScope rules scope entries).errors =
    entries.flatMap fun entry => (readScope rules scope [entry]).errors
  filters : (readScope rules scope entries).filters =
    entries.flatMap fun entry => (readScope rules scope [entry]).filters
  faultless : ∀ filters, readScope rules scope entries = ⟨filters, []⟩ ↔
    List.Forall₂ (fun entry filter =>
        readScope rules scope [entry] = ⟨[filter], []⟩) entries filters

theorem readScope_eq_faultless_iff
    {entries : List (String × FilterInput)}
    {filters : List Filter} :
    readScope rules scope entries = ⟨filters, []⟩ ↔
      List.Forall₂ (fun entry filter =>
          readScope rules scope [entry] = ⟨[filter], []⟩) entries filters := by
  induction entries generalizing filters with
  | nil =>
      rw [readScope, List.forall₂_nil_left_iff, Reading.nothing,
        Reading.mk.injEq]
      simp [eq_comm]
  | cons entry entries induction =>
      rw [readScope_cons]
      constructor
      · intro isRead
        have faultless := congrArg Reading.errors isRead
        rcases List.append_eq_nil_iff.mp faultless with ⟨first, rest⟩
        rcases exists_filter_of_faultless first with ⟨filter, isFirst⟩
        have isRest : readScope rules scope entries =
            ⟨(readScope rules scope entries).filters, []⟩ := by
          rw [← rest]
        have together := congrArg Reading.filters isRead
        rw [isFirst] at together
        dsimp only [Reading.append] at together
        rw [← together]
        exact .cons isFirst (induction.mp isRest)
      · intro paired
        cases paired with
        | cons first rest =>
            rw [first, induction.mpr rest]
            rfl

theorem entryWise
    (rules : Rules)
    (scope : Option String)
    (entries : List (String × FilterInput)) :
    EntryWise rules scope entries where
  errors := by
    induction entries with
    | nil => rw [readScope]; rfl
    | cons entry entries induction =>
        rw [readScope_cons, Reading.append, List.flatMap_cons, ← induction]
  filters := by
    induction entries with
    | nil => rw [readScope]; rfl
    | cons entry entries induction =>
        rw [readScope_cons, Reading.append, List.flatMap_cons, ← induction]
  faultless := fun _ => readScope_eq_faultless_iff

/-! ## Entries of entries -/

theorem readEntry_field
    {key : String}
    {inner : List (String × FilterInput)}
    (isField : IsFieldKey key)
    (noOperator : hasOperatorKey rules inner = false)
    (nonempty : inner ≠ []) :
    readEntry rules scope key (.map inner) =
      (readScope rules (some (fieldPath scope key)) inner).conjoined := by
  have notGrouped : ¬(key = andKey ∨ key = orKey) := isField.not_group
  have someEntry : ¬inner.isEmpty = true := fun isEmpty =>
    nonempty (List.isEmpty_iff.mp isEmpty)
  rw [readEntry, if_neg notGrouped, if_neg isField.2.2]
  dsimp only
  rw [if_neg someEntry, noOperator, if_neg Bool.false_ne_true]

theorem readEntry_group
    {key : String}
    {items : List FilterInput}
    (isGroup : IsGroupKey key) :
    readEntry rules scope key (.list items) =
      closeGroup key (readMembers rules scope key items) := by
  have grouped : key = andKey ∨ key = orKey := isGroup
  rw [readEntry, if_pos grouped]

/-- Reads one member of a group. -/
def readMember
    (rules : Rules)
    (scope : Option String)
    (key : String) : FilterInput → Reading
  | .map entries => (readScope rules scope entries).conjoined
  | other =>
    .fault (.malformedParameter (scopeParameter scope key)
      s!"expects filter objects, found a {other.shape}")

theorem readMembers_cons
    (key : String)
    (item : FilterInput)
    (items : List FilterInput) :
    readMembers rules scope key (item :: items) =
      (readMember rules scope key item).append
        (readMembers rules scope key items) := by
  cases item with
  | map entries => rw [readMembers, readMember]
  | scalar value =>
      rw [readMembers, readMember]
      all_goals simp
  | list members =>
      rw [readMembers, readMember]
      all_goals simp

/-- A map stands for a group with one member. -/
theorem readEntry_group_map
    {key : String}
    {inner : List (String × FilterInput)}
    (isGroup : IsGroupKey key) :
    readEntry rules scope key (.map inner) =
      readEntry rules scope key (.list [.map inner]) := by
  have grouped : key = andKey ∨ key = orKey := isGroup
  rw [readEntry_group isGroup, readEntry, if_pos grouped, readMembers,
    readMembers, Reading.append_nothing]

theorem errors_readMembers
    (key : String)
    (items : List FilterInput) :
    (readMembers rules scope key items).errors =
      items.flatMap fun item => (readMember rules scope key item).errors := by
  induction items with
  | nil =>
      rw [readMembers]
      rfl
  | cons item items induction =>
      rw [readMembers_cons, List.flatMap_cons, ← induction]
      rfl

/-- The faults inside an entry are those of the entries below it, each by itself
and in their order, and those of the members of a group; only that a group is
empty is added to them. -/
structure NestedEntryWise (rules : Rules) (scope : Option String) : Prop where
  field : ∀ {key inner}, IsFieldKey key → hasOperatorKey rules inner = false →
    inner ≠ [] →
    (readScope rules scope [(key, .map inner)]).errors =
      inner.flatMap fun entry =>
        (readScope rules (some (fieldPath scope key)) [entry]).errors
  group : ∀ {key items}, IsGroupKey key →
    (readScope rules scope [(key, .list items)]).errors =
        items.flatMap (fun item => (readMember rules scope key item).errors) ∨
      (readScope rules scope [(key, .list items)]).errors =
        items.flatMap (fun item => (readMember rules scope key item).errors) ++
          [.emptyFilterGroup key]
  groupMap : ∀ {key inner}, IsGroupKey key →
    readScope rules scope [(key, .map inner)] =
      readScope rules scope [(key, .list [.map inner])]

theorem nestedEntryWise
    (rules : Rules)
    (scope : Option String) :
    NestedEntryWise rules scope where
  field := by
    intro key inner isField noOperator nonempty
    rw [readScope_singleton, readEntry_field isField noOperator nonempty]
    exact (entryWise rules _ inner).errors
  group := by
    intro key items isGroup
    rw [readScope_singleton, readEntry_group isGroup, ← errors_readMembers]
    rcases closeGroup_cases key (readMembers rules scope key items) with
      ⟨_, closed⟩ | ⟨_, _, _, closed⟩
    · rw [closed]
      exact Or.inr rfl
    · rw [closed]
      exact Or.inl rfl
  groupMap := by
    intro key inner isGroup
    rw [readScope_singleton, readScope_singleton, readEntry_group_map isGroup]

end FilterInput

/-! ## What one reading contributes to another -/

theorem Filter.Occurs.trans
    {inner middle outer : Filter}
    (inMiddle : inner.Occurs middle)
    (inOuter : middle.Occurs outer) :
    inner.Occurs outer := by
  induction inOuter with
  | whole => exact inMiddle
  | inConjunction member _ induction => exact .inConjunction member induction
  | inDisjunction member _ induction => exact .inDisjunction member induction

/-- The faults of one reading stand side by side among those of another, and its
filters are parts of the other's. -/
structure Reading.Within (part whole : Reading) : Prop where
  errors : part.errors <:+: whole.errors
  filters : ∀ filter ∈ part.filters, ∃ outer ∈ whole.filters,
    filter.Occurs outer

namespace Reading

variable {part middle whole reading : Reading}

theorem Within.refl (reading : Reading) : reading.Within reading where
  errors := List.infix_rfl
  filters := fun filter member => ⟨filter, member, .whole⟩

theorem Within.trans
    (inner : part.Within middle)
    (outer : middle.Within whole) :
    part.Within whole where
  errors := inner.errors.trans outer.errors
  filters := by
    intro filter member
    rcases inner.filters filter member with ⟨between, inMiddle, occurs⟩
    rcases outer.filters between inMiddle with ⟨last, inWhole, within⟩
    exact ⟨last, inWhole, occurs.trans within⟩

theorem nothing_within (whole : Reading) : nothing.Within whole where
  errors := List.nil_infix
  filters := List.forall_mem_nil _

theorem within_append_left (first second : Reading) :
    first.Within (first.append second) where
  errors := (List.prefix_append _ _).isInfix
  filters := fun filter member =>
    ⟨filter, List.mem_append_left _ member, .whole⟩

theorem within_append_right (first second : Reading) :
    second.Within (first.append second) where
  errors := (List.suffix_append _ _).isInfix
  filters := fun filter member =>
    ⟨filter, List.mem_append_right _ member, .whole⟩

end Reading

theorem Filter.occurs_of_all?
    {children : List Filter}
    {joined : Filter}
    (isJoined : all? children = some joined) :
    ∀ child ∈ children, child.Occurs joined := by
  intro child member
  rcases all?_cases isJoined with only | isConjunction
  · rw [only, List.mem_singleton] at member
    rw [member]
    exact .whole
  · rw [isConjunction]
    exact .inConjunction member .whole

theorem Filter.occurs_of_any?
    {children : List Filter}
    {joined : Filter}
    (isJoined : any? children = some joined) :
    ∀ child ∈ children, child.Occurs joined := by
  intro child member
  rcases any?_cases isJoined with only | isDisjunction
  · rw [only, List.mem_singleton] at member
    rw [member]
    exact .whole
  · rw [isDisjunction]
    exact .inDisjunction member .whole

theorem Reading.within_conjoined (reading : Reading) :
    reading.Within reading.conjoined := by
  rcases reading.conjoined_cases with ⟨_, same⟩ | ⟨joined, isJoined, _, single⟩
  · rw [same]
    exact .refl reading
  · rw [single]
    exact
      { errors := List.infix_rfl
        filters := fun filter member =>
          ⟨joined, List.mem_singleton_self _,
              Filter.occurs_of_all? isJoined filter member⟩ }

namespace FilterInput

variable {rules : Rules} {scope : Option String}

/-- A group keeps the faults of its members, and reports its own after them. -/
theorem within_closeGroup
    (key : String)
    (members : Reading) :
    members.Within (closeGroup key members) := by
  rcases closeGroup_cases key members with
    ⟨noFilters, closed⟩ | ⟨joined, isJoined, _, closed⟩
  · rw [closed]
    exact
      { errors := (List.prefix_append _ _).isInfix
        filters := by
          rw [noFilters]
          exact List.forall_mem_nil _ }
  · rw [closed]
    exact
      { errors := List.infix_rfl
        filters := fun filter member =>
          ⟨joined, List.mem_singleton_self _,
            isJoined.elim Filter.occurs_of_any? Filter.occurs_of_all? filter
              member⟩ }

/-! ## Scopes inside the whole -/

/-- What an entry is read as is found in what is read of its scope. -/
theorem within_scope_of_entry
    {key : String}
    {input : FilterInput}
    {entries : List (String × FilterInput)}
    {part : Reading}
    (member : (key, input) ∈ entries)
    (inEntry : part.Within (readEntry rules scope key input)) :
    part.Within (readScope rules scope entries).conjoined := by
  refine Reading.Within.trans ?_ (Reading.within_conjoined _)
  induction entries with
  | nil => cases member
  | cons entry entries induction =>
      rw [readScope]
      cases member with
      | head => exact inEntry.trans (Reading.within_append_left _ _)
      | tail _ later =>
          exact (induction later).trans (Reading.within_append_right _ _)

theorem within_readMembers
    {key : String}
    {item : FilterInput}
    {items : List FilterInput}
    (isItem : item ∈ items) :
    (readMember rules scope key item).Within
      (readMembers rules scope key items) := by
  induction items with
  | nil => cases isItem
  | cons first items induction =>
      rw [readMembers_cons]
      cases isItem with
      | head => exact Reading.within_append_left _ _
      | tail _ later =>
          exact (induction later).trans (Reading.within_append_right _ _)

theorem within_readEntry_field
    {key : String}
    {inner : List (String × FilterInput)}
    (isField : IsFieldKey key)
    (noOperator : hasOperatorKey rules inner = false) :
    (readScope rules (some (fieldPath scope key)) inner).conjoined.Within
      (readEntry rules scope key (.map inner)) := by
  cases inner with
  | nil =>
      rw [readScope]
      exact Reading.nothing_within _
  | cons entry inner =>
      rw [readEntry_field isField noOperator (List.cons_ne_nil entry inner)]
      exact .refl _

theorem within_readEntry_item
    {key : String}
    {inner : List (String × FilterInput)}
    {items : List FilterInput}
    (isGroup : IsGroupKey key)
    (isItem : .map inner ∈ items) :
    (readScope rules scope inner).conjoined.Within
      (readEntry rules scope key (.list items)) := by
  rw [readEntry_group isGroup]
  exact (within_readMembers isItem).trans (within_closeGroup key _)

theorem within_readEntry_group
    {key : String}
    {inner : List (String × FilterInput)}
    (isGroup : IsGroupKey key) :
    (readScope rules scope inner).conjoined.Within
      (readEntry rules scope key (.map inner)) := by
  rw [readEntry_group_map isGroup]
  exact within_readEntry_item isGroup (List.mem_singleton_self _)

/-- What is read of an opened scope is found in what is read of the whole, by
induction on the scopes around it. -/
theorem Opened.within
    {top inner : List (String × FilterInput)}
    {grouped : Bool}
    (opened : Opened rules top scope grouped inner) :
    (readScope rules scope inner).conjoined.Within
      (readScope rules none top).conjoined := by
  induction opened with
  | whole => exact .refl _
  | field _ member isField noOperator induction =>
      exact (within_scope_of_entry member
          (within_readEntry_field isField noOperator)).trans
        induction
  | group _ member isGroup induction =>
      exact (within_scope_of_entry member
          (within_readEntry_group isGroup)).trans induction
  | item _ member isGroup isItem induction =>
      exact (within_scope_of_entry member
          (within_readEntry_item isGroup isItem)).trans induction

/-! ## Whole inputs -/

theorem errorsOf_read
    (rules : Rules)
    (entries : List (String × FilterInput)) :
    errorsOf ((map entries).read rules) =
      (readScope rules none entries).errors := by
  rw [read, QuerySpecification.errorsOf_unlessAny]

theorem read_eq_ok_iff
    {entries : List (String × FilterInput)}
    {filter? : Option Filter} :
    (map entries).read rules = .ok filter? ↔
      ∃ filters, readScope rules none entries = ⟨filters, []⟩ ∧
        filter? = Filter.all? filters := by
  rw [read, ValidationErrors.unlessAny_eq_ok_iff]
  rcases readScope rules none entries with ⟨filters, errors⟩
  simp only [Reading.mk.injEq]
  constructor
  · rintro ⟨faultless, isJoined⟩
    exact ⟨filters, ⟨rfl, faultless⟩, isJoined.symm⟩
  · rintro ⟨_, ⟨rfl, faultless⟩, isJoined⟩
    exact ⟨faultless, isJoined.symm⟩

/-- A single entry needs no joining. -/
theorem read_singleton_eq_ok_iff
    {entry : String × FilterInput}
    {filter : Filter} :
    (map [entry]).read rules = .ok (some filter) ↔
      readScope rules none [entry] = ⟨[filter], []⟩ := by
  rw [read_eq_ok_iff]
  constructor
  · rintro ⟨filters, isRead, isJoined⟩
    rcases exists_filter_of_faultless (congrArg Reading.errors isRead) with
      ⟨only, isOnly⟩
    have sameFilters : filters = [only] :=
      congrArg Reading.filters (isRead.symm.trans isOnly)
    rw [sameFilters] at isJoined
    rw [isOnly, Option.some.inj isJoined]
  · intro isRead
    exact ⟨[filter], isRead, rfl⟩

/-- Reading a map collects the errors of its entries, each read by itself, in
their order; it succeeds if all of these do, with the conjunction of their
filters.  Every scope is read in the same way, and what the scopes inside the
map give is found in what is read of the whole. -/
theorem read_composes
    (rules : Rules)
    (entries : List (String × FilterInput)) :
    errorsOf ((map entries).read rules) =
        entries.flatMap (fun entry => errorsOf ((map [entry]).read rules)) ∧
      ((∃ filter?, (map entries).read rules = .ok filter?) ↔
        ∀ entry ∈ entries, ∃ filter?, (map [entry]).read rules = .ok filter?) ∧
      (∀ filter?, (map entries).read rules = .ok filter? ↔
        ∃ filters,
          List.Forall₂ (fun entry filter =>
              (map [entry]).read rules = .ok (some filter)) entries filters ∧
            filter? = Filter.all? filters) ∧
      (∀ scope, NestedEntryWise rules scope ∧ ∀ inner,
          EntryWise rules scope inner) ∧
      ∀ scope grouped inner, Opened rules entries scope grouped inner →
        (readScope rules scope inner).conjoined.Within
          (readScope rules none entries).conjoined := by
  have collected : errorsOf ((map entries).read rules) =
      entries.flatMap fun entry => errorsOf ((map [entry]).read rules) := by
    simp only [errorsOf_read]
    exact (entryWise rules none entries).errors
  refine ⟨collected,
    ?_, ?_, fun scope => ⟨nestedEntryWise rules scope, entryWise rules scope⟩,
    fun _ _ _ opened => opened.within⟩
  · rw [← QuerySpecification.errorsOf_eq_nil_iff, collected,
      List.flatMap_eq_nil_iff]
    simp only [QuerySpecification.errorsOf_eq_nil_iff]
  · intro filter?
    rw [read_eq_ok_iff]
    refine exists_congr fun filters => and_congr_left' ?_
    simp only [read_singleton_eq_ok_iff]
    exact readScope_eq_faultless_iff

/-- An empty group hides neither the fault before it nor the one after it. -/
example :
    errorsOf
        ((map
          [("author", .map [("name", .map [("in", .list [])])]),
            ("or", .list []),
            ("year",
              .map [("approx", .scalar (.int 1)), ("gte", .scalar (.int 2))])]
          ).read ⟨.builtins, 1000⟩) =
      [.emptyOperandList "author.name" "in", .emptyFilterGroup "or",
        .unknownOperator "year" "approx"] := by
  rfl

end FilterInput

end JsonApi
