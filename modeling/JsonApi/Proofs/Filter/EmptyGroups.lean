import JsonApi.Proofs.Filter.Composition
import JsonApi.Proofs.Filter.Yields

/-!
# Reports of empty groups

A group is reported as empty if no filter is left of its members when it is
closed.  Every group that reading meets is reported once if none of its members
yields, and no other is (`FilterInput.reports_of_emptyGroups`).  A group without
any entries is therefore always reported, with no other fault; but a group whose
members are all at fault is reported as well, behind their faults.
-/

namespace JsonApi

open QuerySpecification (errorsOf)

/-- The error says that a group is empty. -/
def ValidationError.isEmptyGroup : ValidationError → Bool
  | .emptyFilterGroup _ => true
  | _ => false

namespace Reading

variable {reading first second : Reading}

/-- The reports of empty groups among the faults. -/
def emptyGroups (reading : Reading) : List ValidationError :=
  reading.errors.filter ValidationError.isEmptyGroup

theorem emptyGroups_append :
    (first.append second).emptyGroups = first.emptyGroups ++
      second.emptyGroups :=
  List.filter_append _ _

theorem emptyGroups_conjoined :
  reading.conjoined.emptyGroups = reading.emptyGroups :=
  rfl

end Reading

namespace FilterInput

variable {rules : Rules} {scope : Option String} {key : String}

/-! ## Groups -/

/-- A group that reading meets: the field below which it stands, if there is
one, its key and its members.  A map under a group key is its only member. -/
structure Group where
  scope : Option String
  key : String
  members : List FilterInput

namespace Group

/-- What the members of a group are read as. -/
def reading (rules : Rules) (group : Group) : Reading :=
  readMembers rules group.scope group.key group.members

/-- The error for a group that is empty. -/
def report (group : Group) : ValidationError :=
  .emptyFilterGroup group.key

/-- No filter is left of the members of a group. -/
def isReported (rules : Rules) (group : Group) : Bool :=
  (group.reading rules).filters.isEmpty

/-- The faults of a closed group are those of its members, and then perhaps its
report. -/
def errors (rules : Rules) (group : Group) : List ValidationError :=
  (group.reading rules).errors ++ if group.isReported rules then [group.report]
    else []

/-- The group has no entries: its members are empty maps, if there are any. -/
def Hollow (group : Group) : Prop :=
  ∀ item ∈ group.members, item = .map []

theorem isReported_iff {group : Group} :
    group.isReported rules = true ↔ ¬MemberYields rules group.members := by
  rw [isReported, List.isEmpty_iff,
    ← filters_readMembers_ne_nil_iff group.scope group.key, not_not]
  rfl

theorem Hollow.reading_eq
    {group : Group}
    (hollow : group.Hollow) :
    group.reading rules = .nothing :=
  readMembers_eq_nothing_iff.mpr hollow

theorem Hollow.isReported
    {group : Group}
    (hollow : group.Hollow) :
    group.isReported rules = true := by
  rw [Group.isReported, hollow.reading_eq]
  rfl

/-- A group without entries has its report and no other fault. -/
theorem Hollow.errors_eq
    {group : Group}
    (hollow : group.Hollow) :
    group.errors rules = [group.report] := by
  rw [errors, hollow.isReported, hollow.reading_eq]
  rfl

/-- Behind a group that is reported although it has entries, there are faults of
its members. -/
theorem errors_reading_ne_nil
    {group : Group}
    (notHollow : ¬group.Hollow)
    (reported : group.isReported rules = true) :
    (group.reading rules).errors ≠ [] := by
  intro faultless
  apply notHollow
  rw [isReported, List.isEmpty_iff] at reported
  exact readMembers_eq_nothing_iff.mp (congrArg₂ Reading.mk reported faultless)

end Group

theorem errors_closeGroup
    (rules : Rules)
    (group : Group) :
    (closeGroup group.key (group.reading rules)).errors =
      group.errors rules := by
  rw [Group.errors, Group.isReported]
  rcases closeGroup_cases group.key (group.reading rules) with
    ⟨noFilters, closed⟩ | ⟨joined, _, someFilter, closed⟩
  · rw [closed, noFilters]
    rfl
  · rw [closed, List.isEmpty_eq_false_iff.mpr someFilter]
    exact (List.append_nil _).symm

mutual

/-- The groups among the entries of a scope, in the order in which they are
closed. -/
def groupsOfScope
    (rules : Rules)
    (scope : Option String) :
    List (String × FilterInput) → List Group
  | [] => []
  | (key, input) :: entries =>
    groupsOfEntry rules scope key input ++ groupsOfScope rules scope entries

/-- The groups inside an entry, and the entry itself if it is one. -/
def groupsOfEntry
    (rules : Rules)
    (scope : Option String)
    (key : String) :
    FilterInput → List Group
  | .scalar _ => []
  | .list items =>
    if key = andKey ∨ key = orKey then
      groupsOfMembers rules scope items ++ [⟨scope, key, items⟩]
    else []
  | .map inner =>
    if key = andKey ∨ key = orKey then
      groupsOfScope rules scope inner ++ [⟨scope, key, [.map inner]⟩]
    else if key = "" then []
    else if hasOperatorKey rules inner then []
    else groupsOfScope rules (some (fieldPath scope key)) inner

/-- The groups inside the members of a group. -/
def groupsOfMembers
    (rules : Rules)
    (scope : Option String) : List FilterInput → List Group
  | [] => []
  | .map inner :: items =>
      groupsOfScope rules scope inner ++ groupsOfMembers rules scope items
  | .scalar _ :: items => groupsOfMembers rules scope items
  | .list _ :: items => groupsOfMembers rules scope items

end

/-- The groups that reading an input meets, in the order in which they are
closed. -/
def groups (rules : Rules) : FilterInput → List Group
  | .map entries => groupsOfScope rules none entries
  | .scalar _ => []
  | .list _ => []

/-! ## Reports -/

/-- One report for each group of which no filter is left. -/
def reportsOf (rules : Rules) (groups : List Group) : List ValidationError :=
  (groups.filter (Group.isReported rules)).map Group.report

theorem reportsOf_append (first second : List Group) :
    reportsOf rules (first ++ second) = reportsOf rules first ++
      reportsOf rules second := by
  rw [reportsOf, List.filter_append, List.map_append]
  rfl

/-- Closing a group adds its report to those of the groups inside it. -/
theorem emptyGroups_closeGroup
    (group : Group)
    {inside : List Group}
    (members : (group.reading rules).emptyGroups = reportsOf rules inside) :
    (closeGroup group.key (group.reading rules)).emptyGroups =
      reportsOf rules (inside ++ [group]) := by
  rw [reportsOf_append, ← members, Reading.emptyGroups, errors_closeGroup,
    Group.errors, List.filter_append, reportsOf]
  cases reported : group.isReported rules with
  | false => simp [reported, Reading.emptyGroups]
  | true =>
      simp [reported, Reading.emptyGroups, Group.report,
        ValidationError.isEmptyGroup]

theorem emptyGroups_readOperator
    (field name : String)
    (input : FilterInput) :
    (readOperator rules field name input).emptyGroups = [] := by
  rw [readOperator]
  split
  · rfl
  · split
    · rename_i error refused
      rcases Operator.normalize_eq_error refused with
        ⟨reason, isError⟩ | isError
      · rw [isError]
        rfl
      · rw [isError]
        rfl
    · split <;> rfl

theorem emptyGroups_readOperators
    (field : String)
    (entries : List (String × FilterInput)) :
    (readOperators rules field entries).emptyGroups = [] := by
  induction entries with
  | nil => rfl
  | cons entry entries induction =>
      rw [readOperators, Reading.emptyGroups_append, emptyGroups_readOperator,
        induction]
      rfl

mutual

theorem emptyGroups_readScope
    (scope : Option String)
    (entries : List (String × FilterInput)) :
    (readScope rules scope entries).emptyGroups =
      reportsOf rules (groupsOfScope rules scope entries) := by
  match entries with
  | [] =>
      rw [readScope, groupsOfScope]
      rfl
  | (key, input) :: entries =>
      rw [readScope,
        Reading.emptyGroups_append, emptyGroups_readEntry scope key input,
        emptyGroups_readScope scope entries, groupsOfScope, reportsOf_append]

theorem emptyGroups_readEntry
    (scope : Option String)
    (key : String)
    (input : FilterInput) :
    (readEntry rules scope key input).emptyGroups =
      reportsOf rules (groupsOfEntry rules scope key input) := by
  match input with
  | .scalar value =>
      rw [readEntry, groupsOfEntry]
      split
      · rfl
      · split
        · rfl
        · exact emptyGroups_readOperator _ _ _
  | .list items =>
      rw [readEntry, groupsOfEntry]
      split
      · exact emptyGroups_closeGroup ⟨scope, key, items⟩
          (emptyGroups_readMembers scope key items)
      · split
        · rfl
        · exact emptyGroups_readOperator _ _ _
  | .map inner =>
      rw [groupsOfEntry]
      split
      · rename_i isGroup
        rw [readEntry_group_map isGroup, readEntry_group isGroup]
        refine emptyGroups_closeGroup ⟨scope, key, [.map inner]⟩ ?_
        rw [Group.reading, readMembers, readMembers, Reading.append_nothing]
        exact emptyGroups_readScope scope inner
      · rename_i noGroup
        rw [readEntry, if_neg noGroup]
        split
        · rfl
        · dsimp only
          split
          · rename_i isEmpty
            rw [List.isEmpty_iff.mp isEmpty, groupsOfScope]
            split <;> rfl
          · split
            · exact emptyGroups_readOperators _ inner
            · exact emptyGroups_readScope _ inner

theorem emptyGroups_readMembers
    (scope : Option String)
    (key : String)
    (items : List FilterInput) :
    (readMembers rules scope key items).emptyGroups =
      reportsOf rules (groupsOfMembers rules scope items) := by
  match items with
  | [] =>
      rw [readMembers, groupsOfMembers]
      rfl
  | .map inner :: items =>
      rw [readMembers, Reading.emptyGroups_append,
        Reading.emptyGroups_conjoined, emptyGroups_readScope scope inner,
        emptyGroups_readMembers scope key items, groupsOfMembers,
        reportsOf_append]
  | .scalar value :: items =>
      rw [readMembers, Reading.emptyGroups_append,
        emptyGroups_readMembers scope key items, groupsOfMembers]
      · rfl
      · simp
  | .list members :: items =>
      rw [readMembers, Reading.emptyGroups_append,
        emptyGroups_readMembers scope key items, groupsOfMembers]
      · rfl
      · simp

end

/-! ## Where groups are met -/

/-- The group stands under a group key in a scope that reading opens. -/
inductive Met
    (rules : Rules)
    (top : List (String × FilterInput)) : Group → Prop where
  | list
      {scope : Option String}
      {grouped : Bool}
      {key : String}
      {entries : List (String × FilterInput)}
      {items : List FilterInput}
      (opened : Opened rules top scope grouped entries)
      (member : (key, .list items) ∈ entries)
      (isGroup : IsGroupKey key) :
      Met rules top ⟨scope, key, items⟩
  | map
      {scope : Option String}
      {grouped : Bool}
      {key : String}
      {entries inner : List (String × FilterInput)}
      (opened : Opened rules top scope grouped entries)
      (member : (key, .map inner) ∈ entries)
      (isGroup : IsGroupKey key) :
      Met rules top ⟨scope, key, [.map inner]⟩

variable {top entries inner : List (String × FilterInput)}
  {items : List FilterInput} {grouped : Bool} {input : FilterInput}
  {group : Group}

mutual

theorem met_of_mem_groupsOfScope
    {scope : Option String}
    {grouped : Bool}
    {entries : List (String × FilterInput)}
    (opened : Opened rules top scope grouped entries)
    (remaining : List (String × FilterInput))
    (within : ∀ entry ∈ remaining, entry ∈ entries)
    (isMember : group ∈ groupsOfScope rules scope remaining) :
    Met rules top group := by
  match remaining with
  | [] =>
      rw [groupsOfScope] at isMember
      cases isMember
  | (key, input) :: remaining =>
      rcases List.forall_mem_cons.mp within with ⟨first, rest⟩
      rw [groupsOfScope] at isMember
      rcases List.mem_append.mp isMember with inFirst | inRest
      · exact met_of_mem_groupsOfEntry opened key input first inFirst
      · exact met_of_mem_groupsOfScope opened remaining rest inRest

theorem met_of_mem_groupsOfEntry
    {scope : Option String}
    {grouped : Bool}
    {entries : List (String × FilterInput)}
    (opened : Opened rules top scope grouped entries)
    (key : String)
    (input : FilterInput)
    (member : (key, input) ∈ entries)
    (isMember : group ∈ groupsOfEntry rules scope key input) :
    Met rules top group := by
  match input with
  | .scalar value =>
      rw [groupsOfEntry] at isMember
      cases isMember
  | .list items =>
      rw [groupsOfEntry] at isMember
      split at isMember
      · rename_i isGroup
        rcases List.mem_append.mp isMember with inside | isThis
        · exact met_of_mem_groupsOfMembers items
            (fun inner isItem => .item opened member isGroup isItem) inside
        · rw [List.mem_singleton.mp isThis]
          exact .list opened member isGroup
      · cases isMember
  | .map inner =>
      rw [groupsOfEntry] at isMember
      split at isMember
      · rename_i isGroup
        rcases List.mem_append.mp isMember with inside | isThis
        · exact met_of_mem_groupsOfScope (.group opened member isGroup) inner
            (fun _ inInner => inInner) inside
        · rw [List.mem_singleton.mp isThis]
          exact .map opened member isGroup
      · rename_i noGroup
        split at isMember
        · cases isMember
        · rename_i named
          split at isMember
          · cases isMember
          · rename_i noOperator
            have isField := isFieldKey_of_not_group noGroup named
            exact met_of_mem_groupsOfScope
              (.field opened member isField (by simpa using noOperator)) inner
              (fun _ inInner => inInner) isMember

theorem met_of_mem_groupsOfMembers
    {scope : Option String}
    (items : List FilterInput)
    (opened : ∀ inner, .map inner ∈ items → Opened rules top scope true inner)
    (isMember : group ∈ groupsOfMembers rules scope items) :
    Met rules top group := by
  have others {item : FilterInput} {items : List FilterInput}
      (opened : ∀ inner, .map inner ∈ item :: items →
          Opened rules top scope true inner) :
      ∀ inner, .map inner ∈ items → Opened rules top scope true inner :=
    fun inner isItem => opened inner (List.mem_cons_of_mem item isItem)
  match items with
  | [] =>
      rw [groupsOfMembers] at isMember
      cases isMember
  | .map inner :: items =>
      rw [groupsOfMembers] at isMember
      rcases List.mem_append.mp isMember with inFirst | inRest
      · exact met_of_mem_groupsOfScope (opened inner List.mem_cons_self) inner
          (fun _ inInner => inInner) inFirst
      · exact met_of_mem_groupsOfMembers items (others opened) inRest
  | .scalar value :: items =>
      rw [groupsOfMembers] at isMember
      exact met_of_mem_groupsOfMembers items (others opened) isMember
  | .list members :: items =>
      rw [groupsOfMembers] at isMember
      exact met_of_mem_groupsOfMembers items (others opened) isMember

end

theorem groupsOfEntry_subset_groupsOfScope (member : (key, input) ∈ entries) :
    groupsOfEntry rules scope key input ⊆
      groupsOfScope rules scope entries := by
  induction entries with
  | nil => cases member
  | cons entry entries induction =>
      rw [groupsOfScope]
      cases member with
      | head => exact List.subset_append_left _ _
      | tail _ later =>
          exact List.subset_append_of_subset_right _ (induction later)

theorem groupsOfScope_subset_groupsOfMembers (isItem : .map inner ∈ items) :
    groupsOfScope rules scope inner ⊆ groupsOfMembers rules scope items := by
  induction items with
  | nil => cases isItem
  | cons item items induction =>
      cases isItem with
      | head =>
          rw [groupsOfMembers]
          exact List.subset_append_left _ _
      | tail _ later =>
          cases item with
          | scalar value =>
              rw [groupsOfMembers]
              exact induction later
          | list members =>
              rw [groupsOfMembers]
              exact induction later
          | map first =>
              rw [groupsOfMembers]
              exact List.subset_append_of_subset_right _ (induction later)

/-- The groups of an opened scope are among those of the whole, by induction on
the scopes around it. -/
theorem Opened.groupsOfScope_subset
    (opened : Opened rules top scope grouped inner) :
    groupsOfScope rules scope inner ⊆ groupsOfScope rules none top := by
  induction opened with
  | whole => exact List.Subset.refl _
  | @field scope grouped key entries inner _ member isField noOperator
      induction =>
      refine List.Subset.trans ?_
        (List.Subset.trans (groupsOfEntry_subset_groupsOfScope member)
            induction)
      have noGroup : ¬(key = andKey ∨ key = orKey) := isField.not_group
      rw [groupsOfEntry, if_neg noGroup, if_neg isField.2.2, noOperator,
        if_neg Bool.false_ne_true]
      exact List.Subset.refl _
  | @group scope grouped key entries inner _ member isGroup induction =>
      refine List.Subset.trans ?_
        (List.Subset.trans (groupsOfEntry_subset_groupsOfScope member)
            induction)
      rw [groupsOfEntry, if_pos (show key = andKey ∨ key = orKey from isGroup)]
      exact List.subset_append_left _ _
  | @item scope grouped key entries inner items _ member isGroup isItem
      induction =>
      refine List.Subset.trans ?_
        (List.Subset.trans (groupsOfEntry_subset_groupsOfScope member)
            induction)
      rw [groupsOfEntry, if_pos (show key = andKey ∨ key = orKey from isGroup)]
      exact List.subset_append_of_subset_left _
        (groupsOfScope_subset_groupsOfMembers isItem)

/-- The groups that are met are those of opened scopes. -/
theorem mem_groups_iff :
    group ∈ (map top).groups rules ↔ Met rules top group := by
  constructor
  · exact met_of_mem_groupsOfScope .whole top fun _ member => member
  · intro met
    cases met with
    | list opened member isGroup =>
        apply opened.groupsOfScope_subset
        apply groupsOfEntry_subset_groupsOfScope member
        rw [groupsOfEntry, if_pos (show _ = andKey ∨ _ = orKey from isGroup)]
        exact List.mem_append_right _ (List.mem_singleton_self _)
    | map opened member isGroup =>
        apply opened.groupsOfScope_subset
        apply groupsOfEntry_subset_groupsOfScope member
        rw [groupsOfEntry, if_pos (show _ = andKey ∨ _ = orKey from isGroup)]
        exact List.mem_append_right _ (List.mem_singleton_self _)

/-- A group that is met is an entry of its scope, whose members are read and
then joined. -/
theorem Met.exists_entry (met : Met rules top group) :
    ∃ grouped entries input,
      Opened rules top group.scope grouped entries ∧
        (group.key, input) ∈ entries ∧
        readEntry rules group.scope group.key input =
          closeGroup group.key (group.reading rules) := by
  cases met with
  | list opened member isGroup =>
      exact ⟨_, _, _, opened, member, readEntry_group isGroup⟩
  | map opened member isGroup =>
      exact ⟨_, _, _, opened, member,
        (readEntry_group_map isGroup).trans (readEntry_group isGroup)⟩

/-- The faults of a group stand side by side among those of the whole. -/
theorem Met.errors_infix (met : Met rules top group) :
    group.errors rules <:+: errorsOf ((FilterInput.map top).read rules) := by
  rcases met.exists_entry with ⟨grouped, entries, input, opened, member, isRead⟩
  have inScope := within_scope_of_entry member
    (Reading.Within.refl (readEntry rules group.scope group.key input))
  rw [errorsOf_read, ← errors_closeGroup, ← isRead]
  exact (inScope.trans opened.within).errors

/-- Nothing but a map has groups. -/
theorem mem_groups_iff_exists (input : FilterInput) :
    group ∈ input.groups rules ↔
      ∃ top, input = .map top ∧ Met rules top group := by
  cases input with
  | scalar value => simp [groups]
  | list items => simp [groups]
  | map top => simp [mem_groups_iff]

theorem emptyGroups_read
    (rules : Rules)
    (input : FilterInput) :
    (errorsOf (input.read rules)).filter ValidationError.isEmptyGroup =
      reportsOf rules (input.groups rules) := by
  cases input with
  | scalar value => rfl
  | list items => rfl
  | map top =>
      rw [errorsOf_read]
      exact emptyGroups_readScope none top

/-- Reading reports the empty groups once each, in the order in which the groups
of opened scopes are closed: those of whose members no filter is left.  The
faults of every group stand together, those of its members before its report.  A
group without entries has its report and no other fault; a group with entries
that is reported has faults of its members as well. -/
theorem reports_of_emptyGroups
    (rules : Rules)
    (input : FilterInput) :
    (errorsOf (input.read rules)).filter ValidationError.isEmptyGroup =
        reportsOf rules (input.groups rules) ∧
      (∀ group, group ∈ input.groups rules ↔
          ∃ top, input = .map top ∧ Met rules top group) ∧
      ∀ group ∈ input.groups rules,
        group.errors rules <:+: errorsOf (input.read rules) ∧
          (group.isReported rules = true ↔ ¬MemberYields rules group.members) ∧
          (group.Hollow →
            group.isReported rules = true ∧
              group.errors rules = [group.report]) ∧
          (group.isReported rules = true → ¬group.Hollow →
              (group.reading rules).errors ≠ []) := by
  refine ⟨emptyGroups_read rules input,
    fun group => mem_groups_iff_exists input, ?_⟩
  intro group member
  rcases (mem_groups_iff_exists input).mp member with ⟨top, rfl, met⟩
  exact ⟨met.errors_infix, Group.isReported_iff,
    fun hollow => ⟨hollow.isReported, hollow.errors_eq⟩,
    fun reported notHollow => Group.errors_reading_ne_nil notHollow reported⟩

/-- A group whose only member asks for a tag and names none. -/
def faultyGroup : Group :=
  ⟨none, "or", [.map [("tags", .map [("in", .list [])])]]⟩

/-- A group with an entry is reported, behind the fault for which nothing is
left of it. -/
theorem reported_behind_fault :
    (map [("or", .list faultyGroup.members)]).groups ⟨.builtins, 1000⟩ =
      [faultyGroup] ∧
      ¬faultyGroup.Hollow ∧
      errorsOf
        ((map [("or", .list faultyGroup.members)]).read ⟨.builtins, 1000⟩) =
        [.emptyOperandList "tags" "in", .emptyFilterGroup "or"] := by
  refine ⟨rfl, ?_, rfl⟩
  intro hollow
  cases hollow _ (List.mem_singleton_self _)

end FilterInput

end JsonApi
