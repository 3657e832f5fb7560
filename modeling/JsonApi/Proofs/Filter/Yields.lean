import JsonApi.Proofs.Filter.Grammar

/-!
# What is left of a filter with faults

Reading goes on behind a fault, so that a filter can be left of an input that is
refused.  `FilterInput.Yields` says without reading when one is left of an
entry: an operator takes what is written behind it, at the field of the entry or
further below.  A scope or a group is read as some filter exactly if one of its
entries yields (`FilterInput.filters_readScope_ne_nil_iff`,
`FilterInput.filters_readMembers_ne_nil_iff`).
-/

namespace JsonApi

namespace Reading

variable {reading first second : Reading}

theorem filters_append_ne_nil_iff :
    (first.append second).filters ≠ [] ↔
      first.filters ≠ [] ∨ second.filters ≠ [] := by
  rw [append, ne_eq, List.append_eq_nil_iff]
  tauto

theorem filters_conjoined_ne_nil_iff :
    reading.conjoined.filters ≠ [] ↔ reading.filters ≠ [] := by
  rcases reading.conjoined_cases with ⟨_, same⟩ | ⟨joined, _, notEmpty, single⟩
  · rw [same]
  · rw [single]
    refine iff_of_true (List.cons_ne_nil joined []) ?_
    intro noFilters
    rw [noFilters] at notEmpty
    cases notEmpty

end Reading

namespace FilterInput

variable {rules : Rules} {key : String}

/-! ## Entries that yield a filter -/

/-- A filter is left of an entry, whatever is at fault beside it: some operator
at its field takes what is written behind it, or a filter is left of some entry
below it. -/
inductive Yields (rules : Rules) : String → FilterInput → Prop where
  | equality
      {key : String}
      {value : Operand}
      (isField : IsFieldKey key)
      (takes : rules.Takes Operator.equalName (.scalar value)) :
      Yields rules key (.scalar value)
  | membership
      {key : String}
      {items : List FilterInput}
      (isField : IsFieldKey key)
      (takes : rules.Takes Operator.memberName (.list items)) :
      Yields rules key (.list items)
  | operator
      {key : String}
      {inner : List (String × FilterInput)}
      {entry : String × FilterInput}
      (isField : IsFieldKey key)
      (someOperator : hasOperatorKey rules inner = true)
      (member : entry ∈ inner)
      (takes : rules.Takes entry.1 entry.2) :
      Yields rules key (.map inner)
  | field
      {key : String}
      {inner : List (String × FilterInput)}
      {entry : String × FilterInput}
      (isField : IsFieldKey key)
      (noOperator : hasOperatorKey rules inner = false)
      (member : entry ∈ inner)
      (yields : Yields rules entry.1 entry.2) :
      Yields rules key (.map inner)
  | groupMap
      {key : String}
      {inner : List (String × FilterInput)}
      {entry : String × FilterInput}
      (isGroup : IsGroupKey key)
      (member : entry ∈ inner)
      (yields : Yields rules entry.1 entry.2) :
      Yields rules key (.map inner)
  | groupList
      {key : String}
      {items : List FilterInput}
      {inner : List (String × FilterInput)}
      {entry : String × FilterInput}
      (isGroup : IsGroupKey key)
      (isItem : .map inner ∈ items)
      (member : entry ∈ inner)
      (yields : Yields rules entry.1 entry.2) :
      Yields rules key (.list items)

/-- A filter is left of some of the entries. -/
def SomeYields (rules : Rules) (entries : List (String × FilterInput)) : Prop :=
  ∃ entry ∈ entries, Yields rules entry.1 entry.2

/-- A filter is left of some member of a group. -/
def MemberYields (rules : Rules) (items : List FilterInput) : Prop :=
  ∃ inner, .map inner ∈ items ∧ SomeYields rules inner

theorem yields_scalar_iff {value : Operand} :
    Yields rules key (.scalar value) ↔
      IsFieldKey key ∧ rules.Takes Operator.equalName (.scalar value) := by
  constructor
  · rintro ⟨isField, takes⟩
    exact ⟨isField, takes⟩
  · rintro ⟨isField, takes⟩
    exact .equality isField takes

theorem yields_group_list_iff
    {items : List FilterInput}
    (isGroup : IsGroupKey key) :
    Yields rules key (.list items) ↔ MemberYields rules items := by
  constructor
  · intro yields
    cases yields with
    | membership isField takes => exact absurd isGroup isField.not_group
    | groupList isGroup isItem member yields =>
        exact ⟨_, isItem, _, member, yields⟩
  · rintro ⟨inner, isItem, entry, member, yields⟩
    exact .groupList isGroup isItem member yields

theorem yields_field_list_iff
    {items : List FilterInput}
    (isField : IsFieldKey key) :
    Yields rules key (.list items) ↔
      rules.Takes Operator.memberName (.list items) := by
  constructor
  · intro yields
    cases yields with
    | membership isField takes => exact takes
    | groupList isGroup isItem member yields =>
        exact absurd isGroup isField.not_group
  · exact .membership isField

theorem yields_group_map_iff
    {inner : List (String × FilterInput)}
    (isGroup : IsGroupKey key) :
    Yields rules key (.map inner) ↔ SomeYields rules inner := by
  constructor
  · intro yields
    cases yields with
    | operator isField someOperator member takes =>
        exact absurd isGroup isField.not_group
    | field isField noOperator member yields =>
        exact absurd isGroup isField.not_group
    | groupMap isGroup member yields => exact ⟨_, member, yields⟩
  · rintro ⟨entry, member, yields⟩
    exact .groupMap isGroup member yields

theorem yields_field_map_iff
    {inner : List (String × FilterInput)}
    (isField : IsFieldKey key) :
    Yields rules key (.map inner) ↔
      if hasOperatorKey rules inner then ∃ entry ∈ inner,
        rules.Takes entry.1 entry.2
      else SomeYields rules inner := by
  constructor
  · intro yields
    cases yields with
    | operator isField someOperator member takes =>
        rw [if_pos someOperator]
        exact ⟨_, member, takes⟩
    | field isField noOperator member yields =>
        rw [noOperator, if_neg Bool.false_ne_true]
        exact ⟨_, member, yields⟩
    | groupMap isGroup member yields => exact absurd isGroup isField.not_group
  · split
    · rename_i someOperator
      rintro ⟨entry, member, takes⟩
      exact .operator isField someOperator member takes
    · rename_i noOperator
      rintro ⟨entry, member, yields⟩
      exact .field isField (by simpa using noOperator) member yields

/-- Nothing is left of an entry without a key. -/
theorem Yields.named
    {input : FilterInput}
    (yields : Yields rules key input) :
    key ≠ "" := by
  cases yields with
  | equality isField => exact isField.2.2
  | membership isField => exact isField.2.2
  | operator isField => exact isField.2.2
  | field isField => exact isField.2.2
  | groupMap isGroup => exact isGroup.named
  | groupList isGroup => exact isGroup.named

theorem someYields_cons_iff
    {entry : String × FilterInput}
    {entries : List (String × FilterInput)} :
    SomeYields rules (entry :: entries) ↔
      Yields rules entry.1 entry.2 ∨ SomeYields rules entries :=
  List.exists_mem_cons_iff _ _ _

theorem memberYields_cons_iff
    {item : FilterInput}
    {items : List FilterInput} :
    MemberYields rules (item :: items) ↔
      (∃ inner, item = .map inner ∧ SomeYields rules inner) ∨
        MemberYields rules items := by
  simp only [MemberYields, List.mem_cons, or_and_right, exists_or, eq_comm]

/-! ## What is left when faults are taken out -/

theorem filters_readOperator_ne_nil_iff
    {field name : String}
    {input : FilterInput} :
    (readOperator rules field name input).filters ≠ [] ↔
      rules.Takes name input := by
  have faultless : (readOperator rules field name input).errors = [] ↔
      rules.Takes name input :=
    readOperator_faultless_iff
  rw [← faultless, readOperator]
  split
  · simp [Reading.fault]
  · split
    · simp [Reading.fault]
    · split <;> simp

theorem filters_readOperators_ne_nil_iff
    {field : String}
    {entries : List (String × FilterInput)} :
    (readOperators rules field entries).filters ≠ [] ↔
      ∃ entry ∈ entries, rules.Takes entry.1 entry.2 := by
  induction entries with
  | nil => simp [readOperators, Reading.nothing]
  | cons entry entries induction =>
      rw [readOperators, Reading.filters_append_ne_nil_iff,
        filters_readOperator_ne_nil_iff,
        induction, List.exists_mem_cons_iff]

theorem filters_closeGroup_ne_nil_iff {members : Reading} :
    (closeGroup key members).filters ≠ [] ↔ members.filters ≠ [] := by
  rcases closeGroup_cases key members with
    ⟨noFilters, closed⟩ | ⟨joined, _, someFilter, closed⟩
  · rw [closed, noFilters]
  · rw [closed]
    exact iff_of_true (List.cons_ne_nil joined []) someFilter

mutual

theorem filters_readScope_ne_nil_iff
    (scope : Option String)
    (entries : List (String × FilterInput)) :
    (readScope rules scope entries).filters ≠ [] ↔
      SomeYields rules entries := by
  match entries with
  | [] =>
      rw [readScope]
      simp [Reading.nothing, SomeYields]
  | (key, input) :: entries =>
      rw [readScope, Reading.filters_append_ne_nil_iff,
        filters_readEntry_ne_nil_iff scope key input,
        filters_readScope_ne_nil_iff scope entries, someYields_cons_iff]

/-- An entry is read as a filter, with or without faults, exactly if it
yields. -/
theorem filters_readEntry_ne_nil_iff
    (scope : Option String)
    (key : String)
    (input : FilterInput) :
    (readEntry rules scope key input).filters ≠ [] ↔
      Yields rules key input := by
  have noFilters {error : ValidationError} :
      ¬(Reading.fault error).filters ≠ [] :=
    fun some => some rfl
  match input with
  | .scalar value =>
      rw [readEntry, yields_scalar_iff]
      split
      · rename_i isGroup
        exact iff_of_false noFilters fun yields => yields.1.not_group isGroup
      · split
        · rename_i unnamed
          exact iff_of_false noFilters fun yields => yields.1.2.2 unnamed
        · rename_i noGroup named
          have isField := isFieldKey_of_not_group noGroup named
          rw [filters_readOperator_ne_nil_iff, and_iff_right isField]
  | .list items =>
      rw [readEntry]
      split
      · rename_i isGroup
        rw [filters_closeGroup_ne_nil_iff,
          filters_readMembers_ne_nil_iff scope key items,
          yields_group_list_iff isGroup]
      · split
        · rename_i unnamed
          exact iff_of_false noFilters fun yields => yields.named unnamed
        · rename_i noGroup named
          have isField := isFieldKey_of_not_group noGroup named
          rw [filters_readOperator_ne_nil_iff, yields_field_list_iff isField]
  | .map inner =>
      rw [readEntry]
      split
      · rename_i isGroup
        rw [filters_closeGroup_ne_nil_iff, Reading.filters_conjoined_ne_nil_iff,
          filters_readScope_ne_nil_iff scope inner,
          yields_group_map_iff isGroup]
      · split
        · rename_i unnamed
          exact iff_of_false noFilters fun yields => yields.named unnamed
        · rename_i noGroup named
          rw [yields_field_map_iff (isFieldKey_of_not_group noGroup named)]
          dsimp only
          split
          · rename_i isEmpty
            rw [List.isEmpty_iff.mp isEmpty]
            refine iff_of_false noFilters ?_
            simp [SomeYields]
          · split
            · rw [Reading.filters_conjoined_ne_nil_iff,
                filters_readOperators_ne_nil_iff]
            · rw [Reading.filters_conjoined_ne_nil_iff,
                filters_readScope_ne_nil_iff _ inner]

theorem filters_readMembers_ne_nil_iff
    (scope : Option String)
    (key : String)
    (items : List FilterInput) :
    (readMembers rules scope key items).filters ≠ [] ↔
      MemberYields rules items := by
  match items with
  | [] =>
      rw [readMembers]
      simp [Reading.nothing, MemberYields]
  | .map inner :: items =>
      rw [readMembers,
        Reading.filters_append_ne_nil_iff, Reading.filters_conjoined_ne_nil_iff,
        filters_readScope_ne_nil_iff scope inner,
        filters_readMembers_ne_nil_iff scope key items, memberYields_cons_iff]
      simp
  | .scalar value :: items =>
      rw [readMembers, Reading.filters_append_ne_nil_iff,
        filters_readMembers_ne_nil_iff scope key items, memberYields_cons_iff]
      · simp [Reading.fault]
      · simp
  | .list members :: items =>
      rw [readMembers, Reading.filters_append_ne_nil_iff,
        filters_readMembers_ne_nil_iff scope key items, memberYields_cons_iff]
      · simp [Reading.fault]
      · simp

end

end FilterInput

end JsonApi
