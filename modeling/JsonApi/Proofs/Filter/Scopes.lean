import JsonApi.Filter.Reading

/-!
# The scopes of a filter input

Reading goes from scope to scope.  `FilterInput.Opened` says which maps of an
input are read as scopes and below which field, and `FilterInput.Applied` which
operators are thereby applied to which fields.  What is read consists of what
these operators read and of faults of shape, put together in three ways.  A
property that all of this respects (`Reading.Collective`) therefore holds of
everything that is read (`Reading.Collective.readScope`), and properties of
filters and of faults need no induction of their own.
-/

namespace JsonApi

namespace FilterInput

/-- A key of a scope that holds a group. -/
def IsGroupKey (key : String) : Prop :=
  key = andKey ∨ key = orKey

/-- A key of a scope that names a field. -/
def IsFieldKey (key : String) : Prop :=
  key ≠ andKey ∧ key ≠ orKey ∧ key ≠ ""

theorem IsGroupKey.named {key : String} (isGroup : IsGroupKey key) :
  key ≠ "" := by
  rcases isGroup with isAnd | isOr
  · rw [isAnd]
    decide
  · rw [isOr]
    decide

theorem isFieldKey_of_not_group
    {key : String}
    (noGroup : ¬IsGroupKey key)
    (named : key ≠ "") :
    IsFieldKey key :=
  ⟨(not_or.mp noGroup).1, (not_or.mp noGroup).2, named⟩

theorem IsFieldKey.not_group
    {key : String}
    (isField : IsFieldKey key) :
    ¬IsGroupKey key :=
  not_or.mpr ⟨isField.1, isField.2.1⟩

/-- A scope that reading opens in the entries of an input: the field below which
it stands, if there is one, whether it is a member of a group, and its
entries. -/
inductive Opened
    (rules : Rules)
    (top : List (String × FilterInput)) :
    Option String → Bool → List (String × FilterInput) → Prop where
  | whole : Opened rules top none false top
  /-- A map at a field, without operators among its keys. -/
  | field
      {scope : Option String}
      {grouped : Bool}
      {key : String}
      {entries inner : List (String × FilterInput)}
      (opened : Opened rules top scope grouped entries)
      (member : (key, .map inner) ∈ entries)
      (isField : IsFieldKey key)
      (noOperator : hasOperatorKey rules inner = false) :
      Opened rules top (some (fieldPath scope key)) false inner
  /-- A map that stands for a group with one member. -/
  | group
      {scope : Option String}
      {grouped : Bool}
      {key : String}
      {entries inner : List (String × FilterInput)}
      (opened : Opened rules top scope grouped entries)
      (member : (key, .map inner) ∈ entries)
      (isGroup : IsGroupKey key) :
      Opened rules top scope true inner
  /-- A map in the list of a group. -/
  | item
      {scope : Option String}
      {grouped : Bool}
      {key : String}
      {entries inner : List (String × FilterInput)}
      {items : List FilterInput}
      (opened : Opened rules top scope grouped entries)
      (member : (key, .list items) ∈ entries)
      (isGroup : IsGroupKey key)
      (isItem : .map inner ∈ items) :
      Opened rules top scope true inner

/-- An operator that an input applies to a field, with what is written behind
it. -/
inductive Applied
    (rules : Rules)
    (top : List (String × FilterInput)) :
    String → String → FilterInput → Prop where
  | equality
      {scope : Option String}
      {grouped : Bool}
      {key : String}
      {value : Operand}
      {entries : List (String × FilterInput)}
      (opened : Opened rules top scope grouped entries)
      (member : (key, .scalar value) ∈ entries)
      (isField : IsFieldKey key) :
      Applied rules top (fieldPath scope key) Operator.equalName (.scalar value)
  | membership
      {scope : Option String}
      {grouped : Bool}
      {key : String}
      {items : List FilterInput}
      {entries : List (String × FilterInput)}
      (opened : Opened rules top scope grouped entries)
      (member : (key, .list items) ∈ entries)
      (isField : IsFieldKey key) :
      Applied rules top (fieldPath scope key) Operator.memberName (.list items)
  /-- A key of a map at a field that has an operator among its keys. -/
  | operator
      {scope : Option String}
      {grouped : Bool}
      {key name : String}
      {input : FilterInput}
      {entries inner : List (String × FilterInput)}
      (opened : Opened rules top scope grouped entries)
      (member : (key, .map inner) ∈ entries)
      (isField : IsFieldKey key)
      (someOperator : hasOperatorKey rules inner = true)
      (written : (name, input) ∈ inner) :
      Applied rules top (fieldPath scope key) name input

variable {rules : Rules} {top : List (String × FilterInput)}

theorem name_of_find?
    {registry : OperatorRegistry}
    {name : String}
    {operator : Operator}
    (found : registry.find? name = some operator) :
    operator.name = name := by
  simpa using List.find?_some found

/-- Operators are applied to the fields that the keys of opened scopes name. -/
theorem Applied.exists_opened
    {field name : String}
    {input : FilterInput}
    (applied : Applied rules top field name input) :
    ∃ scope grouped entries key value,
      Opened rules top scope grouped entries ∧ (key, value) ∈ entries ∧
        IsFieldKey key ∧
        field = fieldPath scope key := by
  cases applied with
  | equality opened member isField =>
      exact ⟨_, _, _, _, _, opened, member, isField, rfl⟩
  | membership opened member isField =>
      exact ⟨_, _, _, _, _, opened, member, isField, rfl⟩
  | operator opened member isField _ _ =>
      exact ⟨_, _, _, _, _, opened, member, isField, rfl⟩

/-- No key of a scope directly below a field is the name of an operator. -/
theorem Opened.noOperator
    {field : String}
    {entries : List (String × FilterInput)}
    (opened : Opened rules top (some field) false entries) :
    hasOperatorKey rules entries = false := by
  cases opened with
  | field _ _ _ noOperator => exact noOperator

/-- Closing a group joins its members into one filter, or reports that there are
none. -/
theorem closeGroup_cases
    (key : String)
    (members : Reading) :
    (members.filters = [] ∧
        closeGroup key members =
          ⟨[], members.errors ++ [.emptyFilterGroup key]⟩) ∨
      ∃ joined,
        (Filter.any? members.filters = some joined ∨
            Filter.all? members.filters = some joined) ∧
          members.filters ≠ [] ∧
            closeGroup key members = ⟨[joined], members.errors⟩ := by
  rcases members with ⟨filters, errors⟩
  unfold closeGroup
  cases filters with
  | nil => exact Or.inl ⟨rfl, by simp [Filter.any?, Filter.all?]⟩
  | cons first rest =>
      have joins : ∃ joined,
          (if key = orKey then Filter.any? (first :: rest)
              else Filter.all? (first :: rest)) =
            some joined := by
        split <;> cases rest <;> exact ⟨_, rfl⟩
      rcases joins with ⟨joined, isJoined⟩
      refine Or.inr ⟨joined, ?_, List.cons_ne_nil _ _, by simp only [isJoined]⟩
      split at isJoined
      · exact Or.inl isJoined
      · exact Or.inr isJoined

end FilterInput

/-! ## What everything read has in common -/

/-- A property that nothing and the faults of shape have, and that what is put
together has if its parts do. -/
structure Reading.Collective (property : Reading → Prop) : Prop where
  nothing : property .nothing
  malformed : ∀ scope key reason,
    property (.fault
        (.malformedParameter (FilterInput.scopeParameter scope key) reason))
  append : ∀ {first second}, property first → property second →
    property (first.append second)
  conjoined : ∀ {reading}, property reading → property reading.conjoined
  closeGroup : ∀ {members key}, FilterInput.IsGroupKey key → property members →
    property (FilterInput.closeGroup key members)

namespace Reading.Collective

open FilterInput

variable {property : Reading → Prop} {rules : Rules}
  {top : List (String × FilterInput)}

theorem readOperators
    (collective : Collective property)
    {field : String}
    {entries : List (String × FilterInput)}
    (operators : ∀ name input, (name, input) ∈ entries →
      property (readOperator rules field name input)) :
    property (FilterInput.readOperators rules field entries) := by
  induction entries with
  | nil => exact collective.nothing
  | cons entry entries induction =>
      exact collective.append (operators entry.1 entry.2 List.mem_cons_self)
        (induction fun name input member =>
            operators name input (List.mem_cons_of_mem _ member))

mutual

theorem readEntries
    (collective : Collective property)
    (operators : ∀ field name input, Applied rules top field name input →
      property (readOperator rules field name input))
    {scope : Option String}
    {grouped : Bool}
    {entries : List (String × FilterInput)}
    (opened : Opened rules top scope grouped entries)
    (remaining : List (String × FilterInput))
    (within : ∀ entry ∈ remaining, entry ∈ entries) :
    property (FilterInput.readScope rules scope remaining) := by
  match remaining with
  | [] =>
      rw [FilterInput.readScope]
      exact collective.nothing
  | (key, input) :: remaining =>
      rcases List.forall_mem_cons.mp within with ⟨first, rest⟩
      rw [FilterInput.readScope]
      exact collective.append
        (collective.readEntry operators opened key input first)
        (collective.readEntries operators opened remaining rest)

theorem readEntry
    (collective : Collective property)
    (operators : ∀ field name input, Applied rules top field name input →
      property (readOperator rules field name input))
    {scope : Option String}
    {grouped : Bool}
    {entries : List (String × FilterInput)}
    (opened : Opened rules top scope grouped entries)
    (key : String)
    (input : FilterInput)
    (member : (key, input) ∈ entries) :
    property (FilterInput.readEntry rules scope key input) := by
  match input with
  | .scalar value =>
      rw [FilterInput.readEntry]
      split
      · exact collective.malformed _ _ _
      · rename_i noGroup
        split
        · exact collective.malformed _ _ _
        · rename_i named
          exact operators _ _ _
            (.equality opened member (isFieldKey_of_not_group noGroup named))
  | .list items =>
      rw [FilterInput.readEntry]
      split
      · rename_i isGroup
        exact collective.closeGroup isGroup
          (collective.readMembers operators key items fun _ isItem =>
            .item opened member isGroup isItem)
      · rename_i noGroup
        split
        · exact collective.malformed _ _ _
        · rename_i named
          exact operators _ _ _
            (.membership opened member (isFieldKey_of_not_group noGroup named))
  | .map inner =>
      rw [FilterInput.readEntry]
      split
      · rename_i isGroup
        exact collective.closeGroup isGroup (collective.conjoined
          (collective.readEntries operators (.group opened member isGroup) inner
            fun _ inside => inside))
      · rename_i noGroup
        split
        · exact collective.malformed _ _ _
        · rename_i named
          dsimp only
          split
          · exact collective.malformed _ _ _
          · split
            · rename_i someOperator
              exact collective.conjoined
                (collective.readOperators fun name input written =>
                operators _ _ _
                  (.operator opened member (isFieldKey_of_not_group noGroup
                      named) someOperator written))
            · rename_i noOperator
              have plain : hasOperatorKey rules inner = false := by
                simpa using noOperator
              exact collective.conjoined (collective.readEntries operators
                (.field opened member (isFieldKey_of_not_group noGroup named)
                    plain) inner
                fun _ inside => inside)

theorem readMembers
    (collective : Collective property)
    (operators : ∀ field name input, Applied rules top field name input →
      property (readOperator rules field name input))
    {scope : Option String}
    (key : String)
    (items : List FilterInput)
    (opened : ∀ inner, .map inner ∈ items → Opened rules top scope true inner) :
    property (FilterInput.readMembers rules scope key items) := by
  match items with
  | [] =>
      rw [FilterInput.readMembers]
      exact collective.nothing
  | .map inner :: items =>
      rw [FilterInput.readMembers]
      exact collective.append
        (collective.conjoined (collective.readEntries operators
          (opened inner List.mem_cons_self) inner fun _ inside => inside))
        (collective.readMembers operators key items fun other isItem =>
          opened other (List.mem_cons_of_mem _ isItem))
  | .scalar value :: items =>
      rw [FilterInput.readMembers]
      · exact collective.append (collective.malformed _ _ _)
          (collective.readMembers operators key items fun other isItem =>
            opened other (List.mem_cons_of_mem _ isItem))
      · simp
  | .list members :: items =>
      rw [FilterInput.readMembers]
      · exact collective.append (collective.malformed _ _ _)
          (collective.readMembers operators key items fun other isItem =>
            opened other (List.mem_cons_of_mem _ isItem))
      · simp

end

/-- What is read in the entries of an input has a property if it is collective
and what each operator reads has it. -/
theorem readScope
    (collective : Collective property)
    (operators : ∀ field name input, Applied rules top field name input →
      property (readOperator rules field name input)) :
    property (FilterInput.readScope rules none top) :=
  collective.readEntries operators .whole top fun _ member => member

end Reading.Collective

end JsonApi
