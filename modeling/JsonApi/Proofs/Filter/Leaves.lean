import JsonApi.Proofs.Filter.Scopes

/-!
# The leaves of a filter that was read

Every comparison in a filter that was read has a registered operator, and its
operands are what this operator makes of some part of the input
(`FilterInput.readFrom_of_mem_leaves`).  A property that is handed
down from an input to its parts therefore reaches every leaf.
-/

namespace JsonApi

namespace Filter

mutual

/-- The comparisons and null checks of a filter, from left to right. -/
def leaves : Filter → List Filter
  | .comparison field operator operands => [.comparison field operator operands]
  | .nullCheck field isNull => [.nullCheck field isNull]
  | .conjunction children => leavesOf children
  | .disjunction children => leavesOf children

/-- The leaves of some filters. -/
def leavesOf : List Filter → List Filter
  | [] => []
  | child :: children => child.leaves ++ leavesOf children

end

theorem leavesOf_append (first second : List Filter) :
    leavesOf (first ++ second) = leavesOf first ++ leavesOf second := by
  induction first with
  | nil => rfl
  | cons child children induction =>
      simp only [List.cons_append, leavesOf, induction, List.append_assoc]

theorem leavesOf_singleton (filter : Filter) :
    leavesOf [filter] = filter.leaves := by
  simp only [leavesOf, List.append_nil]

theorem leaves_of_all?
    {children : List Filter}
    {joined : Filter}
    (isJoined : all? children = some joined) :
    joined.leaves = leavesOf children := by
  rcases all?_cases isJoined with only | isConjunction
  · rw [only, leavesOf_singleton]
  · rw [isConjunction, leaves]

theorem leaves_of_any?
    {children : List Filter}
    {joined : Filter}
    (isJoined : any? children = some joined) :
    joined.leaves = leavesOf children := by
  rcases any?_cases isJoined with only | isDisjunction
  · rw [only, leavesOf_singleton]
  · rw [isDisjunction, leaves]

/-- The field that a comparison or a null check reads. -/
def leafField? : Filter → Option String
  | .comparison field _ _ => some field
  | .nullCheck field _ => some field
  | .conjunction _ => none
  | .disjunction _ => none

mutual

/-- A filter has the fields that its leaves read. -/
theorem fields_eq_filterMap_leaves (filter : Filter) :
    filter.fields = filter.leaves.filterMap leafField? := by
  match filter with
  | .comparison field operator operands => rfl
  | .nullCheck field isNull => rfl
  | .conjunction children =>
      rw [fields, leaves]
      exact fieldsOf_eq_filterMap_leavesOf children
  | .disjunction children =>
      rw [fields, leaves]
      exact fieldsOf_eq_filterMap_leavesOf children

theorem fieldsOf_eq_filterMap_leavesOf (children : List Filter) :
    fieldsOf children = (leavesOf children).filterMap leafField? := by
  match children with
  | [] => rfl
  | child :: children =>
      rw [fieldsOf, leavesOf, List.filterMap_append,
        fields_eq_filterMap_leaves child,
        fieldsOf_eq_filterMap_leavesOf children]

end

end Filter

/-- Joining what was read keeps its leaves. -/
theorem Reading.leavesOf_conjoined (reading : Reading) :
    Filter.leavesOf reading.conjoined.filters =
      Filter.leavesOf reading.filters := by
  rcases reading.conjoined_cases with ⟨_, same⟩ | ⟨joined, isJoined, _, single⟩
  · rw [same]
  · rw [single, Filter.leavesOf_singleton]
    exact Filter.leaves_of_all? isJoined

namespace FilterInput

/-- A property of an input that its parts have as well. -/
structure Hereditary (written : FilterInput → Prop) : Prop where
  items : ∀ {items : List FilterInput}, written (.list items) →
    ∀ item ∈ items, written item
  entries : ∀ {entries : List (String × FilterInput)}, written (.map entries) →
    ∀ entry ∈ entries, written entry.2

/-- A leaf with operands that a registered operator makes of an input with the
property. -/
inductive ReadFrom
    (rules : Rules)
    (written : FilterInput → Prop) : Filter → Prop where
  | comparison
      {field : String}
      {operator : Operator}
      {input : FilterInput}
      {operands : List Operand}
      (registered : rules.operators.find? operator.name = some operator)
      (compares : operator.name ≠ Operator.isNullName)
      (isWritten : written input)
      (normalized :
        operator.normalize field rules.maxOperands input = .ok operands) :
      ReadFrom rules written (.comparison field operator.name operands)
  | nullCheck
      {field : String}
      {isNull : Bool} :
      ReadFrom rules written (.nullCheck field isNull)

variable {rules : Rules} {written : FilterInput → Prop}

theorem forall_mem_leavesOf_append
    {first second : Reading}
    {leafProperty : Filter → Prop}
    (inFirst : ∀ leaf ∈ Filter.leavesOf first.filters, leafProperty leaf)
    (inSecond : ∀ leaf ∈ Filter.leavesOf second.filters, leafProperty leaf) :
    ∀ leaf ∈ Filter.leavesOf (first.append second).filters,
      leafProperty leaf := by
  intro leaf member
  rw [Reading.append, Filter.leavesOf_append] at member
  rcases List.mem_append.mp member with left | right
  · exact inFirst leaf left
  · exact inSecond leaf right

/-- Closing a group adds no leaves. -/
theorem leavesOf_closeGroup_subset
    (key : String)
    (members : Reading) :
    ∀ leaf ∈ Filter.leavesOf (closeGroup key members).filters,
      leaf ∈ Filter.leavesOf members.filters := by
  intro leaf member
  rcases closeGroup_cases key members with
    ⟨_, closed⟩ | ⟨joined, isJoined, _, closed⟩
  · rw [closed] at member
    cases member
  · have sameLeaves : joined.leaves = Filter.leavesOf members.filters :=
      isJoined.elim Filter.leaves_of_any? Filter.leaves_of_all?
    rw [closed] at member
    rwa [Filter.leavesOf_singleton, sameLeaves] at member

/-- A property of leaves is shared by all leaves that are read, if those that
operators read have it. -/
theorem collective_leaves (leafProperty : Filter → Prop) :
    Reading.Collective fun reading =>
      ∀ leaf ∈ Filter.leavesOf reading.filters, leafProperty leaf where
  nothing := List.forall_mem_nil _
  malformed := fun _ _ _ => List.forall_mem_nil _
  append := forall_mem_leavesOf_append
  conjoined := by
    intro reading holds
    rw [Reading.leavesOf_conjoined]
    exact holds
  closeGroup := fun _ holds leaf member =>
    holds leaf (leavesOf_closeGroup_subset _ _ leaf member)

theorem forall_mem_leaves_of_read
    {entries : List (String × FilterInput)}
    {filter : Filter}
    {leafProperty : Filter → Prop}
    (isRead : (map entries).read rules = .ok (some filter))
    (operators : ∀ field name input, Applied rules entries field name input →
      ∀ leaf ∈ Filter.leavesOf (readOperator rules field name input).filters,
        leafProperty leaf) :
    ∀ leaf ∈ filter.leaves, leafProperty leaf := by
  rw [read, ValidationErrors.unlessAny_eq_ok_iff] at isRead
  rw [Filter.leaves_of_all? isRead.2]
  exact (collective_leaves leafProperty).readScope operators

/-- What an operator reads is one leaf, for its field and with normalized
operands. -/
theorem leaf_cases
    {field name : String}
    {input : FilterInput}
    {leaf : Filter}
    (member :
      leaf ∈ Filter.leavesOf (readOperator rules field name input).filters) :
    ∃ operator operands, rules.operators.find? name = some operator ∧
      operator.normalize field rules.maxOperands input = .ok operands ∧
      (name = Operator.isNullName ∧ (∃ isNull, leaf = .nullCheck field isNull) ∨
        name ≠ Operator.isNullName ∧
          leaf = .comparison field name operands) := by
  rw [readOperator] at member
  split at member
  · cases member
  · rename_i operator found
    split at member
    · cases member
    · rename_i operands normalized
      refine ⟨operator, operands, found, normalized, ?_⟩
      split at member
      · rename_i checksNull
        rw [Filter.leavesOf_singleton, Filter.leaves,
          List.mem_singleton] at member
        exact Or.inl ⟨checksNull, _, member⟩
      · rename_i compares
        rw [Filter.leavesOf_singleton, Filter.leaves,
          List.mem_singleton] at member
        exact Or.inr ⟨compares, member⟩

/-- Every field of a filter that was read is one that an operator was applied
to. -/
theorem applied_of_mem_fields
    {entries : List (String × FilterInput)}
    {filter : Filter}
    (isRead : (map entries).read rules = .ok (some filter)) :
    ∀ field ∈ filter.fields, ∃ name input,
      Applied rules entries field name input := by
  have leaves :
      ∀ leaf ∈ filter.leaves, ∀ field, leaf.leafField? = some field →
        ∃ name input, Applied rules entries field name input := by
    refine forall_mem_leaves_of_read isRead ?_
    intro field name input applied leaf isLeaf other reads
    rcases leaf_cases isLeaf with
      ⟨_, operands, _, _, ⟨_, isNull, isCheck⟩ | ⟨_, isComparison⟩⟩
    · rw [isCheck, Filter.leafField?, Option.some.injEq] at reads
      exact ⟨name, input, reads ▸ applied⟩
    · rw [isComparison, Filter.leafField?, Option.some.injEq] at reads
      exact ⟨name, input, reads ▸ applied⟩
  intro field member
  rw [Filter.fields_eq_filterMap_leaves] at member
  rcases List.mem_filterMap.mp member with ⟨leaf, isLeaf, reads⟩
  exact leaves leaf isLeaf field reads

/-! ## Leaves and parts of the input -/

theorem Hereditary.of_opened
    (hereditary : Hereditary written)
    {top entries : List (String × FilterInput)}
    {scope : Option String}
    {grouped : Bool}
    (isWritten : ∀ entry ∈ top, written entry.2)
    (opened : Opened rules top scope grouped entries) :
    ∀ entry ∈ entries, written entry.2 := by
  induction opened with
  | whole => exact isWritten
  | field _ member _ _ induction =>
      exact hereditary.entries (induction _ member)
  | group _ member _ induction => exact hereditary.entries (induction _ member)
  | item _ member _ isItem induction =>
      exact hereditary.entries (hereditary.items (induction _ member) _ isItem)

theorem Hereditary.of_applied
    (hereditary : Hereditary written)
    {top : List (String × FilterInput)}
    {field name : String}
    {input : FilterInput}
    (isWritten : ∀ entry ∈ top, written entry.2)
    (applied : Applied rules top field name input) :
    written input := by
  cases applied with
  | equality opened member _ =>
      exact hereditary.of_opened isWritten opened _ member
  | membership opened member _ =>
      exact hereditary.of_opened isWritten opened _ member
  | operator opened member _ _ inside =>
      exact hereditary.entries (hereditary.of_opened isWritten opened _ member)
        _ inside

/-- Every leaf of a filter that was read is read from a part of the input. -/
theorem readFrom_of_mem_leaves
    (hereditary : Hereditary written)
    {input : FilterInput}
    (isWritten : written input)
    {filter : Filter}
    (isRead : input.read rules = .ok (some filter)) :
    ∀ leaf ∈ filter.leaves, ReadFrom rules written leaf := by
  cases input with
  | scalar value => cases isRead
  | list items => cases isRead
  | map entries =>
      have parts :
          ∀ field name input, Applied rules entries field name input →
            ∀ leaf ∈
              Filter.leavesOf (readOperator rules field name input).filters,
              ReadFrom rules written leaf := by
        intro field name input applied leaf member
        have partWritten :=
          hereditary.of_applied (hereditary.entries isWritten) applied
        rcases leaf_cases member with
          ⟨operator, operands, found, normalized, isNull | compares⟩
        · rcases isNull with ⟨_, _, isCheck⟩
          rw [isCheck]
          exact .nullCheck
        · have sameName := name_of_find? found
          subst sameName
          rw [compares.2]
          exact .comparison found compares.1 partWritten normalized
      exact forall_mem_leaves_of_read isRead parts

end FilterInput

end JsonApi
