import JsonApi.Proofs.Filter.Operands
import JsonApi.Proofs.Filter.Scopes

/-!
# The grammar of filter inputs

`FilterInput.WellFormedScope` says, rule by rule, which maps are filters: what
may stand under a group key, under a field and behind an operator.  The rules
do not mention reading, its faults or the filters that come out.  Reading
accepts the inputs of this grammar and no others, and the empty map is the only
one that it reads as no filter at all (`FilterInput.accepts_iff_wellFormed`).
-/

namespace JsonApi

/-! ## Operands -/

/-- The field is mentioned in errors only. -/
theorem Operator.normalize_field
    {operator : Operator}
    {field : String}
    {limit : Nat}
    {input : FilterInput}
    {operands : List Operand}
    (normalized : operator.normalize field limit input = .ok operands)
    (other : String) :
    operator.normalize other limit input = .ok operands := by
  rw [normalize] at normalized ⊢
  cases arity : operator.arity with
  | single | flag | pair =>
      rw [arity] at normalized
      exact Outcome.mapError_eq_ok_iff.mpr
        (Outcome.mapError_eq_ok_iff.mp normalized)
  | list =>
      rw [arity] at normalized
      dsimp only at normalized ⊢
      unfold normalizeList at normalized ⊢
      cases found : listOperands? input with
      | error reason =>
          rw [found] at normalized
          cases normalized
      | ok written =>
          rw [found] at normalized
          dsimp only at normalized ⊢
          split at normalized
          · cases normalized
          · split at normalized
            · cases normalized
            · split at normalized
              · cases normalized
              · rename_i some few nulls
                rw [if_neg some, if_neg few, if_neg nulls]
                exact normalized

namespace FilterInput

/-- The operator of a name is registered and takes what is written behind it. -/
def Rules.Takes (rules : Rules) (name : String) (input : FilterInput) : Prop :=
  ∃ operator operands, rules.operators.find? name = some operator ∧
    ∀ field, operator.normalize field rules.maxOperands input = .ok operands

/-! ## The grammar -/

mutual

/-- The entries of a scope: no key is empty and every entry is well formed. -/
inductive WellFormedScope (rules : Rules) :
    List (String × FilterInput) → Prop where
  | entries
      {entries : List (String × FilterInput)}
      (named : ∀ entry ∈ entries, entry.1 ≠ "")
      (formed : ∀ entry ∈ entries, WellFormedEntry rules entry.1 entry.2) :
      WellFormedScope rules entries

/-- One entry of a scope, by its key and by what stands under it. -/
inductive WellFormedEntry (rules : Rules) : String → FilterInput → Prop where
  /-- A group with one member. -/
  | groupMap
      {key : String}
      {entries : List (String × FilterInput)}
      (isGroup : IsGroupKey key)
      (nonempty : entries ≠ [])
      (scope : WellFormedScope rules entries) :
      WellFormedEntry rules key (.map entries)
  /-- A group with a list of members, of which some have entries. -/
  | groupList
      {key : String}
      {items : List FilterInput}
      (isGroup : IsGroupKey key)
      (members : ∀ item ∈ items, WellFormedMember rules item)
      (nonempty : ∃ item ∈ items, item ≠ .map []) :
      WellFormedEntry rules key (.list items)
  /-- A field that is asked to be equal. -/
  | equality
      {key : String}
      {value : Operand}
      (isField : ¬IsGroupKey key)
      (takes : rules.Takes Operator.equalName (.scalar value)) :
      WellFormedEntry rules key (.scalar value)
  /-- A field that is asked to be a member. -/
  | membership
      {key : String}
      {items : List FilterInput}
      (isField : ¬IsGroupKey key)
      (takes : rules.Takes Operator.memberName (.list items)) :
      WellFormedEntry rules key (.list items)
  /-- A field with operators: as soon as one key is an operator, all of them
  are. -/
  | operators
      {key : String}
      {entries : List (String × FilterInput)}
      (isField : ¬IsGroupKey key)
      (someOperator : ∃ entry ∈ entries,
        rules.operators.contains entry.1 = true)
      (takes : ∀ entry ∈ entries, rules.Takes entry.1 entry.2) :
      WellFormedEntry rules key (.map entries)
  /-- A field with a scope of further fields below it. -/
  | fields
      {key : String}
      {entries : List (String × FilterInput)}
      (isField : ¬IsGroupKey key)
      (nonempty : entries ≠ [])
      (noOperator : ∀ entry ∈ entries, rules.operators.contains entry.1 = false)
      (scope : WellFormedScope rules entries) :
      WellFormedEntry rules key (.map entries)

/-- A member of a group. -/
inductive WellFormedMember (rules : Rules) : FilterInput → Prop where
  | map
      {entries : List (String × FilterInput)}
      (scope : WellFormedScope rules entries) :
      WellFormedMember rules (.map entries)

end

variable {rules : Rules} {key : String}

theorem wellFormedScope_nil : WellFormedScope rules [] :=
  .entries (List.forall_mem_nil _) (List.forall_mem_nil _)

theorem wellFormedScope_cons_iff
    {input : FilterInput}
    {entries : List (String × FilterInput)} :
    WellFormedScope rules ((key, input) :: entries) ↔
      (key ≠ "" ∧ WellFormedEntry rules key input) ∧
        WellFormedScope rules entries := by
  constructor
  · rintro ⟨named, formed⟩
    rcases List.forall_mem_cons.mp named with ⟨firstNamed, named⟩
    rcases List.forall_mem_cons.mp formed with ⟨firstFormed, formed⟩
    exact ⟨⟨firstNamed, firstFormed⟩, .entries named formed⟩
  · rintro ⟨⟨firstNamed, firstFormed⟩, ⟨named, formed⟩⟩
    exact .entries (List.forall_mem_cons.mpr ⟨firstNamed, named⟩)
      (List.forall_mem_cons.mpr ⟨firstFormed, formed⟩)

theorem wellFormedEntry_scalar_iff {value : Operand} :
    WellFormedEntry rules key (.scalar value) ↔
      ¬IsGroupKey key ∧ rules.Takes Operator.equalName (.scalar value) := by
  constructor
  · rintro ⟨⟩
    exact ⟨‹_›, ‹_›⟩
  · rintro ⟨isField, takes⟩
    exact .equality isField takes

theorem wellFormedEntry_group_list_iff
    {items : List FilterInput}
    (isGroup : IsGroupKey key) :
    WellFormedEntry rules key (.list items) ↔
      (∀ item ∈ items, WellFormedMember rules item) ∧ ∃ item ∈ items,
        item ≠ .map [] := by
  constructor
  · intro formed
    cases formed with
    | groupList _ members nonempty => exact ⟨members, nonempty⟩
    | membership isField _ => exact absurd isGroup isField
  · rintro ⟨members, nonempty⟩
    exact .groupList isGroup members nonempty

theorem wellFormedEntry_field_list_iff
    {items : List FilterInput}
    (isField : ¬IsGroupKey key) :
    WellFormedEntry rules key (.list items) ↔
      rules.Takes Operator.memberName (.list items) := by
  constructor
  · intro formed
    cases formed with
    | groupList isGroup _ _ => exact absurd isGroup isField
    | membership _ takes => exact takes
  · exact .membership isField

theorem wellFormedEntry_group_map_iff
    {entries : List (String × FilterInput)}
    (isGroup : IsGroupKey key) :
    WellFormedEntry rules key (.map entries) ↔
      WellFormedScope rules entries ∧ entries ≠ [] := by
  constructor
  · intro formed
    cases formed with
    | groupMap _ nonempty scope => exact ⟨scope, nonempty⟩
    | operators isField _ _ => exact absurd isGroup isField
    | fields isField _ _ _ => exact absurd isGroup isField
  · rintro ⟨scope, nonempty⟩
    exact .groupMap isGroup nonempty scope

theorem hasOperatorKey_iff {entries : List (String × FilterInput)} :
    hasOperatorKey rules entries = true ↔
      ∃ entry ∈ entries, rules.operators.contains entry.1 = true := by
  rw [hasOperatorKey, List.any_eq_true]

/-- Under a field, the keys of a map decide together whether they are operators
or fields. -/
theorem wellFormedEntry_field_map_iff
    {entries : List (String × FilterInput)}
    (isField : ¬IsGroupKey key)
    (nonempty : entries ≠ []) :
    WellFormedEntry rules key (.map entries) ↔
      if hasOperatorKey rules entries = true then ∀ entry ∈ entries,
        rules.Takes entry.1 entry.2
      else WellFormedScope rules entries := by
  split
  · rename_i someOperator
    rw [hasOperatorKey_iff] at someOperator
    constructor
    · intro formed
      cases formed with
      | groupMap isGroup _ _ => exact absurd isGroup isField
      | operators _ _ takes => exact takes
      | fields _ _ noOperator _ =>
          rcases someOperator with ⟨entry, member, registered⟩
          rw [noOperator entry member] at registered
          cases registered
    · exact .operators isField someOperator
  · rename_i noOperator
    rw [hasOperatorKey_iff] at noOperator
    constructor
    · intro formed
      cases formed with
      | groupMap isGroup _ _ => exact absurd isGroup isField
      | operators _ someOperator _ => exact absurd someOperator noOperator
      | fields _ _ _ scope => exact scope
    · intro scope
      refine .fields isField nonempty (fun entry member => ?_) scope
      by_contra registered
      exact noOperator ⟨entry, member, by simpa using registered⟩

end FilterInput

/-! ## Nothing is read of nothing only -/

namespace Reading

variable {first second reading : Reading}

theorem fault_ne_nothing (error : ValidationError) : fault error ≠ nothing := by
  intro isNothing
  cases isNothing

theorem append_eq_nothing_iff :
    first.append second = nothing ↔ first = nothing ∧ second = nothing := by
  simp only [append, nothing, Reading.mk.injEq, List.append_eq_nil_iff]
  rcases first with ⟨filters, errors⟩
  rcases second with ⟨otherFilters, otherErrors⟩
  simp only [Reading.mk.injEq]
  tauto

theorem conjoined_eq_nothing_iff : reading.conjoined = nothing ↔
  reading = nothing := by
  rcases reading.conjoined_cases with ⟨_, same⟩ | ⟨joined, _, notEmpty, single⟩
  · rw [same]
  · rw [single]
    constructor
    · intro isNothing
      cases isNothing
    · intro isNothing
      rw [isNothing] at notEmpty
      cases notEmpty

end Reading

namespace FilterInput

variable {rules : Rules}

theorem readOperator_ne_nothing
    (field name : String)
    (input : FilterInput) :
    readOperator rules field name input ≠ .nothing := by
  rw [readOperator]
  split
  · exact Reading.fault_ne_nothing _
  · split
    · exact Reading.fault_ne_nothing _
    · split <;> exact fun isNothing => nomatch isNothing

theorem readOperators_eq_nothing_iff
    {field : String}
    {entries : List (String × FilterInput)} :
    readOperators rules field entries = .nothing ↔ entries = [] := by
  cases entries with
  | nil => exact ⟨fun _ => rfl, fun _ => rfl⟩
  | cons entry entries =>
      rw [readOperators, Reading.append_eq_nothing_iff]
      simp [readOperator_ne_nothing]

/-- A group is closed without a fault if its members have none and there are
some. -/
theorem closeGroup_faultless_iff
    {key : String}
    {members : Reading} :
    (closeGroup key members).errors = [] ↔
      members.errors = [] ∧ members ≠ .nothing := by
  rcases closeGroup_cases key members with
    ⟨noFilters, closed⟩ | ⟨joined, _, someFilter, closed⟩
  · rw [closed]
    rcases members with ⟨filters, errors⟩
    dsimp only at noFilters
    simp [noFilters, Reading.nothing]
  · rw [closed]
    refine (and_iff_left ?_).symm
    intro isNothing
    rw [isNothing] at someFilter
    exact someFilter rfl

theorem closeGroup_ne_nothing
    (key : String)
    (members : Reading) :
    closeGroup key members ≠ .nothing := by
  rcases closeGroup_cases key members with ⟨_, closed⟩ | ⟨_, _, _, closed⟩
  · rw [closed]
    intro isNothing
    exact absurd (congrArg Reading.errors isNothing) (by simp [Reading.nothing])
  · rw [closed]
    exact fun isNothing => nomatch isNothing

mutual

theorem readScope_eq_nothing_iff
    (scope : Option String)
    (entries : List (String × FilterInput)) :
    readScope rules scope entries = .nothing ↔ entries = [] := by
  match entries with
  | [] =>
      rw [readScope]
      exact ⟨fun _ => rfl, fun _ => rfl⟩
  | (key, input) :: entries =>
      rw [readScope, Reading.append_eq_nothing_iff]
      simp [readEntry_ne_nothing scope key input]

/-- Every entry leaves a filter or a fault. -/
theorem readEntry_ne_nothing
    (scope : Option String)
    (key : String)
    (input : FilterInput) :
    readEntry rules scope key input ≠ .nothing := by
  match input with
  | .scalar value =>
      rw [readEntry]
      split
      · exact Reading.fault_ne_nothing _
      · split
        · exact Reading.fault_ne_nothing _
        · exact readOperator_ne_nothing _ _ _
  | .list items =>
      rw [readEntry]
      split
      · exact closeGroup_ne_nothing _ _
      · split
        · exact Reading.fault_ne_nothing _
        · exact readOperator_ne_nothing _ _ _
  | .map entries =>
      rw [readEntry]
      split
      · exact closeGroup_ne_nothing _ _
      · split
        · exact Reading.fault_ne_nothing _
        · dsimp only
          split
          · exact Reading.fault_ne_nothing _
          · rename_i nonempty
            rw [List.isEmpty_iff] at nonempty
            split
            · rw [ne_eq, Reading.conjoined_eq_nothing_iff,
                readOperators_eq_nothing_iff]
              exact nonempty
            · rw [ne_eq, Reading.conjoined_eq_nothing_iff,
                readScope_eq_nothing_iff _ entries]
              exact nonempty

end

theorem readMembers_eq_nothing_iff
    {scope : Option String}
    {key : String}
    {items : List FilterInput} :
    readMembers rules scope key items = .nothing ↔
      ∀ item ∈ items, item = .map [] := by
  induction items with
  | nil =>
      rw [readMembers]
      exact ⟨fun _ => List.forall_mem_nil _, fun _ => rfl⟩
  | cons item items induction =>
      rw [List.forall_mem_cons, ← induction]
      cases item with
      | scalar value =>
          rw [readMembers, Reading.append_eq_nothing_iff]
          · simp [Reading.fault_ne_nothing]
          · simp
      | list members =>
          rw [readMembers, Reading.append_eq_nothing_iff]
          · simp [Reading.fault_ne_nothing]
          · simp
      | map entries =>
          rw [readMembers, Reading.append_eq_nothing_iff,
            Reading.conjoined_eq_nothing_iff, readScope_eq_nothing_iff]
          simp

/-! ## Reading without a fault -/

theorem readOperator_faultless_iff
    {field name : String}
    {input : FilterInput} :
    (readOperator rules field name input).errors = [] ↔
      rules.Takes name input := by
  rw [readOperator]
  cases found : rules.operators.find? name with
  | none => simp [Reading.fault, Rules.Takes, found]
  | some operator =>
      dsimp only
      cases result : operator.normalize field rules.maxOperands input with
      | error error =>
          dsimp only
          constructor
          · intro faultless
            cases faultless
          · rintro ⟨other, operands, isOther, normalized⟩
            cases found.symm.trans isOther
            cases result.symm.trans (normalized field)
      | ok operands =>
          dsimp only
          constructor
          · intro _
            exact ⟨operator, operands, found,
              fun other => Operator.normalize_field result other⟩
          · intro _
            split <;> rfl

theorem readOperators_faultless_iff
    {field : String}
    {entries : List (String × FilterInput)} :
    (readOperators rules field entries).errors = [] ↔
      ∀ entry ∈ entries, rules.Takes entry.1 entry.2 := by
  induction entries with
  | nil => exact ⟨fun _ => List.forall_mem_nil _, fun _ => rfl⟩
  | cons entry entries induction =>
      rw [readOperators, Reading.append, List.append_eq_nil_iff,
        readOperator_faultless_iff,
        induction, List.forall_mem_cons]

mutual

/-- A scope is read without a fault exactly when it is well formed. -/
theorem readScope_faultless_iff
    (scope : Option String)
    (entries : List (String × FilterInput)) :
    (readScope rules scope entries).errors = [] ↔
      WellFormedScope rules entries := by
  match entries with
  | [] =>
      rw [readScope]
      exact ⟨fun _ => wellFormedScope_nil, fun _ => rfl⟩
  | (key, input) :: entries =>
      rw [readScope, Reading.append, List.append_eq_nil_iff,
        readEntry_faultless_iff scope key input,
        readScope_faultless_iff scope entries, wellFormedScope_cons_iff]

theorem readEntry_faultless_iff
    (scope : Option String)
    (key : String)
    (input : FilterInput) :
    (readEntry rules scope key input).errors = [] ↔
      key ≠ "" ∧ WellFormedEntry rules key input := by
  by_cases isGroup : IsGroupKey key
  · have grouped : key = andKey ∨ key = orKey := isGroup
    rw [and_iff_right isGroup.named]
    match input with
    | .scalar value =>
        rw [readEntry, if_pos grouped, wellFormedEntry_scalar_iff]
        simp [Reading.fault, isGroup]
    | .list items =>
        rw [readEntry, if_pos grouped, closeGroup_faultless_iff,
          readMembers_faultless_iff scope key items, ne_eq,
          readMembers_eq_nothing_iff, wellFormedEntry_group_list_iff isGroup]
        simp
    | .map entries =>
        rw [readEntry, if_pos grouped, closeGroup_faultless_iff, ne_eq,
          Reading.conjoined_eq_nothing_iff, readScope_eq_nothing_iff,
          wellFormedEntry_group_map_iff isGroup]
        exact and_congr_left' (readScope_faultless_iff scope entries)
  · have notGrouped : ¬(key = andKey ∨ key = orKey) := isGroup
    by_cases unnamed : key = ""
    · have refused : (readEntry rules scope key input).errors ≠ [] := by
        cases input <;> rw [readEntry, if_neg notGrouped, if_pos unnamed] <;>
          exact List.cons_ne_nil _ _
      exact iff_of_false refused fun formed => formed.1 unnamed
    · rw [ne_eq, and_iff_right unnamed]
      match input with
      | .scalar value =>
          rw [readEntry, if_neg notGrouped, if_neg unnamed,
            readOperator_faultless_iff, wellFormedEntry_scalar_iff,
            and_iff_right isGroup]
      | .list items =>
          rw [readEntry, if_neg notGrouped, if_neg unnamed,
            readOperator_faultless_iff, wellFormedEntry_field_list_iff isGroup]
      | .map [] =>
          rw [readEntry, if_neg notGrouped, if_neg unnamed]
          constructor
          · intro faultless
            cases faultless
          · intro formed
            cases formed with
            | groupMap grouped _ _ => exact absurd grouped isGroup
            | operators _ someOperator _ =>
                rcases someOperator with ⟨_, member, _⟩
                cases member
            | fields _ nonempty _ _ => exact absurd rfl nonempty
      | .map (entry :: entries) =>
          rw [readEntry, if_neg notGrouped, if_neg unnamed,
            wellFormedEntry_field_map_iff isGroup
              (List.cons_ne_nil entry entries)]
          dsimp only [List.isEmpty_cons]
          rw [if_neg Bool.false_ne_true]
          split
          · exact readOperators_faultless_iff
          · exact readScope_faultless_iff _ (entry :: entries)

theorem readMembers_faultless_iff
    (scope : Option String)
    (key : String)
    (items : List FilterInput) :
    (readMembers rules scope key items).errors = [] ↔
      ∀ item ∈ items, WellFormedMember rules item := by
  match items with
  | [] =>
      rw [readMembers]
      exact ⟨fun _ => List.forall_mem_nil _, fun _ => rfl⟩
  | .map entries :: items =>
      have member : WellFormedMember rules (.map entries) ↔
          WellFormedScope rules entries :=
        ⟨fun ⟨scope⟩ => scope, .map⟩
      rw [readMembers, Reading.append, List.append_eq_nil_iff,
        List.forall_mem_cons, readMembers_faultless_iff scope key items, member]
      exact and_congr_left' (readScope_faultless_iff scope entries)
  | .scalar value :: items =>
      rw [readMembers]
      · constructor
        · intro faultless
          cases faultless
        · intro members
          cases members _ List.mem_cons_self
      · simp
  | .list inner :: items =>
      rw [readMembers]
      · constructor
        · intro faultless
          cases faultless
        · intro members
          cases members _ List.mem_cons_self
      · simp

end

/-- Reading accepts the maps that are well-formed scopes, and the empty map
alone asks for nothing. -/
theorem accepts_iff_wellFormed
    (rules : Rules)
    (input : FilterInput) :
    ((∃ filter?, input.read rules = .ok filter?) ↔
        ∃ entries, input = .map entries ∧ WellFormedScope rules entries) ∧
      (input.read rules = .ok none ↔ input = .map []) := by
  cases input with
  | scalar value => simp [read]
  | list items => simp [read]
  | map entries =>
      simp only [read, ValidationErrors.unlessAny_eq_ok_iff,
        FilterInput.map.injEq, exists_eq_left', Filter.all?_eq_none_iff]
      constructor
      · rw [← readScope_faultless_iff none entries]
        exact ⟨fun ⟨_, faultless, _⟩ => faultless,
          fun faultless => ⟨_, faultless, rfl⟩⟩
      · have isNothing : readScope rules none entries = .nothing ↔
            entries = [] :=
          readScope_eq_nothing_iff none entries
        rw [← isNothing]
        cases readScope rules none entries
        simp [Reading.nothing, and_comm]

end FilterInput

end JsonApi
