import JsonApi.Filter.Reading
import JsonApi.Proofs.Filter.Meaning
import JsonApi.Proofs.Filter.Operands

/-!
# Filter input read directly

A filter input can be read as a condition without making a filter of it: a
scope holds when all of its entries do, and an entry means what its key and its
shape tell (`FilterInput.scopeHolds`).  For input that is read without a fault
the filter that comes out means the same, and so does the predicate that the
bundled handlers compile it to (`FilterInput.holds_of_read`).
-/

namespace JsonApi

namespace FilterInput

/-! ## The direct reading -/

/-- The operands of a built-in operator on a field; `limit` bounds those of a
list operator. -/
def operands?
    (limit : Nat)
    (field name : String)
    (input : FilterInput) :
    Option (List Operand) :=
  (OperatorRegistry.builtins.find? name).bind fun operator =>
    (operator.normalize field limit input).toOption

/-- Whether a built-in operator with what is written behind it holds on a
field. -/
def operatorHolds
    (lookup : FieldLookup)
    (limit : Nat)
    (field name : String)
    (input : FilterInput) : Bool :=
  match operands? limit field name input with
  | some operands => Filter.leafHolds lookup field name operands
  | none => false

/-- Whether all operators among the keys of a map hold on a field. -/
def operatorsHold
    (lookup : FieldLookup)
    (limit : Nat)
    (field : String) :
    List (String × FilterInput) → Bool
  | [] => true
  | (name, input) :: entries =>
    operatorHolds lookup limit field name input &&
      operatorsHold lookup limit field entries

/-- The built-in operators, with a limit on the number of operands. -/
def builtinRules (limit : Nat) : Rules := ⟨.builtins, limit⟩

mutual

/-- Whether all entries of a scope hold. -/
def scopeHolds
    (lookup : FieldLookup)
    (limit : Nat)
    (scope : Option String) :
    List (String × FilterInput) → Bool
  | [] => true
  | (key, input) :: entries =>
    entryHolds lookup limit scope key input &&
      scopeHolds lookup limit scope entries

/-- Whether an entry of a scope holds: a group, or a condition on a field. -/
def entryHolds
    (lookup : FieldLookup)
    (limit : Nat)
    (scope : Option String)
    (key : String) :
    FilterInput → Bool
  | .scalar value =>
    operatorHolds lookup limit (fieldPath scope key) Operator.equalName
      (.scalar value)
  | .list items =>
    if key = andKey then everyMemberHolds lookup limit scope items
    else if key = orKey then someMemberHolds lookup limit scope items
    else operatorHolds lookup limit (fieldPath scope key) Operator.memberName
      (.list items)
  | .map entries =>
    if key = andKey ∨ key = orKey then scopeHolds lookup limit scope entries
    else if hasOperatorKey (builtinRules limit) entries then
      operatorsHold lookup limit (fieldPath scope key) entries
    else scopeHolds lookup limit (some (fieldPath scope key)) entries

/-- Whether every non-empty map among the members of a group holds as a
scope. -/
def everyMemberHolds
    (lookup : FieldLookup)
    (limit : Nat)
    (scope : Option String) :
    List FilterInput → Bool
  | [] => true
  | .map entries :: items =>
    (entries.isEmpty || scopeHolds lookup limit scope entries) &&
      everyMemberHolds lookup limit scope items
  | _ :: items => everyMemberHolds lookup limit scope items

/-- Whether some non-empty map among the members of a group holds as a scope. -/
def someMemberHolds
    (lookup : FieldLookup)
    (limit : Nat)
    (scope : Option String) :
    List FilterInput → Bool
  | [] => false
  | .map entries :: items =>
    (!entries.isEmpty && scopeHolds lookup limit scope entries) ||
      someMemberHolds lookup limit scope items
  | _ :: items => someMemberHolds lookup limit scope items

end

end FilterInput

/-! ## What was read -/

/-- The filters that were read hold, together, exactly when the input does. -/
structure Reading.Means
    (reading : Reading)
    (isEmpty : Bool)
    (meaning : FieldLookup → Bool) : Prop where
  /-- Something was read exactly if something was written. -/
  isEmpty : reading.filters.isEmpty = isEmpty
  holds : ∀ lookup, Filter.allHold lookup reading.filters = meaning lookup

namespace Reading

variable {first second reading : Reading}
  {firstEmpty secondEmpty isEmpty : Bool}
  {firstMeaning secondMeaning meaning : FieldLookup → Bool}

theorem faultless_append (faultless : (first.append second).errors = []) :
    first.errors = [] ∧ second.errors = [] :=
  List.append_eq_nil_iff.mp faultless

theorem Means.append
    (firstMeans : first.Means firstEmpty firstMeaning)
    (secondMeans : second.Means secondEmpty secondMeaning) :
    (first.append second).Means (firstEmpty && secondEmpty)
      fun lookup => firstMeaning lookup && secondMeaning lookup where
  isEmpty := by
    rw [← firstMeans.isEmpty, ← secondMeans.isEmpty, Reading.append]
    cases first.filters <;> rfl
  holds := by
    intro lookup
    rw [← firstMeans.holds, ← secondMeans.holds]
    exact Filter.allHold_append _ _

/-- Joining what was read into one filter keeps the meaning. -/
theorem Means.conjoined (means : reading.Means isEmpty meaning) :
    reading.conjoined.Means isEmpty meaning := by
  rcases reading.conjoined_cases with
    ⟨_, same⟩ | ⟨joined, isJoined, notEmpty, single⟩
  · rw [same]
    exact means
  · rw [single]
    constructor
    · rw [← means.isEmpty, notEmpty]
      rfl
    · intro lookup
      rw [← means.holds, ← Filter.holds_of_all? isJoined]
      simp only [Filter.allHold, Bool.and_true]

/-- As the only member of a disjunction, what was read must not be empty. -/
theorem Means.anyHolds_conjoined
    (means : reading.Means isEmpty meaning)
    (lookup : FieldLookup) :
    Filter.anyHolds lookup reading.conjoined.filters =
      (!isEmpty && meaning lookup) := by
  rw [← means.isEmpty, ← means.holds]
  rcases reading.conjoined_cases with
    ⟨noFilters, same⟩ | ⟨joined, isJoined, notEmpty, single⟩
  · rw [same, noFilters]
    rfl
  · rw [single, notEmpty, ← Filter.holds_of_all? isJoined]
    simp only [Filter.anyHolds, Bool.or_false, Bool.not_false, Bool.true_and]

/-- Nothing holds always. -/
theorem Means.or_holds
    (means : reading.Means isEmpty meaning)
    (lookup : FieldLookup) :
    (isEmpty || meaning lookup) = meaning lookup := by
  cases isEmpty with
  | false => rfl
  | true =>
      rw [← means.holds, List.isEmpty_iff.mp means.isEmpty]
      rfl

end Reading

namespace FilterInput

variable {limit : Nat}

/-- A null check that was read asks for the flag that was written. -/
theorem operands_of_isNull
    {field : String}
    {input : FilterInput}
    {operator : Operator}
    {operands : List Operand}
    (registered :
      OperatorRegistry.builtins.find? Operator.isNullName = some operator)
    (normalized : operator.normalize field limit input = .ok operands) :
    operands = [.bool (operands.head? == some (.bool true))] := by
  have isNullOperator :
      OperatorRegistry.builtins.find? Operator.isNullName =
        some ⟨"isnull", .flag, false⟩ := by
    decide
  have sameOperator := Option.some.inj (isNullOperator.symm.trans registered)
  subst sameOperator
  rcases Operator.admits_of_normalize normalized with ⟨flag, equal⟩
  rw [equal]
  cases flag <;> rfl

/-- A leaf that was read means what its operator asks of its operands. -/
theorem readOperator_means
    {field name : String}
    {input : FilterInput}
    (faultless :
      (readOperator (builtinRules limit) field name input).errors = []) :
    (readOperator (builtinRules limit) field name input).Means false
      fun lookup => operatorHolds lookup limit field name input := by
  rw [readOperator] at faultless ⊢
  unfold operatorHolds operands?
  cases found : (builtinRules limit).operators.find? name with
  | none =>
      rw [found] at faultless
      cases faultless
  | some operator =>
      have registered : OperatorRegistry.builtins.find? name = some operator :=
        found
      rw [found] at faultless
      rw [registered]
      dsimp only [Option.bind_some] at faultless ⊢
      cases result :
        operator.normalize field (builtinRules limit).maxOperands input with
      | error error =>
          rw [result] at faultless
          cases faultless
      | ok operands =>
          have normalized :
              operator.normalize field limit input = .ok operands := result
          rw [normalized]
          dsimp only [Except.toOption]
          split
          · rename_i isNullCheck
            subst isNullCheck
            have isFlag := operands_of_isNull registered normalized
            refine ⟨rfl, ?_⟩
            intro lookup
            simp only [Filter.allHold, Filter.holds, ← isFlag, Bool.and_true]
          · refine ⟨rfl, ?_⟩
            intro lookup
            simp only [Filter.allHold, Filter.holds, Bool.and_true]

theorem readOperators_means
    {field : String}
    {entries : List (String × FilterInput)}
    (faultless :
      (readOperators (builtinRules limit) field entries).errors = []) :
    (readOperators (builtinRules limit) field entries).Means entries.isEmpty
      fun lookup => operatorsHold lookup limit field entries := by
  induction entries with
  | nil => exact ⟨rfl, fun _ => rfl⟩
  | cons entry entries induction =>
      rcases Reading.faultless_append faultless with ⟨first, rest⟩
      exact (readOperator_means first).append (induction rest)

/-- A group that is closed without a fault joins its members, of which there are
some. -/
theorem closeGroup_eq
    {key : String}
    {members : Reading}
    (faultless : (closeGroup key members).errors = []) :
    members.errors = [] ∧ members.filters.isEmpty = false ∧
      (closeGroup key members).Means false fun lookup =>
        if key = orKey then Filter.anyHolds lookup members.filters
        else Filter.allHold lookup members.filters := by
  unfold closeGroup at faultless ⊢
  dsimp only at faultless ⊢
  cases joined :
      (if key = orKey then Filter.any? members.filters
          else Filter.all? members.filters) with
  | none =>
      rw [joined] at faultless
      exact absurd (List.append_eq_nil_iff.mp faultless).2
        (List.cons_ne_nil _ _)
  | some filter =>
      rw [joined] at faultless
      refine ⟨faultless, ?_, rfl, ?_⟩
      · cases filters : members.filters with
        | nil =>
            rw [filters] at joined
            simp [Filter.any?, Filter.all?] at joined
        | cons first rest => rfl
      · intro lookup
        simp only [Filter.allHold, Bool.and_true]
        by_cases isOr : key = orKey
        · rw [if_pos isOr] at joined ⊢
          exact Filter.holds_of_any? joined
        · rw [if_neg isOr] at joined ⊢
          exact Filter.holds_of_all? joined

theorem readEntry_list_means
    {scope : Option String}
    {key : String}
    {items : List FilterInput}
    (members :
      (readMembers (builtinRules limit) scope key items).errors = [] → ∀ lookup,
        Filter.allHold lookup
          (readMembers (builtinRules limit) scope key items).filters =
            everyMemberHolds lookup limit scope items ∧
          Filter.anyHolds lookup
            (readMembers (builtinRules limit) scope key items).filters =
            someMemberHolds lookup limit scope items)
    (faultless :
      (readEntry (builtinRules limit) scope key (.list items)).errors = []) :
    (readEntry (builtinRules limit) scope key (.list items)).Means false
      fun lookup => entryHolds lookup limit scope key (.list items) := by
  rw [readEntry] at faultless ⊢
  simp only [entryHolds]
  by_cases isGroup : key = andKey ∨ key = orKey
  · rw [if_pos isGroup] at faultless ⊢
    rcases closeGroup_eq faultless with ⟨membersFaultless, _, closed⟩
    refine ⟨closed.isEmpty, ?_⟩
    intro lookup
    rcases members membersFaultless lookup with ⟨every, some⟩
    rw [closed.holds lookup, every, some]
    rcases isGroup with isAnd | isOr
    · have notOr : key ≠ orKey := by
        rw [isAnd]
        decide
      rw [if_pos isAnd, if_neg notOr]
    · have notAnd : key ≠ andKey := by
        rw [isOr]
        decide
      rw [if_pos isOr, if_neg notAnd, if_pos isOr]
  · rw [if_neg isGroup] at faultless ⊢
    rw [not_or] at isGroup
    simp only [if_neg isGroup.1, if_neg isGroup.2]
    split at faultless
    · cases faultless
    · rename_i notEmpty
      rw [if_neg notEmpty]
      exact readOperator_means faultless

theorem readEntry_map_means
    {scope : Option String}
    {key : String}
    {entries : List (String × FilterInput)}
    (scopes :
      ∀ inner, (readScope (builtinRules limit) inner entries).errors = [] →
      (readScope (builtinRules limit) inner entries).Means entries.isEmpty
        fun lookup => scopeHolds lookup limit inner entries)
    (faultless :
      (readEntry (builtinRules limit) scope key (.map entries)).errors = []) :
    (readEntry (builtinRules limit) scope key (.map entries)).Means false
      fun lookup => entryHolds lookup limit scope key (.map entries) := by
  rw [readEntry] at faultless ⊢
  simp only [entryHolds]
  by_cases isGroup : key = andKey ∨ key = orKey
  · simp only [if_pos isGroup] at faultless ⊢
    rcases closeGroup_eq faultless with ⟨scopeFaultless, notEmpty, closed⟩
    have means := scopes scope scopeFaultless
    have someEntries : entries.isEmpty = false :=
      means.conjoined.isEmpty.symm.trans notEmpty
    refine ⟨closed.isEmpty, ?_⟩
    intro lookup
    rw [closed.holds lookup, means.anyHolds_conjoined, means.conjoined.holds,
      someEntries]
    simp only [Bool.not_false, Bool.true_and, ite_self]
  · simp only [if_neg isGroup] at faultless ⊢
    split at faultless
    · cases faultless
    · rename_i notEmptyKey
      simp only [if_neg notEmptyKey]
      cases noEntries : entries.isEmpty with
      | true =>
          rw [noEntries, if_pos rfl] at faultless
          cases faultless
      | false =>
          rw [noEntries, if_neg Bool.false_ne_true] at faultless
          rw [if_neg Bool.false_ne_true, ← noEntries]
          split at faultless
          · rename_i operators
            simp only [if_pos operators]
            exact (readOperators_means faultless).conjoined
          · rename_i noOperators
            simp only [if_neg noOperators]
            exact (scopes _ faultless).conjoined

mutual

/-- A scope that is read without a fault means what it means when it is read
directly. -/
theorem readScope_means
    (scope : Option String)
    (entries : List (String × FilterInput))
    (faultless : (readScope (builtinRules limit) scope entries).errors = []) :
    (readScope (builtinRules limit) scope entries).Means entries.isEmpty
      fun lookup => scopeHolds lookup limit scope entries := by
  match entries with
  | [] =>
      rw [readScope]
      exact ⟨rfl, fun lookup => by rw [scopeHolds]; rfl⟩
  | (key, input) :: entries =>
      rw [readScope] at faultless ⊢
      rcases Reading.faultless_append faultless with ⟨first, rest⟩
      have joined :=
        (readEntry_means scope key input first).append
          (readScope_means scope entries rest)
      refine ⟨joined.isEmpty, ?_⟩
      intro lookup
      rw [scopeHolds]
      exact joined.holds lookup

theorem readEntry_means
    (scope : Option String)
    (key : String)
    (input : FilterInput)
    (faultless : (readEntry (builtinRules limit) scope key input).errors = []) :
    (readEntry (builtinRules limit) scope key input).Means false
      fun lookup => entryHolds lookup limit scope key input := by
  match input with
  | .scalar value =>
      rw [readEntry] at faultless ⊢
      simp only [entryHolds]
      split at faultless
      · cases faultless
      · split at faultless
        · cases faultless
        · rename_i notGroup notEmpty
          rw [if_neg notGroup, if_neg notEmpty]
          exact readOperator_means faultless
  | .list items =>
      exact readEntry_list_means (readMembers_means scope key items) faultless
  | .map entries =>
      exact readEntry_map_means (fun inner => readScope_means inner entries)
        faultless

theorem readMembers_means
    (scope : Option String)
    (key : String)
    (items : List FilterInput)
    (faultless : (readMembers (builtinRules limit) scope key items).errors = [])
    (lookup : FieldLookup) :
    Filter.allHold lookup
      (readMembers (builtinRules limit) scope key items).filters =
        everyMemberHolds lookup limit scope items ∧
      Filter.anyHolds lookup
        (readMembers (builtinRules limit) scope key items).filters =
        someMemberHolds lookup limit scope items := by
  match items with
  | [] =>
      rw [readMembers, everyMemberHolds, someMemberHolds]
      exact ⟨rfl, rfl⟩
  | .map entries :: items =>
      rw [readMembers] at faultless ⊢
      rcases Reading.faultless_append faultless with ⟨first, rest⟩
      have means := readScope_means scope entries first
      have others := readMembers_means scope key items rest lookup
      rw [everyMemberHolds, someMemberHolds, ← others.1, ← others.2,
        means.or_holds lookup]
      constructor
      · rw [← means.conjoined.holds lookup]
        exact Filter.allHold_append _ _
      · rw [← means.anyHolds_conjoined lookup]
        exact Filter.anyHolds_append _ _
  | .scalar value :: items =>
      rw [readMembers] at faultless
      · exact absurd (Reading.faultless_append faultless).1
          (List.cons_ne_nil _ _)
      · simp
  | .list members :: items =>
      rw [readMembers] at faultless
      · exact absurd (Reading.faultless_append faultless).1
          (List.cons_ne_nil _ _)
      · simp

end

/-- Accepted input and what it is compiled to mean the same; only an empty map
gives no filter, and it holds always. -/
theorem holds_of_read
    {entries : List (String × FilterInput)}
    {filter? : Option Filter}
    (accepted :
      (FilterInput.map entries).read (builtinRules limit) = .ok filter?) :
    (filter? = none ↔ entries = []) ∧
      (filter? = none → ∀ lookup, scopeHolds lookup limit none entries = true) ∧
      ∀ filter predicate, filter? = some filter →
        filter.toPredicate = .ok predicate →
        ∀ lookup,
          predicate.holds lookup = scopeHolds lookup limit none entries := by
  rw [read, ValidationErrors.unlessAny_eq_ok_iff] at accepted
  rcases accepted with ⟨faultless, joined⟩
  have means := readScope_means none entries faultless
  have noneIff : filter? = none ↔ entries = [] := by
    rw [← joined, Filter.all?_eq_none_iff, ← List.isEmpty_iff, means.isEmpty,
      List.isEmpty_iff]
  refine ⟨noneIff, ?_, ?_⟩
  · intro isNone lookup
    rw [noneIff.mp isNone, scopeHolds]
  · intro filter predicate isFilter compiled lookup
    rw [isFilter] at joined
    calc
      predicate.holds lookup = filter.holds lookup :=
        Filter.holds_of_compile filter predicate compiled
      _ = Filter.allHold lookup
        (readScope (builtinRules limit) none entries).filters :=
        Filter.holds_of_all? joined
      _ = scopeHolds lookup limit none entries := means.holds lookup

/-- A range on one field, a field of a nested scope, and a group with an empty
member. -/
def nestedEntries : List (String × FilterInput) :=
  [("age", .map [("gte", .scalar (.int 3)), ("lt", .scalar (.string "9"))]),
    ("author",
      .map
        [("name", .scalar (.string "Anna")),
            ("retired", .map [("isnull", .scalar (.int 1))])]),
    ("or",
      .list
        [.map [], .map [("age", .scalar .null)],
          .map
            [("tags", .list [.scalar (.string "a"), .scalar (.bool true)])]])]

theorem holds_of_read_nestedEntries :
    ∃ filter predicate,
      (FilterInput.map nestedEntries).read (builtinRules 1000) =
        .ok (some filter) ∧
        filter.toPredicate = .ok predicate ∧
        ∀ lookup,
          predicate.holds lookup = scopeHolds lookup 1000 none nestedEntries :=
  ⟨_, _, rfl, rfl, fun lookup => (holds_of_read rfl).2.2 _ _ rfl rfl lookup⟩

end FilterInput

end JsonApi
