import JsonApi.Proofs.Filter.Leaves
import JsonApi.Proofs.Filter.Operands

/-!
# Filters written down and read again

Reading leaves no trace of shorthands: a filter that was read compares fields
with operands that are already normalized, and its groups have at least two
members (`Canonical`).  These are the filters that can be written down with one
entry for each of their nodes and are read again from what was written
(`FilterInput.canonical_iff_read_entry`).
-/

namespace JsonApi

/-- Operands as they are written behind an operator: a list where it takes
several of them, and a scalar otherwise. -/
def Arity.write : Arity → List Operand → FilterInput
  | .list, operands | .pair, operands => .list (operands.map .scalar)
  | .single, operands | .flag, operands => .scalar (operands.headD .null)

namespace Operator

theorem scalars?_map_scalar (operands : List Operand) :
    scalars? (operands.map .scalar) = .ok operands := by
  induction operands with
  | nil => rfl
  | cons first rest induction =>
      rw [List.map_cons, scalars?, induction]
      rfl

/-- A list operator takes the operands that were written, or none of them. -/
theorem listOperands?_of_normalizeList
    {operator : Operator}
    {field : String}
    {limit : Nat}
    {input : FilterInput}
    {operands : List Operand}
    (normalized : operator.normalizeList field limit input = .ok operands) :
    listOperands? input = .ok operands := by
  rw [normalizeList] at normalized
  dsimp only at normalized
  split at normalized
  · cases normalized
  · rename_i found isFound
    split at normalized
    · cases normalized
    · split at normalized
      · cases normalized
      · split at normalized
        · cases normalized
        · cases normalized
          exact isFound

theorem listOperands?_of_normalizePair
    {input : FilterInput}
    {operands : List Operand}
    (normalized : normalizePair input = .ok operands) :
    listOperands? input = .ok operands := by
  rcases Outcome.bind_eq_ok_iff.mp normalized with ⟨found, isFound, checked⟩
  split at checked
  · cases checked
  · split at checked
    · cases checked
    · cases checked
      exact isFound

/-- Normalized operands are written down as something that is normalized to
them. -/
theorem normalize_write
    {operator : Operator}
    {field : String}
    {limit : Nat}
    {input : FilterInput}
    {operands : List Operand}
    (normalized : operator.normalize field limit input = .ok operands) :
    operator.normalize field limit (operator.arity.write operands) =
      .ok operands := by
  have written : listOperands? (.list (operands.map .scalar)) = .ok operands :=
    scalars?_map_scalar operands
  rw [normalize] at normalized ⊢
  cases arity : operator.arity with
  | single =>
      rw [arity] at normalized
      rcases normalizeSingle_eq_ok
        (Outcome.mapError_eq_ok_iff.mp normalized) with
        ⟨value, isScalar, isOnly⟩
      rw [isScalar, isOnly] at normalized
      rw [isOnly]
      exact normalized
  | list =>
      rw [arity] at normalized
      dsimp only at normalized ⊢
      have same :=
        written.trans (listOperands?_of_normalizeList normalized).symm
      rw [normalizeList] at normalized ⊢
      rw [Arity.write, same]
      exact normalized
  | pair =>
      rw [arity] at normalized
      dsimp only at normalized ⊢
      have same := written.trans
        (listOperands?_of_normalizePair
            (Outcome.mapError_eq_ok_iff.mp normalized)).symm
      rw [normalizePair] at normalized ⊢
      rw [Arity.write, same]
      exact normalized
  | flag =>
      rw [arity] at normalized
      rcases normalizeFlag_eq_ok (Outcome.mapError_eq_ok_iff.mp normalized) with
        ⟨flag, isOnly⟩
      rw [isOnly]
      rfl

end Operator

/-! ## Canonical filters -/

/-- The path of a field is never the key of a group. -/
theorem FilterInput.isFieldKey_fieldPath
    (scope : Option String)
    {key : String}
    (isField : IsFieldKey key) :
    IsFieldKey (fieldPath scope key) := by
  cases scope with
  | none => exact isField
  | some outer =>
      have dotted : '.' ∈ (fieldPath (some outer) key).toList := by
        simp [fieldPath]
      refine ⟨?_, ?_,
        ?_⟩ <;> intro same <;> rw [same] at dotted <;> revert dotted <;> decide

namespace Filter

open FilterInput (Rules IsFieldKey)

/-- A filter without anything that reading would change. -/
inductive Canonical (rules : Rules) : Filter → Prop where
  | comparison
      {field : String}
      {operator : Operator}
      {input : FilterInput}
      {operands : List Operand}
      (isField : IsFieldKey field)
      (registered : rules.operators.find? operator.name = some operator)
      (compares : operator.name ≠ Operator.isNullName)
      (normalized :
        operator.normalize field rules.maxOperands input = .ok operands) :
      Canonical rules (.comparison field operator.name operands)
  | nullCheck
      {field : String}
      {isNull : Bool}
      (isField : IsFieldKey field)
      (registered : rules.operators.contains Operator.isNullName = true) :
      Canonical rules (.nullCheck field isNull)
  | conjunction
      {children : List Filter}
      (several : 2 ≤ children.length)
      (members : ∀ child ∈ children, Canonical rules child) :
      Canonical rules (.conjunction children)
  | disjunction
      {children : List Filter}
      (several : 2 ≤ children.length)
      (members : ∀ child ∈ children, Canonical rules child) :
      Canonical rules (.disjunction children)

variable {rules : Rules} {children : List Filter} {joined : Filter}

theorem canonical_of_all?
    (members : ∀ child ∈ children, Canonical rules child)
    (isJoined : all? children = some joined) :
    Canonical rules joined := by
  cases children with
  | nil => cases isJoined
  | cons first rest =>
      cases rest with
      | nil =>
          cases isJoined
          exact members _ List.mem_cons_self
      | cons second others =>
          cases isJoined
          exact .conjunction (by simp) members

theorem canonical_of_any?
    (members : ∀ child ∈ children, Canonical rules child)
    (isJoined : any? children = some joined) :
    Canonical rules joined := by
  cases children with
  | nil => cases isJoined
  | cons first rest =>
      cases rest with
      | nil =>
          cases isJoined
          exact members _ List.mem_cons_self
      | cons second others =>
          cases isJoined
          exact .disjunction (by simp) members

theorem all?_of_several (several : 2 ≤ children.length) :
    all? children = some (.conjunction children) := by
  match children, several with
  | _ :: _ :: _, _ => rfl

theorem any?_of_several (several : 2 ≤ children.length) :
    any? children = some (.disjunction children) := by
  match children, several with
  | _ :: _ :: _, _ => rfl

end Filter

/-- All filters that were read are canonical. -/
def Reading.Canonical (rules : FilterInput.Rules) (reading : Reading) : Prop :=
  ∀ filter ∈ reading.filters, filter.Canonical rules

namespace Reading

variable {rules : FilterInput.Rules} {reading : Reading}

theorem canonical_single
    {filter : Filter}
    (canonical : filter.Canonical rules)
    (errors : List ValidationError) :
    Canonical rules ⟨[filter], errors⟩ :=
  List.forall_mem_singleton.mpr canonical

theorem Canonical.conjoined (canonical : reading.Canonical rules) :
    reading.conjoined.Canonical rules := by
  rcases reading.conjoined_cases with ⟨_, same⟩ | ⟨joined, isJoined, _, single⟩
  · rw [same]
    exact canonical
  · rw [single]
    exact canonical_single (Filter.canonical_of_all? canonical isJoined) _

theorem Canonical.closeGroup
    (canonical : reading.Canonical rules)
    (key : String) :
    (FilterInput.closeGroup key reading).Canonical rules := by
  rcases FilterInput.closeGroup_cases key reading with
    ⟨_, closed⟩ | ⟨joined, isJoined, _, closed⟩
  · rw [closed]
    exact List.forall_mem_nil _
  · rw [closed]
    apply canonical_single
    rcases isJoined with isAny | isAll
    · exact Filter.canonical_of_any? canonical isAny
    · exact Filter.canonical_of_all? canonical isAll

/-- Joining and grouping canonical filters gives canonical filters, also next to
faults. -/
theorem collective_canonical (rules : FilterInput.Rules) :
    Reading.Collective (Reading.Canonical rules) where
  nothing := List.forall_mem_nil _
  malformed := fun _ _ _ => List.forall_mem_nil _
  append := fun left right => List.forall_mem_append.mpr ⟨left, right⟩
  conjoined := Canonical.conjoined
  closeGroup := fun _ canonical => canonical.closeGroup _

end Reading

namespace FilterInput

variable {rules : Rules} {field : String}

theorem canonical_readOperator
    (isField : IsFieldKey field)
    (name : String)
    (input : FilterInput) :
    (readOperator rules field name input).Canonical rules := by
  rw [readOperator]
  split
  · exact List.forall_mem_nil _
  · rename_i operator found
    split
    · exact List.forall_mem_nil _
    · rename_i operands normalized
      have sameName := name_of_find? found
      subst sameName
      split
      · rename_i checksNull
        refine Reading.canonical_single (.nullCheck isField ?_) _
        rw [← checksNull, OperatorRegistry.contains, found]
        rfl
      · rename_i compares
        exact Reading.canonical_single
          (.comparison isField found compares normalized) _

theorem Applied.isFieldKey
    {top : List (String × FilterInput)}
    {name : String}
    {input : FilterInput}
    (applied : Applied rules top field name input) :
    IsFieldKey field := by
  rcases applied.exists_opened with ⟨scope, _, _, _, _, _, _, isField, isPath⟩
  rw [isPath]
  exact isFieldKey_fieldPath scope isField

theorem canonical_of_read
    {input : FilterInput}
    {filter : Filter}
    (isRead : input.read rules = .ok (some filter)) :
    filter.Canonical rules := by
  cases input with
  | scalar value => cases isRead
  | list items => cases isRead
  | map entries =>
      rw [read, ValidationErrors.unlessAny_eq_ok_iff] at isRead
      have parts : (readScope rules none entries).Canonical rules :=
        (Reading.collective_canonical rules).readScope
          fun _ name input applied =>
          canonical_readOperator applied.isFieldKey name input
      exact Filter.canonical_of_all? parts isRead.2

end FilterInput

/-! ## Writing -/

namespace Filter

mutual

/-- The entry of a scope that asks for a filter. -/
def entry (operators : OperatorRegistry) : Filter → String × FilterInput
  | .comparison field name operands =>
    let arity := ((operators.find? name).map Operator.arity).getD .single
    (field, .map [(name, arity.write operands)])
  | .nullCheck field isNull =>
    (field, .map [(Operator.isNullName, .scalar (.bool isNull))])
  | .conjunction children =>
      (FilterInput.andKey, .list (memberInputs operators children))
  | .disjunction children =>
      (FilterInput.orKey, .list (memberInputs operators children))

/-- Some filters as the members of a group. -/
def memberInputs (operators : OperatorRegistry) : List Filter → List FilterInput
  | [] => []
  | child :: children =>
      .map [child.entry operators] :: memberInputs operators children

end

end Filter

namespace FilterInput

/-- The input that asks for a filter, or for nothing. -/
def ofFilter (operators : OperatorRegistry) : Option Filter → FilterInput
  | none => .empty
  | some filter => .map [filter.entry operators]

variable {rules : Rules}

/-- A field with one operator below it is read as what that operator reads. -/
theorem readEntry_operator
    {field name : String}
    {input : FilterInput}
    {filter : Filter}
    (isField : IsFieldKey field)
    (registered : rules.operators.contains name = true)
    (isRead : readOperator rules field name input = ⟨[filter], []⟩) :
    readEntry rules none field (.map [(name, input)]) = ⟨[filter], []⟩ := by
  have noGroup : ¬(field = andKey ∨ field = orKey) := isField.not_group
  have operatorKey : hasOperatorKey rules [(name, input)] = true := by
    simp [hasOperatorKey, registered]
  rw [readEntry, if_neg noGroup, if_neg isField.2.2]
  show (if hasOperatorKey rules [(name, input)] = true then
    (readOperators rules field [(name, input)]).conjoined else _) = _
  rw [if_pos operatorKey, readOperators, isRead]
  rfl

theorem readMembers_memberInputs
    {children : List Filter}
    (key : String)
    (members : ∀ child ∈ children,
      readEntry rules none (child.entry rules.operators).1
        (child.entry rules.operators).2 =
        ⟨[child], []⟩) :
    readMembers rules none key (Filter.memberInputs rules.operators children) =
      ⟨children, []⟩ := by
  induction children with
  | nil =>
      rw [Filter.memberInputs, readMembers]
      rfl
  | cons child children induction =>
      rcases List.forall_mem_cons.mp members with ⟨first, rest⟩
      rw [Filter.memberInputs, readMembers, readScope, readScope, first,
        induction rest]
      rfl

/-- The entry of a canonical filter is read as that filter, if tests for null
take a flag. -/
theorem readEntry_entry
    {filter : Filter}
    (nullTest :
      ∀ operator, rules.operators.find? Operator.isNullName = some operator →
      operator.arity = .flag)
    (canonical : filter.Canonical rules) :
    readEntry rules none (filter.entry rules.operators).1
      (filter.entry rules.operators).2 =
      ⟨[filter], []⟩ := by
  induction canonical with
  | @comparison field operator input operands isField registered compares
      normalized =>
      rw [Filter.entry, registered]
      apply readEntry_operator isField
        (by rw [OperatorRegistry.contains, registered]; rfl)
      rw [readOperator, registered]
      simp only [Option.map_some, Option.getD_some,
        Operator.normalize_write normalized, if_neg compares]
  | @nullCheck field isNull isField registered =>
      rw [Filter.entry]
      apply readEntry_operator isField registered
      rcases Option.isSome_iff_exists.mp registered with ⟨operator, found⟩
      rw [readOperator, found]
      simp only [Operator.normalize, nullTest operator found]
      cases isNull <;> rfl
  | conjunction several _ members =>
      rw [Filter.entry, readEntry, if_pos (Or.inl rfl),
        readMembers_memberInputs _ members, closeGroup]
      simp only [Filter.all?_of_several several]
      rfl
  | disjunction several _ members =>
      rw [Filter.entry, readEntry, if_pos (Or.inr rfl),
        readMembers_memberInputs _ members, closeGroup]
      simp only [Filter.any?_of_several several]
      rfl

/-- The canonical filters are those that some input asks for, and the input that
is written for one of them asks for it. -/
theorem canonical_iff_read_entry
    {filter : Filter}
    (nullTest :
      ∀ operator, rules.operators.find? Operator.isNullName = some operator →
      operator.arity = .flag) :
    filter.Canonical rules ↔
      (FilterInput.map [filter.entry rules.operators]).read rules =
        .ok (some filter) := by
  constructor
  · intro canonical
    rw [read, readScope, readScope, readEntry_entry nullTest canonical]
    rfl
  · exact canonical_of_read

/-- What was read is read again from the input that is written for it. -/
theorem read_ofFilter
    {input : FilterInput}
    {filter : Option Filter}
    (nullTest :
      ∀ operator, rules.operators.find? Operator.isNullName = some operator →
      operator.arity = .flag)
    (isRead : input.read rules = .ok filter) :
    (ofFilter rules.operators filter).read rules = .ok filter := by
  cases filter with
  | none =>
      rw [ofFilter, empty, read, readScope]
      rfl
  | some filter =>
      exact (canonical_iff_read_entry nullTest).mp (canonical_of_read isRead)

/-- Whatever is read with the built-in operators is read again, unchanged, from
the one entry that is written for it. -/
theorem read_entry
    {limit : Nat}
    {input : FilterInput}
    {filter : Filter}
    (isRead : input.read ⟨.builtins, limit⟩ = .ok (some filter)) :
    (FilterInput.map [filter.entry .builtins]).read ⟨.builtins, limit⟩ =
      .ok (some filter) := by
  have nullTest : ∀ operator,
      OperatorRegistry.builtins.find? Operator.isNullName = some operator →
        operator.arity = .flag := by
    intro operator found
    cases found
    rfl
  have canonical : filter.Canonical ⟨.builtins, limit⟩ :=
    canonical_of_read isRead
  exact (canonical_iff_read_entry nullTest).mp canonical

/-- Shorthands, a nested scope, a group with one member that has entries, and a
comma list. -/
def shorthandEntries : List (String × FilterInput) :=
  [("and", .map
      [("or", .list [.map [], .map [("title", .scalar (.string "Dune"))]])]),
    ("author", .map
        [("name", .list [.scalar (.string "Anna"), .scalar (.string "Ben")])]),
    ("printed", .map [("isnull", .scalar (.string "0"))]),
    ("year", .map
        [("between", .scalar (.string "1965, 1985")), ("neq", .scalar .null)])]

theorem read_entry_shorthandEntries :
    ∃ filter,
      filter = .conjunction
          [.comparison "title" "eq" [.string "Dune"],
            .comparison "author.name" "in" [.string "Anna", .string "Ben"],
            .nullCheck "printed" false,
            .conjunction
              [.comparison "year" "between" [.string "1965", .string "1985"],
                .comparison "year" "neq" [.null]]] ∧
        (FilterInput.map shorthandEntries).read ⟨.builtins, 1000⟩ =
          .ok (some filter) ∧
        (FilterInput.map [filter.entry .builtins]).read ⟨.builtins, 1000⟩ =
          .ok (some filter) := by
  refine ⟨_, rfl, ?_⟩
  have isRead :
      (FilterInput.map shorthandEntries).read ⟨.builtins, 1000⟩ =
        .ok (some _) := rfl
  exact ⟨isRead, read_entry isRead⟩

/-- Operators that take several operands are written with a list, the others
with a scalar. -/
example :
    (Filter.disjunction
        [.comparison "year" "between" [.int 1965, .int 1985],
          .comparison "title" "neq" [.null],
          .nullCheck "printed" true]).entry .builtins =
      ("or",
        .list
          [.map
              [("year", .map
                [("between",
                  .list [.scalar (.int 1965), .scalar (.int 1985)])])],
            .map [("title", .map [("neq", .scalar .null)])],
            .map [("printed", .map [("isnull", .scalar (.bool true))])]]) :=
  rfl

end FilterInput

end JsonApi
