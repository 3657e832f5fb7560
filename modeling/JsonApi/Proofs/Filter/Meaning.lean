import JsonApi.Filter.Predicate
import JsonApi.Proofs.Dictionary
import JsonApi.Proofs.Outcome

/-!
# The meaning of filters

A leaf of a filter means the predicate that its operator stands for
(`FieldPredicate.leaf?`), and inner nodes join the meanings of their children.
Compiling a filter with the bundled handlers keeps this meaning: whatever
predicate comes out, it holds exactly when the filter does
(`Filter.holds_of_compile`).
-/

namespace JsonApi

/-- The predicate that a built-in operator with operands of its arity stands
for. -/
def FieldPredicate.leaf?
    (field operator : String)
    (operands : List Operand) :
    Option FieldPredicate :=
  match operator, operands with
  | "eq", [operand] => some (.compare field .eq operand)
  | "neq", [operand] => some (.compare field .neq operand)
  | "lt", [operand] => some (.compare field .lt operand)
  | "lte", [operand] => some (.compare field .lte operand)
  | "gt", [operand] => some (.compare field .gt operand)
  | "gte", [operand] => some (.compare field .gte operand)
  | "like", [.string pattern] => some (.like field pattern)
  | "in", operands => some (.isIn field operands false)
  | "nin", operands => some (.isIn field operands true)
  | "between", [low, high] => some (.between field low high)
  | "isnull", [operand] => operand.flag?.map (.isNull field)
  | _, _ => none

namespace Filter

/-- Whether the predicate of a leaf holds. -/
def leafHolds
    (lookup : FieldLookup)
    (field operator : String)
    (operands : List Operand) : Bool :=
  match FieldPredicate.leaf? field operator operands with
  | some predicate => predicate.holds lookup
  | none => false

mutual

/-- Decides a filter by reading fields. -/
def holds (lookup : FieldLookup) : Filter → Bool
  | .comparison field operator operands =>
      leafHolds lookup field operator operands
  | .nullCheck field isNull =>
      leafHolds lookup field Operator.isNullName [.bool isNull]
  | .conjunction children => allHold lookup children
  | .disjunction children => anyHolds lookup children

/-- Whether all of some filters hold. -/
def allHold (lookup : FieldLookup) : List Filter → Bool
  | [] => true
  | child :: children => child.holds lookup && allHold lookup children

/-- Whether some of some filters holds. -/
def anyHolds (lookup : FieldLookup) : List Filter → Bool
  | [] => false
  | child :: children => child.holds lookup || anyHolds lookup children

end

variable {lookup : FieldLookup}

theorem allHold_append (first second : List Filter) :
    allHold lookup (first ++ second) =
      (allHold lookup first && allHold lookup second) := by
  induction first with
  | nil => rfl
  | cons child children induction =>
      simp only [List.cons_append, allHold, induction, Bool.and_assoc]

theorem anyHolds_append (first second : List Filter) :
    anyHolds lookup (first ++ second) =
      (anyHolds lookup first || anyHolds lookup second) := by
  induction first with
  | nil => rfl
  | cons child children induction =>
      simp only [List.cons_append, anyHolds, induction, Bool.or_assoc]

/-- Collapsing a conjunction of one keeps the meaning. -/
theorem holds_of_all?
    {children : List Filter}
    {joined : Filter}
    (isJoined : all? children = some joined) :
    joined.holds lookup = allHold lookup children := by
  rcases all?_cases isJoined with only | isConjunction
  · simp only [only, allHold, Bool.and_true]
  · rw [isConjunction, holds]

theorem holds_of_any?
    {children : List Filter}
    {joined : Filter}
    (isJoined : any? children = some joined) :
    joined.holds lookup = anyHolds lookup children := by
  rcases any?_cases isJoined with only | isDisjunction
  · simp only [only, anyHolds, Bool.or_false]
  · rw [isDisjunction, holds]

/-! ## Compilation -/

theorem single_eq_ok_iff
    {field operator : String}
    {operands : List Operand}
    {operand : Operand} :
    FieldPredicate.single field operator operands = .ok operand ↔
      operands = [operand] := by
  unfold FieldPredicate.single
  split
  · simp
  · rename_i notSingle
    simp only [reduceCtorEq, false_iff]
    exact notSingle operand

theorem relationHandler_eq_ok
    {relation : Relation}
    {field operator : String}
    {operands : List Operand}
    {predicate : FieldPredicate}
    (compiled :
      FieldPredicate.relationHandler relation field operator operands =
        .ok predicate) :
    ∃ operand, operands = [operand] ∧
      predicate = .compare field relation operand := by
  rcases Outcome.map_eq_ok_iff.mp compiled with ⟨operand, isSingle, equal⟩
  exact ⟨operand, single_eq_ok_iff.mp isSingle, equal.symm⟩

theorem likeHandler_eq_ok
    {field operator : String}
    {operands : List Operand}
    {predicate : FieldPredicate}
    (compiled :
      FieldPredicate.likeHandler field operator operands = .ok predicate) :
    ∃ pattern, operands = [.string pattern] ∧
      predicate = .like field pattern := by
  rcases Outcome.bind_eq_ok_iff.mp compiled with ⟨operand, isSingle, rest⟩
  cases operand with
  | string pattern =>
      cases rest
      exact ⟨pattern, single_eq_ok_iff.mp isSingle, rfl⟩
  | null => cases rest
  | bool value => cases rest
  | int value => cases rest
  | float value => cases rest

theorem membershipHandler_eq_ok
    {negated : Bool}
    {field operator : String}
    {operands : List Operand}
    {predicate : FieldPredicate}
    (compiled :
      FieldPredicate.membershipHandler negated field operator operands =
        .ok predicate) :
    predicate = .isIn field operands negated := by
  rw [FieldPredicate.membershipHandler] at compiled
  split at compiled
  · cases compiled
  · cases compiled
    rfl

theorem betweenHandler_eq_ok
    {field operator : String}
    {operands : List Operand}
    {predicate : FieldPredicate}
    (compiled :
      FieldPredicate.betweenHandler field operator operands = .ok predicate) :
    ∃ low high, operands = [low, high] ∧
      predicate = .between field low high := by
  unfold FieldPredicate.betweenHandler at compiled
  split at compiled
  · cases compiled
    exact ⟨_, _, rfl, rfl⟩
  · cases compiled

theorem isNullHandler_eq_ok
    {field operator : String}
    {operands : List Operand}
    {predicate : FieldPredicate}
    (compiled :
      FieldPredicate.isNullHandler field operator operands = .ok predicate) :
    ∃ operand flag, operands = [operand] ∧ operand.flag? = some flag ∧
      predicate = .isNull field flag := by
  rcases Outcome.bind_eq_ok_iff.mp compiled with ⟨operand, isSingle, rest⟩
  cases flagged : operand.flag? with
  | none =>
      rw [flagged] at rest
      cases rest
  | some flag =>
      rw [flagged] at rest
      cases rest
      exact ⟨operand, flag, single_eq_ok_iff.mp isSingle, flagged, rfl⟩

/-- A handler that accepts its operands makes the predicate that the operator
stands for. -/
theorem leaf?_of_compileLeaf
    {field operator : String}
    {operands : List Operand}
    {predicate : FieldPredicate}
    (compiled :
      compileLeaf FieldPredicate.handlers field operator operands =
        .ok predicate) :
    FieldPredicate.leaf? field operator operands = some predicate := by
  have handlers :
      FieldPredicate.handlers.find? field operator =
        Dictionary.find? FieldPredicate.handlers.defaults operator :=
    rfl
  rw [compileLeaf, handlers] at compiled
  cases found : Dictionary.find? FieldPredicate.handlers.defaults operator with
  | none =>
      rw [found] at compiled
      cases compiled
  | some handler =>
      rw [found] at compiled
      have registered := Dictionary.mem_of_find? found
      simp only [FieldPredicate.handlers, List.mem_cons, Prod.mk.injEq,
        List.not_mem_nil, or_false] at registered
      have relations :
          ∀ relation name,
            (∀ operand, FieldPredicate.leaf? field name [operand] =
              some (.compare field relation operand)) →
            operator = name ∧
              handler = FieldPredicate.relationHandler relation →
              FieldPredicate.leaf? field operator operands =
                some predicate := by
        rintro relation name leaf ⟨rfl, rfl⟩
        rcases relationHandler_eq_ok compiled with ⟨operand, rfl, rfl⟩
        exact leaf operand
      rcases registered with isBetween | isEq | isGt | isGte | isIn | isNull |
        isLike | isLt |
        isLte | isNeq | isNin
      · rcases isBetween with ⟨rfl, rfl⟩
        rcases betweenHandler_eq_ok compiled with ⟨low, high, rfl, rfl⟩
        rfl
      · exact relations .eq "eq" (fun _ => rfl) isEq
      · exact relations .gt "gt" (fun _ => rfl) isGt
      · exact relations .gte "gte" (fun _ => rfl) isGte
      · rcases isIn with ⟨rfl, rfl⟩
        rw [membershipHandler_eq_ok compiled]
        rfl
      · rcases isNull with ⟨rfl, rfl⟩
        rcases isNullHandler_eq_ok compiled with
          ⟨operand, flag, rfl, flagged, rfl⟩
        have leaf :
            FieldPredicate.leaf? field "isnull" [operand] =
              operand.flag?.map (.isNull field) :=
          rfl
        rw [leaf, flagged]
        rfl
      · rcases isLike with ⟨rfl, rfl⟩
        rcases likeHandler_eq_ok compiled with ⟨pattern, rfl, rfl⟩
        rfl
      · exact relations .lt "lt" (fun _ => rfl) isLt
      · exact relations .lte "lte" (fun _ => rfl) isLte
      · exact relations .neq "neq" (fun _ => rfl) isNeq
      · rcases isNin with ⟨rfl, rfl⟩
        rw [membershipHandler_eq_ok compiled]
        rfl

mutual

/-- The compiled predicate holds exactly when the filter does. -/
theorem holds_of_compile
    (filter : Filter)
    (predicate : FieldPredicate)
    (compiled :
      filter.compile FieldPredicate.backend FieldPredicate.handlers =
        .ok predicate) :
    predicate.holds lookup = filter.holds lookup := by
  match filter with
  | .comparison field operator operands =>
      rw [compile] at compiled
      rw [holds, leafHolds, leaf?_of_compileLeaf compiled]
  | .nullCheck field isNull =>
      rw [compile] at compiled
      rw [holds, leafHolds, leaf?_of_compileLeaf compiled]
  | .conjunction children =>
      rw [compile] at compiled
      rcases Outcome.map_eq_ok_iff.mp compiled with
        ⟨predicates, childrenCompiled, equal⟩
      have members := holds_of_compileList children predicates childrenCompiled
      rw [← equal, holds, ← members.1]
      simp only [FieldPredicate.backend, FieldPredicate.holds]
  | .disjunction children =>
      rw [compile] at compiled
      rcases Outcome.map_eq_ok_iff.mp compiled with
        ⟨predicates, childrenCompiled, equal⟩
      have members := holds_of_compileList children predicates childrenCompiled
      rw [← equal, holds, ← members.2]
      simp only [FieldPredicate.backend, FieldPredicate.holds]

theorem holds_of_compileList
    (children : List Filter)
    (predicates : List FieldPredicate)
    (compiled :
      compileList FieldPredicate.backend FieldPredicate.handlers children =
        .ok predicates) :
    FieldPredicate.allHold lookup predicates = allHold lookup children ∧
      FieldPredicate.anyHolds lookup predicates = anyHolds lookup children := by
  match children with
  | [] =>
      rw [compileList] at compiled
      cases compiled
      simp only [FieldPredicate.allHold, FieldPredicate.anyHolds, allHold,
        anyHolds, and_self]
  | child :: rest =>
      rw [compileList] at compiled
      rcases Outcome.bind_eq_ok_iff.mp compiled with
        ⟨first, firstCompiled, others⟩
      rcases Outcome.bind_eq_ok_iff.mp others with
        ⟨remaining, restCompiled, equal⟩
      cases equal
      have head := holds_of_compile child first firstCompiled
      have tail := holds_of_compileList rest remaining restCompiled
      simp only [FieldPredicate.allHold, FieldPredicate.anyHolds, allHold,
        anyHolds, head, tail.1, tail.2, and_self]

end

end Filter

end JsonApi
