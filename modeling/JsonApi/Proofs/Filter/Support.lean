import JsonApi.Filter.Predicate
import JsonApi.Proofs.Filter.Compilation
import JsonApi.Proofs.Filter.Operands

/-!
# Filters that compile

A filter compiles exactly when its leaves do (`Filter.compile_outcome`).  Of
the leaves that were read with the built-in operators, the bundled handlers
refuse one kind only, namely text patterns that are no texts
(`Filter.toPredicate_outcome`).  Input that has texts for scalars cannot ask
for such a pattern.
-/

namespace JsonApi

namespace Filter

/-- All leaves of a filter that compiles do so too, and an error is that of a
leaf. -/
theorem compile_outcome
    {Predicate : Type}
    {backend : FilterBackend Predicate}
    {table : HandlerTable Predicate}
    (filter : Filter) :
    Outcome
      (fun _ => ∀ leaf ∈ filter.leaves, ∃ predicate,
        leaf.compile backend table = .ok predicate)
      (fun error =>
          ∃ leaf ∈ filter.leaves, leaf.compile backend table = .error error)
      (filter.compile backend table) := by
  refine (compile_firstRefused filter).imp ?_ ?_
  · rintro _ ⟨allMade, _⟩ leaf member
    rcases allMade leaf member with ⟨predicate, makes⟩
    exact ⟨predicate, compile_of_makes backend makes⟩
  · rintro error ⟨earlier, leaf, later, split, _, refuses⟩
    exact ⟨leaf, by simp [split], compile_of_refuses backend refuses⟩

/-! ## Built-in operators -/

/-- A text pattern that is no text. -/
def IsBadPattern (leaf : Filter) : Prop :=
  ∃ field operand, leaf = .comparison field "like" [operand] ∧
    operand.text? = none

theorem like_outcome
    (field : String)
    (operand : Operand) :
    Outcome (fun _ => ¬ IsBadPattern (.comparison field "like" [operand]))
      (fun error => IsBadPattern (.comparison field "like" [operand]) ∧
        ∃ field reason, error = .invalidOperand field "like" reason)
      (toPredicate (.comparison field "like" [operand])) := by
  have refused :
      operand.text? = none →
        IsBadPattern (.comparison field "like" [operand]) ∧
          ∃ other reason,
            CompileError.invalidOperand field "like"
              "pattern must be a string" =
              .invalidOperand other "like" reason :=
    fun notText => ⟨⟨field, operand, rfl, notText⟩, field, _, rfl⟩
  cases operand with
  | string pattern =>
      rintro ⟨_, _, equal, notText⟩
      cases equal
      cases notText
  | null => exact refused rfl
  | bool value => exact refused rfl
  | int value => exact refused rfl
  | float value => exact refused rfl

theorem membership_supported
    {field : String}
    {operands : List Operand}
    {limit : Nat}
    (name : String)
    (negated : Bool)
    (handled : ∀ operands, toPredicate (.comparison field name operands) =
      FieldPredicate.membershipHandler negated field name operands)
    (admitted : Arity.list.Admits limit operands) :
    ∃ predicate,
      toPredicate (.comparison field name operands) = .ok predicate := by
  rw [handled, FieldPredicate.membershipHandler]
  cases operands with
  | nil => exact absurd admitted.1 (by decide)
  | cons first rest => exact ⟨_, rfl⟩

/-- The handlers refuse bad patterns and nothing else that was read. -/
theorem leaf_outcome
    {limit : Nat}
    {written : FilterInput → Prop}
    {leaf : Filter}
    (isRead : FilterInput.ReadFrom ⟨.builtins, limit⟩ written leaf) :
    Outcome (fun _ => ¬ IsBadPattern leaf)
      (fun error => IsBadPattern leaf ∧
        ∃ field reason, error = .invalidOperand field "like" reason)
      leaf.toPredicate := by
  cases isRead with
  | nullCheck => exact fun isBad => nomatch isBad
  | @comparison field operator input operands registered compares isWritten
      normalized =>
      have admitted := Operator.admits_of_normalize normalized
      have supported :
          operator.name ≠ "like" →
            (∃ predicate,
                toPredicate (.comparison field operator.name operands) =
              .ok predicate) →
            Outcome (fun _ => ¬ IsBadPattern
                (.comparison field operator.name operands)) (fun error =>
                IsBadPattern (.comparison field operator.name operands) ∧
                ∃ field reason, error = .invalidOperand field "like" reason)
              (toPredicate (.comparison field operator.name operands)) := by
        rintro notLike ⟨predicate, compiled⟩
        rw [compiled]
        rintro ⟨_, _, equal, _⟩
        rw [comparison.injEq] at equal
        exact notLike equal.2.1
      have builtin := List.mem_of_find?_eq_some registered
      simp only [OperatorRegistry.builtins, List.mem_cons, List.not_mem_nil,
        or_false] at builtin
      rcases builtin with rfl | rfl | rfl | rfl | rfl | rfl | rfl | rfl | rfl |
        rfl | rfl
      · rcases admitted with ⟨low, high, rfl⟩
        exact supported (by decide) ⟨_, rfl⟩
      · rcases admitted with ⟨operand, rfl⟩
        exact supported (by decide) ⟨_, rfl⟩
      · rcases admitted with ⟨operand, rfl⟩
        exact supported (by decide) ⟨_, rfl⟩
      · rcases admitted with ⟨operand, rfl⟩
        exact supported (by decide) ⟨_, rfl⟩
      · exact supported (by decide)
          (membership_supported "in" false (fun _ => rfl) admitted)
      · exact absurd rfl compares
      · rcases admitted with ⟨operand, rfl⟩
        exact like_outcome field operand
      · rcases admitted with ⟨operand, rfl⟩
        exact supported (by decide) ⟨_, rfl⟩
      · rcases admitted with ⟨operand, rfl⟩
        exact supported (by decide) ⟨_, rfl⟩
      · rcases admitted with ⟨operand, rfl⟩
        exact supported (by decide) ⟨_, rfl⟩
      · exact supported (by decide)
          (membership_supported "nin" true (fun _ => rfl) admitted)

/-- Of the filters that were read, those with a bad pattern are refused, and
only those. -/
theorem toPredicate_outcome
    {limit : Nat}
    {written : FilterInput → Prop}
    {filter : Filter}
    (isRead : ∀ leaf ∈ filter.leaves,
      FilterInput.ReadFrom ⟨.builtins, limit⟩ written leaf) :
    Outcome (fun _ => ∀ leaf ∈ filter.leaves, ¬ IsBadPattern leaf)
      (fun error => (∃ leaf ∈ filter.leaves, IsBadPattern leaf) ∧
        ∃ field reason, error = .invalidOperand field "like" reason)
      filter.toPredicate := by
  have leaves :
      Outcome
        (fun _ => ∀ leaf ∈ filter.leaves, ∃ predicate,
            leaf.toPredicate = .ok predicate)
        (fun error => ∃ leaf ∈ filter.leaves, leaf.toPredicate = .error error)
        filter.toPredicate :=
    compile_outcome filter
  cases result : filter.toPredicate with
  | ok predicate =>
      rw [result] at leaves
      intro leaf member
      rcases leaves leaf member with ⟨made, compiled⟩
      exact (leaf_outcome (isRead leaf member)).of_ok compiled
  | error error =>
      rw [result] at leaves
      rcases leaves with ⟨leaf, member, refused⟩
      have outcome := leaf_outcome (isRead leaf member)
      rw [refused] at outcome
      exact ⟨⟨leaf, member, outcome.1⟩, outcome.2⟩

end Filter

/-! ## Input made of texts -/

namespace FilterInput

/-- Every scalar of the input is a text. -/
inductive AllText : FilterInput → Prop where
  | scalar (value : String) : AllText (.scalar (.string value))
  | list
      {items : List FilterInput}
      (texts : ∀ item ∈ items, AllText item) :
      AllText (.list items)
  | map
      {entries : List (String × FilterInput)}
      (texts : ∀ entry ∈ entries, AllText entry.2) :
      AllText (.map entries)

theorem hereditary_allText : Hereditary AllText where
  items := by
    intro items texts
    cases texts with
    | list texts => exact texts
  entries := by
    intro entries texts
    cases texts with
    | map texts => exact texts

/-- A pattern that was written as a text is a text. -/
theorem not_isBadPattern_of_allText
    {limit : Nat}
    {leaf : Filter}
    (isRead : ReadFrom ⟨.builtins, limit⟩ AllText leaf) :
    ¬ leaf.IsBadPattern := by
  rintro ⟨field, operand, equal, notText⟩
  cases isRead with
  | nullCheck => cases equal
  | @comparison otherField operator input operands registered _ isText
      normalized =>
      rw [Filter.comparison.injEq] at equal
      rcases equal with ⟨_, isLike, isOperand⟩
      rw [isLike] at registered
      have likeOperator :
          OperatorRegistry.builtins.find? "like" =
            some ⟨"like", .single, false⟩ := by
        decide
      have sameOperator := Option.some.inj (likeOperator.symm.trans registered)
      subst sameOperator
      rcases Operator.normalizeSingle_eq_ok
        (Outcome.mapError_eq_ok_iff.mp normalized) with
        ⟨value, isScalar, isValue⟩
      rw [isScalar] at isText
      rw [isOperand] at isValue
      cases isValue
      cases isText with
      | scalar text => cases notText

end FilterInput

end JsonApi
