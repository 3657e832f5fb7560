import JsonApi.Filter.Predicate
import Mathlib.Logic.Relation
import Mathlib.Order.BooleanAlgebra.Defs
import Mathlib.Order.Monotone.Basic

/-!
# Derived operators

Membership, ranges and null tests are short for comparisons.  `Means` says
which: membership for any field, ranges and null tests for a field with at most
one value.  For a field with several values a range says more than its two
bounds, since one value has to respect both (`Bounds`).

A predicate negates nothing above its leaves, so that what it decides depends
monotonically on every predicate inside it (`Replaced.exists_monotone`).
Therefore a derived operator may be replaced by its meaning at any depth
(`holds_of_replacements`).
-/

namespace JsonApi

namespace FieldPredicate

/-! ## Values -/

/-- A field that yields at most one value has exactly one, which may be null. -/
theorem valuesOf_of_length_le_one
    {lookup : FieldLookup}
    {field : String}
    (atMostOne : (lookup field).length ≤ 1) :
    ∃ value, valuesOf lookup field = [value] := by
  rw [valuesOf]
  match values : lookup field with
  | [] => exact ⟨.null, rfl⟩
  | [value] => exact ⟨value, rfl⟩
  | _ :: _ :: _ =>
      rw [values] at atMostOne
      simp at atMostOne

/-- Null is what equals null. -/
@[simp]
theorem equalsOperand_null (value : Json) :
    equalsOperand value .null = value.isNull := by
  cases value <;> rfl

variable {lookup : FieldLookup}

theorem allHold_eq_all (children : List FieldPredicate) :
    allHold lookup children = children.all (holds lookup) := by
  induction children with
  | nil => rfl
  | cons child children induction => rw [allHold, List.all_cons, induction]

theorem anyHolds_eq_any (children : List FieldPredicate) :
    anyHolds lookup children = children.any (holds lookup) := by
  induction children with
  | nil => rfl
  | cons child children induction => rw [anyHolds, List.any_cons, induction]

/-! ## Definitions of the derived operators -/

/-- A derived operator and the comparisons that it is short for. -/
inductive Means (lookup : FieldLookup) :
    FieldPredicate → FieldPredicate → Prop where
  | member
      {field : String}
      {operands : List Operand} :
      Means lookup (.isIn field operands false)
        (.any (operands.map (.compare field .eq)))
  | nonMember
      {field : String}
      {operands : List Operand} :
      Means lookup (.isIn field operands true)
        (.all (operands.map (.compare field .neq)))
  | range
      {field : String}
      {low high : Operand}
      (atMostOne : (lookup field).length ≤ 1) :
      Means lookup (.between field low high)
        (.all [.compare field .gte low, .compare field .lte high])
  | null
      {field : String}
      (atMostOne : (lookup field).length ≤ 1) :
      Means lookup (.isNull field true) (.compare field .eq .null)
  | notNull
      {field : String}
      (atMostOne : (lookup field).length ≤ 1) :
      Means lookup (.isNull field false) (.compare field .neq .null)

/-- A range and its two bounds. -/
inductive Bounds : FieldPredicate → FieldPredicate → Prop where
  | range
      {field : String}
      {low high : Operand} :
      Bounds (.between field low high)
        (.all [.compare field .gte low, .compare field .lte high])

/-- Some value is a member exactly when for some member there is a value that
equals it. -/
theorem any_equalsOperand_comm
    (values : List Json)
    (operands : List Operand) :
    (values.any fun value => operands.any (equalsOperand value)) =
      operands.any fun operand => values.any fun value =>
        equalsOperand value operand := by
  rw [Bool.eq_iff_iff]
  simp only [List.any_eq_true]
  constructor
  · rintro ⟨value, isValue, operand, isOperand, equal⟩
    exact ⟨operand, isOperand, value, isValue, equal⟩
  · rintro ⟨operand, isOperand, value, isValue, equal⟩
    exact ⟨value, isValue, operand, isOperand, equal⟩

/-- A derived operator decides what its definition decides. -/
theorem Means.holds_eq
    {derived definition : FieldPredicate}
    (means : Means lookup derived definition) :
    definition.holds lookup = derived.holds lookup := by
  cases means with
  | @member field operands =>
      rw [holds, holds, anyHolds_eq_any, List.any_map, any_equalsOperand_comm,
        Bool.bne_false]
      rfl
  | @nonMember field operands =>
      rw [holds, holds, allHold_eq_all, List.all_map, any_equalsOperand_comm,
        Bool.bne_true, List.not_any_eq_all_not]
      rfl
  | range atMostOne =>
      rcases valuesOf_of_length_le_one atMostOne with ⟨value, single⟩
      simp [holds, allHold, compareHolds, single]
  | null atMostOne =>
      rcases valuesOf_of_length_le_one atMostOne with ⟨value, single⟩
      simp [holds, compareHolds, single]
  | notNull atMostOne =>
      rcases valuesOf_of_length_le_one atMostOne with ⟨value, single⟩
      simp [holds, compareHolds, single]

/-- What lies in a range respects its bounds. -/
theorem Bounds.holds_of_holds
    {range bounds : FieldPredicate}
    (isRange : Bounds range bounds)
    (inRange : range.holds lookup = true) :
    bounds.holds lookup = true := by
  cases isRange with
  | @range field low high =>
      rw [holds, List.any_eq_true] at inRange
      rcases inRange with ⟨value, isValue, respects⟩
      rw [Bool.and_eq_true] at respects
      have aboveLow : (compare field .gte low).holds lookup = true :=
        List.any_eq_true.mpr ⟨value, isValue, respects.1⟩
      have belowHigh : (compare field .lte high).holds lookup = true :=
        List.any_eq_true.mpr ⟨value, isValue, respects.2⟩
      rw [holds, allHold, allHold, allHold, aboveLow, belowHigh]
      rfl

/-! ## Replacement at any depth -/

/-- One predicate inside another was replaced as a rule allows. -/
inductive Replaced (rule : FieldPredicate → FieldPredicate → Prop) :
    FieldPredicate → FieldPredicate → Prop where
  | whole
      {old new : FieldPredicate}
      (allowed : rule old new) :
      Replaced rule old new
  | inAll
      (before after : List FieldPredicate)
      {old new : FieldPredicate}
      (inside : Replaced rule old new) :
      Replaced rule (.all (before ++ old :: after))
        (.all (before ++ new :: after))
  | inAny
      (before after : List FieldPredicate)
      {old new : FieldPredicate}
      (inside : Replaced rule old new) :
      Replaced rule (.any (before ++ old :: after))
        (.any (before ++ new :: after))

/-- What a predicate decides depends monotonically on what was replaced in
it. -/
theorem Replaced.exists_monotone
    {rule : FieldPredicate → FieldPredicate → Prop}
    {first last : FieldPredicate}
    (replaced : Replaced rule first last)
    (lookup : FieldLookup) :
    ∃ old new, rule old new ∧
      ∃ surroundings : Bool → Bool, Monotone surroundings ∧
        first.holds lookup = surroundings (old.holds lookup) ∧
        last.holds lookup = surroundings (new.holds lookup) := by
  induction replaced with
  | @whole old new allowed =>
      exact ⟨old, new, allowed, id, monotone_id, rfl, rfl⟩
  | inAll before after _ induction =>
      rcases induction with
        ⟨old, new, allowed, surroundings, monotone, isFirst, isLast⟩
      -- The siblings decide the same before and after the replacement.
      refine ⟨old, new, allowed,
        fun decided => before.all (holds lookup) &&
          (surroundings decided && after.all (holds lookup)), ?_, ?_, ?_⟩
      · intro lower upper ordered
        exact inf_le_inf_left _ (inf_le_inf_right _ (monotone ordered))
      · rw [holds, allHold_eq_all, List.all_append, List.all_cons, isFirst]
      · rw [holds, allHold_eq_all, List.all_append, List.all_cons, isLast]
  | inAny before after _ induction =>
      rcases induction with
        ⟨old, new, allowed, surroundings, monotone, isFirst, isLast⟩
      refine ⟨old, new, allowed,
        fun decided => before.any (holds lookup) ||
          (surroundings decided || after.any (holds lookup)), ?_, ?_, ?_⟩
      · intro lower upper ordered
        exact sup_le_sup_left (sup_le_sup_right (monotone ordered) _) _
      · rw [holds, anyHolds_eq_any, List.any_append, List.any_cons, isFirst]
      · rw [holds, anyHolds_eq_any, List.any_append, List.any_cons, isLast]

/-- Replacing a derived operator inside a predicate by its definition changes
nothing. -/
theorem Replaced.holds_eq
    {first last : FieldPredicate}
    (replaced : Replaced (Means lookup) first last) :
    last.holds lookup = first.holds lookup := by
  rcases replaced.exists_monotone lookup with
    ⟨old, new, means, surroundings, _, isFirst, isLast⟩
  rw [isFirst, isLast, means.holds_eq]

/-- Replacing a range inside a predicate by its bounds keeps what holds. -/
theorem Replaced.holds_of_holds
    {first last : FieldPredicate}
    (replaced : Replaced Bounds first last)
    (isHeld : first.holds lookup = true) :
    last.holds lookup = true := by
  rcases replaced.exists_monotone lookup with
    ⟨old, new, isRange, surroundings, monotone, isFirst, isLast⟩
  have weaker : old.holds lookup ≤ new.holds lookup := isRange.holds_of_holds
  rw [isFirst] at isHeld
  rw [isLast]
  exact monotone weaker isHeld

/-- Any number of derived operators, wherever they stand in a predicate, may be
replaced by their definitions: it decides the same.  Ranges over fields with
several values may be replaced by their bounds: what held still holds. -/
theorem holds_of_replacements
    (lookup : FieldLookup)
    (first last : FieldPredicate) :
    (Relation.ReflTransGen (Replaced (Means lookup)) first last →
        last.holds lookup = first.holds lookup) ∧
      (Relation.ReflTransGen (Replaced Bounds) first last →
        first.holds lookup = true → last.holds lookup = true) := by
  constructor
  · intro replacements
    induction replacements with
    | refl => rfl
    | tail _ replaced induction => exact replaced.holds_eq.trans induction
  · intro replacements isHeld
    induction replacements with
    | refl => exact isHeld
    | tail _ replaced induction => exact replaced.holds_of_holds induction

/-- A record with two tags and nothing else. -/
def tagged : FieldLookup := fun field =>
  if field = "tags" then [.string "a", .string "z"] else []

/-- A null test and a membership are replaced two levels deep, and a range over
the tags one level deep.  The tags lie on both sides of another range, which
holds of none of them although its bounds do. -/
theorem holds_of_replacements_tagged :
    (FieldPredicate.any [.like "title" "%", .all
        [.compare "title" .eq .null,
            .any [.compare "tags" .eq (.string "z")]]]).holds tagged =
      (FieldPredicate.any [.like "title" "%", .all
        [.isNull "title" true, .isIn "tags" [.string "z"] false]]).holds
          tagged ∧
    (FieldPredicate.all [.all [.compare "tags" .gte (.string "a"),
      .compare "tags" .lte (.string "b")]]).holds tagged = true ∧
    (FieldPredicate.between "tags" (.string "m") (.string "n")).holds tagged =
      false ∧
    (FieldPredicate.all [.compare "tags" .gte (.string "m"),
      .compare "tags" .lte (.string "n")]).holds tagged = true := by
  have nullReplaced :
      Replaced (Means tagged)
        (.any [.like "title" "%", .all
          [.isNull "title" true, .isIn "tags" [.string "z"] false]])
        (.any [.like "title" "%", .all
          [.compare "title" .eq .null, .isIn "tags" [.string "z"] false]]) :=
    .inAny [_] [] (.inAll [] [_] (.whole (.null (by decide))))
  have memberReplaced :
      Replaced (Means tagged)
        (.any [.like "title" "%", .all
          [.compare "title" .eq .null, .isIn "tags" [.string "z"] false]])
        (.any [.like "title" "%", .all
          [.compare "title" .eq .null,
              .any [.compare "tags" .eq (.string "z")]]]) :=
    .inAny [_] [] (.inAll [_] [] (.whole .member))
  have rangeReplaced :
      Replaced Bounds (.all [.between "tags" (.string "a") (.string "b")])
        (.all [.all [.compare "tags" .gte (.string "a"),
          .compare "tags" .lte (.string "b")]]) :=
    .inAll [] [] (.whole .range)
  refine ⟨(holds_of_replacements tagged _ _).1
    (.tail (.single nullReplaced) memberReplaced),
    (holds_of_replacements tagged _ _).2 (.single rangeReplaced) ?_, ?_, ?_⟩
  · decide
  · decide
  · decide

end FieldPredicate

end JsonApi
