import JsonApi.Proofs.Filter.Canonical

/-!
# The shape of a filter that was read

Whatever a filter was read from, its groups have at least two members, so that
most of its nodes are leaves, and its comparisons fit the operators that they
name (`FilterInput.shape_of_read`).  This is what may be relied on without
looking again at a filter, by the count of its nodes and by those who compile
it.

The depth of any filter is the greatest number of nodes on the way to one of
them (`Filter.depth_le_iff`).
-/

namespace JsonApi

namespace Filter

/-- A node of a filter, which may be the whole filter. -/
inductive Occurs (node : Filter) : Filter → Prop where
  | whole : Occurs node node
  | inConjunction
      {children : List Filter}
      {child : Filter}
      (member : child ∈ children)
      (inside : Occurs node child) :
      Occurs node (.conjunction children)
  | inDisjunction
      {children : List Filter}
      {child : Filter}
      (member : child ∈ children)
      (inside : Occurs node child) :
      Occurs node (.disjunction children)

/-- A node of a filter that stands inside so many groups. -/
inductive Nested (node : Filter) : Nat → Filter → Prop where
  | whole : Nested node 0 node
  | inConjunction
      {groups : Nat}
      {children : List Filter}
      {child : Filter}
      (member : child ∈ children)
      (inside : Nested node groups child) :
      Nested node (groups + 1) (.conjunction children)
  | inDisjunction
      {groups : Nat}
      {children : List Filter}
      {child : Filter}
      (member : child ∈ children)
      (inside : Nested node groups child) :
      Nested node (groups + 1) (.disjunction children)

theorem depth_pos (filter : Filter) : 1 ≤ filter.depth := by
  cases filter <;> simp [depth]

theorem depth_le_greatestDepth
    {children : List Filter}
    {child : Filter}
    (member : child ∈ children) :
    child.depth ≤ greatestDepth children := by
  induction children with
  | nil => cases member
  | cons first others induction =>
      rw [greatestDepth]
      rcases List.mem_cons.mp member with rfl | isOther
      · exact Nat.le_max_left _ _
      · exact Nat.le_trans (induction isOther) (Nat.le_max_right _ _)

/-- Every group around a node makes the filter one level deeper. -/
theorem Nested.add_depth_le
    {node filter : Filter}
    {groups : Nat}
    (nested : Nested node groups filter) :
    groups + node.depth ≤ filter.depth := by
  induction nested with
  | whole => simp
  | inConjunction member _ induction =>
      have deeper := depth_le_greatestDepth member
      rw [depth]
      omega
  | inDisjunction member _ induction =>
      have deeper := depth_le_greatestDepth member
      rw [depth]
      omega

mutual

theorem depth_le_of_nested
    (filter : Filter)
    {bound : Nat}
    (within : ∀ groups node, Nested node groups filter → groups < bound) :
    filter.depth ≤ bound := by
  have positive := within 0 filter .whole
  match filter with
  | .comparison field operator operands => exact positive
  | .nullCheck field isNull => exact positive
  | .conjunction children =>
      have below : greatestDepth children ≤ bound - 1 := by
        apply greatestDepth_le_of_nested
        intro child member groups node nested
        have deeper := within _ node (.inConjunction member nested)
        omega
      rw [depth]
      omega
  | .disjunction children =>
      have below : greatestDepth children ≤ bound - 1 := by
        apply greatestDepth_le_of_nested
        intro child member groups node nested
        have deeper := within _ node (.inDisjunction member nested)
        omega
      rw [depth]
      omega

theorem greatestDepth_le_of_nested
    (children : List Filter)
    {bound : Nat}
    (within : ∀ child ∈ children, ∀ groups node,
      Nested node groups child → groups < bound) :
    greatestDepth children ≤ bound := by
  match children with
  | [] => exact Nat.zero_le bound
  | first :: others =>
      rcases List.forall_mem_cons.mp within with ⟨ofFirst, ofOthers⟩
      rw [greatestDepth]
      exact Nat.max_le.mpr
        ⟨depth_le_of_nested first ofFirst,
          greatestDepth_le_of_nested others ofOthers⟩

end

/-- The depth of a filter says inside how many groups its nodes stand. -/
theorem depth_le_iff
    {filter : Filter}
    {bound : Nat} :
    filter.depth ≤ bound ↔
      ∀ groups node, Nested node groups filter → groups < bound := by
  constructor
  · intro shallow groups node nested
    have deeper := nested.add_depth_le
    have positive := node.depth_pos
    omega
  · exact depth_le_of_nested filter

variable {rules : FilterInput.Rules} {filter : Filter}

/-- The nodes of a canonical filter are canonical. -/
theorem Canonical.of_occurs
    {node : Filter}
    (occurs : Occurs node filter)
    (canonical : filter.Canonical rules) :
    node.Canonical rules := by
  induction occurs with
  | whole => exact canonical
  | inConjunction member _ induction =>
      cases canonical with
      | conjunction _ members => exact induction (members _ member)
  | inDisjunction member _ induction =>
      cases canonical with
      | disjunction _ members => exact induction (members _ member)

/-- Trees that have each fewer than two nodes for a leaf leave room for one more
node for each of them. -/
theorem nodeCounts_add_length_le
    {children : List Filter}
    (each : ∀ child ∈ children, child.nodeCount + 1 ≤ 2 * child.leaves.length) :
    nodeCounts children + children.length ≤ 2 * (leavesOf children).length := by
  induction children with
  | nil => exact Nat.le_refl 0
  | cons child children induction =>
      rcases List.forall_mem_cons.mp each with ⟨first, others⟩
      have rest := induction others
      rw [nodeCounts, leavesOf, List.length_cons, List.length_append]
      omega

/-- Where all groups have two members, there are more leaves than groups. -/
theorem Canonical.nodeCount_le (canonical : filter.Canonical rules) :
    filter.nodeCount + 1 ≤ 2 * filter.leaves.length := by
  induction canonical with
  | comparison => exact Nat.le_refl 2
  | nullCheck => exact Nat.le_refl 2
  | conjunction several _ members =>
      have together := nodeCounts_add_length_le members
      rw [nodeCount, leaves]
      omega
  | disjunction several _ members =>
      have together := nodeCounts_add_length_le members
      rw [nodeCount, leaves]
      omega

end Filter

namespace FilterInput

/-- In a filter that was read, every group has at least two members, and every
comparison names a registered operator other than `isnull` and has operands that
it takes. -/
theorem shape_of_read
    {rules : Rules}
    {input : FilterInput}
    {filter : Filter}
    (isRead : input.read rules = .ok (some filter)) :
    (∀ children,
        Filter.Occurs (.conjunction children) filter ∨
            Filter.Occurs (.disjunction children) filter →
          2 ≤ children.length) ∧
      filter.nodeCount + 1 ≤ 2 * filter.leaves.length ∧
      ∀ field name operands,
        Filter.Occurs (.comparison field name operands) filter →
        name ≠ Operator.isNullName ∧
          ∃ operator, rules.operators.find? name = some operator ∧
            operator.Takes rules.maxOperands operands := by
  have canonical := canonical_of_read isRead
  refine ⟨?_, ?_, ?_⟩
  · rintro children (isNode | isNode)
    · cases canonical.of_occurs isNode with
      | conjunction several => exact several
    · cases canonical.of_occurs isNode with
      | disjunction several => exact several
  · exact canonical.nodeCount_le
  · intro field name operands isNode
    cases canonical.of_occurs isNode with
    | comparison isField registered compares normalized =>
        exact ⟨compares, _, registered, Operator.takes_of_normalize normalized⟩

/-- A field compared with null, and one with two operators. -/
def boundedEntries : List (String × FilterInput) :=
  [("title", .map [("neq", .scalar .null)]),
    ("year", .map
      [("between", .scalar (.string "1965, 1985")),
        ("lt", .scalar (.string "1980"))])]

/-- The two operators on one field are a group inside the whole: five nodes, of
which three are leaves. -/
theorem shape_of_read_boundedEntries :
    ∃ filter,
      filter = .conjunction
          [.comparison "title" "neq" [.null],
            .conjunction
              [.comparison "year" "between" [.string "1965", .string "1985"],
                .comparison "year" "lt" [.string "1980"]]] ∧
        (FilterInput.map boundedEntries).read ⟨.builtins, 1000⟩ =
          .ok (some filter) ∧
        filter.nodeCount = 5 ∧ filter.leaves.length = 3 ∧
        filter.nodeCount + 1 ≤ 2 * filter.leaves.length ∧
        ∃ range, OperatorRegistry.builtins.find? "between" = some range ∧
          range.Takes 1000 [.string "1965", .string "1985"] := by
  refine ⟨_, rfl, ?_⟩
  have isRead :
      (FilterInput.map boundedEntries).read ⟨.builtins, 1000⟩ = .ok (some _) :=
        rfl
  have shape := shape_of_read isRead
  refine ⟨isRead, rfl, rfl, shape.2.1, (shape.2.2 "year" "between" _ ?_).2⟩
  exact .inConjunction (List.mem_cons_of_mem _ List.mem_cons_self)
    (.inConjunction List.mem_cons_self .whole)

end FilterInput

end JsonApi
