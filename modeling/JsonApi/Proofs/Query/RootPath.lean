import JsonApi.Proofs.Dictionary
import JsonApi.Query.Specification
import Mathlib.Data.List.Infix
import Mathlib.Data.List.Nodup

/-!
# Root paths of include trees

A root path of an include tree is a list of names that can be followed from
the root.  Inserting a path adds exactly its beginnings to the root paths
(`hasRootPath_insert`), so that the root paths of a tree built by insertions
are the beginnings of the inserted paths.  Depth and leaf paths are read off
the root paths, provided that the names below one place ascend.
-/

namespace JsonApi.IncludeTree

/-! ## Following names from the root -/

/-- The tree behind a list of names, if all of them can be followed. -/
def behind? : IncludeTree → List String → Option IncludeTree
  | tree, [] => some tree
  | tree, name :: names =>
      (tree.child? name).bind fun subtree => subtree.behind? names

/-- The names can be followed from the root, not necessarily to a leaf. -/
def HasRootPath (tree : IncludeTree) (names : List String) : Prop :=
  ∃ subtree, tree.behind? names = some subtree

@[simp]
theorem behind?_nil (tree : IncludeTree) :
    tree.behind? [] = some tree := rfl

theorem hasRootPath_nil (tree : IncludeTree) : tree.HasRootPath [] :=
  ⟨tree, rfl⟩

theorem hasRootPath_cons
    {tree : IncludeTree}
    {name : String}
    {names : List String} :
    tree.HasRootPath (name :: names) ↔
      ∃ subtree, tree.child? name = some subtree ∧
        subtree.HasRootPath names := by
  simp only [HasRootPath, behind?, Option.bind_eq_some_iff]
  constructor
  · rintro ⟨final, subtree, child, behind⟩
    exact ⟨subtree, child, final, behind⟩
  · rintro ⟨subtree, child, final, behind⟩
    exact ⟨final, subtree, child, behind⟩

theorem behind?_append
    (tree : IncludeTree)
    (first second : List String) :
    tree.behind? (first ++ second) =
      (tree.behind? first).bind fun subtree => subtree.behind? second := by
  induction first generalizing tree with
  | nil => rfl
  | cons name names induction =>
      simp only [List.cons_append, behind?]
      cases tree.child? name with
      | none => rfl
      | some subtree => exact induction subtree

theorem HasRootPath.of_append
    {tree : IncludeTree}
    {first second : List String}
    (rootPath : tree.HasRootPath (first ++ second)) :
    tree.HasRootPath first := by
  rcases rootPath with ⟨subtree, behind⟩
  rw [behind?_append] at behind
  rcases Option.bind_eq_some_iff.mp behind with ⟨middle, before, _⟩
  exact ⟨middle, before⟩

/-- The empty tree has the empty root path only. -/
theorem hasRootPath_empty {names : List String} :
    empty.HasRootPath names ↔ names = [] := by
  cases names with
  | nil => simp [hasRootPath_nil]
  | cons name names =>
      rw [hasRootPath_cons]
      simp [child?, empty, children, Dictionary.find?]

theorem child?_insert
    (tree : IncludeTree)
    (name other : String)
    (names : List String) :
    (tree.insert (name :: names)).child? other =
      if other = name then some (((tree.child? name).getD empty).insert names)
      else tree.child? other := by
  by_cases same : other = name
  · subst same
    simp [child?, insert, children, Dictionary.find?_insert_self]
  · simp [child?, insert, children, Dictionary.find?_insert_of_ne same, same]

/-- Inserting a path adds its beginnings to the root paths. -/
theorem hasRootPath_insert
    {tree : IncludeTree}
    {path names : List String} :
    (tree.insert path).HasRootPath names ↔
      names <+: path ∨ tree.HasRootPath names := by
  induction path generalizing tree names with
  | nil =>
      rw [insert]
      constructor
      · exact Or.inr
      · rintro (isPrefix | old)
        · rw [List.prefix_nil.mp isPrefix]
          exact hasRootPath_nil tree
        · exact old
  | cons name path induction =>
      cases names with
      | nil => simp [hasRootPath_nil]
      | cons other names =>
          rw [hasRootPath_cons, child?_insert, hasRootPath_cons,
            List.cons_prefix_cons]
          by_cases same : other = name
          · subst same
            simp only [if_true, Option.some.injEq, exists_eq_left', true_and]
            rw [induction]
            cases tree.child? other with
            | none =>
                simp only [Option.getD_none, hasRootPath_empty]
                constructor
                · rintro (isPrefix | isEmpty)
                  · exact Or.inl isPrefix
                  · exact Or.inl (by simp [isEmpty])
                · rintro (isPrefix | ⟨_, absurdity, _⟩)
                  · exact Or.inl isPrefix
                  · cases absurdity
            | some subtree => simp
          · simp [same]

/-! ## Trees without repeated names -/

/-- Below every place of the tree the names ascend. -/
inductive Ordered : IncludeTree → Prop where
  | node
      {children : List (String × IncludeTree)}
      (ascending : Dictionary.Ascending children)
      (inner : ∀ name subtree, (name, subtree) ∈ children → Ordered subtree) :
      Ordered (.node children)

theorem ordered_empty : Ordered empty :=
  .node .nil (by simp)

theorem Ordered.child?
    {tree subtree : IncludeTree}
    (ordered : tree.Ordered)
    {name : String}
    (found : tree.child? name = some subtree) :
    subtree.Ordered := by
  cases ordered with
  | node ascending inner =>
      exact inner name subtree (Dictionary.mem_of_find? found)

/-- In an ordered tree, what stands below a place is found there. -/
theorem Ordered.child?_of_mem
    {tree subtree : IncludeTree}
    (ordered : tree.Ordered)
    {name : String}
    (member : (name, subtree) ∈ tree.children) :
    tree.child? name = some subtree := by
  cases ordered with
  | node ascending inner => exact ascending.find?_of_mem member

theorem Ordered.of_behind?
    {tree subtree : IncludeTree}
    (ordered : tree.Ordered)
    {names : List String}
    (behind : tree.behind? names = some subtree) :
    subtree.Ordered := by
  induction names generalizing tree with
  | nil =>
      cases behind
      exact ordered
  | cons name names induction =>
      rcases Option.bind_eq_some_iff.mp behind with ⟨child, found, rest⟩
      exact induction (ordered.child? found) rest

theorem Ordered.insert
    {tree : IncludeTree}
    (ordered : tree.Ordered)
    (path : List String) :
    (tree.insert path).Ordered := by
  induction path generalizing tree with
  | nil => exact ordered
  | cons name path induction =>
      have below : ((tree.child? name).getD empty).Ordered := by
        cases found : tree.child? name with
        | none => exact ordered_empty
        | some subtree => exact ordered.child? found
      cases ordered with
      | node ascending inner =>
          refine .node (ascending.insert name _) ?_
          intro other subtree member
          rcases Dictionary.mem_insert_cases member with inserted | old
          · cases inserted
            exact induction below
          · exact inner other subtree old

/-! ## Depth -/

/-- Induction on a tree, with the hypothesis for every tree below the root. -/
theorem induction
    {motive : IncludeTree → Prop}
    (node :
      ∀ children : List (String × IncludeTree),
        (∀ name subtree, (name, subtree) ∈ children → motive subtree) →
          motive (.node children)) :
    ∀ tree, motive tree
  | .node children =>
      node children fun name subtree member => by
        have smaller := List.sizeOf_lt_of_mem member
        have part : sizeOf subtree < sizeOf (name, subtree) := by simp
        exact induction node subtree
termination_by tree => sizeOf tree
decreasing_by
  simp only [IncludeTree.node.sizeOf_spec]
  omega

theorem depthOf_le_iff
    {children : List (String × IncludeTree)}
    {bound : Nat} :
    depthOf children ≤ bound ↔
      ∀ name subtree, (name, subtree) ∈ children →
        1 + subtree.depth ≤ bound := by
  induction children with
  | nil => simp [depthOf]
  | cons child children induction =>
      obtain ⟨name, subtree⟩ := child
      rw [depthOf, Nat.max_le, induction]
      constructor
      · rintro ⟨first, rest⟩ other behind member
        rcases List.mem_cons.mp member with head | tail
        · cases head
          exact first
        · exact rest other behind tail
      · intro all
        exact ⟨all name subtree List.mem_cons_self,
          fun other behind member =>
            all other behind (List.mem_cons_of_mem _ member)⟩

theorem isEmpty_eq_false_of_mem
    {tree : IncludeTree}
    {branch : String × IncludeTree}
    (member : branch ∈ tree.children) :
    tree.isEmpty = false := by
  rw [isEmpty, List.isEmpty_eq_false_iff]
  exact List.ne_nil_of_mem member

theorem depth_lt_of_mem
    {tree subtree : IncludeTree}
    {name : String}
    (member : (name, subtree) ∈ tree.children) :
    subtree.depth < tree.depth := by
  obtain ⟨children⟩ := tree
  have bounded : depthOf children ≤ depthOf children := le_rfl
  have deeper := depthOf_le_iff.mp bounded name subtree member
  rw [depth.eq_def (.node children)]
  simp only
  omega

/-- A root path leads to a tree that is shallower by the length of the path. -/
theorem length_add_depth_le
    {tree subtree : IncludeTree}
    {names : List String}
    (behind : tree.behind? names = some subtree) :
    names.length + subtree.depth ≤ tree.depth := by
  induction names generalizing tree with
  | nil =>
      cases behind
      simp
  | cons name names induction =>
      rw [behind?, Option.bind_eq_some_iff] at behind
      rcases behind with ⟨child, found, rest⟩
      have inner := induction rest
      have outer := depth_lt_of_mem (Dictionary.mem_of_find? found)
      simp only [List.length_cons]
      omega

/-- The depth of an ordered tree is bounded when the lengths of its root paths
are. -/
theorem Ordered.depth_le
    {tree : IncludeTree}
    (ordered : tree.Ordered)
    {bound : Nat}
    (bounded : ∀ names, tree.HasRootPath names → names.length ≤ bound) :
    tree.depth ≤ bound := by
  induction tree using IncludeTree.induction generalizing bound with
  | node children induction =>
      rw [depth, depthOf_le_iff]
      intro name subtree member
      have child : (IncludeTree.node children).child? name = some subtree :=
        ordered.child?_of_mem member
      have below : subtree.depth ≤ bound - 1 := by
        apply induction name subtree member (ordered.child? child)
        intro names path
        have longer :=
          bounded (name :: names) (hasRootPath_cons.mpr ⟨subtree, child, path⟩)
        simp only [List.length_cons] at longer
        omega
      have positive : 1 ≤ bound :=
        bounded [name]
          (hasRootPath_cons.mpr ⟨subtree, child, hasRootPath_nil subtree⟩)
      omega

/-! ## Leaf paths -/

/-- The paths to leaves behind a place; a leaf has the empty path to itself. -/
def pathsToLeaves (tree : IncludeTree) : List (List String) :=
  if tree.isEmpty then [[]] else tree.leafPaths

theorem mem_leafPathsOf
    {children : List (String × IncludeTree)}
    {names : List String} :
    names ∈ leafPathsOf children ↔
      ∃ name subtree rest,
        (name, subtree) ∈ children ∧ rest ∈ subtree.pathsToLeaves ∧
          names = name :: rest := by
  induction children with
  | nil => simp [leafPathsOf]
  | cons child children induction =>
      obtain ⟨name, subtree⟩ := child
      rw [leafPathsOf, List.mem_append, induction]
      constructor
      · rintro (first | ⟨other, behind, rest, member, leaf, equal⟩)
        · rcases List.mem_map.mp first with ⟨rest, leaf, equal⟩
          exact ⟨name, subtree, rest, List.mem_cons_self, leaf, equal.symm⟩
        · exact ⟨other, behind, rest, List.mem_cons_of_mem _ member, leaf,
            equal⟩
      · rintro ⟨other, behind, rest, member, leaf, equal⟩
        rcases List.mem_cons.mp member with head | tail
        · cases head
          exact Or.inl (List.mem_map.mpr ⟨rest, leaf, equal.symm⟩)
        · exact Or.inr ⟨other, behind, rest, tail, leaf, equal⟩

theorem isEmpty_iff {tree : IncludeTree} : tree.isEmpty = true ↔
  tree = empty := by
  obtain ⟨children⟩ := tree
  cases children <;> simp [isEmpty, IncludeTree.children, empty]

/-- In an ordered tree the leaf paths are the root paths to an empty tree. -/
theorem Ordered.mem_pathsToLeaves
    {tree : IncludeTree}
    (ordered : tree.Ordered)
    {names : List String} :
    names ∈ tree.pathsToLeaves ↔ tree.behind? names = some empty := by
  induction tree using IncludeTree.induction generalizing names with
  | node children induction =>
      rw [pathsToLeaves]
      split
      · rename_i isEmpty
        rw [isEmpty_iff] at isEmpty
        rw [isEmpty, List.mem_singleton]
        constructor
        · intro equal
          rw [equal]
          rfl
        · intro behind
          exact hasRootPath_empty.mp ⟨_, behind⟩
      · rename_i notEmpty
        rw [leafPaths, mem_leafPathsOf]
        constructor
        · rintro ⟨name, subtree, rest, member, leaf, equal⟩
          have child := ordered.child?_of_mem member
          rw [equal, behind?, child]
          exact (induction name subtree member (ordered.child? child)).mp leaf
        · intro behind
          cases names with
          | nil =>
              cases behind
              exact absurd rfl notEmpty
          | cons name rest =>
              rw [behind?, Option.bind_eq_some_iff] at behind
              rcases behind with ⟨subtree, found, inner⟩
              have member := Dictionary.mem_of_find? found
              exact ⟨name, subtree, rest, member,
                (induction name subtree member (ordered.child? found)).mpr
                  inner, rfl⟩

theorem pairwise_leafPathsOf
    {children : List (String × IncludeTree)}
    (ascending : Dictionary.Ascending children)
    (inner : ∀ name subtree, (name, subtree) ∈ children →
      subtree.pathsToLeaves.Pairwise (· < ·)) :
    (leafPathsOf children).Pairwise (· < ·) := by
  induction children with
  | nil => exact .nil
  | cons child children induction =>
      obtain ⟨name, subtree⟩ := child
      rcases List.pairwise_cons.mp ascending with ⟨below, tail⟩
      rw [leafPathsOf, List.pairwise_append]
      refine ⟨?_, ?_, ?_⟩
      · apply (inner name subtree List.mem_cons_self).map
        intro first second less
        exact List.cons_lt_cons_iff.mpr (Or.inr ⟨rfl, less⟩)
      · exact induction tail fun other behind member =>
          inner other behind (List.mem_cons_of_mem _ member)
      · -- The names below one place ascend, and so do the paths that begin with
        -- them.
        intro first firstMember second secondMember
        rcases List.mem_map.mp firstMember with ⟨left, _, rfl⟩
        rcases mem_leafPathsOf.mp secondMember with
          ⟨other, behind, right, member, _, rfl⟩
        exact List.cons_lt_cons_iff.mpr (Or.inl (below (other, behind) member))

/-- An ordered tree lists its leaf paths in lexicographic order. -/
theorem Ordered.pairwise_pathsToLeaves
    {tree : IncludeTree}
    (ordered : tree.Ordered) :
    tree.pathsToLeaves.Pairwise (· < ·) := by
  induction tree using IncludeTree.induction with
  | node children induction =>
      rw [pathsToLeaves]
      split
      · exact List.pairwise_singleton _ _
      · cases ordered with
        | node ascending inner =>
            exact pairwise_leafPathsOf ascending fun name subtree member =>
              induction name subtree member (inner name subtree member)

theorem pathsToLeaves_eq
    {tree : IncludeTree}
    (nonempty : ¬tree.isEmpty = true) :
    tree.pathsToLeaves = tree.leafPaths := by
  rw [pathsToLeaves, if_neg nonempty]

theorem Ordered.pairwise_leafPaths
    {tree : IncludeTree}
    (ordered : tree.Ordered) :
    tree.leafPaths.Pairwise (· < ·) := by
  by_cases isEmpty : tree.isEmpty = true
  · rw [isEmpty_iff.mp isEmpty]
    exact .nil
  · rw [← pathsToLeaves_eq isEmpty]
    exact ordered.pairwise_pathsToLeaves

/-- An ordered tree lists no leaf path twice. -/
theorem Ordered.nodup_leafPaths
    {tree : IncludeTree}
    (ordered : tree.Ordered) :
    tree.leafPaths.Nodup := by
  apply ordered.pairwise_leafPaths.imp
  rintro path _ less rfl
  exact List.lt_irrefl path less

end JsonApi.IncludeTree
