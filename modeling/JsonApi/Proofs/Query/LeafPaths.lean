import JsonApi.Proofs.Query.RootPath
import Mathlib.Data.List.Perm.Subperm

/-!
# Include trees and their leaf paths

An ordered tree is known by its root paths (`Ordered.ext`), and these are the
beginnings of its leaf paths.  The root paths of a tree built from paths are
the beginnings of these (`hasRootPath_ofPaths`).  Such a tree therefore depends
on the set of the paths only; its leaf paths are those of them that do not go
on in another one; and it is built again from its leaf paths
(`ofPaths_determined`).
-/

namespace JsonApi.IncludeTree

/-! ## Trees known by their root paths -/

/-- Ordered trees with the same root paths are equal. -/
theorem Ordered.ext
    {tree other : IncludeTree}
    (ordered : tree.Ordered)
    (otherOrdered : other.Ordered)
    (same : ∀ names, tree.HasRootPath names ↔ other.HasRootPath names) :
    tree = other := by
  induction tree using IncludeTree.induction generalizing other with
  | node children induction =>
      obtain ⟨otherChildren⟩ := other
      have sameChild (name : String) :
          (IncludeTree.node children).child? name =
            (IncludeTree.node otherChildren).child? name := by
        have sameBelow (names : List String) := same (name :: names)
        simp only [hasRootPath_cons] at sameBelow
        cases found : (IncludeTree.node children).child? name with
        | none =>
            cases otherFound : (IncludeTree.node otherChildren).child? name with
            | none => rfl
            | some otherSubtree =>
                rcases (sameBelow []).mpr
                  ⟨otherSubtree, otherFound, hasRootPath_nil _⟩ with
                  ⟨subtree, isFound, _⟩
                rw [found] at isFound
                cases isFound
        | some subtree =>
            rcases (sameBelow []).mp ⟨subtree, found, hasRootPath_nil _⟩ with
              ⟨otherSubtree, otherFound, _⟩
            rw [otherFound]
            congr 1
            apply induction name subtree (Dictionary.mem_of_find? found)
              (ordered.child? found) (otherOrdered.child? otherFound)
            simpa [found, otherFound] using sameBelow
      cases ordered with
      | node ascending _ =>
          cases otherOrdered with
          | node otherAscending _ =>
              exact congrArg IncludeTree.node
                (ascending.ext otherAscending sameChild)

theorem exists_pathToLeaf (tree : IncludeTree) :
    ∃ names, names ∈ tree.pathsToLeaves := by
  induction tree using IncludeTree.induction with
  | node children induction =>
      cases children with
      | nil => exact ⟨[], List.mem_singleton.mpr rfl⟩
      | cons child children =>
          rcases induction child.1 child.2 List.mem_cons_self with ⟨rest, leaf⟩
          exact ⟨child.1 :: rest,
            mem_leafPathsOf.mpr
              ⟨child.1, child.2, rest, List.mem_cons_self, leaf, rfl⟩⟩

/-- The root paths are the beginnings of the leaf paths. -/
theorem Ordered.hasRootPath_iff
    {tree : IncludeTree}
    (ordered : tree.Ordered)
    {names : List String} :
    tree.HasRootPath names ↔ ∃ path ∈ tree.pathsToLeaves, names <+: path := by
  constructor
  · rintro ⟨subtree, behind⟩
    rcases subtree.exists_pathToLeaf with ⟨rest, leaf⟩
    refine ⟨names ++ rest, ordered.mem_pathsToLeaves.mpr ?_,
      List.prefix_append names rest⟩
    rw [behind?_append, behind]
    exact (ordered.of_behind? behind).mem_pathsToLeaves.mp leaf
  · rintro ⟨path, leaf, rest, equal⟩
    rw [← equal] at leaf
    exact HasRootPath.of_append ⟨empty, ordered.mem_pathsToLeaves.mp leaf⟩

/-- A place is a leaf if no root path goes on behind it. -/
theorem behind?_eq_empty_iff
    {tree : IncludeTree}
    {names : List String} :
    tree.behind? names = some empty ↔
      tree.HasRootPath names ∧ ∀ next, ¬tree.HasRootPath (names ++ [next]) := by
  simp only [HasRootPath, behind?_append]
  cases behind : tree.behind? names with
  | none => simp
  | some subtree =>
      obtain ⟨children⟩ := subtree
      cases children with
      | nil =>
          simp [empty, behind?, child?, IncludeTree.children, Dictionary.find?]
      | cons child children =>
          obtain ⟨name, below⟩ := child
          have goesOn :
              (IncludeTree.node ((name, below) :: children)).behind? [name] =
                some below := by
            simp [behind?, child?, IncludeTree.children, Dictionary.find?_cons]
          constructor
          · intro isLeaf
            cases isLeaf
          · rintro ⟨_, ends⟩
            exact absurd ⟨below, goesOn⟩ (ends name)

/-- The leaf paths are the root paths that do not go on. -/
theorem Ordered.mem_leafPaths_iff
    {tree : IncludeTree}
    (ordered : tree.Ordered)
    {names : List String} :
    names ∈ tree.leafPaths ↔
      names ≠ [] ∧ tree.HasRootPath names ∧ ∀ next,
        ¬tree.HasRootPath (names ++ [next]) := by
  rw [← behind?_eq_empty_iff, ← ordered.mem_pathsToLeaves]
  by_cases isEmpty : tree.isEmpty = true
  · rw [isEmpty_iff.mp isEmpty]
    simp [leafPaths, empty, leafPathsOf, pathsToLeaves, IncludeTree.isEmpty,
      children]
  · rw [pathsToLeaves_eq isEmpty]
    refine (and_iff_right_of_imp ?_).symm
    rintro leaf rfl
    rw [← pathsToLeaves_eq isEmpty, ordered.mem_pathsToLeaves,
      behind?_nil] at leaf
    exact isEmpty (isEmpty_iff.mpr (Option.some.inj leaf))

/-! ## Trees built from paths -/

/-- The tree of some paths. -/
def ofPaths (paths : List (List String)) : IncludeTree :=
  paths.foldl insert empty

/-- The root paths of a tree built from paths are the beginnings of these. -/
theorem hasRootPath_ofPaths
    {paths : List (List String)}
    {names : List String} :
    (ofPaths paths).HasRootPath names ↔
      names = [] ∨ ∃ path ∈ paths, names <+: path := by
  have general :
      ∀ tree : IncludeTree,
        (paths.foldl insert tree).HasRootPath names ↔
          tree.HasRootPath names ∨ ∃ path ∈ paths, names <+: path := by
    induction paths with
    | nil => simp
    | cons path paths induction =>
        intro tree
        rw [List.foldl_cons, induction, hasRootPath_insert]
        simp only [List.mem_cons, exists_eq_or_imp]
        tauto
  rw [ofPaths, general, hasRootPath_empty]

theorem ordered_ofPaths (paths : List (List String)) :
    (ofPaths paths).Ordered := by
  have general :
      ∀ tree : IncludeTree, tree.Ordered →
        (paths.foldl insert tree).Ordered := by
    induction paths with
    | nil => exact fun _ ordered => ordered
    | cons path paths induction =>
        intro tree ordered
        exact induction (tree.insert path) (ordered.insert path)
  exact general empty ordered_empty

/-- The tree of some paths depends on which paths there are, not on their order
and number. -/
theorem ofPaths_congr
    {paths others : List (List String)}
    (same : ∀ path, path ∈ others ↔ path ∈ paths) :
    ofPaths others = ofPaths paths := by
  apply (ordered_ofPaths others).ext (ordered_ofPaths paths)
  intro names
  simp only [hasRootPath_ofPaths, same]

/-- The leaf paths of a tree are those of its paths that do not go on in another
one. -/
theorem mem_leafPaths_ofPaths
    {paths : List (List String)}
    {names : List String} :
    names ∈ (ofPaths paths).leafPaths ↔
      names ≠ [] ∧ names ∈ paths ∧ ∀ path ∈ paths, names <+: path →
        path = names := by
  rw [(ordered_ofPaths paths).mem_leafPaths_iff]
  apply and_congr_right
  intro nonempty
  simp only [hasRootPath_ofPaths, nonempty, List.append_eq_nil_iff, false_and,
    false_or, not_exists, not_and]
  constructor
  · rintro ⟨⟨path, member, beginning⟩, ends⟩
    have noLonger (other : List String) (isPath : other ∈ paths)
        (begins : names <+: other) :
        other = names := by
      rcases begins with ⟨rest, rfl⟩
      cases rest with
      | nil => exact List.append_nil names
      | cons next rest => exact absurd ⟨rest, by simp⟩ (ends next _ isPath)
    exact ⟨noLonger path member beginning ▸ member, noLonger⟩
  · rintro ⟨member, noLonger⟩
    refine ⟨⟨names, member, List.prefix_refl names⟩, ?_⟩
    intro next path isPath beginning
    have same :=
      noLonger path isPath ((List.prefix_append names [next]).trans beginning)
    have shorter := beginning.length_le
    rw [same, List.length_append, List.length_singleton] at shorter
    omega

theorem length_leafPaths_ofPaths_le (paths : List (List String)) :
    (ofPaths paths).leafPaths.length ≤ paths.length :=
  (List.subperm_of_subset (ordered_ofPaths paths).nodup_leafPaths fun _ leaf =>
    (mem_leafPaths_ofPaths.mp leaf).2.1).length_le

/-- The depth of the tree of some paths is the length of the longest one. -/
theorem depth_ofPaths (paths : List (List String)) :
    (ofPaths paths).depth = (paths.map List.length).max?.getD 0 := by
  apply Nat.le_antisymm
  · apply (ordered_ofPaths paths).depth_le
    intro names rootPath
    rcases hasRootPath_ofPaths.mp rootPath with rfl | ⟨path, member, beginning⟩
    · exact Nat.zero_le _
    · exact beginning.length_le.trans
        (List.le_max?_getD_of_mem (List.mem_map_of_mem member))
  · cases greatest : (paths.map List.length).max? with
    | none => exact Nat.zero_le _
    | some length =>
        rcases List.mem_map.mp (List.max?_mem greatest) with ⟨path, member, rfl⟩
        have rootPath : (ofPaths paths).HasRootPath path :=
          hasRootPath_ofPaths.mpr (Or.inr ⟨path, member, List.prefix_refl path⟩)
        rcases rootPath with ⟨subtree, behind⟩
        exact (Nat.le_add_right _ _).trans (length_add_depth_le behind)

/-- The tree of its leaf paths is the tree itself. -/
theorem Ordered.ofPaths_leafPaths
    {tree : IncludeTree}
    (ordered : tree.Ordered) :
    ofPaths tree.leafPaths = tree := by
  by_cases isEmpty : tree.isEmpty = true
  · rw [isEmpty_iff.mp isEmpty]
    rfl
  · apply (ordered_ofPaths _).ext ordered
    intro names
    rw [hasRootPath_ofPaths, ordered.hasRootPath_iff, pathsToLeaves_eq isEmpty]
    constructor
    · rintro (isNil | beginning)
      · -- The tree has a leaf, and the empty path is the beginning of every
        -- path.
        rcases tree.exists_pathToLeaf with ⟨path, leaf⟩
        rw [pathsToLeaves_eq isEmpty] at leaf
        exact ⟨path, leaf, isNil ▸ List.nil_prefix⟩
      · exact beginning
    · exact Or.inr

/-- What the tree of some paths is determined by and what can be read off it.
Order and repetition of the paths do not matter.  The leaf paths are the
non-empty ones among the paths that are no proper beginning of another one; they
are listed in lexicographic order of their names, and so each of them once.  The
depth is the greatest length of a path.  The leaf paths determine the tree. -/
theorem ofPaths_determined (paths : List (List String)) :
    (∀ others : List (List String), (∀ path, path ∈ others ↔ path ∈ paths) →
        ofPaths others = ofPaths paths) ∧
      (∀ names, names ∈ (ofPaths paths).leafPaths ↔
        names ≠ [] ∧ names ∈ paths ∧ ∀ path ∈ paths, names <+: path →
          path = names) ∧
      (ofPaths paths).leafPaths.Pairwise (· < ·) ∧
      (ofPaths paths).depth = (paths.map List.length).max?.getD 0 ∧
      ofPaths (ofPaths paths).leafPaths = ofPaths paths :=
  ⟨fun _ same => ofPaths_congr same, fun _ => mem_leafPaths_ofPaths,
    (ordered_ofPaths paths).pairwise_leafPaths, depth_ofPaths paths,
    (ordered_ofPaths paths).ofPaths_leafPaths⟩

/-- A path that goes on in another one is no leaf path. -/
example :
    (ofPaths
        [["tags"], ["author"], ["author", "affiliation"], ["tags"]]).leafPaths =
      [["author", "affiliation"], ["tags"]] :=
  rfl

end JsonApi.IncludeTree
