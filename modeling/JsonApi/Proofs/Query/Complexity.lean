import JsonApi.Proofs.Query.LeafPaths
import JsonApi.Query.Specification
import Mathlib.Algebra.Group.Action.Defs
import Mathlib.Algebra.Order.BigOperators.Group.List
import Mathlib.Algebra.Ring.Nat

/-!
# The cost of inclusions

Inclusions are scored by the lengths of the leaf paths of their tree.  This sum
measures the work of following the tree: it is at least the number of places
below the root, each of which stands on the way to a leaf, and at most what it
would be if all leaves were as deep as the deepest one.  A tree in which every
root path of another one can be followed costs at least as much, because the
leaves of the other one are on the way to different leaves of its own
(`ComplexityScore.pathLengths_le`).  Asking for more is therefore never cheaper
(`ComplexityScore.inclusions_cost`).
-/

namespace JsonApi

open JsonApi.Text

namespace IncludeTree

/-! ## Places below the root -/

mutual

/-- The paths from the root to the places below it, each place before those
below it. -/
def places : IncludeTree → List (List String)
  | .node children => placesOf children

/-- The paths to places that begin with one of some relationships. -/
def placesOf : List (String × IncludeTree) → List (List String)
  | [] => []
  | (name, tree) :: children =>
      [name] :: tree.places.map (name :: ·) ++ placesOf children

end

theorem mem_placesOf
    {children : List (String × IncludeTree)}
    {names : List String} :
    names ∈ placesOf children ↔
      ∃ name subtree rest,
        (name, subtree) ∈ children ∧ (rest = [] ∨ rest ∈ subtree.places) ∧
          names = name :: rest := by
  induction children with
  | nil => simp [placesOf]
  | cons child children induction =>
      obtain ⟨name, subtree⟩ := child
      rw [placesOf, List.mem_append, induction, List.mem_cons, List.mem_map]
      constructor
      · rintro ((root | ⟨rest, inner, equal⟩) |
            ⟨other, behind, rest, member, inner, equal⟩)
        · exact ⟨name, subtree, [], List.mem_cons_self, Or.inl rfl, root⟩
        · exact ⟨name, subtree, rest, List.mem_cons_self, Or.inr inner,
            equal.symm⟩
        · exact ⟨other, behind, rest, List.mem_cons_of_mem _ member, inner,
            equal⟩
      · rintro ⟨other, behind, rest, member, inner, equal⟩
        rcases List.mem_cons.mp member with head | tail
        · cases head
          rcases inner with isEmpty | inner
          · exact Or.inl (Or.inl (by rw [equal, isEmpty]))
          · exact Or.inl (Or.inr ⟨rest, inner, equal.symm⟩)
        · exact Or.inr ⟨other, behind, rest, tail, inner, equal⟩

/-- The places below the root of an ordered tree are reached by its non-empty
root paths. -/
theorem Ordered.mem_places
    {tree : IncludeTree}
    (ordered : tree.Ordered)
    {names : List String} :
    names ∈ tree.places ↔ names ≠ [] ∧ tree.HasRootPath names := by
  induction tree using IncludeTree.induction generalizing names with
  | node children induction =>
      rw [places, mem_placesOf]
      constructor
      · rintro ⟨name, subtree, rest, member, inner, rfl⟩
        have child := ordered.child?_of_mem member
        refine ⟨List.cons_ne_nil _ _, hasRootPath_cons.mpr ⟨subtree, child, ?_⟩⟩
        rcases inner with rfl | inner
        · exact hasRootPath_nil subtree
        · exact ((induction name subtree member (ordered.child? child)).mp
              inner).2
      · rintro ⟨nonempty, rootPath⟩
        rcases List.exists_cons_of_ne_nil nonempty with ⟨name, rest, rfl⟩
        rcases hasRootPath_cons.mp rootPath with ⟨subtree, found, inner⟩
        have member := Dictionary.mem_of_find? found
        refine ⟨name, subtree, rest, member, ?_, rfl⟩
        by_cases isEmpty : rest = []
        · exact Or.inl isEmpty
        · exact Or.inr
            ((induction name subtree member (ordered.child? found)).mpr
                ⟨isEmpty, inner⟩)

theorem nodup_placesOf
    {children : List (String × IncludeTree)}
    (ascending : Dictionary.Ascending children)
    (inner : ∀ name subtree, (name, subtree) ∈ children →
      subtree.Ordered ∧ subtree.places.Nodup) :
    (placesOf children).Nodup := by
  induction children with
  | nil => exact List.nodup_nil
  | cons child children induction =>
      obtain ⟨name, subtree⟩ := child
      rcases List.pairwise_cons.mp ascending with ⟨below, tail⟩
      rcases inner name subtree List.mem_cons_self with ⟨ordered, distinct⟩
      have rest := induction tail fun other behind member =>
        inner other behind (List.mem_cons_of_mem _ member)
      rw [placesOf, List.nodup_append]
      refine ⟨List.nodup_cons.mpr ⟨?_, distinct.map (List.cons_injective)⟩,
        rest, ?_⟩
      · -- The root itself is no place below it.
        intro again
        rcases List.mem_map.mp again with ⟨names, place, equal⟩
        cases equal
        exact (ordered.mem_places.mp place).1 rfl
      · intro first firstMember second secondMember same
        rcases mem_placesOf.mp secondMember with
          ⟨other, behind, right, member, _, isSecond⟩
        have beginning : first.head? = some name := by
          rcases List.mem_cons.mp firstMember with rfl | firstMember
          · rfl
          · rcases List.mem_map.mp firstMember with ⟨left, _, rfl⟩
            rfl
        rw [same, isSecond, List.head?_cons, Option.some.injEq] at beginning
        exact absurd (below (other, behind) member)
          (beginning ▸ lt_irrefl other)

theorem Ordered.nodup_places
    {tree : IncludeTree}
    (ordered : tree.Ordered) :
    tree.places.Nodup := by
  induction tree using IncludeTree.induction with
  | node children induction =>
      cases ordered with
      | node ascending inner =>
          exact nodup_placesOf ascending fun name subtree member =>
            ⟨inner name subtree member,
                induction name subtree member (inner name subtree member)⟩

/-! ## Lengths of leaf paths -/

/-- No root path goes on behind a leaf. -/
theorem Ordered.eq_of_leaf_prefix
    {tree : IncludeTree}
    (ordered : tree.Ordered)
    {leaf names : List String}
    (isLeaf : leaf ∈ tree.leafPaths)
    (rootPath : tree.HasRootPath names)
    (beginning : leaf <+: names) :
    names = leaf := by
  rcases beginning with ⟨rest, rfl⟩
  cases rest with
  | nil => exact List.append_nil leaf
  | cons next rest =>
      rw [List.append_cons] at rootPath
      exact absurd rootPath.of_append
        ((ordered.mem_leafPaths_iff.mp isLeaf).2.2 next)

/-- Different leaves are not on the way to one place. -/
theorem Ordered.eq_of_prefixes
    {tree : IncludeTree}
    (ordered : tree.Ordered)
    {first second names : List String}
    (firstLeaf : first ∈ tree.leafPaths)
    (secondLeaf : second ∈ tree.leafPaths)
    (firstBegins : first <+: names)
    (secondBegins : second <+: names) :
    first = second := by
  have firstRoot := (ordered.mem_leafPaths_iff.mp firstLeaf).2.1
  have secondRoot := (ordered.mem_leafPaths_iff.mp secondLeaf).2.1
  -- Of two beginnings of one path, one is a beginning of the other.
  rcases List.prefix_or_prefix_of_prefix firstBegins secondBegins with
    before | behind
  · exact (ordered.eq_of_leaf_prefix firstLeaf secondRoot before).symm
  · exact ordered.eq_of_leaf_prefix secondLeaf firstRoot behind

/-- Every place below the root is on the way to a leaf. -/
theorem Ordered.exists_leaf
    {tree : IncludeTree}
    (ordered : tree.Ordered)
    {names : List String}
    (nonempty : names ≠ [])
    (rootPath : tree.HasRootPath names) :
    ∃ leaf ∈ tree.leafPaths, names <+: leaf := by
  rcases ordered.hasRootPath_iff.mp rootPath with ⟨leaf, isLeaf, beginning⟩
  rw [pathsToLeaves] at isLeaf
  split at isLeaf
  · rw [List.mem_singleton.mp isLeaf, List.prefix_nil] at beginning
    exact absurd beginning nonempty
  · exact ⟨leaf, isLeaf, beginning⟩

end IncludeTree

namespace ComplexityScore

open IncludeTree

theorem pathLengths_eq_sum (tree : IncludeTree) :
    pathLengths tree = (tree.leafPaths.map List.length).sum :=
  List.sum_eq_foldr.symm

/-- A tree in which all root paths of another one can be followed costs at least
as much. -/
theorem pathLengths_le
    {tree other : IncludeTree}
    (ordered : tree.Ordered)
    (otherOrdered : other.Ordered)
    (included : ∀ names, tree.HasRootPath names → other.HasRootPath names) :
    pathLengths tree ≤ pathLengths other := by
  have extended :
      ∀ path ∈ tree.leafPaths, ∃ leaf, leaf ∈ other.leafPaths ∧
        path <+: leaf := by
    intro path member
    rcases ordered.mem_leafPaths_iff.mp member with ⟨nonempty, rootPath, _⟩
    exact otherOrdered.exists_leaf nonempty (included path rootPath)
  choose! extension isLeaf beginning using extended
  have distinct : (tree.leafPaths.map extension).Nodup := by
    apply ordered.nodup_leafPaths.map_on
    intro first firstLeaf second secondLeaf same
    exact ordered.eq_of_prefixes firstLeaf secondLeaf
      (beginning first firstLeaf) (same ▸ beginning second secondLeaf)
  have within :=
    List.subperm_of_subset distinct (List.forall_mem_map.mpr isLeaf)
  rw [pathLengths_eq_sum, pathLengths_eq_sum]
  calc (tree.leafPaths.map List.length).sum
      ≤ ((tree.leafPaths.map extension).map List.length).sum := by
        rw [List.map_map]
        exact List.sum_le_sum fun path member =>
          (beginning path member).length_le
    _ ≤ (other.leafPaths.map List.length).sum := by
        rcases within with ⟨leaves, perm, sublist⟩
        rw [← (perm.map List.length).sum_eq]
        exact (sublist.map List.length).sum_le_sum fun _ _ => Nat.zero_le _

/-- There are at most as many places below the root as beginnings of leaf
paths. -/
theorem length_places_le
    {tree : IncludeTree}
    (ordered : tree.Ordered) :
    tree.places.length ≤ pathLengths tree := by
  have within : tree.places ⊆ tree.leafPaths.flatMap fun path =>
      path.inits.tail := by
    intro names place
    rcases ordered.mem_places.mp place with ⟨nonempty, rootPath⟩
    rcases ordered.exists_leaf nonempty rootPath with ⟨leaf, isLeaf, beginning⟩
    have isInit := (List.mem_inits names leaf).mpr beginning
    have emptyFirst : leaf.inits = [] :: leaf.inits.tail := by
      cases leaf <;> simp
    rw [emptyFirst] at isInit
    exact List.mem_flatMap.mpr
      ⟨leaf, isLeaf, List.mem_of_ne_of_mem nonempty isInit⟩
  have fewer := (List.subperm_of_subset ordered.nodup_places within).length_le
  rw [pathLengths_eq_sum]
  simpa [List.length_flatMap] using fewer

/-- No leaf path is longer than the tree is deep. -/
theorem pathLengths_le_depth_mul
    {tree : IncludeTree}
    (ordered : tree.Ordered) :
    pathLengths tree ≤ tree.depth * tree.leafPaths.length := by
  have bounded : ∀ length ∈ tree.leafPaths.map List.length,
      length ≤ tree.depth := by
    intro length member
    rcases List.mem_map.mp member with ⟨leaf, isLeaf, rfl⟩
    rcases (ordered.mem_leafPaths_iff.mp isLeaf).2.1 with ⟨subtree, behind⟩
    exact (Nat.le_add_right _ _).trans (length_add_depth_le behind)
  have sum := List.sum_le_card_nsmul _ _ bounded
  rwa [List.length_map, smul_eq_mul, mul_comm, ← pathLengths_eq_sum] at sum

/-! ## Weighted totals -/

/-- The weighted sum of the sizes of the parts of a request, without a limit. -/
def weightedSum
    (weights : ComplexityWeights)
    (tree : IncludeTree)
    (fields : FieldSelection)
    (filter : Option Filter) : Nat :=
  weights.inclusion * pathLengths tree + weights.field * fields.total +
    weights.filter * (filter.map Filter.nodeCount).getD 0

/-- Stopping every part at the greatest count is the same as stopping the sum
there. -/
theorem total_eq_min
    (weights : ComplexityWeights)
    (tree : IncludeTree)
    (fields : FieldSelection)
    (filter : Option Filter) :
    (ofParts weights tree fields filter).total =
      min (weightedSum weights tree fields filter) (wordLimit - 1) := by
  simp only [ofParts, weightedSum, saturatingMul, saturatingAdd]
  omega

/-- Longer leaf paths do not lower the total. -/
theorem total_mono
    {tree other : IncludeTree}
    (shorter : pathLengths tree ≤ pathLengths other)
    (weights : ComplexityWeights)
    (fields : FieldSelection)
    (filter : Option Filter) :
    (ofParts weights tree fields filter).total ≤
      (ofParts weights other fields filter).total := by
  have weighted := Nat.mul_le_mul_left weights.inclusion shorter
  rw [total_eq_min, total_eq_min, weightedSum, weightedSum]
  omega

/-- The score of inclusions measures the work that they ask for.  One more path
never lowers the sum of the lengths of the leaf paths, and no tree that is asked
for with more paths has a lower total score.  The sum is at least the number of
the places below the root, which are those that the non-empty root paths lead
to, each counted once; and it is at most the depth of the tree times the number
of its leaf paths. -/
theorem inclusions_cost (paths : List (List String)) :
    (∀ path, pathLengths (ofPaths paths) ≤
        pathLengths ((ofPaths paths).insert path)) ∧
      (∀ others : List (List String), (∀ path ∈ paths, path ∈ others) →
        ∀ weights fields filter,
          (ofParts weights (ofPaths paths) fields filter).total ≤
            (ofParts weights (ofPaths others) fields filter).total) ∧
      (∀ names, names ∈ (ofPaths paths).places ↔
        names ≠ [] ∧ (ofPaths paths).HasRootPath names) ∧
      (ofPaths paths).places.Nodup ∧
      (ofPaths paths).places.length ≤ pathLengths (ofPaths paths) ∧
      pathLengths (ofPaths paths) ≤
        (ofPaths paths).depth * (ofPaths paths).leafPaths.length := by
  have ordered := ordered_ofPaths paths
  refine ⟨?_, ?_, fun names => ordered.mem_places, ordered.nodup_places,
    length_places_le ordered, pathLengths_le_depth_mul ordered⟩
  · intro path
    exact pathLengths_le ordered (ordered.insert path) fun names old =>
      hasRootPath_insert.mpr (Or.inr old)
  · intro others more weights fields filter
    apply total_mono
    apply pathLengths_le ordered (ordered_ofPaths others)
    intro names rootPath
    rw [hasRootPath_ofPaths] at rootPath ⊢
    exact rootPath.imp_right fun ⟨path, member, beginning⟩ =>
      ⟨path, more path member, beginning⟩

end ComplexityScore

end JsonApi
