import JsonApi.Proofs.FirstOccurrences
import JsonApi.Proofs.Query.LeafPaths
import JsonApi.Proofs.Schema
import JsonApi.Proofs.Text.Pieces

/-!
# Resolved include trees

A requested path is admitted if its names are non-empty, not too many, and a
chain of declared relationships (`AdmittedPath`); otherwise it has one of the
faults of `EntryFault`.  A request is resolved exactly where all its paths are
admitted and there are not too many of them, and then to the tree of these
paths (`resolve_eq_ok_iff`); otherwise every path at fault is reported, once
and in the order in which the paths first occur (`resolve_reports`).

Every root path of a resolved tree is therefore a chain of declared
relationships whose names are non-empty and free of dots (`Resolved`), the tree
keeps to the limits, and it is resolved again from its leaf paths, under the
limits that it was resolved under (`resolve_leafPaths`).
-/

namespace JsonApi.IncludeTree

open JsonApi.Text

variable {schema : Schema} {maxDepth maxPaths : Nat} {resourceType : String}

/-! ## One path -/

/-- A name that stands for itself in a dotted path. -/
def PlainName (name : String) : Prop :=
  name ≠ "" ∧ '.' ∉ name.toList

/-- What is checked of a requested path. -/
structure AdmittedPath
    (schema : Schema)
    (maxDepth : Nat)
    (resourceType : String)
    (path : List String) : Prop where
  plain : ∀ name ∈ path, PlainName name
  short : path.length ≤ maxDepth
  declared : ∃ final, schema.Chain resourceType path final

/-- What is wrong with a requested path: an empty name counts before too great a
depth, and that before a name that is no relationship of the type reached. -/
inductive EntryFault
    (schema : Schema)
    (maxDepth : Nat)
    (resourceType entry : String) :
    ValidationError → Prop where
  | emptySegment (isEmpty : "" ∈ splitAt '.' entry) :
      EntryFault schema maxDepth resourceType entry (.emptyIncludeSegment entry)
  | tooDeep
      (nonempty : "" ∉ splitAt '.' entry)
      (deep : maxDepth < (splitAt '.' entry).length) :
      EntryFault schema maxDepth resourceType entry
        (.includeTooDeep entry (splitAt '.' entry).length maxDepth)
  | unknownRelationship
      {before after : List String}
      {name reached : String}
      (nonempty : "" ∉ splitAt '.' entry)
      (short : (splitAt '.' entry).length ≤ maxDepth)
      (split : splitAt '.' entry = before ++ name :: after)
      (chain : schema.Chain resourceType before reached)
      (undeclared : schema.relationship? reached name = none) :
      EntryFault schema maxDepth resourceType entry
        (.unknownRelationship entry name reached)

theorem admittedPath_splitAt_iff {entry : String} :
    AdmittedPath schema maxDepth resourceType (splitAt '.' entry) ↔
      "" ∉ splitAt '.' entry ∧ (splitAt '.' entry).length ≤ maxDepth ∧
        ∃ final, schema.Chain resourceType (splitAt '.' entry) final := by
  constructor
  · intro admitted
    exact ⟨fun isEmpty => (admitted.plain "" isEmpty).1 rfl, admitted.short,
      admitted.declared⟩
  · rintro ⟨nonempty, short, declared⟩
    refine ⟨fun name member => ⟨?_, not_mem_of_mem_splitAt member⟩, short,
      declared⟩
    rintro rfl
    exact nonempty member

/-- A path that is not admitted has a fault. -/
theorem admitted_or_entryFault
    (schema : Schema)
    (maxDepth : Nat)
    (resourceType entry : String) :
    AdmittedPath schema maxDepth resourceType (splitAt '.' entry) ∨
      ∃ error, EntryFault schema maxDepth resourceType entry error := by
  rw [admittedPath_splitAt_iff]
  by_cases isEmpty : "" ∈ splitAt '.' entry
  · exact Or.inr ⟨_, .emptySegment isEmpty⟩
  · rcases Nat.lt_or_ge maxDepth (splitAt '.' entry).length with deep | short
    · exact Or.inr ⟨_, .tooDeep isEmpty deep⟩
    · cases walked : walk schema resourceType (splitAt '.' entry) with
      | ok _ => exact Or.inl ⟨isEmpty, short, walk_eq_ok_iff.mp walked⟩
      | error refusal =>
          rcases walk_eq_error_iff.mp walked with
            ⟨before, after, split, chain, undeclared⟩
          exact Or.inr
            ⟨_, .unknownRelationship isEmpty short split chain undeclared⟩

theorem AdmittedPath.checkPath_eq
    {entry : String}
    (admitted : AdmittedPath schema maxDepth resourceType (splitAt '.' entry)) :
    checkPath schema maxDepth resourceType entry = .ok (splitAt '.' entry) := by
  rcases admittedPath_splitAt_iff.mp admitted with ⟨nonempty, short, declared⟩
  have noEmpty : ¬(splitAt '.' entry).contains "" = true := fun member =>
    nonempty (List.contains_iff_mem.mp member)
  rw [checkPath]
  simp only [if_neg noEmpty, if_neg (Nat.not_lt.mpr short),
    walk_eq_ok_iff.mpr declared]

theorem EntryFault.checkPath_eq
    {entry : String}
    {error : ValidationError}
    (fault : EntryFault schema maxDepth resourceType entry error) :
    checkPath schema maxDepth resourceType entry = .error error := by
  rw [checkPath]
  cases fault with
  | emptySegment isEmpty =>
      simp only [if_pos (List.contains_iff_mem.mpr isEmpty)]
  | tooDeep nonempty deep =>
      simp only [if_neg (mt List.contains_iff_mem.mp nonempty), if_pos deep]
  | unknownRelationship nonempty short split chain undeclared =>
      have walked := walk_eq_error_iff.mpr ⟨_, _, split, chain, undeclared⟩
      simp only [if_neg (mt List.contains_iff_mem.mp nonempty),
        if_neg (Nat.not_lt.mpr short), walked]

theorem checkPath_eq_error_iff
    {entry : String}
    {error : ValidationError} :
    checkPath schema maxDepth resourceType entry = .error error ↔
      EntryFault schema maxDepth resourceType entry error := by
  constructor
  · intro refused
    rcases admitted_or_entryFault schema maxDepth resourceType entry with
      admitted | ⟨_, fault⟩
    · cases admitted.checkPath_eq.symm.trans refused
    · cases fault.checkPath_eq.symm.trans refused
      exact fault
  · exact EntryFault.checkPath_eq

/-- The paths at fault are those that are not admitted. -/
theorem exists_entryFault_iff {entry : String} :
    (∃ error, EntryFault schema maxDepth resourceType entry error) ↔
      ¬AdmittedPath schema maxDepth resourceType (splitAt '.' entry) := by
  constructor
  · rintro ⟨error, fault⟩ admitted
    cases admitted.checkPath_eq.symm.trans fault.checkPath_eq
  · exact (admitted_or_entryFault schema maxDepth resourceType
        entry).resolve_left

/-! ## All requested paths -/

/-- The fault of a requested path, if it has one. -/
theorem flatMap_errorOf_map
    {α : Type}
    (check : String → Except ValidationError α)
    (entries : List String) :
    (entries.map check).flatMap errorOf =
      entries.filterMap fun entry => (errorOf (check entry)).head? := by
  induction entries with
  | nil => rfl
  | cons entry entries induction =>
      rw [List.map_cons, List.flatMap_cons, induction]
      cases checked : check entry <;> simp [checked, errorOf]

theorem errorOf_checkPath_iff
    {entry : String}
    {error : ValidationError} :
    (errorOf (checkPath schema maxDepth resourceType entry)).head? =
      some error ↔
      EntryFault schema maxDepth resourceType entry error := by
  rw [← checkPath_eq_error_iff]
  cases checkPath schema maxDepth resourceType entry <;> simp [errorOf]

/-- Paths that are all admitted are inserted as they are. -/
theorem foldl_insertChecked
    {entries : List String}
    (admitted : ∀ entry ∈ entries,
      AdmittedPath schema maxDepth resourceType (splitAt '.' entry)) :
    (entries.map (checkPath schema maxDepth resourceType)).foldl insertChecked
      empty =
      ofPaths (entries.map (splitAt '.')) := by
  have checked :
      entries.map (checkPath schema maxDepth resourceType) =
        (entries.map (splitAt '.')).map .ok := by
    rw [List.map_map]
    exact List.map_congr_left fun entry member =>
      (admitted entry member).checkPath_eq
  rw [checked, List.foldl_map]
  rfl

/-- Requested paths are resolved if all of them are admitted and there are not
too many different ones, and then to the tree of these paths. -/
theorem resolve_eq_ok_iff
    {requested : List String}
    {tree : IncludeTree} :
    resolve schema maxDepth maxPaths resourceType requested = .ok tree ↔
      requested.toFinset.card ≤ maxPaths ∧
        (∀ entry ∈ requested,
            AdmittedPath schema maxDepth resourceType (splitAt '.' entry)) ∧
        tree = ofPaths ((firstOccurrences requested).map (splitAt '.')) := by
  have faultless :
      ((firstOccurrences requested).map
          (checkPath schema maxDepth resourceType)).flatMap errorOf = [] ↔
        ∀ entry ∈ requested,
          AdmittedPath schema maxDepth resourceType (splitAt '.' entry) := by
    rw [flatMap_errorOf_map, List.filterMap_eq_nil_iff]
    refine forall_congr' fun entry => imp_congr mem_firstOccurrences ?_
    rw [Option.eq_none_iff_forall_ne_some]
    simp only [ne_eq, errorOf_checkPath_iff, ← not_exists,
      exists_entryFault_iff, not_not]
  rw [resolve, ValidationErrors.unlessAny_eq_ok_iff, List.append_eq_nil_iff,
    faultless, length_firstOccurrences, and_assoc]
  refine and_congr (by simp) (and_congr_right fun admitted => ?_)
  rw [foldl_insertChecked fun entry member =>
    admitted entry (mem_firstOccurrences.mp member), eq_comm]

/-- A resolved tree is the tree of admitted paths, of which there are not too
many. -/
theorem resolve_eq_ok
    {requested : List String}
    {tree : IncludeTree}
    (resolved :
      resolve schema maxDepth maxPaths resourceType requested = .ok tree) :
    ∃ paths, tree = ofPaths paths ∧ paths.length ≤ maxPaths ∧
      ∀ path ∈ paths, AdmittedPath schema maxDepth resourceType path := by
  rcases resolve_eq_ok_iff.mp resolved with ⟨few, admitted, built⟩
  refine ⟨_, built, by rwa [List.length_map, length_firstOccurrences], ?_⟩
  intro path member
  rcases List.mem_map.mp member with ⟨entry, isEntry, rfl⟩
  exact admitted entry (mem_firstOccurrences.mp isEntry)

/-- A request is resolved if there are not too many different paths and all of
them are admitted; the root paths of its tree are the beginnings of the
requested paths.  Otherwise the report begins with the number of paths, if that
is too great, and goes on with one fault of each different path that is not
admitted, in the order in which these first occur. -/
theorem resolve_reports
    (schema : Schema)
    (maxDepth maxPaths : Nat)
    (resourceType : String)
    (requested : List String) :
    ((∃ tree,
        resolve schema maxDepth maxPaths resourceType requested = .ok tree) ↔
        requested.toFinset.card ≤ maxPaths ∧
          ∀ entry ∈ requested,
            AdmittedPath schema maxDepth resourceType (splitAt '.' entry)) ∧
      (∀ tree,
          resolve schema maxDepth maxPaths resourceType requested = .ok tree →
        ∀ names, tree.HasRootPath names ↔
          names = [] ∨ ∃ entry ∈ requested, names <+: splitAt '.' entry) ∧
      ∀ report, resolve schema maxDepth maxPaths resourceType requested =
        .error report →
        ∃ invalid faults,
          FirstOccurring
              (fun entry => ¬AdmittedPath schema maxDepth resourceType
                  (splitAt '.' entry))
              requested invalid ∧
            List.Forall₂ (EntryFault schema maxDepth resourceType) invalid
              faults ∧
            report.errors =
              (if maxPaths < requested.toFinset.card then
                [.tooManyIncludePaths requested.toFinset.card maxPaths]
              else []) ++ faults := by
  refine ⟨?_, ?_, ?_⟩
  · simp only [resolve_eq_ok_iff, exists_and_left, exists_eq, and_true]
  · intro tree resolved names
    rw [(resolve_eq_ok_iff.mp resolved).2.2, hasRootPath_ofPaths]
    simp only [List.mem_map, mem_firstOccurrences, exists_exists_and_eq_and]
  · intro report refused
    rw [resolve, ValidationErrors.unlessAny_eq_error_iff, flatMap_errorOf_map,
      length_firstOccurrences] at refused
    rcases exists_firstOccurring_filterMap
      (fun entry =>
          (errorOf (checkPath schema maxDepth resourceType entry)).head?)
        requested with
      ⟨invalid, listed, reported⟩
    simp only [errorOf_checkPath_iff, exists_entryFault_iff] at listed reported
    exact ⟨invalid, _, listed, reported, refused.2⟩

/-- Three different paths where two are allowed; of these one is too deep, and
one has an empty name. -/
example :
    (resolve ⟨[("people", ⟨[], [("friend", ⟨"people", false⟩)]⟩)]⟩ 2 2 "people"
        ["friend.friend.friend", "friend", "friend.", "friend", "friend."]).map
          leafPaths =
      .error
        ⟨[.tooManyIncludePaths 3 2, .includeTooDeep "friend.friend.friend" 3 2,
        .emptyIncludeSegment "friend."], List.cons_ne_nil _ _⟩ :=
  rfl

/-! ## Trees of plain names -/

/-- No name in the tree is empty or has a dot. -/
inductive Plain : IncludeTree → Prop where
  | node
      {children : List (String × IncludeTree)}
      (names : ∀ name subtree, (name, subtree) ∈ children → PlainName name)
      (inner : ∀ name subtree, (name, subtree) ∈ children → Plain subtree) :
      Plain (.node children)

theorem Plain.child
    {tree subtree : IncludeTree}
    {name : String}
    (plain : tree.Plain)
    (member : (name, subtree) ∈ tree.children) :
    PlainName name ∧ subtree.Plain := by
  cases plain with
  | node names inner =>
      exact ⟨names name subtree member, inner name subtree member⟩

theorem Plain.of_hasRootPath
    {tree : IncludeTree}
    (plain : tree.Plain)
    {names : List String}
    (rootPath : tree.HasRootPath names) :
    ∀ name ∈ names, PlainName name := by
  induction names generalizing tree with
  | nil => exact List.forall_mem_nil _
  | cons name names induction =>
      rcases hasRootPath_cons.mp rootPath with ⟨subtree, found, rest⟩
      have below := plain.child (Dictionary.mem_of_find? found)
      exact List.forall_mem_cons.mpr ⟨below.1, induction below.2 rest⟩

/-- An ordered tree with plain names on its root paths has no other names. -/
theorem Ordered.plain
    {tree : IncludeTree}
    (ordered : tree.Ordered)
    (plain : ∀ names, tree.HasRootPath names → ∀ name ∈ names, PlainName name) :
    tree.Plain := by
  induction tree using IncludeTree.induction with
  | node children induction =>
      refine .node ?_ ?_
      · intro name subtree member
        have path : (IncludeTree.node children).HasRootPath [name] :=
          hasRootPath_cons.mpr
            ⟨subtree, ordered.child?_of_mem member, hasRootPath_nil subtree⟩
        exact plain [name] path name List.mem_cons_self
      · intro name subtree member
        have found := ordered.child?_of_mem member
        apply induction name subtree member (ordered.child? found)
        intro names path other isOther
        exact plain
          (name :: names) (hasRootPath_cons.mpr ⟨subtree, found, path⟩) other
          (List.mem_cons_of_mem name isOther)

/-! ## What can be relied on -/

/-- What a document can rely on in the include tree of a resource type. -/
structure Resolved
    (schema : Schema)
    (resourceType : String)
    (tree : IncludeTree) : Prop where
  ordered : tree.Ordered
  plain : ∀ names, tree.HasRootPath names → ∀ name ∈ names, PlainName name
  declared : ∀ names, tree.HasRootPath names →
    ∃ final, schema.Chain resourceType names final

/-- Every root path of a tree of admitted paths is admitted. -/
theorem admitted_of_hasRootPath
    {paths : List (List String)}
    (admitted : ∀ path ∈ paths, AdmittedPath schema maxDepth resourceType path)
    {names : List String}
    (rootPath : (ofPaths paths).HasRootPath names) :
    AdmittedPath schema maxDepth resourceType names := by
  rcases hasRootPath_ofPaths.mp rootPath with
    isNil | ⟨path, member, rest, equal⟩
  · subst isNil
    exact ⟨by simp, Nat.zero_le _, resourceType, .nil resourceType⟩
  · have whole := admitted path member
    subst equal
    rcases whole.declared with ⟨final, chain⟩
    rcases chain.split with ⟨middle, first, _⟩
    refine ⟨?_, ?_, middle, first⟩
    · exact fun name inNames =>
        whole.plain name (List.mem_append_left rest inNames)
    · have short := whole.short
      simp only [List.length_append] at short
      omega

theorem resolved_of_resolve
    {requested : List String}
    {tree : IncludeTree}
    (resolved :
      resolve schema maxDepth maxPaths resourceType requested = .ok tree) :
    Resolved schema resourceType tree := by
  rcases resolve_eq_ok resolved with ⟨paths, equal, _, admitted⟩
  subst equal
  exact
    { ordered := ordered_ofPaths paths
      plain := fun _ rootPath =>
        (admitted_of_hasRootPath admitted rootPath).plain
      declared := fun _ rootPath =>
        (admitted_of_hasRootPath admitted rootPath).declared }

/-- A resolved tree keeps to the limits. -/
theorem limits_of_resolve
    {requested : List String}
    {tree : IncludeTree}
    (resolved :
      resolve schema maxDepth maxPaths resourceType requested = .ok tree) :
    tree.depth ≤ maxDepth ∧ tree.leafPaths.length ≤ maxPaths := by
  rcases resolve_eq_ok resolved with ⟨paths, equal, count, admitted⟩
  subst equal
  constructor
  · exact (ordered_ofPaths paths).depth_le fun names rootPath =>
      (admitted_of_hasRootPath admitted rootPath).short
  · exact (length_leafPaths_ofPaths_le paths).trans count

/-! ## Resolving again -/

/-- A resolved tree is resolved again from its leaf paths. -/
theorem resolve_leafPaths
    {requested : List String}
    {tree : IncludeTree}
    (resolved :
      resolve schema maxDepth maxPaths resourceType requested = .ok tree) :
    resolve schema maxDepth maxPaths resourceType
      (tree.leafPaths.map (joinWith '.')) =
      .ok tree := by
  have few := (limits_of_resolve resolved).2
  rcases resolve_eq_ok resolved with ⟨paths, rfl, _, allAdmitted⟩
  have ordered := ordered_ofPaths paths
  have admitted :
      ∀ path ∈ (ofPaths paths).leafPaths,
        AdmittedPath schema maxDepth resourceType path :=
    fun path leaf => allAdmitted path (mem_leafPaths_ofPaths.mp leaf).2.1
  have cut : ∀ path ∈ (ofPaths paths).leafPaths,
      splitAt '.' (joinWith '.' path) = path :=
    fun path leaf =>
      splitAt_joinWith (mem_leafPaths_ofPaths.mp leaf).1 fun name member =>
      ((admitted path leaf).plain name member).2
  have distinct : ((ofPaths paths).leafPaths.map (joinWith '.')).Nodup := by
    apply ordered.nodup_leafPaths.map_on
    intro first firstLeaf second secondLeaf same
    rw [← cut first firstLeaf, same, cut second secondLeaf]
  rw [resolve_eq_ok_iff, List.toFinset_card_of_nodup distinct,
    firstOccurrences_of_nodup distinct, List.length_map, List.map_map]
  refine ⟨few, ?_, ?_⟩
  · intro entry member
    rcases List.mem_map.mp member with ⟨path, leaf, rfl⟩
    rw [cut path leaf]
    exact admitted path leaf
  · have unchanged :
        (ofPaths paths).leafPaths.map (splitAt '.' ∘ joinWith '.') =
          (ofPaths paths).leafPaths :=
      (List.map_congr_left cut).trans (List.map_id' _)
    rw [unchanged, ordered.ofPaths_leafPaths]

end JsonApi.IncludeTree
