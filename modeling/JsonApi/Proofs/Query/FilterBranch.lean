import JsonApi.Proofs.Dictionary
import JsonApi.Proofs.Outcome
import JsonApi.Query.Parameters
import Mathlib.Data.List.Induction

/-!
# Leaves of a filter tree

A tree is known by its leaves, each a path of keys with a value (`leafAt?`).  A
leaf that is added stands where the segments of its path lead, all other leaves
are as they were, and the tree has no empty branches (`adds_of_insertLeaf`).  A
leaf can be added at a path that is no part of the path of another leaf and has
no such part itself (`insertLeaf_of_free`).  Leaves that are added
one after the other are therefore all there (`insertLeaves_of_apart`).
-/

namespace JsonApi.FilterBranch

open Dictionary

/-- The value of the leaf at a path. -/
def leafAt? : List String → FilterBranch → Option String
  | [], .leaf value => some value
  | [], .branch _ => none
  | _ :: _, .leaf _ => none
  | key :: path, .branch entries => (find? entries key).bind (leafAt? path)

/-- The keys ascend everywhere, and no branch is empty. -/
inductive Sound : FilterBranch → Prop where
  | leaf (value : String) : Sound (.leaf value)
  | branch
      {entries : List (String × FilterBranch)}
      (ascending : Ascending entries)
      (nonempty : entries ≠ [])
      (inner : ∀ entry ∈ entries, Sound entry.2) :
      Sound (.branch entries)

/-- The entries of a sound branch, or none at all. -/
structure SoundEntries (entries : List (String × FilterBranch)) : Prop where
  ascending : Ascending entries
  inner : ∀ entry ∈ entries, Sound entry.2

/-- The tree has exactly these leaves. -/
def HasLeaves
    (tree : FilterBranch)
    (leaves : List (List String × String)) : Prop :=
  ∀ path value, leafAt? path tree = some value ↔ (path, value) ∈ leaves

/-- Neither of two paths leads through the end of the other. -/
def Apart (first second : List String × String) : Prop :=
  ¬first.1 <+: second.1 ∧ ¬second.1 <+: first.1

/-- No leaf stands above or below the path. -/
def Free (path : List String) (entries : List (String × FilterBranch)) : Prop :=
  ∀ other value, leafAt? other (.branch entries) = some value →
    other <+: path ∨ path <+: other → other = path

variable {entries : List (String × FilterBranch)} {tree made : FilterBranch}
  {key segment value : String} {path rest : List String}

theorem soundEntries_nil : SoundEntries [] :=
  ⟨Ascending.nil, by simp⟩

theorem Sound.soundEntries (sound : Sound (.branch entries)) :
    SoundEntries entries := by
  cases sound with
  | branch ascending nonempty inner => exact ⟨ascending, inner⟩

theorem SoundEntries.insert
    (sound : SoundEntries entries)
    (soundMade : Sound made)
    (key : String) :
    SoundEntries (insert key made entries) where
  ascending := sound.ascending.insert key made
  inner := by
    intro entry member
    rcases mem_insert_cases member with isMade | old
    · rw [isMade]
      exact soundMade
    · exact sound.inner entry old

theorem SoundEntries.sound_of_find?
    (sound : SoundEntries entries)
    (found : find? entries key = some tree) :
    Sound tree :=
  sound.inner (key, tree) (mem_of_find? found)

/-- Without empty branches every tree has a leaf. -/
theorem Sound.exists_leaf (sound : Sound tree) :
    ∃ path value, leafAt? path tree = some value := by
  induction sound with
  | leaf value => exact ⟨[], value, rfl⟩
  | @branch entries ascending nonempty inner induction =>
      rcases List.exists_mem_of_ne_nil entries nonempty with
        ⟨⟨key, inner⟩, member⟩
      rcases induction _ member with ⟨path, value, isLeaf⟩
      refine ⟨key :: path, value, ?_⟩
      rw [leafAt?, ascending.find?_of_mem member]
      exact isLeaf

/-! ## Adding a leaf -/

/-- The entries after a leaf was added at a path. -/
structure Adds
    (path : List String)
    (value : String)
    (entries changed : List (String × FilterBranch)) : Prop where
  sound : SoundEntries changed
  nonempty : changed ≠ []
  leaves : ∀ other, leafAt? other (.branch changed) =
    if other = path then some value else leafAt? other (.branch entries)

variable {inner created changed : List (String × FilterBranch)}

/-- A leaf that is added below one key is added to the whole. -/
theorem adds_of_below
    (sound : SoundEntries entries)
    (soundMade : Sound made)
    (below : ∀ other, leafAt? other made =
      if other = rest then some value
        else (find? entries segment).bind (leafAt? other)) :
    Adds (segment :: rest) value entries (insert segment made entries) where
  sound := sound.insert soundMade segment
  nonempty := by
    intro empty
    have found := find?_insert_self segment made entries
    rw [empty] at found
    cases found
  leaves := by
    intro other
    cases other with
    | nil => rfl
    | cons key other =>
        rw [leafAt?, leafAt?]
        by_cases same : key = segment
        · subst same
          rw [find?_insert_self, Option.bind_some, below]
          simp
        · rw [find?_insert_of_ne same, if_neg (by simp [same])]

theorem Adds.under
    (added : Adds rest value inner created)
    (sound : SoundEntries entries)
    (held : ∀ other, (find? entries segment).bind (leafAt? other) =
      leafAt? other (.branch inner)) :
    Adds (segment :: rest) value entries
      (insert segment (.branch created) entries) := by
  have soundCreated : Sound (.branch created) :=
    .branch added.sound.ascending added.nonempty added.sound.inner
  apply adds_of_below sound soundCreated
  intro other
  rw [added.leaves, held]

theorem keyOf_of_ne (named : segment ≠ "") : keyOf segment entries = segment :=
  if_neg named

theorem free_nil : Free path [] := by
  intro other held isLeaf
  cases other <;> cases isLeaf

theorem Free.below
    (free : Free (segment :: path) entries)
    (found : find? entries segment = some (.branch inner)) :
    Free path inner := by
  intro other value isLeaf related
  have equal := free (segment :: other) value
    (by rw [leafAt?, found]; exact isLeaf) (by simpa using related)
  simpa using equal

/-- Below the last key of a free path there is no branch, as it would have a
leaf. -/
theorem Free.not_branch
    (free : Free [segment] entries)
    (sound : SoundEntries entries)
    (inner : List (String × FilterBranch)) :
    find? entries segment ≠ some (.branch inner) := by
  intro found
  rcases (sound.sound_of_find? found).exists_leaf with ⟨other, held, isLeaf⟩
  have stops := free (segment :: other) held
    (by rw [leafAt?, found]; exact isLeaf) (by simp)
  rw [List.cons.injEq] at stops
  rw [stops.2] at isLeaf
  cases isLeaf

/-- Before the last key of a free path there is no leaf. -/
theorem Free.not_leaf
    {next : String}
    (free : Free (segment :: next :: path) entries)
    (held : String) :
    find? entries segment ≠ some (.leaf held) := by
  intro found
  cases free [segment] held (by rw [leafAt?, found]; rfl) (by simp)

/-- The entries below a key, if there are any. -/
def entriesBelow
    (entries : List (String × FilterBranch))
    (key : String) :
    List (String × FilterBranch) :=
  match find? entries key with
  | some (.branch inner) => inner
  | _ => []

/-- The keys that the segments of a path name, each where it stands. -/
def place : List String → List (String × FilterBranch) → List String
  | [], _ => []
  | segment :: path, entries =>
    keyOf segment entries ::
      place path (entriesBelow entries (keyOf segment entries))

theorem place_of_named (named : ∀ segment ∈ path, segment ≠ "") :
    place path entries = path := by
  induction path generalizing entries with
  | nil => rfl
  | cons segment path induction =>
      rcases List.forall_mem_cons.mp named with ⟨segmentNamed, pathNamed⟩
      rw [place, keyOf_of_ne segmentNamed, induction pathNamed]

/-- A leaf that is added stands at its place, and nothing else changes. -/
theorem adds_of_insertLeaf
    (sound : SoundEntries entries)
    (nonempty : path ≠ [])
    (inserted : insertLeaf value path entries = .ok changed) :
    Adds (place path entries) value entries changed := by
  induction path generalizing entries changed with
  | nil => exact absurd rfl nonempty
  | cons segment path induction =>
      cases path with
      | nil =>
          rw [insertLeaf] at inserted
          split at inserted
          · cases inserted
          · rename_i noBranch
            cases inserted
            apply adds_of_below sound (.leaf value)
            intro other
            cases other with
            | nil => rfl
            | cons key other =>
                rw [place, if_neg (List.cons_ne_nil key other)]
                cases found : find? entries (keyOf segment entries) with
                | none => rfl
                | some held =>
                    cases held with
                    | leaf old => rfl
                    | branch inner => exact absurd found (noBranch inner)
      | cons next path =>
          rw [insertLeaf] at inserted
          rw [place]
          split at inserted
          · cases inserted
          · rename_i inner found
            rcases Outcome.map_eq_ok_iff.mp inserted with
              ⟨created, succeeded, rfl⟩
            have isBelow : entriesBelow entries (keyOf segment entries) =
                inner := by rw [entriesBelow, found]
            rw [isBelow]
            apply (induction (sound.sound_of_find? found).soundEntries
              (List.cons_ne_nil next path) succeeded).under sound
            intro other
            rw [found]
            rfl
          · rename_i found
            rcases Outcome.map_eq_ok_iff.mp inserted with
              ⟨created, succeeded, rfl⟩
            have isBelow : entriesBelow entries (keyOf segment entries) =
                [] := by rw [entriesBelow, found]
            rw [isBelow]
            apply (induction soundEntries_nil (List.cons_ne_nil next path)
                succeeded).under sound
            intro other
            rw [found]
            cases other <;> rfl

/-- A leaf can be added at a free path. -/
theorem insertLeaf_ok_of_free
    (sound : SoundEntries entries)
    (named : ∀ segment ∈ path, segment ≠ "")
    (free : Free path entries)
    (value : String) :
    ∃ changed, insertLeaf value path entries = .ok changed := by
  induction path generalizing entries with
  | nil => exact ⟨entries, rfl⟩
  | cons segment path induction =>
      rcases List.forall_mem_cons.mp named with ⟨segmentNamed, pathNamed⟩
      cases path with
      | nil =>
          rw [insertLeaf, keyOf_of_ne segmentNamed]
          split
          · rename_i inner found
            exact absurd found (free.not_branch sound inner)
          · exact ⟨_, rfl⟩
      | cons next path =>
          rw [insertLeaf, keyOf_of_ne segmentNamed]
          split
          · rename_i old found
            exact absurd found (free.not_leaf old)
          · rename_i inner found
            rcases induction (sound.sound_of_find? found).soundEntries pathNamed
              (free.below found) with ⟨created, succeeded⟩
            exact ⟨_, Outcome.map_eq_ok_iff.mpr ⟨created, succeeded, rfl⟩⟩
          · rcases induction soundEntries_nil pathNamed free_nil with
              ⟨created, succeeded⟩
            exact ⟨_, Outcome.map_eq_ok_iff.mpr ⟨created, succeeded, rfl⟩⟩

/-- Adding a leaf at a free path succeeds, and changes nothing else. -/
theorem insertLeaf_of_free
    (sound : SoundEntries entries)
    (nonempty : path ≠ [])
    (named : ∀ segment ∈ path, segment ≠ "")
    (free : Free path entries)
    (value : String) :
    ∃ changed, insertLeaf value path entries = .ok changed ∧
      Adds path value entries changed := by
  rcases insertLeaf_ok_of_free sound named free value with ⟨changed, inserted⟩
  have added := adds_of_insertLeaf sound nonempty inserted
  rw [place_of_named named] at added
  exact ⟨changed, inserted, added⟩

/-- Adds leaves one after the other. -/
def insertLeaves
    (leaves : List (List String × String))
    (entries : List (String × FilterBranch)) :
    Except String (List (String × FilterBranch)) :=
  leaves.foldlM (fun entries leaf => insertLeaf leaf.2 leaf.1 entries) entries

theorem Apart.symm
    {first second : List String × String}
    (apart : Apart first second) :
    Apart second first :=
  And.symm apart

theorem free_of_apart
    {leaves : List (List String × String)}
    {leaf : List String × String}
    (same : HasLeaves (.branch entries) leaves)
    (apart : ∀ other ∈ leaves, Apart other leaf) :
    Free leaf.1 entries := by
  intro other value isLeaf related
  rcases apart (other, value) ((same other value).mp isLeaf) with
    ⟨notAbove, notBelow⟩
  rcases related with above | below
  · exact absurd above notAbove
  · exact absurd below notBelow

/-- Leaves at paths apart from each other are all added, in whatever order they
are. -/
theorem insertLeaves_of_apart
    {leaves : List (List String × String)}
    (apart : leaves.Pairwise Apart)
    (named : ∀ leaf ∈ leaves, leaf.1 ≠ [] ∧ ∀ segment ∈ leaf.1, segment ≠ "") :
    ∃ entries, insertLeaves leaves [] = .ok entries ∧ SoundEntries entries ∧
      HasLeaves (.branch entries) leaves := by
  induction leaves using List.reverseRecOn with
  | nil =>
      refine ⟨[], rfl, soundEntries_nil, ?_⟩
      intro path value
      cases path <;> simp [leafAt?, find?]
  | append_singleton leaves leaf induction =>
      rw [List.pairwise_append] at apart
      rcases apart with ⟨apart, _, apartFromLast⟩
      rcases induction apart fun other member =>
          named other (List.mem_append_left _ member) with
        ⟨entries, gathered, sound, same⟩
      have leafNamed := named leaf (by simp)
      have free : Free leaf.1 entries :=
        free_of_apart same fun other member =>
          apartFromLast other member leaf (by simp)
      rcases insertLeaf_of_free sound leafNamed.1 leafNamed.2 free leaf.2 with
        ⟨changed, succeeded, added⟩
      refine ⟨changed, ?_, added.sound, ?_⟩
      · rw [insertLeaves, List.foldlM_append]
        show (insertLeaves leaves [] >>= insertLeaves [leaf]) = .ok changed
        rw [gathered]
        show (insertLeaf leaf.2 leaf.1 entries >>= insertLeaves []) =
          .ok changed
        rw [succeeded]
        rfl
      · intro path value
        rw [added.leaves, List.mem_append, List.mem_singleton]
        by_cases isLast : path = leaf.1
        · subst isLast
          rw [if_pos rfl]
          constructor
          · intro equal
            cases equal
            exact Or.inr rfl
          · rintro (earlier | last)
            · have noLeaf := (apartFromLast _ earlier leaf (by simp)).1
              exact absurd (List.prefix_refl _) noLeaf
            · rw [← last]
        · rw [if_neg isLast, same]
          constructor
          · exact Or.inl
          · rintro (earlier | last)
            · exact earlier
            · exact absurd (congrArg Prod.fst last) isLast

end JsonApi.FilterBranch
