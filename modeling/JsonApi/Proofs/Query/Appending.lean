import JsonApi.Proofs.Query.FilterWriting
import JsonApi.Proofs.Query.QueryText

/-!
# Appended filter values

An empty segment of a filter parameter takes the number of entries at its place
as its key, which is meant to append.  A leaf that is added under such a key is
one more leaf exactly if there was none where it is put; otherwise it replaces
that one without an error.  Explicit positions can bring this about: behind
position 1 alone, the next entry is put at position 1 as well.  As long as no
explicit position exceeds the number of entries at its place
(`FilterBranch.Contiguous`), every appended value is one more leaf, and one
more text of the filter (`QueryParameters.append_keeps_leaves`).
-/

namespace JsonApi

/-- The texts of an input in the order of its leaves. -/
def FilterInput.texts (input : FilterInput) : List String :=
  input.leaves.map Prod.snd

namespace FilterBranch

open Dictionary

variable {entries changed : List (String × FilterBranch)} {tree : FilterBranch}
  {key segment value : String} {path : List String}

/-! ## The leaves of a tree as a list -/

mutual

/-- The leaves of a tree, each with the keys on the way to it. -/
def leaves : FilterBranch → List (List String × String)
  | .leaf value => [([], value)]
  | .branch entries => leavesBelow entries

/-- The leaves of some entries. -/
def leavesBelow : List (String × FilterBranch) → List (List String × String)
  | [] => []
  | (key, inner) :: entries =>
      FilterInput.underKey key inner.leaves ++ leavesBelow entries

end

theorem leavesBelow_eq_flatMap :
    leavesBelow entries =
      entries.flatMap fun entry =>
        FilterInput.underKey entry.1 entry.2.leaves := by
  induction entries with
  | nil => rfl
  | cons entry entries induction =>
      rw [leavesBelow, induction, List.flatMap_cons]

theorem mem_leavesBelow_iff
    (ascending : Ascending entries)
    (inner : ∀ entry ∈ entries, ∀ path value,
      (path, value) ∈ entry.2.leaves ↔ leafAt? path entry.2 = some value) :
    (path, value) ∈ leavesBelow entries ↔
      leafAt? path (.branch entries) = some value := by
  rw [leavesBelow_eq_flatMap, List.mem_flatMap]
  constructor
  · rintro ⟨⟨key, tree⟩, member, isLeaf⟩
    rcases FilterInput.mem_underKey.mp isLeaf with ⟨rest, rfl, isInner⟩
    rw [leafAt?, ascending.find?_of_mem member]
    exact (inner _ member rest value).mp isInner
  · intro isLeaf
    cases path with
    | nil => cases isLeaf
    | cons key rest =>
        rcases Option.bind_eq_some_iff.mp isLeaf with ⟨tree, found, isInner⟩
        have member := mem_of_find? found
        exact ⟨(key, tree), member, FilterInput.mem_underKey.mpr
          ⟨rest, rfl, (inner _ member rest value).mpr isInner⟩⟩

/-- The leaves of a sound tree are those that are found at some path. -/
theorem Sound.mem_leaves_iff (sound : Sound tree) :
    (path, value) ∈ tree.leaves ↔ leafAt? path tree = some value := by
  induction sound generalizing path value with
  | leaf held => cases path <;> simp [leaves, leafAt?, eq_comm]
  | branch ascending nonempty inner induction =>
      exact mem_leavesBelow_iff ascending fun entry member path value =>
        induction entry member

theorem nodup_leavesBelow
    (ascending : Ascending entries)
    (inner : ∀ entry ∈ entries, entry.2.leaves.Nodup) :
    (leavesBelow entries).Nodup := by
  rw [leavesBelow_eq_flatMap, List.nodup_flatMap]
  constructor
  · intro entry member
    apply (inner entry member).map
    intro first second same
    cases first
    cases second
    cases same
    rfl
  · have distinct := ascending.nodup_keys
    rw [keys, List.nodup_iff_pairwise_ne, List.pairwise_map] at distinct
    apply distinct.imp
    rintro first second different ⟨path, value⟩ isFirst isSecond
    rcases FilterInput.mem_underKey.mp isFirst with ⟨rest, rfl, _⟩
    rcases FilterInput.mem_underKey.mp isSecond with ⟨other, same, _⟩
    exact different (List.cons.inj same).1

theorem Sound.nodup_leaves (sound : Sound tree) : tree.leaves.Nodup := by
  induction sound with
  | leaf value => exact List.nodup_singleton _
  | branch ascending nonempty inner induction =>
      exact nodup_leavesBelow ascending induction

theorem SoundEntries.mem_leaves_iff (sound : SoundEntries entries) :
    (path, value) ∈ (branch entries).leaves ↔
      leafAt? path (.branch entries) = some value :=
  mem_leavesBelow_iff sound.ascending fun entry member _ _ =>
    (sound.inner entry member).mem_leaves_iff

theorem SoundEntries.nodup_leaves (sound : SoundEntries entries) :
    (branch entries).leaves.Nodup :=
  nodup_leavesBelow sound.ascending fun entry member =>
    (sound.inner entry member).nodup_leaves

/-- Where there was no leaf, one that is added is one more leaf. -/
theorem Adds.perm_leaves
    (added : Adds path value entries changed)
    (sound : SoundEntries entries)
    (noLeaf : leafAt? path (.branch entries) = none) :
    (branch changed).leaves.Perm
      ((path, value) :: (branch entries).leaves) := by
  have fresh : (path, value) ∉ (branch entries).leaves := by
    rw [sound.mem_leaves_iff, noLeaf]
    exact fun same => nomatch same
  rw [List.perm_ext_iff_of_nodup added.sound.nodup_leaves
    (List.nodup_cons.mpr ⟨fresh, sound.nodup_leaves⟩)]
  rintro ⟨other, held⟩
  rw [added.sound.mem_leaves_iff, added.leaves, List.mem_cons,
    sound.mem_leaves_iff]
  by_cases isPath : other = path
  · subst isPath
    simp [noLeaf, eq_comm]
  · simp [isPath]

/-- Where there was a leaf, one that is added replaces it. -/
theorem Adds.exists_perm_leaves_iff
    (added : Adds path value entries changed)
    (sound : SoundEntries entries) :
    (∃ leaf, (branch changed).leaves.Perm (leaf :: (branch entries).leaves)) ↔
      leafAt? path (.branch entries) = none := by
  constructor
  · rintro ⟨⟨other, held⟩, order⟩
    have isNew :=
      (List.nodup_cons.mp (order.nodup_iff.mp added.sound.nodup_leaves)).1
    have present := order.mem_iff.mpr List.mem_cons_self
    rw [sound.mem_leaves_iff] at isNew
    rw [added.sound.mem_leaves_iff, added.leaves] at present
    split at present
    · rename_i isPath
      subst isPath
      cases found : leafAt? other (.branch entries) with
      | none => rfl
      | some old =>
          have kept : (other, old) ∈ (branch changed).leaves :=
            order.mem_iff.mpr
              (List.mem_cons_of_mem _ (sound.mem_leaves_iff.mpr found))
          rw [added.sound.mem_leaves_iff, added.leaves, if_pos rfl] at kept
          exact absurd (found.trans (kept.symm.trans present)) isNew
    · exact absurd present isNew
  · intro noLeaf
    exact ⟨_, added.perm_leaves sound noLeaf⟩

/-! ## The texts of a filter -/

theorem texts_map (inputs : List (String × FilterInput)) :
    (FilterInput.map inputs).texts = inputs.flatMap fun entry =>
      entry.2.texts := by
  rw [FilterInput.texts, FilterInput.leaves, FilterInput.entryLeaves_eq_flatMap,
    List.map_flatMap]
  simp only [FilterInput.underKey, List.map_map]
  rfl

theorem texts_list (items : List FilterInput) :
    (FilterInput.list items).texts = items.flatMap FilterInput.texts := by
  calc
    (FilterInput.list items).texts =
      (FilterInput.map (FilterInput.numbered items)).texts := by
      rw [FilterInput.texts, FilterInput.leaves_list, FilterInput.texts,
        FilterInput.leaves]
    _ = items.zipIdx.flatMap fun placed => placed.1.texts := by
      rw [texts_map, FilterInput.numbered, List.flatMap_map]
    _ = (items.zipIdx.map Prod.fst).flatMap FilterInput.texts := by
      rw [List.flatMap_map]
    _ = items.flatMap FilterInput.texts := by rw [List.zipIdx_map_fst]

/-- Positions are found for entries without touching what stands under them. -/
theorem map_snd_of_mapM_position?
    {inputs : List (String × FilterInput)}
    {placed : List (Nat × FilterInput)}
    (succeeded : (inputs.mapM fun entry =>
      (position? entry.1).map fun position =>
        (position, entry.2)) = some placed) :
    placed.map Prod.snd = inputs.map Prod.snd := by
  induction inputs generalizing placed with
  | nil =>
      cases succeeded
      rfl
  | cons entry inputs induction =>
      rw [List.mapM_cons] at succeeded
      rcases Option.bind_eq_some_iff.mp succeeded with ⟨first, isFirst, rest⟩
      rcases Option.bind_eq_some_iff.mp rest with ⟨others, areOthers, equal⟩
      rcases Option.map_eq_some_iff.mp isFirst with ⟨position, _, rfl⟩
      cases equal
      rw [List.map_cons, List.map_cons, induction areOthers]

/-- Whether entries become a list or a map, they keep their texts. -/
theorem texts_inputOf (inputs : List (String × FilterInput)) :
    (inputOf inputs).texts.Perm
      (inputs.flatMap fun entry => entry.2.texts) := by
  rw [inputOf]
  split
  · rename_i items isSequence
    rw [sequence?] at isSequence
    split at isSequence
    · cases isSequence
    · rcases Option.map_eq_some_iff.mp isSequence with ⟨placed, positioned, rfl⟩
      rw [texts_list, ← List.flatMap_map Prod.snd FilterInput.texts,
        ← map_snd_of_mapM_position? positioned]
      exact ((stableSort_perm _ placed).map Prod.snd).flatMap_right _
  · rw [texts_map]

mutual

/-- The texts of a filter are the values of the leaves that it was gathered
from. -/
theorem texts_toInput (tree : FilterBranch) :
    tree.toInput.texts.Perm (tree.leaves.map Prod.snd) :=
  match tree with
  | .leaf value => by
      rw [toInput]
      exact List.Perm.refl _
  | .branch entries => by
      rw [toInput]
      exact (texts_inputOf _).trans (texts_entriesToInput entries)

/-- The texts of some entries are the values of their leaves. -/
theorem texts_entriesToInput (entries : List (String × FilterBranch)) :
    ((entriesToInput entries).flatMap fun entry => entry.2.texts).Perm
      ((leavesBelow entries).map Prod.snd) :=
  match entries with
  | [] => List.Perm.refl _
  | (key, inner) :: entries => by
      have values : (FilterInput.underKey key inner.leaves).map Prod.snd =
          inner.leaves.map Prod.snd := by
        rw [FilterInput.underKey, List.map_map]
        rfl
      rw [entriesToInput, List.flatMap_cons, leavesBelow, List.map_append,
        values]
      exact (texts_toInput inner).append (texts_entriesToInput entries)

end

/-! ## Positions without gaps -/

/-- No position among the keys exceeds the number of entries, neither here nor
further below. -/
inductive Gapless : FilterBranch → Prop where
  | leaf (value : String) : Gapless (.leaf value)
  | branch
      {entries : List (String × FilterBranch)}
      (positions : ∀ position : Nat, toString position ∈ keys entries →
        position < entries.length)
      (inner : ∀ entry ∈ entries, Gapless entry.2) :
      Gapless (.branch entries)

/-- No position among the segments of a path exceeds the number of entries at
its place. -/
def Contiguous : List String → List (String × FilterBranch) → Prop
  | [], _ => True
  | segment :: path, entries =>
    (∀ position : Nat, segment = toString position →
        position ≤ entries.length) ∧
      Contiguous path (entriesBelow entries (keyOf segment entries))

/-- A segment is a position only if it is read as one. -/
theorem contiguous_cons
    (within : (Text.readNat? segment.toList).getD 0 ≤ entries.length)
    (further : Contiguous path (entriesBelow entries (keyOf segment entries))) :
    Contiguous (segment :: path) entries := by
  refine ⟨?_, further⟩
  rintro position rfl
  rw [Text.toList_toString_nat, Text.readNat?_toDigits] at within
  exact within

theorem gapless_nil : Gapless (.branch []) :=
  .branch (fun _ member => nomatch member) (fun _ member => nomatch member)

theorem Gapless.entriesBelow
    (gapless : Gapless (.branch entries))
    (key : String) :
    Gapless (.branch (entriesBelow entries key)) := by
  cases gapless with
  | branch positions inner =>
      rw [FilterBranch.entriesBelow]
      split
      · rename_i found
        exact inner _ (mem_of_find? found)
      · exact gapless_nil

/-- The number of entries is not yet a key among entries without gaps. -/
theorem Gapless.not_mem_keys (gapless : Gapless (.branch entries)) :
    toString entries.length ∉ keys entries := by
  cases gapless with
  | branch positions inner =>
      exact fun member => Nat.lt_irrefl _ (positions _ member)

/-- Where nothing is left out, there is no leaf yet where one is appended. -/
theorem Gapless.leafAt?_place
    (gapless : Gapless (.branch entries))
    (appends : "" ∈ path) :
    leafAt? (place path entries) (.branch entries) = none := by
  induction path generalizing entries with
  | nil => cases appends
  | cons segment path induction =>
      rw [place, leafAt?]
      rcases List.mem_cons.mp appends with isEmpty | later
      · have fresh : find? entries (keyOf segment entries) = none := by
          apply find?_eq_none
          rw [← isEmpty, keyOf, if_pos rfl]
          exact gapless.not_mem_keys
        rw [fresh]
        rfl
      · have further :=
          induction (gapless.entriesBelow (keyOf segment entries)) later
        cases found : find? entries (keyOf segment entries) with
        | none => rfl
        | some held =>
            cases held with
            | leaf old =>
                cases path with
                | nil => cases later
                | cons next path => rfl
            | branch inner =>
                rw [FilterBranch.entriesBelow, found] at further
                rw [FilterBranch.entriesBelow, found]
                exact further

/-- An entry under a key that exceeds the positions by no more than one leaves
no gap. -/
theorem Gapless.insert
    (gapless : Gapless (.branch entries))
    (gaplessMade : Gapless tree)
    (within : ∀ position : Nat, segment = toString position →
      position ≤ entries.length) :
    Gapless (.branch (insert (keyOf segment entries) tree entries)) := by
  cases gapless with
  | branch positions inner =>
      have longer :=
        length_le_length_insert (keyOf segment entries) tree entries
      refine .branch ?_ ?_
      · intro position member
        rcases List.mem_map.mp member with ⟨entry, isEntry, isKey⟩
        rcases mem_insert_cases isEntry with isMade | old
        · by_cases present : toString position ∈ keys entries
          · exact Nat.lt_of_lt_of_le (positions position present) longer
          · have named : keyOf segment entries = toString position := by
              rw [← isKey, isMade]
            have bounded : position ≤ entries.length := by
              rw [keyOf] at named
              split at named
              · exact Nat.le_of_eq (FilterInput.toString_injective named.symm)
              · exact within position named
            rw [named, (insert_perm tree present).length_eq]
            exact Nat.lt_succ_of_le bounded
        · exact Nat.lt_of_lt_of_le
            (positions position (isKey ▸ List.mem_map_of_mem old)) longer
      · intro entry isEntry
        rcases mem_insert_cases isEntry with isMade | old
        · rw [isMade]
          exact gaplessMade
        · exact inner entry old

/-- Adding a leaf at a path without gaps leaves none. -/
theorem Gapless.insertLeaf
    (gapless : Gapless (.branch entries))
    (contiguous : Contiguous path entries)
    (inserted : insertLeaf value path entries = .ok changed) :
    Gapless (.branch changed) := by
  induction path generalizing entries changed with
  | nil =>
      cases inserted
      exact gapless
  | cons segment path induction =>
      rcases contiguous with ⟨within, further⟩
      cases path with
      | nil =>
          rw [FilterBranch.insertLeaf] at inserted
          split at inserted
          · cases inserted
          · cases inserted
            exact gapless.insert (.leaf value) within
      | cons next path =>
          have gaplessBelow := gapless.entriesBelow (keyOf segment entries)
          rw [FilterBranch.insertLeaf] at inserted
          split at inserted
          · cases inserted
          · rename_i inner found
            rcases Outcome.map_eq_ok_iff.mp inserted with
              ⟨created, succeeded, rfl⟩
            rw [FilterBranch.entriesBelow, found] at gaplessBelow further
            exact gapless.insert (induction gaplessBelow further succeeded)
              within
          · rename_i found
            rcases Outcome.map_eq_ok_iff.mp inserted with
              ⟨created, succeeded, rfl⟩
            rw [FilterBranch.entriesBelow, found] at gaplessBelow further
            exact gapless.insert (induction gaplessBelow further succeeded)
              within

end FilterBranch

namespace QueryParameters

open FilterBranch

variable {decoding : Decoding} {before pairs : List (String × String)}
  {pair : String × String} {name value : String} {path : List String}

/-! ## One filter parameter -/

/-- The filter leaves gathered so far. -/
def Decoding.leaves (decoding : Decoding) : List (List String × String) :=
  (branch decoding.filterEntries).leaves

/-- The entries of a filter parameter that is accepted hold its leaf. -/
theorem Decoding.Accepts.insertLeaf
    (accepts : decoding.Accepts pair)
    (isFilter : ParameterKey.read? pair.1 = some ⟨"filter", path⟩)
    (nonempty : path ≠ []) :
    insertLeaf pair.2 path decoding.filterEntries =
      .ok (decoding.add pair).filterEntries := by
  rw [Accepts] at accepts
  rw [Decoding.add_filter isFilter nonempty, addFilter] at accepts ⊢
  split at accepts
  · rename_i entries inserted
    rw [inserted]
  · simp [addError] at accepts

/-- A parameter without segments is not accepted as a filter. -/
theorem Decoding.Accepts.nonempty
    (accepts : decoding.Accepts pair)
    (isFilter : ParameterKey.read? pair.1 = some ⟨"filter", path⟩) :
    path ≠ [] := by
  rintro rfl
  have refused : decoding.add pair = decoding.update fun parameters =>
      parameters.addError "filter" "expects filter[field]=value" := by
    rw [add, isFilter]
    rfl
  rw [Accepts, refused] at accepts
  simp [update, addError] at accepts

/-! ## All parameters -/

/-- Every filter parameter meets a demand where it stands. -/
def OnFilters
    (demand : Decoding → String × String → List String → Prop)
    (pairs : List (String × String)) : Prop :=
  ∀ before pair after path, pairs = before ++ pair :: after →
    ParameterKey.read? pair.1 = some ⟨"filter", path⟩ →
      demand (decode before) pair path

variable {demand : Decoding → String × String → List String → Prop}

theorem onFilters_nil : OnFilters demand [] := by
  intro before pair after path split
  simp at split

theorem onFilters_append_singleton :
    OnFilters demand (pairs ++ [pair]) ↔
      OnFilters demand pairs ∧
        ∀ path, ParameterKey.read? pair.1 = some ⟨"filter", path⟩ →
          demand (decode pairs) pair path := by
  constructor
  · intro all
    constructor
    · intro before other after path split
      exact all before other (after ++ [pair]) path (by simp [split])
    · intro path
      exact all pairs pair [] path rfl
  · rintro ⟨earlier, last⟩ before other after path split isFilter
    rcases List.eq_nil_or_concat after with rfl | ⟨after, final, rfl⟩
    · rcases List.append_inj' split rfl with ⟨rfl, equal⟩
      cases equal
      exact last path isFilter
    · have split : pairs ++ [pair] = (before ++ other :: after) ++ [final] := by
        simp [split]
      exact earlier before other after path (List.append_inj' split rfl).1
        isFilter

theorem OnFilters.append_filter
    (earlier : OnFilters demand pairs)
    (isFilter : ParameterKey.read? pair.1 = some ⟨"filter", path⟩)
    (meets : demand (decode pairs) pair path) :
    OnFilters demand (pairs ++ [pair]) := by
  refine onFilters_append_singleton.mpr ⟨earlier, ?_⟩
  intro other isOther
  rw [isFilter] at isOther
  cases isOther
  exact meets

/-- No filter parameter has a position that exceeds the number of entries at its
place. -/
def LeavesNoGaps : List (String × String) → Prop :=
  OnFilters fun decoding _ path => Contiguous path decoding.filterEntries

/-- Every filter parameter is accepted, and one that does not append stands
where nothing stood. -/
def RepeatsNone : List (String × String) → Prop :=
  OnFilters fun decoding pair path =>
    decoding.Accepts pair ∧
      ("" ∉ path → leafAt? path (.branch decoding.filterEntries) = none)

/-- The value of a filter parameter. -/
def filterValue? (pair : String × String) : Option String :=
  (ParameterKey.read? pair.1).bind fun key =>
    if key.family = "filter" then some pair.2 else none

theorem filterValue?_eq_some_iff :
    filterValue? pair = some value ↔
      (∃ path, ParameterKey.read? pair.1 = some ⟨"filter", path⟩) ∧
        pair.2 = value := by
  rw [filterValue?, Option.bind_eq_some_iff]
  constructor
  · rintro ⟨⟨family, path⟩, isRead, isFilter⟩
    split at isFilter
    · rename_i same
      cases same
      exact ⟨⟨path, isRead⟩, Option.some.inj isFilter⟩
    · cases isFilter
  · rintro ⟨⟨path, isFilter⟩, rfl⟩
    exact ⟨_, isFilter, rfl⟩

/-! ## Invariants of decoding -/

/-- What decoding keeps of the filter leaves gathered so far. -/
structure Gathered (decoding : Decoding) : Prop where
  sound : SoundEntries decoding.filterEntries
  noFilter : decoding.parameters.filter = .empty
  /-- Without a filter parameter there are no leaves. -/
  untouched : decoding.sawFilter = false → decoding.filterEntries = []

theorem Gathered.add
    (gathered : Gathered decoding)
    (pair : String × String) :
    Gathered (decoding.add pair) := by
  have noFilter : (decoding.add pair).parameters.filter = .empty :=
    (Decoding.filter_add decoding pair).trans gathered.noFilter
  rcases Decoding.add_cases pair with
    ⟨path, _, nonempty, added⟩ | ⟨change, _, changed⟩
  · rw [added] at noFilter ⊢
    rw [Decoding.addFilter] at noFilter ⊢
    split
    · rename_i entries inserted
      exact ⟨(adds_of_insertLeaf gathered.sound nonempty inserted).sound,
        gathered.noFilter, by simp⟩
    · exact ⟨gathered.sound, gathered.noFilter, by simp⟩
  · rw [changed] at noFilter ⊢
    exact ⟨gathered.sound, noFilter, gathered.untouched⟩

theorem gathered_decode (pairs : List (String × String)) :
    Gathered (decode pairs) := by
  induction pairs using List.reverseRecOn with
  | nil => exact ⟨soundEntries_nil, rfl, fun _ => rfl⟩
  | append_singleton pairs pair induction =>
      rw [decode_append_singleton]
      exact induction.add pair

/-- The texts of a filter are the values of the leaves gathered for it. -/
theorem texts_ofPairs (pairs : List (String × String)) :
    (ofPairs pairs).filter.texts.Perm ((decode pairs).leaves.map Prod.snd) := by
  have gathered := gathered_decode pairs
  rw [← finish_decode, Decoding.finish]
  split
  · exact texts_toInput _
  · rename_i unseen
    rw [gathered.noFilter, Decoding.leaves,
      gathered.untouched (by simpa using unseen)]
    exact List.Perm.refl _

/-- If positions leave no gaps, the gathered entries have none. -/
theorem gapless_decode (noGaps : LeavesNoGaps pairs) :
    Gapless (.branch (decode pairs).filterEntries) := by
  induction pairs using List.reverseRecOn with
  | nil => exact gapless_nil
  | append_singleton pairs pair induction =>
      rcases onFilters_append_singleton.mp noGaps with ⟨earlier, last⟩
      have gapless := induction earlier
      rw [decode_append_singleton]
      rcases Decoding.add_cases pair with
        ⟨path, isFilter, _, added⟩ | ⟨change, _, changed⟩
      · rw [added, Decoding.addFilter]
        split
        · rename_i entries inserted
          exact gapless.insertLeaf (last path isFilter) inserted
        · exact gapless
      · rw [changed]
        exact gapless

/-- The leaf of a filter parameter that is accepted is added to those gathered
before. -/
theorem adds_of_accepts
    (isFilter : ParameterKey.read? pair.1 = some ⟨"filter", path⟩)
    (accepts : (decode before).Accepts pair) :
    Adds (place path (decode before).filterEntries) pair.2
      (decode before).filterEntries ((decode before).add pair).filterEntries :=
  adds_of_insertLeaf (gathered_decode before).sound (accepts.nonempty isFilter)
    (accepts.insertLeaf isFilter (accepts.nonempty isFilter))

/-- Where nothing stood, decoding a filter parameter adds its value to the texts
of the filter. -/
theorem texts_ofPairs_append
    (isFilter : ParameterKey.read? pair.1 = some ⟨"filter", path⟩)
    (accepts : (decode before).Accepts pair)
    (noLeaf : leafAt? (place path (decode before).filterEntries)
      (.branch (decode before).filterEntries) = none) :
    (ofPairs (before ++ [pair])).filter.texts.Perm
      (pair.2 :: (ofPairs before).filter.texts) := by
  have added := adds_of_accepts isFilter accepts
  calc
    (ofPairs (before ++ [pair])).filter.texts.Perm
        ((decode (before ++ [pair])).leaves.map Prod.snd) := texts_ofPairs _
    _ = ((decode before).add pair).leaves.map Prod.snd := by
      rw [decode_append_singleton]
    List.Perm _ (pair.2 :: (decode before).leaves.map Prod.snd) :=
      (added.perm_leaves (gathered_decode before).sound noLeaf).map Prod.snd
    List.Perm _ (pair.2 :: (ofPairs before).filter.texts) :=
      (texts_ofPairs before).symm.cons _

/-- A pair that is no filter leaves the texts of the filter alone. -/
theorem texts_ofPairs_append_of_none (noFilter : filterValue? pair = none) :
    (ofPairs (before ++ [pair])).filter.texts.Perm
      (ofPairs before).filter.texts := by
  have same : (decode (before ++ [pair])).leaves = (decode before).leaves := by
    rw [decode_append_singleton]
    rcases Decoding.add_cases pair with
      ⟨path, isFilter, _, _⟩ | ⟨change, _, changed⟩
    · have value := filterValue?_eq_some_iff.mpr ⟨⟨path, isFilter⟩, rfl⟩
      rw [noFilter] at value
      cases value
    · rw [changed]
      rfl
  have texts := texts_ofPairs (before ++ [pair])
  rw [same] at texts
  exact texts.trans (texts_ofPairs before).symm

/-- If nothing is written twice and positions leave no gaps, all values are
texts of the filter. -/
theorem texts_of_repeatsNone
    (once : RepeatsNone pairs)
    (noGaps : LeavesNoGaps pairs) :
    (ofPairs pairs).filter.texts.Perm (pairs.filterMap filterValue?) := by
  induction pairs using List.reverseRecOn with
  | nil => exact List.Perm.refl _
  | append_singleton pairs pair induction =>
      rcases onFilters_append_singleton.mp once with ⟨earlierOnce, lastOnce⟩
      rcases onFilters_append_singleton.mp noGaps with ⟨earlierNoGaps, _⟩
      have before := induction earlierOnce earlierNoGaps
      rw [List.filterMap_append]
      cases found : filterValue? pair with
      | none =>
          rw [List.filterMap_cons_none found, List.filterMap_nil,
            List.append_nil]
          exact (texts_ofPairs_append_of_none found).trans before
      | some value =>
          rcases filterValue?_eq_some_iff.mp found with
            ⟨⟨path, isFilter⟩, isValue⟩
          rcases lastOnce path isFilter with ⟨accepts, freeUnlessAppended⟩
          have noLeaf : leafAt? (place path (decode pairs).filterEntries)
              (.branch (decode pairs).filterEntries) = none := by
            by_cases appends : "" ∈ path
            · exact (gapless_decode earlierNoGaps).leafAt?_place appends
            · rw [place_of_named fun segment member empty =>
                appends (empty ▸ member)]
              exact freeUnlessAppended appends
          rw [List.filterMap_cons_some found, List.filterMap_nil, ← isValue]
          exact ((texts_ofPairs_append isFilter accepts noLeaf).trans
              (before.cons _)).trans (List.perm_append_singleton _ _).symm

/-- Of the filter parameters of a query string, one that appends adds one leaf
and keeps the others exactly if no leaf stands where it is put.  None does if
the positions before it leave no gaps, and then its value is one more text of
the filter.  If positions leave no gaps anywhere and nothing is written twice,
the filter has all values. -/
theorem append_keeps_leaves (query : String) :
    (∀ before pair after path,
        pairsOf query = before ++ pair :: after →
        ParameterKey.read? pair.1 = some ⟨"filter", path⟩ → "" ∈ path →
        (decode before).Accepts pair →
          ((∃ leaf, ((decode before).add pair).leaves.Perm
              (leaf :: (decode before).leaves)) ↔
              leafAt? (place path (decode before).filterEntries)
                (.branch (decode before).filterEntries) = none) ∧
            (LeavesNoGaps before →
              ((decode before).add pair).leaves.Perm
                  ((place path (decode before).filterEntries, pair.2) ::
                      (decode before).leaves) ∧
                (ofPairs (before ++ [pair])).filter.texts.Perm
                  (pair.2 :: (ofPairs before).filter.texts))) ∧
      (LeavesNoGaps (pairsOf query) → RepeatsNone (pairsOf query) →
        (ofQueryString query).filter.texts.Perm
          ((pairsOf query).filterMap filterValue?)) := by
  constructor
  · intro before pair after path _ isFilter appends accepts
    have sound := (gathered_decode before).sound
    have added := adds_of_accepts isFilter accepts
    refine ⟨added.exists_perm_leaves_iff sound, ?_⟩
    intro noGaps
    have noLeaf := (gapless_decode noGaps).leafAt?_place appends
    exact ⟨added.perm_leaves sound noLeaf,
      texts_ofPairs_append isFilter accepts noLeaf⟩
  · intro noGaps once
    rw [← ofPairs_pairsOf]
    exact texts_of_repeatsNone once noGaps

/-- A query string in which a value is appended behind a position and a name. -/
def mixedQuery : String :=
  "filter[tags][0]=x&filter[tags][eq]=y&filter[tags][]=z"

theorem append_keeps_leaves_mixedQuery :
    LeavesNoGaps (pairsOf mixedQuery) ∧ RepeatsNone (pairsOf mixedQuery) ∧
      (ofQueryString mixedQuery).filter.texts.Perm ["x", "y", "z"] ∧
      ∃ before, pairsOf mixedQuery = before ++ [("filter[tags][]", "z")] ∧
        (decode before).Accepts ("filter[tags][]", "z") ∧ LeavesNoGaps before ∧
        ((decode before).add ("filter[tags][]", "z")).leaves.Perm
          [(["tags", "2"], "z"), (["tags", "0"], "x"),
              (["tags", "eq"], "y")] := by
  let first : String × String := ("filter[tags][0]", "x")
  let second : String × String := ("filter[tags][eq]", "y")
  let third : String × String := ("filter[tags][]", "z")
  have pairs :
      pairsOf mixedQuery = (([] ++ [first]) ++ [second]) ++ [third] := by
    decide +kernel
  have firstIsFilter :
      ParameterKey.read? first.1 = some ⟨"filter", ["tags", "0"]⟩ := by
    decide +kernel
  have secondIsFilter :
      ParameterKey.read? second.1 = some ⟨"filter", ["tags", "eq"]⟩ := by
    decide +kernel
  have thirdIsFilter :
      ParameterKey.read? third.1 = some ⟨"filter", ["tags", ""]⟩ := by
    decide +kernel
  have twoSegments :
      ∀ {segment next : String} {entries : List (String × FilterBranch)},
      (Text.readNat? segment.toList).getD 0 ≤ entries.length →
      (Text.readNat? next.toList).getD 0 ≤
        (entriesBelow entries (keyOf segment entries)).length →
      Contiguous [segment, next] entries :=
    fun outer inner => contiguous_cons outer (contiguous_cons inner trivial)
  have noGapsBefore : LeavesNoGaps (([] ++ [first]) ++ [second]) :=
    (onFilters_nil.append_filter firstIsFilter
        (twoSegments (by decide) (by decide))).append_filter secondIsFilter
      (twoSegments (by decide) (by decide))
  have noGaps : LeavesNoGaps ((([] ++ [first]) ++ [second]) ++ [third]) :=
    noGapsBefore.append_filter thirdIsFilter
      (twoSegments (by decide) (by decide))
  have accepts : (decode (([] ++ [first]) ++ [second])).Accepts third := by
    unfold Decoding.Accepts
    decide +kernel
  have once : RepeatsNone ((([] ++ [first]) ++ [second]) ++ [third]) := by
    refine ((onFilters_nil.append_filter
        firstIsFilter ⟨?_, fun _ => by decide⟩).append_filter secondIsFilter
        ⟨?_, fun _ => by decide⟩).append_filter thirdIsFilter
      ⟨accepts, fun _ => by decide⟩
    · unfold Decoding.Accepts
      decide +kernel
    · unfold Decoding.Accepts
      decide +kernel
  rw [← pairs] at noGaps once
  have kept := append_keeps_leaves mixedQuery
  have leavesBefore : (decode (([] ++ [first]) ++ [second])).leaves =
      [(["tags", "0"], "x"), (["tags", "eq"], "y")] := by decide +kernel
  have isPlace :
      place ["tags", ""] (decode (([] ++ [first]) ++ [second])).filterEntries =
      ["tags", "2"] := by decide +kernel
  have added := ((kept.1 _ third [] _ pairs thirdIsFilter (by decide) accepts).2
      noGapsBefore).1
  rw [leavesBefore, isPlace] at added
  exact ⟨noGaps, once, kept.2 noGaps once, _, pairs, accepts, noGapsBefore,
    added⟩

/-- Behind position 1 alone, a value that is appended replaces the one at
position 1. -/
theorem append_replaces_leaf :
    pairsOf "filter[tags][1]=x&filter[tags][]=y" =
        [("filter[tags][1]", "x"), ("filter[tags][]", "y")] ∧
      ParameterKey.read? "filter[tags][]" = some ⟨"filter", ["tags", ""]⟩ ∧
      (decode [("filter[tags][1]", "x")]).Accepts ("filter[tags][]", "y") ∧
      (decode [("filter[tags][1]", "x")]).leaves = [(["tags", "1"], "x")] ∧
      ((decode [("filter[tags][1]", "x")]).add ("filter[tags][]", "y")).leaves =
        [(["tags", "1"], "y")] ∧
      (ofQueryString "filter[tags][1]=x&filter[tags][]=y").filter.texts =
        ["y"] ∧
      ¬∃ leaf, ((decode [("filter[tags][1]", "x")]).add
          ("filter[tags][]", "y")).leaves.Perm
        (leaf :: (decode [("filter[tags][1]", "x")]).leaves) := by
  have pairs : pairsOf "filter[tags][1]=x&filter[tags][]=y" =
      [("filter[tags][1]", "x"), ("filter[tags][]", "y")] := by decide +kernel
  have before : (decode [("filter[tags][1]", "x")]).leaves =
      [(["tags", "1"], "x")] := by decide +kernel
  have behind :
      ((decode [("filter[tags][1]", "x")]).add ("filter[tags][]", "y")).leaves =
      [(["tags", "1"], "y")] := by decide +kernel
  have accepts :
      (decode [("filter[tags][1]", "x")]).Accepts ("filter[tags][]", "y") := by
    unfold Decoding.Accepts
    decide +kernel
  have isFilter : ParameterKey.read? "filter[tags][]" =
      some ⟨"filter", ["tags", ""]⟩ := by decide +kernel
  refine ⟨pairs, isFilter, accepts, before, behind, ?_, ?_⟩
  · have texts :=
      texts_ofPairs [("filter[tags][1]", "x"), ("filter[tags][]", "y")]
    rw [← pairs, ofPairs_pairsOf, pairs] at texts
    exact (texts.trans
        (List.Perm.of_eq (congrArg (List.map Prod.snd) behind))).eq_singleton
  · rintro ⟨leaf, order⟩
    rw [before, behind] at order
    cases order.length_eq

end QueryParameters

end JsonApi
