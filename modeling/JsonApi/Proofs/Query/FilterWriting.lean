import JsonApi.Proofs.Query.FilterBranch
import JsonApi.Proofs.Query.Key
import JsonApi.Proofs.Sorting.StableSort
import JsonApi.Proofs.Text.Digits
import Mathlib.Data.List.Nodup

/-!
# Filters written as leaves

A filter input is written as its leaves, the items of a list under their
positions.  A sound tree with exactly these leaves stands for that input
(`toInput_of_leaves`), provided that no map looks like a list: at least one key
of it is no position.
-/

namespace JsonApi

namespace FilterInput

/-- Leaves seen from one key further up. -/
def underKey
    (key : String)
    (leaves : List (List String × String)) : List (List String × String) :=
  leaves.map fun leaf => (key :: leaf.1, leaf.2)

mutual

/-- The texts of an input, each with the keys and positions on the way to it. -/
def leaves : FilterInput → List (List String × String)
  | .scalar (.string value) => [([], value)]
  | .scalar _ => []
  | .list items => itemLeaves 0 items
  | .map entries => entryLeaves entries

/-- The leaves of the items of a list from a position on. -/
def itemLeaves : Nat → List FilterInput → List (List String × String)
  | _, [] => []
  | position, item :: items =>
    underKey (toString position) item.leaves ++ itemLeaves (position + 1) items

/-- The leaves of the entries of a map. -/
def entryLeaves : List (String × FilterInput) → List (List String × String)
  | [] => []
  | (key, value) :: entries => underKey key value.leaves ++ entryLeaves entries

end

/-- The items of a list under their positions. -/
def numbered (items : List FilterInput) : List (String × FilterInput) :=
  items.zipIdx.map fun placed => (toString placed.2, placed.1)

/-- The input can be written as parameters: it has texts for scalars and no
empty parts, the keys of its maps can be segments, and not all keys of a map are
positions.  No list is longer than there are positions, which are counts of 64
bits. -/
inductive Writable : FilterInput → Prop where
  | scalar (value : String) : Writable (.scalar (.string value))
  | list
      {items : List FilterInput}
      (nonempty : items ≠ [])
      (bounded : items.length ≤ Text.wordLimit)
      (inner : ∀ item ∈ items, Writable item) :
      Writable (.list items)
  | map
      {entries : List (String × FilterInput)}
      (ascending : Dictionary.Ascending entries)
      (segments : ∀ entry ∈ entries, entry.1 ≠ "" ∧ IsSegment entry.1)
      (named : ∃ entry ∈ entries, FilterBranch.position? entry.1 = none)
      (inner : ∀ entry ∈ entries, Writable entry.2) :
      Writable (.map entries)

variable {input : FilterInput} {items : List FilterInput}
  {entries : List (String × FilterInput)} {key value : String}
  {path : List String}

theorem mem_underKey {leaves : List (List String × String)} :
    (path, value) ∈ underKey key leaves ↔
      ∃ rest, path = key :: rest ∧ (rest, value) ∈ leaves := by
  rw [underKey, List.mem_map]
  constructor
  · rintro ⟨⟨rest, held⟩, member, equal⟩
    cases equal
    exact ⟨rest, rfl, member⟩
  · rintro ⟨rest, equal, member⟩
    exact ⟨(rest, value), member, by rw [equal]⟩

theorem entryLeaves_eq_flatMap :
    entryLeaves entries = entries.flatMap fun entry =>
      underKey entry.1 entry.2.leaves := by
  induction entries with
  | nil => rfl
  | cons entry entries induction =>
      rw [List.flatMap_cons, ← induction]
      rfl

theorem leaves_list :
  (FilterInput.list items).leaves = entryLeaves (numbered items) := by
  have general : ∀ position,
      itemLeaves position items =
        entryLeaves ((items.zipIdx position).map fun placed =>
            (toString placed.2, placed.1)) := by
    induction items with
    | nil => exact fun _ => rfl
    | cons item items induction =>
        intro position
        rw [itemLeaves, induction]
        rfl
  exact general 0

theorem mem_entryLeaves_cons :
    (key :: path, value) ∈ entryLeaves entries ↔
      ∃ inner, (key, inner) ∈ entries ∧ (path, value) ∈ inner.leaves := by
  rw [entryLeaves_eq_flatMap, List.mem_flatMap]
  constructor
  · rintro ⟨⟨present, inner⟩, member, isLeaf⟩
    rcases mem_underKey.mp isLeaf with ⟨rest, equal, isInner⟩
    cases equal
    exact ⟨inner, member, isInner⟩
  · rintro ⟨inner, member, isInner⟩
    exact ⟨(key, inner), member, mem_underKey.mpr ⟨path, rfl, isInner⟩⟩

theorem nil_not_mem_entryLeaves : ([], value) ∉ entryLeaves entries := by
  rw [entryLeaves_eq_flatMap, List.mem_flatMap]
  rintro ⟨entry, _, isLeaf⟩
  rcases mem_underKey.mp isLeaf with ⟨rest, equal, _⟩
  cases equal

theorem mem_numbered {item : FilterInput} :
    (key, item) ∈ numbered items ↔
      ∃ position : Nat, items[position]? = some item ∧
      key = toString position := by
  rw [numbered, List.mem_map]
  constructor
  · rintro ⟨⟨present, position⟩, member, equal⟩
    cases equal
    exact ⟨position, List.mk_mem_zipIdx_iff_getElem?.mp member, rfl⟩
  · rintro ⟨position, found, equal⟩
    exact ⟨(item, position),
      List.mk_mem_zipIdx_iff_getElem?.mpr found, by rw [equal]⟩

theorem toString_injective : Function.Injective (toString : Nat → String) := by
  intro first second equal
  have digits := congrArg (fun text : String => Text.readNat? text.toList) equal
  simp only [Text.toList_toString_nat, Text.readNat?_toDigits] at digits
  exact Option.some.inj digits

theorem nodup_keys_numbered (items : List FilterInput) :
    (Dictionary.keys (numbered items)).Nodup := by
  have keys : Dictionary.keys (numbered items) =
      ((items.zipIdx).map Prod.snd).map (toString : Nat → String) := by
    rw [Dictionary.keys, numbered, List.map_map, List.map_map]
    rfl
  rw [keys, List.zipIdx_map_snd]
  exact List.Nodup.map toString_injective List.nodup_range'

/-- Every writable input has a leaf. -/
theorem Writable.exists_leaf (writable : input.Writable) :
    ∃ path value, (path, value) ∈ input.leaves := by
  induction writable with
  | scalar value => exact ⟨[], value, List.mem_singleton_self _⟩
  | @list items nonempty bounded inner induction =>
      rcases List.exists_cons_of_ne_nil nonempty with ⟨first, others, equal⟩
      rcases induction first (by simp [equal]) with ⟨path, value, isLeaf⟩
      refine ⟨toString 0 :: path, value, ?_⟩
      rw [leaves_list, mem_entryLeaves_cons]
      exact ⟨first, mem_numbered.mpr ⟨0, by simp [equal], rfl⟩, isLeaf⟩
  | @map entries ascending segments named inner induction =>
      rcases named with ⟨⟨key, first⟩, member, _⟩
      rcases induction _ member with ⟨path, value, isLeaf⟩
      refine ⟨key :: path, value, ?_⟩
      rw [leaves, mem_entryLeaves_cons]
      exact ⟨first, member, isLeaf⟩

/-- No leaf of an input with distinct keys is above another one. -/
theorem pairwise_entryLeaves
    (distinct : (Dictionary.keys entries).Nodup)
    (inner : ∀ entry ∈ entries, entry.2.leaves.Pairwise FilterBranch.Apart) :
    (entryLeaves entries).Pairwise FilterBranch.Apart := by
  rw [entryLeaves_eq_flatMap, List.pairwise_flatMap]
  constructor
  · intro entry member
    rw [underKey, List.pairwise_map]
    apply (inner entry member).imp
    intro first second apart
    simpa [FilterBranch.Apart] using apart
  · rw [Dictionary.keys, List.nodup_iff_pairwise_ne,
      List.pairwise_map] at distinct
    apply distinct.imp
    rintro ⟨firstKey, firstInput⟩ ⟨secondKey, secondInput⟩ different
      ⟨firstPath, firstValue⟩ isFirst ⟨secondPath, secondValue⟩ isSecond
    rcases mem_underKey.mp isFirst with ⟨firstRest, rfl, _⟩
    rcases mem_underKey.mp isSecond with ⟨secondRest, rfl, _⟩
    constructor
    · intro isPrefixed
      exact different (List.cons_prefix_cons.mp isPrefixed).1
    · intro isPrefixed
      exact different (List.cons_prefix_cons.mp isPrefixed).1.symm

theorem Writable.pairwise_leaves (writable : input.Writable) :
    input.leaves.Pairwise FilterBranch.Apart := by
  induction writable with
  | scalar value => exact List.pairwise_singleton _ _
  | list nonempty bounded inner induction =>
      rw [leaves_list]
      apply pairwise_entryLeaves (nodup_keys_numbered _)
      rintro ⟨key, item⟩ member
      rcases mem_numbered.mp member with ⟨position, found, _⟩
      exact induction item (List.mem_of_getElem? found)
  | map ascending segments named inner induction =>
      exact pairwise_entryLeaves ascending.nodup_keys induction

/-- The positions in a list can be segments. -/
theorem isSegment_toString (position : Nat) :
    toString position ≠ "" ∧ IsSegment (toString position) := by
  have digits := Text.toList_toString_nat position
  refine ⟨?_, ?_, ?_⟩
  · intro empty
    rw [empty] at digits
    exact Nat.toDigits_ne_nil digits.symm
  · rw [digits]
    intro member
    cases Text.isDigit_of_mem_toDigits member
  · rw [digits]
    intro member
    cases Text.isDigit_of_mem_toDigits member

/-- The keys and positions on the way to a leaf can be segments. -/
theorem Writable.isSegment_of_mem_leaves
    (writable : input.Writable)
    {path : List String}
    {value : String}
    (isLeaf : (path, value) ∈ input.leaves) :
    ∀ segment ∈ path, segment ≠ "" ∧ IsSegment segment := by
  induction writable generalizing path with
  | scalar held =>
      cases List.mem_singleton.mp isLeaf
      simp
  | list nonempty bounded inner induction =>
      rw [leaves_list] at isLeaf
      cases path with
      | nil => simp
      | cons key path =>
          rcases mem_entryLeaves_cons.mp isLeaf with ⟨item, member, isInner⟩
          rcases mem_numbered.mp member with ⟨position, found, isKey⟩
          rw [List.forall_mem_cons, isKey]
          exact ⟨isSegment_toString position,
            induction item (List.mem_of_getElem? found) isInner⟩
  | map ascending segments named inner induction =>
      cases path with
      | nil => simp
      | cons key path =>
          rcases mem_entryLeaves_cons.mp isLeaf with ⟨value, member, isInner⟩
          rw [List.forall_mem_cons]
          exact ⟨segments _ member, induction _ member isInner⟩

end FilterInput

namespace FilterBranch

open FilterInput

variable {input : FilterInput} {tree : FilterBranch} {items : List FilterInput}
  {entries : List (String × FilterInput)} {held : List (String × FilterBranch)}

theorem entriesToInput_eq_mapValues (held : List (String × FilterBranch)) :
    entriesToInput held = Dictionary.mapValues toInput held := by
  induction held with
  | nil => rfl
  | cons entry held induction =>
      rw [entriesToInput, induction]
      rfl

theorem keys_entriesToInput (held : List (String × FilterBranch)) :
    Dictionary.keys (entriesToInput held) = Dictionary.keys held := by
  rw [entriesToInput_eq_mapValues, Dictionary.keys, Dictionary.mapValues,
    List.map_map]
  rfl

/-- Below a key the tree has the leaves of the input under that key. -/
theorem HasLeaves.at_key
    (same : HasLeaves (.branch held) (entryLeaves entries))
    (distinct : (Dictionary.keys entries).Nodup)
    {key : String}
    {inner : FilterInput}
    (member : (key, inner) ∈ entries)
    (found : Dictionary.find? held key = some tree) :
    HasLeaves tree inner.leaves := by
  intro path value
  have here := same (key :: path) value
  rw [leafAt?, found, Option.bind_some, mem_entryLeaves_cons] at here
  rw [here]
  constructor
  · rintro ⟨other, otherMember, isLeaf⟩
    have equal := List.inj_on_of_nodup_map distinct otherMember member rfl
    cases equal
    exact isLeaf
  · intro isLeaf
    exact ⟨inner, member, isLeaf⟩

/-- If every entry is read back, a branch is read back up to the order of its
entries. -/
theorem perm_entriesToInput
    (sound : SoundEntries held)
    (distinct : (Dictionary.keys entries).Nodup)
    (same : HasLeaves (.branch held) (entryLeaves entries))
    (filled : ∀ entry ∈ entries, ∃ path value, (path, value) ∈ entry.2.leaves)
    (back : ∀ entry ∈ entries, ∀ tree, Sound tree →
      HasLeaves tree entry.2.leaves →
      tree.toInput = entry.2) :
    (entriesToInput held).Perm entries := by
  have distinctHeld : (entriesToInput held).Nodup := by
    apply List.Nodup.of_map Prod.fst
    have keys := keys_entriesToInput held
    rw [Dictionary.keys] at keys
    rw [keys]
    exact sound.ascending.nodup_keys
  rw [List.perm_ext_iff_of_nodup distinctHeld
    (List.Nodup.of_map Prod.fst distinct)]
  rintro ⟨key, inner⟩
  rw [entriesToInput_eq_mapValues, Dictionary.mapValues, List.mem_map]
  constructor
  · rintro ⟨⟨present, tree⟩, member, equal⟩
    cases equal
    have found := sound.ascending.find?_of_mem member
    rcases (sound.sound_of_find? found).exists_leaf with ⟨path, value, isLeaf⟩
    have listed :=
      (same (present :: path) value).mp (by rw [leafAt?, found]; exact isLeaf)
    rcases mem_entryLeaves_cons.mp listed with ⟨inner, innerMember, _⟩
    have read := back _ innerMember tree (sound.sound_of_find? found)
      (same.at_key distinct innerMember found)
    exact read ▸ innerMember
  · intro member
    rcases filled _ member with ⟨path, value, isLeaf⟩
    have listed := (same (key :: path) value).mpr
      (mem_entryLeaves_cons.mpr ⟨inner, member, isLeaf⟩)
    rw [leafAt?] at listed
    rcases Option.bind_eq_some_iff.mp listed with ⟨tree, found, _⟩
    have read := back _ member tree (sound.sound_of_find? found)
      (same.at_key distinct member found)
    exact ⟨(key, tree), Dictionary.mem_of_find? found, by rw [read]⟩

theorem mapM_eq_some_map
    {α β : Type}
    {step : α → Option β}
    {made : α → β}
    {elements : List α}
    (steps : ∀ element ∈ elements, step element = some (made element)) :
    elements.mapM step = some (elements.map made) := by
  induction elements with
  | nil => rfl
  | cons first elements induction =>
      rcases List.forall_mem_cons.mp steps with ⟨isFirst, others⟩
      rw [List.mapM_cons, isFirst, induction others]
      rfl

theorem position?_toString
    {position : Nat}
    (bounded : position < Text.wordLimit) :
    position? (toString position) = some position :=
  Text.readWord?_toString bounded

/-- Elements in the order of their positions, from whatever order they stood
in. -/
theorem stableSort_of_perm_of_ascending
    {α : Type}
    {placed shuffled : List (Nat × α)}
    (ascending : (placed.map Prod.fst).Pairwise (· < ·))
    (order : shuffled.Perm placed) :
    stableSort (fun left right => compare left.1 right.1) shuffled =
      placed := by
  have preorder :
      IsPreorderOn (fun left right : Nat × α => compare left.1 right.1) fun _ =>
      True :=
    .of_place Prod.fst fun _ _ => (cmp_eq_compare _ _).symm
  have same :=
    (stableSort_perm (fun left right => compare left.1 right.1) shuffled).trans
    order
  have sorted :
      (stableSort (fun left right => compare left.1 right.1) shuffled).Pairwise
        fun left right => left.1 ≤ right.1 :=
    (pairwise_stableSort preorder fun _ _ => True.intro).imp
      compare_le_iff_le.mp
  have counted : placed.Pairwise fun left right => left.1 ≤ right.1 :=
    (List.pairwise_map.mp ascending).imp Nat.le_of_lt
  refine same.eq_of_pairwise ?_ sorted counted
  intro left right isLeft isRight below above
  exact List.inj_on_of_nodup_map (ascending.imp Nat.ne_of_lt)
    (same.mem_iff.mp isLeft) isRight (Nat.le_antisymm below above)

theorem exists_position?_of_mem
    {α : Type}
    {placed : List (String × α)}
    {positions : List Nat}
    (areRead : placed.map (fun entry => position? entry.1) = positions.map some)
    {entry : String × α}
    (member : entry ∈ placed) :
    ∃ position, position? entry.1 = some position := by
  have isRead : position? entry.1 ∈ placed.map fun entry => position? entry.1 :=
    List.mem_map_of_mem member
  rw [areRead] at isRead
  rcases List.mem_map.mp isRead with ⟨position, _, equal⟩
  exact ⟨position, equal.symm⟩

/-- Entries under ascending positions are read as the list of what is under
them. -/
theorem inputOf_of_perm_positions
    {placed shuffled : List (String × FilterInput)}
    {positions : List Nat}
    (nonempty : placed ≠ [])
    (areRead : placed.map (fun entry => position? entry.1) = positions.map some)
    (ascending : positions.Pairwise (· < ·))
    (order : shuffled.Perm placed) :
    inputOf shuffled = .list (placed.map Prod.snd) := by
  let made := fun entry : String × FilterInput =>
    ((position? entry.1).getD 0, entry.2)
  have steps : ∀ entry ∈ shuffled,
      ((position? entry.1).map fun position => (position, entry.2)) =
        some (made entry) := by
    intro entry member
    rcases exists_position?_of_mem areRead (order.mem_iff.mp member) with
      ⟨position, isRead⟩
    simp [made, isRead]
  have madePositions : (placed.map made).map Prod.fst = positions := by
    have defaults :=
      congrArg (List.map fun position? : Option Nat => position?.getD 0) areRead
    simpa [made, Function.comp_def] using defaults
  have filled : shuffled.isEmpty = false := by
    rw [List.isEmpty_eq_false_iff, ← List.length_pos_iff, order.length_eq]
    exact List.length_pos_iff.mpr nonempty
  have sequence : sequence? shuffled = some (placed.map Prod.snd) := by
    rw [sequence?, filled, mapM_eq_some_map steps]
    simp only [Bool.false_eq_true, if_false, Option.map_some]
    rw [stableSort_of_perm_of_ascending (by rwa [madePositions])
      (order.map made), List.map_map]
    rfl
  rw [inputOf, sequence]

/-- The positions of elements are read, if the elements can be counted. -/
theorem map_position?_zipIdx
    {α : Type}
    {elements : List α}
    (bounded : elements.length ≤ Text.wordLimit) :
    elements.zipIdx.map (fun placed => position? (toString placed.2)) =
      (List.range' 0 elements.length).map some := by
  rw [← List.zipIdx_map_snd, List.map_map]
  apply List.map_congr_left
  rintro ⟨element, position⟩ member
  have below := (List.mem_zipIdx member).2.1
  exact position?_toString (by omega)

theorem map_snd_numbered (items : List FilterInput) :
    (numbered items).map Prod.snd = items := by
  rw [numbered, List.map_map]
  exact List.zipIdx_map_fst 0 items

/-- Entries under positions are read as the list in which they have these
positions. -/
theorem inputOf_of_perm_numbered
    (nonempty : items ≠ [])
    (bounded : items.length ≤ Text.wordLimit)
    {shuffled : List (String × FilterInput)}
    (order : shuffled.Perm (numbered items)) :
    inputOf shuffled = .list items := by
  have filled : numbered items ≠ [] := by simpa [numbered] using nonempty
  have areRead : (numbered items).map (fun entry => position? entry.1) =
      (List.range' 0 items.length).map some := by
    rw [numbered, List.map_map]
    exact map_position?_zipIdx bounded
  rw [inputOf_of_perm_positions filled areRead (List.pairwise_lt_range' 1)
    order, map_snd_numbered]

theorem mapM_eq_none
    {α β : Type}
    {step : α → Option β}
    {element : α}
    {elements : List α}
    (member : element ∈ elements)
    (fails : step element = none) :
    elements.mapM step = none := by
  induction elements with
  | nil => cases member
  | cons first elements induction =>
      rw [List.mapM_cons]
      rcases List.mem_cons.mp member with isFirst | later
      · rw [← isFirst, fails]
        rfl
      · rw [induction later]
        cases step first <;> rfl

theorem inputOf_of_named
    {key : String}
    {inner : FilterInput}
    (member : (key, inner) ∈ entries)
    (named : position? key = none) :
    inputOf entries = .map entries := by
  have notSequence : sequence? entries = none := by
    have fails :
        entries.mapM (fun entry =>
          (position? entry.1).map fun position => (position, entry.2)) = none :=
      mapM_eq_none member (by rw [named]; rfl)
    rw [sequence?, fails]
    split <;> rfl
  rw [inputOf, notSequence]

/-- A sound tree that has the leaves of a writable input stands for that
input. -/
theorem toInput_of_leaves
    (writable : input.Writable)
    (sound : Sound tree)
    (same : HasLeaves tree input.leaves) :
    tree.toInput = input := by
  induction writable generalizing tree with
  | scalar value =>
      have isLeaf := (same [] value).mpr (List.mem_singleton_self _)
      cases tree with
      | branch held => cases isLeaf
      | leaf held =>
          cases isLeaf
          rw [toInput]
  | @list items nonempty bounded inner induction =>
      rw [leaves_list] at same
      cases tree with
      | leaf held =>
          exact absurd ((same [] held).mp rfl) nil_not_mem_entryLeaves
      | branch held =>
          have memberOf : ∀ entry ∈ numbered items, entry.2 ∈ items := by
            rintro ⟨key, item⟩ member
            rcases mem_numbered.mp member with ⟨position, found, _⟩
            exact List.mem_of_getElem? found
          have order : (entriesToInput held).Perm (numbered items) :=
            perm_entriesToInput sound.soundEntries
              (nodup_keys_numbered items) same (fun entry member =>
                (inner entry.2 (memberOf entry member)).exists_leaf)
              (fun entry member tree =>
                induction entry.2 (memberOf entry member))
          rw [toInput, inputOf_of_perm_numbered nonempty bounded order]
  | @map entries ascending segments named inner induction =>
      cases tree with
      | leaf held =>
          exact absurd ((same [] held).mp rfl) nil_not_mem_entryLeaves
      | branch held =>
          have order : (entriesToInput held).Perm entries :=
            perm_entriesToInput sound.soundEntries ascending.nodup_keys same
              (fun entry member => (inner entry member).exists_leaf)
              (fun entry member tree => induction entry member)
          have ascendingRead : Dictionary.Ascending (entriesToInput held) := by
            rw [Dictionary.ascending_iff_keys, keys_entriesToInput,
              ← Dictionary.ascending_iff_keys]
            exact sound.soundEntries.ascending
          have equal := ascendingRead.eq_of_perm ascending order
          rcases named with ⟨⟨key, value⟩, member, notPosition⟩
          rw [toInput, equal, inputOf_of_named member notPosition]

/-- A writable map is gathered from its leaves, in whatever order these come. -/
theorem insertLeaves_of_perm
    {leaves : List (List String × String)}
    (writable : (FilterInput.map entries).Writable)
    (order : leaves.Perm (FilterInput.map entries).leaves) :
    ∃ held, insertLeaves leaves [] = .ok held ∧
      (branch held).toInput = .map entries := by
  have apart : leaves.Pairwise Apart :=
    (order.pairwise_iff Apart.symm).mpr writable.pairwise_leaves
  have named : ∀ leaf ∈ leaves, leaf.1 ≠ [] ∧ ∀ segment ∈ leaf.1,
      segment ≠ "" := by
    rintro ⟨path, value⟩ member
    have isLeaf := order.mem_iff.mp member
    refine ⟨?_, fun segment inPath =>
      (writable.isSegment_of_mem_leaves isLeaf segment inPath).1⟩
    intro empty
    cases empty
    exact nil_not_mem_entryLeaves isLeaf
  rcases insertLeaves_of_apart apart named with ⟨held, gathered, sound, same⟩
  have sameLeaves :
      HasLeaves (branch held) (FilterInput.map entries).leaves := by
    intro path value
    rw [same, order.mem_iff]
  have nonempty : held ≠ [] := by
    rcases writable.exists_leaf with ⟨path, value, isLeaf⟩
    have found := (sameLeaves path value).mpr isLeaf
    intro empty
    rw [empty] at found
    cases path <;> cases found
  exact ⟨held, gathered, toInput_of_leaves writable
    (.branch sound.ascending nonempty sound.inner) sameLeaves⟩

end FilterBranch

end JsonApi
