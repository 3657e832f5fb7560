import JsonApi.Dictionary
import JsonApi.Proofs.Outcome
import Mathlib.Data.String.Basic

/-!
# Laws of dictionaries

Most laws of `find?` need no order: the first entry of a key is the one that
counts.  In an ascending dictionary no key occurs twice, so that there being
an entry is the same as its being found.
-/

namespace JsonApi.Dictionary

variable {α β : Type}

/-! ## Finding -/

/-- The first entry of a list is found, or what is found behind it. -/
theorem lookup_cons_eq_if
    {κ ν : Type}
    [BEq κ]
    [LawfulBEq κ]
    [DecidableEq κ]
    {key present : κ}
    {value : ν}
    {entries : List (κ × ν)} :
    ((present, value) :: entries).lookup key =
      if key = present then some value else entries.lookup key := by
  rw [List.lookup_cons]
  by_cases same : key = present
  · simp [same]
  · have differs : (key == present) = false := by simpa using same
    simp [differs, same]

theorem find?_cons
    {present key : String}
    {value : α}
    {entries : List (String × α)} :
    find? ((present, value) :: entries) key =
      if key = present then some value else find? entries key :=
  lookup_cons_eq_if

/-- What is found stands among the entries. -/
theorem mem_of_find?
    {entries : List (String × α)}
    {key : String}
    {value : α}
    (found : find? entries key = some value) :
    (key, value) ∈ entries := by
  rcases List.lookup_eq_some_iff.mp found with ⟨before, after, split, _⟩
  rw [split]
  simp

theorem contains_of_find?
    {entries : List (String × α)}
    {key : String}
    {value : α}
    (found : find? entries key = some value) :
    contains entries key = true := by
  simp [contains, found]

theorem find?_of_contains
    {entries : List (String × α)}
    {key : String}
    (present : contains entries key = true) :
    ∃ value, find? entries key = some value :=
  Option.isSome_iff_exists.mp present

theorem contains_eq_false_iff
    {entries : List (String × α)}
    {key : String} :
    contains entries key = false ↔ find? entries key = none := by
  rw [contains, Option.isSome_eq_false_iff, Option.isNone_iff_eq_none]

theorem contains_of_mem
    {entries : List (String × α)}
    {key : String}
    {value : α}
    (member : (key, value) ∈ entries) :
    contains entries key = true := by
  rw [contains, find?, List.lookup_isSome_iff]
  exact ⟨(key, value), member, by simp⟩

theorem contains_insert_of_contains
    {entries : List (String × α)}
    {key other : String}
    (value : α)
    (present : contains entries other = true) :
    contains (insert key value entries) other = true := by
  by_cases same : other = key
  · subst same
    simp [contains, find?_insert_self]
  · simpa [contains, find?_insert_of_ne same] using present

/-- What is found after an insertion was inserted or found before. -/
theorem find?_insert_cases
    {entries : List (String × α)}
    {key other : String}
    {value found : α}
    (isFound : find? (insert key value entries) other = some found) :
    (other = key ∧ found = value) ∨
      (other ≠ key ∧ find? entries other = some found) := by
  by_cases same : other = key
  · subst same
    rw [find?_insert_self] at isFound
    exact Or.inl ⟨rfl, (Option.some.inj isFound).symm⟩
  · rw [find?_insert_of_ne same] at isFound
    exact Or.inr ⟨same, isFound⟩

/-- An insertion adds one entry and drops at most one. -/
theorem mem_insert_cases
    {entries : List (String × α)}
    {key : String}
    {value : α}
    {entry : String × α}
    (member : entry ∈ insert key value entries) :
    entry = (key, value) ∨ entry ∈ entries := by
  induction entries with
  | nil => simpa [insert] using member
  | cons present rest induction =>
      obtain ⟨presentKey, held⟩ := present
      rw [insert] at member
      split at member
      · exact List.mem_cons.mp member
      · split at member
        · rcases List.mem_cons.mp member with head | tail
          · exact Or.inl head
          · exact Or.inr (List.mem_cons_of_mem _ tail)
        · rcases List.mem_cons.mp member with head | tail
          · exact Or.inr (by simp [head])
          · rcases induction tail with inserted | old
            · exact Or.inl inserted
            · exact Or.inr (List.mem_cons_of_mem _ old)

/-- What is found in a union stands in its second part or is found in its
first. -/
theorem find?_union_cases
    {first second : List (String × α)}
    {key : String}
    {value : α}
    (found : find? (union first second) key = some value) :
    (key, value) ∈ second ∨ find? first key = some value := by
  rw [union] at found
  induction second generalizing first with
  | nil => exact Or.inr found
  | cons entry rest induction =>
      rw [List.foldl_cons] at found
      rcases induction found with later | earlier
      · exact Or.inl (List.mem_cons_of_mem entry later)
      · rcases find?_insert_cases earlier with ⟨sameKey, sameValue⟩ | ⟨_, old⟩
        · subst sameKey
          subst sameValue
          exact Or.inl List.mem_cons_self
        · exact Or.inr old

/-- The keys of the first part of a union are keys of the union. -/
theorem contains_union
    {first second : List (String × α)}
    {key : String}
    (present : contains first key = true) :
    contains (union first second) key = true := by
  rw [union]
  induction second generalizing first with
  | nil => exact present
  | cons entry rest induction =>
      rw [List.foldl_cons]
      exact induction (contains_insert_of_contains entry.2 present)

theorem contains_ofList
    {pairs : List (String × α)}
    {key : String}
    {value : α}
    (member : (key, value) ∈ pairs) :
    contains (ofList pairs) key = true := by
  have general :
      ∀ entries : List (String × α),
        contains (pairs.foldl (fun entries pair => insert pair.1 pair.2 entries)
            entries) key = true := by
    induction pairs with
    | nil => cases member
    | cons pair rest induction =>
        intro entries
        rw [List.foldl_cons]
        rcases List.mem_cons.mp member with head | tail
        · subst head
          apply contains_union
          simp [contains, find?_insert_self]
        · exact induction tail _
  exact general []

/-- Where all keys get the same value, the keys decide what is found. -/
theorem find?_ofList_map
    (names : List String)
    (value : α)
    (key : String) :
    find? (ofList (names.map fun name => (name, value))) key =
      if key ∈ names then some value else none := by
  have pairs : ∀ held, (key, held) ∈ names.map (fun name => (name, value)) →
      key ∈ names ∧ held = value := by
    intro held member
    rcases List.mem_map.mp member with ⟨name, isName, same⟩
    cases same
    exact ⟨isName, rfl⟩
  have source : ∀ held,
      find? (ofList (names.map fun name => (name, value))) key = some held →
      key ∈ names ∧ held = value := by
    intro held found
    rcases find?_union_cases found with isPair | absurdity
    · exact pairs held isPair
    · cases absurdity
  split
  · rename_i isName
    have isPair : (key, value) ∈ names.map fun name => (name, value) :=
      List.mem_map.mpr ⟨key, isName, rfl⟩
    rcases find?_of_contains (contains_ofList isPair) with ⟨held, found⟩
    rw [found, (source held found).2]
  · rename_i notName
    cases found : find? (ofList (names.map fun name => (name, value))) key with
    | none => rfl
    | some held => exact absurd (source held found).1 notName

@[simp]
theorem find?_mapValues
    (change : α → β)
    (entries : List (String × α))
    (key : String) :
    find? (mapValues change entries) key = (find? entries key).map change := by
  induction entries with
  | nil => rfl
  | cons entry rest induction =>
      obtain ⟨present, held⟩ := entry
      rw [mapValues, List.map_cons, find?_cons, find?_cons]
      split
      · rfl
      · exact induction

@[simp]
theorem keys_mapValues
    (change : α → β)
    (entries : List (String × α)) :
    keys (mapValues change entries) = keys entries := by
  rw [keys, mapValues, List.map_map]
  rfl

@[simp]
theorem keys_modify
    (changed : String)
    (change : α → α)
    (entries : List (String × α)) :
    keys (modify changed change entries) = keys entries := by
  rw [keys, modify, List.map_map]
  refine List.map_congr_left fun entry _ => ?_
  show (if entry.1 = changed then (entry.1, change entry.2) else entry).1 =
    entry.1
  split <;> rfl

theorem mem_keys_iff
    {entries : List (String × α)}
    {key : String} :
    key ∈ keys entries ↔ contains entries key = true := by
  constructor
  · intro member
    rcases List.mem_map.mp member with ⟨entry, isEntry, rfl⟩
    exact contains_of_mem isEntry
  · intro present
    rcases find?_of_contains present with ⟨value, found⟩
    exact List.mem_map_of_mem (mem_of_find? found)

/-- Changing the value of a key leaves the values of the other keys alone. -/
theorem find?_modify
    (changed : String)
    (change : α → α)
    (entries : List (String × α))
    (key : String) :
    find? (modify changed change entries) key =
      if key = changed then (find? entries key).map change
        else find? entries key := by
  induction entries with
  | nil => simp [modify, find?]
  | cons entry rest induction =>
      obtain ⟨present, held⟩ := entry
      have head : modify changed change ((present, held) :: rest) =
          (present, if present = changed then change held else held) ::
            modify changed change rest := by
        rw [modify, List.map_cons]
        dsimp only
        split <;> rfl
      rw [head, find?_cons, find?_cons, induction]
      by_cases here : key = present
      · subst here
        by_cases same : key = changed <;> simp [same]
      · simp [here]

/-! ## Keeping some keys -/

/-- A key that is kept is found as before, and no other. -/
theorem lookup_filter
    {κ ν : Type}
    [BEq κ]
    [LawfulBEq κ]
    [DecidableEq κ]
    (kept : κ → Bool)
    (entries : List (κ × ν))
    (key : κ) :
    (entries.filter fun entry => kept entry.1).lookup key =
      if kept key = true then entries.lookup key else none := by
  induction entries with
  | nil => simp
  | cons entry rest induction =>
      obtain ⟨present, held⟩ := entry
      rw [List.filter_cons, lookup_cons_eq_if]
      by_cases here : key = present
      · subst here
        cases isKept : kept key <;> simp [isKept, induction]
      · cases kept present <;> simp [here, lookup_cons_eq_if, induction]

theorem find?_filter
    (kept : String → Bool)
    (entries : List (String × α))
    (key : String) :
    find? (entries.filter fun entry => kept entry.1) key =
      if kept key = true then find? entries key else none :=
  lookup_filter kept entries key

/-- What is inserted under a key that is not kept leaves no trace. -/
theorem filter_insert_of_not
    {kept : String → Bool}
    {key : String}
    (dropped : kept key = false)
    (value : α)
    (entries : List (String × α)) :
    (insert key value entries).filter (fun entry => kept entry.1) =
      entries.filter fun entry => kept entry.1 := by
  induction entries with
  | nil => simp [insert, dropped]
  | cons entry rest induction =>
      obtain ⟨present, held⟩ := entry
      rw [insert]
      split
      · simp [dropped]
      · split
        · rename_i same
          subst same
          simp [dropped]
        · simp only [List.filter_cons, induction]

/-! ## Making a dictionary entry by entry -/

section

variable {ε : Type} {step : String × α → Except ε (String × β)}
  {entries : List (String × α)} {results : List (String × β)}

/-- A step that keeps keys keeps them in order. -/
theorem keys_of_mapM
    (keeps : ∀ entry result, step entry = .ok result → result.1 = entry.1)
    (succeeded : entries.mapM step = .ok results) :
    keys results = keys entries := by
  induction entries generalizing results with
  | nil =>
      cases succeeded
      rfl
  | cons entry entries induction =>
      rw [List.mapM_cons, Outcome.bind_eq_ok_iff] at succeeded
      rcases succeeded with ⟨first, firstOk, rest⟩
      rcases Outcome.bind_eq_ok_iff.mp rest with ⟨others, othersOk, equal⟩
      cases equal
      have tail := induction othersOk
      simp only [keys, List.map_cons] at tail ⊢
      rw [keeps entry first firstOk, tail]

/-- If no step fails, entries may be dropped before the steps or after them. -/
theorem mapM_filter
    (keeps : ∀ entry result, step entry = .ok result → result.1 = entry.1)
    (succeeds : ∀ entry, ∃ result, step entry = .ok result)
    (kept : String → Bool)
    (entries : List (String × α)) :
    (entries.filter fun entry => kept entry.1).mapM step =
      (entries.mapM step).map (List.filter fun entry => kept entry.1) := by
  induction entries with
  | nil => rfl
  | cons entry entries induction =>
      rcases succeeds entry with ⟨result, stepped⟩
      have sameKey : result.1 = entry.1 := keeps entry result stepped
      rw [List.filter_cons, List.mapM_cons, stepped]
      cases isKept : kept entry.1 with
      | true =>
          rw [if_pos rfl, List.mapM_cons, stepped, induction]
          cases entries.mapM step with
          | error error => rfl
          | ok results =>
              apply congrArg Except.ok
              rw [List.filter_cons, sameKey, isKept, if_pos rfl]
      | false =>
          rw [if_neg Bool.false_ne_true, induction]
          cases entries.mapM step with
          | error error => rfl
          | ok results =>
              apply congrArg Except.ok
              rw [List.filter_cons, sameKey, isKept, if_neg Bool.false_ne_true]

/-- Under each key stands what the step makes of the value that stood there. -/
theorem find?_of_mapM
    (keeps : ∀ entry result, step entry = .ok result → result.1 = entry.1)
    (succeeded : entries.mapM step = .ok results)
    {key : String}
    {result : β} :
    find? results key = some result ↔
      ∃ value, find? entries key = some value ∧
        step (key, value) = .ok (key, result) := by
  induction entries generalizing results with
  | nil =>
      cases succeeded
      simp [find?]
  | cons entry entries induction =>
      rw [List.mapM_cons, Outcome.bind_eq_ok_iff] at succeeded
      rcases succeeded with ⟨first, firstOk, rest⟩
      rcases Outcome.bind_eq_ok_iff.mp rest with ⟨others, othersOk, equal⟩
      cases equal
      obtain ⟨present, held⟩ := entry
      obtain ⟨made, outcome⟩ := first
      have sameKey : made = present := keeps _ _ firstOk
      subst sameKey
      have tail := induction othersOk
      rw [find?_cons, find?_cons]
      by_cases here : key = made
      · subst here
        simp [firstOk]
      · rw [if_neg here, if_neg here]
        exact tail

end

/-! ## Ascending dictionaries -/

/-- The keys stand in strictly ascending order. -/
def Ascending (entries : List (String × α)) : Prop :=
  entries.Pairwise fun first second => first.1 < second.1

theorem Ascending.nil : Ascending ([] : List (String × α)) :=
  List.Pairwise.nil

/-- Insertion keeps the order. -/
theorem Ascending.insert
    {entries : List (String × α)}
    (ascending : Ascending entries)
    (key : String)
    (value : α) :
    Ascending (insert key value entries) := by
  induction entries with
  | nil => simp [Dictionary.insert, Ascending]
  | cons entry rest induction =>
      obtain ⟨present, held⟩ := entry
      rcases List.pairwise_cons.mp ascending with ⟨below, tail⟩
      rw [Dictionary.insert]
      split
      · rename_i less
        apply List.pairwise_cons.mpr
        refine ⟨?_, ascending⟩
        intro other member
        rcases List.mem_cons.mp member with head | later
        · subst head
          exact less
        · exact less.trans (below other later)
      · split
        · rename_i same
          subst same
          exact List.pairwise_cons.mpr ⟨below, tail⟩
        · rename_i notLess different
          have greater : present < key :=
            lt_of_le_of_ne (not_lt.mp notLess) (Ne.symm different)
          apply List.pairwise_cons.mpr
          refine ⟨?_, induction tail⟩
          intro other member
          rcases mem_insert_cases member with inserted | old
          · subst inserted
            exact greater
          · exact below other old

theorem Ascending.union
    {first : List (String × α)}
    (ascending : Ascending first)
    (second : List (String × α)) :
    Ascending (union first second) := by
  rw [Dictionary.union]
  induction second generalizing first with
  | nil => exact ascending
  | cons entry rest induction =>
      rw [List.foldl_cons]
      exact induction (ascending.insert entry.1 entry.2)

theorem ascending_ofList (pairs : List (String × α)) :
    Ascending (ofList pairs) :=
  Ascending.nil.union pairs

/-- In an ascending dictionary every entry is found. -/
theorem Ascending.find?_of_mem
    {entries : List (String × α)}
    (ascending : Ascending entries)
    {key : String}
    {value : α}
    (member : (key, value) ∈ entries) :
    find? entries key = some value := by
  induction entries with
  | nil => cases member
  | cons entry rest induction =>
      obtain ⟨present, held⟩ := entry
      rcases List.pairwise_cons.mp ascending with ⟨below, tail⟩
      rcases List.mem_cons.mp member with head | later
      · cases head
        simp [find?]
      · have less : present < key := below (key, value) later
        rw [find?_cons, if_neg less.ne']
        exact induction tail later

/-- The entries of a dictionary are among the pairs that it was made of. -/
theorem ofList_subset (pairs : List (String × α)) : ofList pairs ⊆ pairs := by
  rintro ⟨key, value⟩ member
  have found : find? (union [] pairs) key = some value :=
    (ascending_ofList pairs).find?_of_mem member
  rcases find?_union_cases found with isPair | absurdity
  · exact isPair
  · cases absurdity

/-- Whether a dictionary ascends is a matter of its keys. -/
theorem ascending_iff_keys {entries : List (String × α)} :
    Ascending entries ↔ (keys entries).Pairwise (· < ·) := by
  rw [Ascending, keys, List.pairwise_map]

theorem Ascending.nodup_keys
    {entries : List (String × α)}
    (ascending : Ascending entries) :
    (keys entries).Nodup :=
  (ascending_iff_keys.mp ascending).imp fun less => ne_of_lt less

theorem Ascending.nodup
    {entries : List (String × α)}
    (ascending : Ascending entries) :
    entries.Nodup :=
  ascending.imp fun less same => less.ne (congrArg Prod.fst same)

theorem Ascending.filter
    {entries : List (String × α)}
    (ascending : Ascending entries)
    (kept : String × α → Bool) :
    Ascending (entries.filter kept) :=
  List.Pairwise.sublist List.filter_sublist ascending

/-- Ascending dictionaries with the same entries are equal. -/
theorem Ascending.eq_of_perm
    {first second : List (String × α)}
    (ascending : Ascending first)
    (otherAscending : Ascending second)
    (order : first.Perm second) :
    first = second :=
  order.eq_of_pairwise (fun _ _ _ _ less greater =>
      absurd less (lt_asymm greater)) ascending otherAscending

/-- Ascending dictionaries in which every key has the same value are equal. -/
theorem Ascending.ext
    {first second : List (String × α)}
    (ascending : Ascending first)
    (otherAscending : Ascending second)
    (same : ∀ key, find? first key = find? second key) :
    first = second := by
  apply ascending.eq_of_perm otherAscending
  rw [List.perm_ext_iff_of_nodup ascending.nodup otherAscending.nodup]
  rintro ⟨key, value⟩
  constructor
  · intro member
    exact mem_of_find? ((same key).symm.trans (ascending.find?_of_mem member))
  · intro member
    exact mem_of_find? ((same key).trans (otherAscending.find?_of_mem member))

/-- Inserting what is there changes nothing. -/
theorem Ascending.insert_of_find?
    {entries : List (String × α)}
    (ascending : Ascending entries)
    {key : String}
    {value : α}
    (found : find? entries key = some value) :
    Dictionary.insert key value entries = entries := by
  apply (ascending.insert key value).ext ascending
  intro other
  by_cases same : other = key
  · rw [same, find?_insert_self, found]
  · rw [find?_insert_of_ne same]

/-- Of two values inserted under one key the second remains. -/
theorem Ascending.insert_insert
    {entries : List (String × α)}
    (ascending : Ascending entries)
    (key : String)
    (held value : α) :
    Dictionary.insert key value (Dictionary.insert key held entries) =
      Dictionary.insert key value entries := by
  apply ((ascending.insert key held).insert key value).ext
    (ascending.insert key value)
  intro other
  by_cases same : other = key
  · rw [same, find?_insert_self, find?_insert_self]
  · rw [find?_insert_of_ne same, find?_insert_of_ne same,
      find?_insert_of_ne same]

theorem find?_eq_none
    {entries : List (String × α)}
    {key : String}
    (absent : key ∉ keys entries) :
    find? entries key = none := by
  cases found : find? entries key with
  | none => rfl
  | some value => exact absurd (List.mem_map_of_mem (mem_of_find? found)) absent

/-- In a union the second part, if it has no key twice, goes before the
first. -/
theorem find?_union
    {second : List (String × α)}
    (distinct : (keys second).Nodup)
    (first : List (String × α))
    (key : String) :
    find? (union first second) key =
      (find? second key).or (find? first key) := by
  rw [union]
  induction second generalizing first with
  | nil => rfl
  | cons entry rest induction =>
      obtain ⟨present, held⟩ := entry
      rcases List.nodup_cons.mp distinct with ⟨notRepeated, restDistinct⟩
      rw [List.foldl_cons]
      refine (induction restDistinct _).trans ?_
      by_cases same : key = present
      · subst same
        rw [find?_insert_self, find?_eq_none notRepeated, find?_cons,
          if_pos rfl]
        rfl
      · rw [find?_insert_of_ne same, find?_cons, if_neg same]

/-- Insertion under a new key adds an entry. -/
theorem insert_perm
    {entries : List (String × α)}
    {key : String}
    (value : α)
    (absent : key ∉ keys entries) :
    (insert key value entries).Perm ((key, value) :: entries) := by
  induction entries with
  | nil => exact List.Perm.refl _
  | cons entry rest induction =>
      obtain ⟨present, held⟩ := entry
      rw [keys, List.map_cons, List.mem_cons, not_or] at absent
      rw [insert]
      split
      · exact List.Perm.refl _
      · rw [if_neg absent.1]
        exact ((induction absent.2).cons _).trans (List.Perm.swap _ _ _)

/-- Insertion drops no entry without putting another one in its place. -/
theorem length_le_length_insert
    (key : String)
    (value : α)
    (entries : List (String × α)) :
    entries.length ≤ (insert key value entries).length := by
  induction entries with
  | nil => exact Nat.zero_le _
  | cons entry rest induction =>
      rw [insert]
      split
      · exact Nat.le_succ _
      · split
        · exact Nat.le_refl _
        · exact Nat.succ_le_succ induction

theorem insert_of_forall_lt
    {entries : List (String × α)}
    {key : String}
    (value : α)
    (above : ∀ entry ∈ entries, key < entry.1) :
    insert key value entries = (key, value) :: entries := by
  cases entries with
  | nil => rfl
  | cons entry rest => rw [insert, if_pos (above entry List.mem_cons_self)]

theorem insert_of_forall_gt
    {entries : List (String × α)}
    {key : String}
    (value : α)
    (below : ∀ entry ∈ entries, entry.1 < key) :
    insert key value entries = entries ++ [(key, value)] := by
  induction entries with
  | nil => rfl
  | cons entry rest induction =>
      rcases List.forall_mem_cons.mp below with ⟨first, others⟩
      rw [insert, if_neg (not_lt.mpr first.le), if_neg first.ne',
        induction others, List.cons_append]

/-- Inserting under a key that is kept may be done before or after the others
are dropped. -/
theorem Ascending.filter_insert
    {entries : List (String × α)}
    (ascending : Ascending entries)
    {kept : String → Bool}
    {key : String}
    (isKept : kept key = true)
    (value : α) :
    (Dictionary.insert key value entries).filter (fun entry => kept entry.1) =
      Dictionary.insert key value
        (entries.filter fun entry => kept entry.1) := by
  induction entries with
  | nil => simp [Dictionary.insert, isKept]
  | cons entry rest induction =>
      obtain ⟨present, held⟩ := entry
      rcases List.pairwise_cons.mp ascending with ⟨below, tail⟩
      rw [Dictionary.insert]
      split
      · rename_i less
        have above :
            ∀ other ∈ ((present, held) :: rest).filter fun entry =>
              kept entry.1,
              key < other.1 := by
          intro other member
          rcases List.mem_cons.mp (List.mem_of_mem_filter member) with
            head | later
          · rw [head]
            exact less
          · exact less.trans (below other later)
        rw [insert_of_forall_lt value above, List.filter_cons, if_pos isKept]
      · rename_i notLess
        split
        · rename_i same
          subst same
          simp [isKept, Dictionary.insert]
        · rename_i different
          rw [List.filter_cons, List.filter_cons, induction tail]
          split
          · rw [Dictionary.insert, if_neg notLess, if_neg different]
          · rfl

end JsonApi.Dictionary

namespace JsonApi.Names

theorem mem_ofList
    {name : String}
    {names : List String} :
    name ∈ ofList names ↔ name ∈ names := by
  have general :
      ∀ gathered : List String,
        name ∈ names.foldl (fun gathered name => insert name gathered)
          gathered ↔
          name ∈ gathered ∨ name ∈ names := by
    induction names with
    | nil => simp
    | cons first rest induction =>
        intro gathered
        rw [List.foldl_cons, induction, mem_insert, List.mem_cons]
        tauto
  rw [ofList, general]
  simp

/-- Insertion keeps names ascending. -/
theorem pairwise_insert
    {names : List String}
    (ascending : names.Pairwise (· < ·))
    (name : String) :
    (insert name names).Pairwise (· < ·) := by
  induction names with
  | nil => simp [insert]
  | cons present rest induction =>
      rcases List.pairwise_cons.mp ascending with ⟨below, tail⟩
      rw [insert]
      split
      · rename_i less
        apply List.pairwise_cons.mpr
        refine ⟨?_, ascending⟩
        intro other member
        rcases List.mem_cons.mp member with head | later
        · rw [head]
          exact less
        · exact less.trans (below other later)
      · split
        · exact ascending
        · rename_i notLess different
          apply List.pairwise_cons.mpr
          refine ⟨?_, induction tail⟩
          intro other member
          rcases (mem_insert rest).mp member with inserted | old
          · rw [inserted]
            exact lt_of_le_of_ne (not_lt.mp notLess) (Ne.symm different)
          · exact below other old

theorem pairwise_union
    {first second : List String}
    (ascending : first.Pairwise (· < ·)) :
    (union first second).Pairwise (· < ·) := by
  rw [union]
  induction second generalizing first with
  | nil => exact ascending
  | cons name rest induction =>
      rw [List.foldl_cons]
      exact induction (pairwise_insert ascending name)

theorem pairwise_ofList (names : List String) :
    (ofList names).Pairwise (· < ·) :=
  pairwise_union List.Pairwise.nil

/-- Ascending names are gathered as they stand. -/
theorem ofList_of_pairwise
    {names : List String}
    (ascending : names.Pairwise (· < ·)) :
    ofList names = names := by
  apply List.Perm.eq_of_pairwise (fun _ _ _ _ less greater =>
      absurd less (lt_asymm greater)) (pairwise_ofList names) ascending
  rw [List.perm_ext_iff_of_nodup ((pairwise_ofList names).imp ne_of_lt)
    (ascending.imp ne_of_lt)]
  exact fun name => mem_ofList

end JsonApi.Names
