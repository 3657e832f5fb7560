/-!
# Dictionaries with text keys

A dictionary is a list of entries in ascending key order, each key at most
once.  Keys are ordered by code points.  `insert` keeps that order and
replaces the value of a key that is present; `find?` reads the value of a key.
A set of names is the list of its members in the same order.
-/

namespace JsonApi

namespace Dictionary

variable {α β : Type}

/-- The entries with a value for `key`; a value already there is replaced. -/
def insert (key : String) (value : α) : List (String × α) → List (String × α)
  | [] => [(key, value)]
  | (present, held) :: rest =>
    if key < present then (key, value) :: (present, held) :: rest
    else if key = present then (key, value) :: rest
    else (present, held) :: insert key value rest

/-- The value that belongs to `key`. -/
def find? (entries : List (String × α)) (key : String) : Option α :=
  entries.lookup key

/-- Whether `key` has a value. -/
def contains (entries : List (String × α)) (key : String) : Bool :=
  (find? entries key).isSome

/-- The keys in ascending order. -/
def keys (entries : List (String × α)) : List String :=
  entries.map Prod.fst

/-- The entries with the value of `key`, if it has one, changed by `change`. -/
def modify
    (key : String)
    (change : α → α)
    (entries : List (String × α)) :
    List (String × α) :=
  entries.map fun entry =>
    if entry.1 = key then (entry.1, change entry.2) else entry

/-- The dictionary of a list of pairs; of several pairs with one key the last
one counts. -/
def ofList (pairs : List (String × α)) : List (String × α) :=
  pairs.foldl (fun entries pair => insert pair.1 pair.2 entries) []

/-- The entries with their values mapped. -/
def mapValues
    (change : α → β)
    (entries : List (String × α)) : List (String × β) :=
  entries.map fun entry => (entry.1, change entry.2)

/-- The entries of `first` with those of `second` written over them. -/
def union (first second : List (String × α)) : List (String × α) :=
  second.foldl (fun entries pair => insert pair.1 pair.2 entries) first

/-- The value just inserted is found. -/
theorem find?_insert_self
    (key : String)
    (value : α)
    (entries : List (String × α)) :
    find? (insert key value entries) key = some value := by
  induction entries with
  | nil => simp [insert, find?]
  | cons entry rest hypothesis =>
    obtain ⟨present, held⟩ := entry
    unfold insert
    split
    · simp [find?]
    · split
      · simp [find?]
      · rename_i different
        have keysDiffer : (key == present) = false := by simpa using different
        simpa [find?, List.lookup_cons, keysDiffer] using hypothesis

/-- Inserting under one key leaves the values of the other keys alone. -/
theorem find?_insert_of_ne
    {key other : String}
    (different : other ≠ key)
    (value : α)
    (entries : List (String × α)) :
    find? (insert key value entries) other = find? entries other := by
  have otherDiffers : (other == key) = false := by simpa using different
  induction entries with
  | nil => simp [insert, find?, List.lookup_cons, otherDiffers]
  | cons entry rest hypothesis =>
    obtain ⟨present, held⟩ := entry
    unfold insert
    split
    · simp [find?, List.lookup_cons, otherDiffers]
    · split
      · rename_i isPresent
        subst isPresent
        simp [find?, List.lookup_cons, otherDiffers]
      · simp only [find?] at hypothesis
        simp [find?, List.lookup_cons, hypothesis]

end Dictionary

namespace Names

/-- The ascending names with `name` among them. -/
def insert (name : String) : List String → List String
  | [] => [name]
  | present :: rest =>
    if name < present then name :: present :: rest
    else if name = present then present :: rest
    else present :: insert name rest

/-- The names of a list in ascending order, each once. -/
def ofList (names : List String) : List String :=
  names.foldl (fun gathered name => insert name gathered) []

/-- The names of two ascending lists in ascending order, each once. -/
def union (first second : List String) : List String :=
  second.foldl (fun gathered name => insert name gathered) first

/-- A name is in the list with `name` inserted when it is that name or was there
before. -/
theorem mem_insert
    {name other : String}
    (names : List String) :
    other ∈ insert name names ↔ other = name ∨ other ∈ names := by
  induction names with
  | nil => simp [insert]
  | cons present rest hypothesis =>
    unfold insert
    split
    · simp
    · split
      · rename_i isPresent
        subst isPresent
        simp
      · simp only [List.mem_cons, hypothesis]
        grind

end Names

end JsonApi
