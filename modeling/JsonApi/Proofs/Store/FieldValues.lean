import JsonApi.Proofs.Document.Compound
import JsonApi.Proofs.Text.Pieces

/-!
# Values at the end of a path

A filter reads a field path name by name, with all records that the names so
far lead to side by side.  Following the links of one record after the other,
as it is done for included records, leads to the same records in the same order
(`Store.reached`): a record stands there as often as links lead to it, and a
link to a record that does not exist adds nothing.  The path has the values
that these records have under its last name (`Store.fieldValues_along_links`).
-/

namespace JsonApi

/-- No relationship along the names leads to a list, as far as they are
relationships. -/
def Schema.SingleAlong (schema : Schema) : String → List String → Prop
  | _, [] => True
  | resourceType, name :: names =>
    ∀ declared, schema.relationship? resourceType name = some declared →
      declared.toMany = false ∧ schema.SingleAlong declared.target names

namespace Store

/-- The records that the names lead to from a record, one link followed to its
end after the other. -/
def reached (store : Store) (record : Record) : List String → List Record
  | [] => [record]
  | name :: names =>
    match Dictionary.find? record.relationships name with
    | none => []
    | some relationship =>
      (relationship.link.ids.filterMap
          (store.find? relationship.target)).flatMap fun next =>
        store.reached next names

variable {schema : Schema} {store : Store} {resourceType name field : String}
  {record next : Record} {names : List String}

/-! ## One record after the other -/

/-- A link leads to the records of its identifiers that exist. -/
theorem objects_follow
    (store : Store)
    (relationship : StoredRelationship) :
    (store.follow relationship).objects =
      relationship.link.ids.filterMap (store.find? relationship.target) := by
  obtain ⟨target, link⟩ := relationship
  cases link with
  | one id =>
      cases id with
      | none => rfl
      | some id =>
          rw [follow, Related.objects, StoredLink.ids, Option.bind_some,
            Option.toList_some, List.filterMap_cons]
          cases store.find? target id <;> rfl
  | many ids => rfl

theorem reached_cons :
    store.reached record (name :: names) =
      (store.linked record name).flatMap fun next =>
        store.reached next names := by
  rw [reached, linked]
  cases Dictionary.find? record.relationships name with
  | none => rfl
  | some relationship =>
      dsimp only
      rw [objects_follow]

theorem reached_singleton :
  store.reached record [name] = store.linked record name := by
  rw [reached_cons]
  exact List.flatMap_singleton' _

theorem reached_append (first second : List String) :
    store.reached record (first ++ second) =
      (store.reached record first).flatMap fun next =>
        store.reached next second := by
  induction first generalizing record with
  | nil => simp [reached]
  | cons name names induction =>
      simp only [List.cons_append, reached_cons, induction, List.flatMap_assoc]

/-- Reading all records side by side gives the values of those that are reached
one by one. -/
theorem valuesAlong_concat
    (records : List Record)
    (names : List String)
    (field : String) :
    store.valuesAlong records (names ++ [field]) =
      (records.flatMap fun record => store.reached record names).filterMap
        (·.field? field) := by
  induction names generalizing records with
  | nil => simp [valuesAlong, reached]
  | cons name names induction =>
      have someName : names ++ [field] ≠ [] :=
        List.append_ne_nil_of_right_ne_nil _ (by simp)
      rcases List.exists_cons_of_ne_nil someName with ⟨following, others, split⟩
      rw [List.cons_append, split, valuesAlong, ← split, induction,
        List.flatMap_assoc]
      simp only [reached_cons]

theorem fieldValues_of_splitAt
    {path : String}
    (split : Text.splitAt '.' path = names ++ [field]) :
    store.fieldValues record path =
      (store.reached record names).filterMap (·.field? field) := by
  rw [fieldValues, split, valuesAlong_concat, List.flatMap_singleton]

theorem exists_splitAt (path : String) :
    ∃ names field, Text.splitAt '.' path = names ++ [field] := by
  have somePiece : Text.splitAt '.' path ≠ [] := by
    rw [Text.splitAt, ne_eq, List.map_eq_nil_iff]
    exact Text.pieces_ne_nil '.' path.toList
  exact ⟨_, _, (List.dropLast_append_getLast somePiece).symm⟩

/-- Behind its first name, a path is read from each of the records that this
name leads to. -/
theorem fieldValues_below
    (undotted : '.' ∉ name.toList)
    (rest : String) :
    store.fieldValues record (name ++ "." ++ rest) =
      (store.linked record name).flatMap fun next =>
        store.fieldValues next rest := by
  rcases exists_splitAt rest with ⟨names, field, split⟩
  have whole :
      Text.splitAt '.' (name ++ "." ++ rest) = (name :: names) ++ [field] := by
    have cut : Text.splitAt '.' (name ++ "." ++ rest) = _ :=
      Text.splitAt_append '.' name rest
    rw [cut, Text.splitAt_of_not_mem undotted, split]
    rfl
  simp only [fieldValues_of_splitAt whole, fieldValues_of_splitAt split,
    reached_cons, List.filterMap_flatMap]

/-! ## Links of loaded records -/

/-- A record that links lead to is one of the target type, and the name is
declared. -/
theorem Sound.declared_of_linked
    (sound : Sound schema store)
    (member : record ∈ store.recordsOf resourceType)
    (isLinked : next ∈ store.linked record name) :
    ∃ declared, schema.relationship? resourceType name = some declared ∧
      next ∈ store.recordsOf declared.target := by
  have follows :=
    ((sound.records resourceType).conforms record member).follows name
  rw [linked] at isLinked
  split at isLinked
  · rename_i relationship found
    rw [found] at follows
    exact ⟨_, follows.symm, mem_recordsOf_follow isLinked⟩
  · cases isLinked

/-- Behind a name that is no relationship of the type reached, there is
nothing. -/
theorem Sound.reached_eq_nil
    (sound : Sound schema store)
    (member : record ∈ store.recordsOf resourceType)
    (broken : ¬∃ final, schema.Chain resourceType names final) :
    store.reached record names = [] := by
  induction names generalizing resourceType record with
  | nil => exact absurd ⟨resourceType, .nil resourceType⟩ broken
  | cons name names induction =>
      rw [reached_cons, List.flatMap_eq_nil_iff]
      intro next isLinked
      rcases sound.declared_of_linked member isLinked with
        ⟨declared, isDeclared, isTarget⟩
      apply induction isTarget
      rintro ⟨final, chain⟩
      exact broken ⟨final, .cons isDeclared chain⟩

theorem Sound.length_linked_le
    (sound : Sound schema store)
    (member : record ∈ store.recordsOf resourceType)
    (single :
      ∀ declared, schema.relationship? resourceType name = some declared →
      declared.toMany = false) :
    (store.linked record name).length ≤ 1 := by
  have follows :=
    ((sound.records resourceType).conforms record member).follows name
  rw [linked]
  cases found : Dictionary.find? record.relationships name with
  | none => exact Nat.zero_le 1
  | some relationship =>
      rw [found] at follows
      have isOne := single _ follows.symm
      obtain ⟨target, link⟩ := relationship
      cases link with
      | one id =>
          dsimp only
          rw [objects_follow]
          exact (List.length_filterMap_le _ _).trans Option.length_toList_le
      | many ids => cases isOne

/-- Without lists on the way, at most one record is reached. -/
theorem Sound.length_reached_le
    (sound : Sound schema store)
    (member : record ∈ store.recordsOf resourceType)
    (single : schema.SingleAlong resourceType names) :
    (store.reached record names).length ≤ 1 := by
  induction names generalizing resourceType record with
  | nil => exact Nat.le_refl 1
  | cons name names induction =>
      have atMostOne := sound.length_linked_le member fun declared isDeclared =>
        (single declared isDeclared).1
      rw [reached_cons]
      match isLinked : store.linked record name, atMostOne with
      | [], _ => exact Nat.zero_le 1
      | [next], _ =>
          have isNext : next ∈ store.linked record name := by simp [isLinked]
          rcases sound.declared_of_linked member isNext with
            ⟨declared, isDeclared, isTarget⟩
          rw [List.flatMap_singleton]
          exact induction isTarget (single declared isDeclared).2

/-! ## Walks -/

theorem resolve_eq_ok_iff
    {given : String}
    {found : Related Record} :
    store.resolve given record name = .ok found ↔
      ∃ relationship,
        Dictionary.find? record.relationships name = some relationship ∧
        store.follow relationship = found := by
  rw [resolve]
  cases Dictionary.find? record.relationships name <;> simp

theorem mem_linked_iff (given : String) :
    next ∈ store.linked record name ↔
      ∃ found, store.resolve given record name = .ok found ∧
        next ∈ found.objects := by
  simp only [resolve_eq_ok_iff, linked]
  cases Dictionary.find? record.relationships name <;> simp

/-- The records that the names lead to are those that walks along the names end
at. -/
theorem mem_reached_iff_walk :
    next ∈ store.reached record names ↔ store.Walk record names next := by
  induction names using List.reverseRecOn generalizing next with
  | nil =>
      rw [reached, List.mem_singleton]
      constructor
      · rintro rfl
        exact .nil
      · intro walk
        generalize noNames : ([] : List String) = names at walk
        cases walk with
        | nil => rfl
        | concat => simp at noNames
  | append_singleton names name induction =>
      rw [reached_append, List.mem_flatMap]
      simp only [reached_singleton, induction]
      constructor
      · rintro ⟨between, walk, isLinked⟩
        rcases (mem_linked_iff between.resourceType).mp isLinked with
          ⟨found, resolved, step⟩
        exact walk.concat resolved step
      · intro walk
        generalize isWhole : names ++ [name] = whole at walk
        cases walk with
        | nil => simp at isWhole
        | concat before resolved step =>
            rcases List.append_inj' isWhole rfl with ⟨rfl, sameName⟩
            cases sameName
            exact ⟨_, before, (mem_linked_iff _).mpr ⟨_, resolved, step⟩⟩

/-! ## Paths -/

/-- Behind a declared relationship, a path has the values that the rest of it
has for the objects that the relationship is resolved to, in their order.  Every
path has one value for each record that it reaches, as often as links lead
there, and that has its last name; these are the records that walks reach.
There is at most one value if no list stands on the way, and none if some name
on the way is no relationship. -/
theorem fieldValues_along_links
    (loaded : store.LoadedWith schema)
    (member : record ∈ store.recordsOf resourceType)
    (path : String) :
    (∀ name rest declared, path = name ++ "." ++ rest → '.' ∉ name.toList →
        schema.relationship? resourceType name = some declared →
          ∃ found, store.resolve resourceType record name = .ok found ∧
            store.fieldValues record path =
              found.objects.flatMap fun object =>
                store.fieldValues object rest) ∧
      ∃ names field, Text.splitAt '.' path = names ++ [field] ∧
        store.fieldValues record path =
          (store.reached record names).filterMap (·.field? field) ∧
        (∀ next, next ∈ store.reached record names ↔
            store.Walk record names next) ∧
        (schema.SingleAlong resourceType names →
            (store.fieldValues record path).length ≤ 1) ∧
        ((¬∃ final, schema.Chain resourceType names final) →
          store.fieldValues record path = []) := by
  have sound := sound_of_loadedWith loaded
  have conforms := (sound.records resourceType).conforms record member
  constructor
  · rintro name rest declared rfl undotted isDeclared
    rcases resolve_of_declared conforms isDeclared resourceType with
      ⟨found, resolved, _⟩
    refine ⟨found, resolved, ?_⟩
    rcases resolve_eq_ok_iff.mp resolved with ⟨relationship, isStored, rfl⟩
    rw [fieldValues_below undotted, linked, isStored]
  · rcases exists_splitAt path with ⟨names, field, split⟩
    have values : store.fieldValues record path =
        (store.reached record names).filterMap (·.field? field) :=
          fieldValues_of_splitAt split
    refine ⟨names, field, split, values, fun next => mem_reached_iff_walk, ?_,
      ?_⟩
    · intro single
      rw [values]
      exact (List.length_filterMap_le _ _).trans
        (sound.length_reached_le member single)
    · intro broken
      rw [values, sound.reached_eq_nil member broken]
      rfl

/-- The second person knows the third and the first; of the two people whom the
third knows, one does not exist, and the first is known both by the third and by
itself. -/
theorem fieldValues_along_links_ring :
    ∃ record found, ring.LoadedWith acquaintance ∧
      record ∈ ring.recordsOf "people" ∧
      ring.find? "people" "2" = some record ∧
      ring.resolve "people" record "knows" = .ok found ∧
      found.objects.map Record.id = ["3", "1"] ∧
      ring.fieldValues record "knows.knows.id" =
        found.objects.flatMap
          (fun object => ring.fieldValues object "knows.id") ∧
      ring.fieldValues record "knows.knows.id" =
        [.string "1", .string "2", .string "1"] := by
  have loaded : ring.LoadedWith acquaintance := ⟨ringFixture, rfl⟩
  have second : ∃ record found, ring.find? "people" "2" = some record ∧
      ring.resolve "people" record "knows" = .ok found ∧
      found.objects.map Record.id = ["3", "1"] ∧
      ring.fieldValues record "knows.knows.id" =
        [.string "1", .string "2", .string "1"] :=
    ⟨_, _, rfl, rfl, rfl, rfl⟩
  rcases second with ⟨record, found, isSecond, resolved, knows, values⟩
  have member : record ∈ ring.recordsOf "people" := (mem_of_find? isSecond).1
  rcases (fieldValues_along_links loaded member "knows.knows.id").1 "knows"
    "knows.id" ⟨"people", true⟩ rfl (by decide) rfl with
    ⟨again, resolvedAgain, followed⟩
  cases resolved.symm.trans resolvedAgain
  exact ⟨record, found, loaded, member, isSecond, resolved, knows, followed,
    values⟩

end Store

end JsonApi
