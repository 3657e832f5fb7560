import JsonApi.Proofs.Filter.Leaves
import JsonApi.Proofs.FirstOccurrences
import JsonApi.Proofs.Schema
import JsonApi.Proofs.Text.Percent
import JsonApi.Proofs.Text.Pieces

/-!
# Where the path of a field leads

The path of a field is walked from a resource type through the targets of
relationships.  The walk passes a name that is a relationship of the type
reached and neither an attribute of it nor the identifier (`Schema.Passes`).
The first name that it does not pass decides where the path leads, and so does
the end of the path if it passes all names (`Schema.LeadsTo`).  This is what
the check of fields finds (`Schema.resolveField_eq_iff`), and the bytes that it
counts on the way are those of the path up to a name
(`Schema.beginning_of_split`).  It reports one fault for each field of a filter
that does not lead to an attribute or to the identifier, in the order in which
its leaves first read these fields (`Filter.fieldErrors_firstOccurring`).
-/

namespace JsonApi

open JsonApi.Text

namespace Schema

/-- Names that are passed on the way from one type to another: each is a
relationship of the type reached and cannot be read there. -/
inductive Passes (schema : Schema) : String → List String → String → Prop where
  | nil (resourceType : String) :
      Passes schema resourceType [] resourceType
  | cons
      {resourceType name reached : String}
      {names : List String}
      {relationship : Relationship}
      (unreadable : schema.isReadable resourceType name = false)
      (declared : schema.relationship? resourceType name = some relationship)
      (rest : Passes schema relationship.target names reached) :
      Passes schema resourceType (name :: names) reached

/-- Where names lead from a type, by the first of them that is not passed. -/
inductive LeadsTo
    (schema : Schema)
    (resourceType : String)
    (names : List String) :
    FieldTarget → Prop where
  /-- The last name is an attribute of the type reached, or the identifier. -/
  | readable
      {before : List String}
      {name reached : String}
      (split : names = before ++ [name])
      (passed : schema.Passes resourceType before reached)
      (isReadable : schema.isReadable reached name = true) :
      LeadsTo schema resourceType names .readable
  /-- An earlier name is one. -/
  | nameAfterAttribute
      {before after : List String}
      {name next reached : String}
      (split : names = before ++ name :: next :: after)
      (passed : schema.Passes resourceType before reached)
      (isReadable : schema.isReadable reached name = true) :
      LeadsTo schema resourceType names
        (.nameAfterAttribute (joinWith '.' (before ++ [name])) next)
  /-- A name is neither that nor a relationship. -/
  | noRelationship
      {before after : List String}
      {name reached : String}
      (split : names = before ++ name :: after)
      (passed : schema.Passes resourceType before reached)
      (unreadable : schema.isReadable reached name = false)
      (undeclared : schema.relationship? reached name = none) :
      LeadsTo schema resourceType names .unknown
  /-- All names are passed, also the last one. -/
  | onlyRelationships
      {reached : String}
      (passed : schema.Passes resourceType names reached) :
      LeadsTo schema resourceType names .unknown

variable {schema : Schema} {resourceType field : String} {names : List String}

/-! ## The walk -/

/-- The number of bytes of names, each with the dot behind it. -/
def dottedBytes : List String → Nat
  | [] => 0
  | name :: names => byteLength name + 1 + dottedBytes names

/-- The walk has counted the bytes in front of a name. -/
theorem byteLength_joinWith
    (before : List String)
    (name : String) :
    byteLength (joinWith '.' (before ++ [name])) = dottedBytes before +
      byteLength name := by
  induction before with
  | nil => rw [List.nil_append, joinWith_singleton, dottedBytes, Nat.zero_add]
  | cons first before induction =>
      have joined :
          joinWith '.' (first :: (before ++ [name])) =
            first ++ "." ++ joinWith '.' (before ++ [name]) := by
        have whole := joinWith_append '.' (List.cons_ne_nil first [])
          (List.append_ne_nil_of_right_ne_nil before (List.cons_ne_nil name []))
        rwa [joinWith_singleton] at whole
      have dot : byteLength "." = 1 := rfl
      rw [List.cons_append, joined, byteLength_append, byteLength_append,
        induction, dot, dottedBytes]
      omega

/-- Following a path goes on behind the names that are passed. -/
theorem followNames_of_passes
    {before rest : List String}
    {reached : String}
    {offset : Nat}
    (passed : schema.Passes resourceType before reached)
    (more : rest ≠ []) :
    schema.followNames field resourceType offset (before ++ rest) =
      schema.followNames field reached (offset + dottedBytes before) rest := by
  induction passed generalizing offset with
  | nil resourceType => rfl
  | @cons resourceType name reached names relationship unreadable declared _
      induction =>
      have step :
          schema.followNames field resourceType offset
            (name :: (names ++ rest)) =
            schema.followNames field relationship.target
              (offset + byteLength name + 1) (names ++ rest) := by
        cases behind : names ++ rest with
        | nil => exact absurd (List.append_eq_nil_iff.mp behind).2 more
        | cons next others =>
            rw [followNames, unreadable, declared, if_neg Bool.false_ne_true]
      rw [List.cons_append, step, induction, dottedBytes]
      congr 1
      omega

theorem followNames_of_all_passed
    {reached : String}
    {offset : Nat}
    (passed : schema.Passes resourceType names reached) :
    schema.followNames field resourceType offset names = .unknown := by
  induction passed generalizing offset with
  | nil resourceType => rfl
  | @cons resourceType name reached names relationship unreadable declared _
      induction =>
      cases names with
      | nil => rw [followNames, unreadable, if_neg Bool.false_ne_true]
      | cons next others =>
          rw [followNames, unreadable, declared, if_neg Bool.false_ne_true]
          exact induction

/-- A field is the path up to a name, a dot, and the path behind it. -/
theorem text_of_split
    {before after : List String}
    {name next : String}
    (split : splitAt '.' field = before ++ name :: next :: after) :
    field = joinWith '.' (before ++ [name]) ++ "." ++
      joinWith '.' (next :: after) := by
  have regrouped :
      splitAt '.' field = (before ++ [name]) ++ (next :: after) := by
    simp [split]
  rw [← joinWith_splitAt '.' field, regrouped]
  exact joinWith_append '.' (by simp) (List.cons_ne_nil next after)

/-- The bytes counted up to a name are those of the path up to it. -/
theorem beginning_of_split
    {before after : List String}
    {name next : String}
    (split : splitAt '.' field = before ++ name :: next :: after) :
    beginning field (dottedBytes before + byteLength name) =
      joinWith '.' (before ++ [name]) := by
  rw [← byteLength_joinWith, text_of_split split, String.append_assoc,
    beginning_append]

/-- A field is followed to where its path leads. -/
theorem LeadsTo.resolveField_eq
    {target : FieldTarget}
    (leads : schema.LeadsTo resourceType (splitAt '.' field) target) :
    schema.resolveField resourceType field = target := by
  rw [resolveField]
  cases leads with
  | readable split passed isReadable =>
      rw [split, followNames_of_passes passed (List.cons_ne_nil _ _),
        followNames, isReadable, if_pos rfl]
  | nameAfterAttribute split passed isReadable =>
      rw [split, followNames_of_passes passed (List.cons_ne_nil _ _),
        followNames, isReadable, if_pos rfl, Nat.zero_add,
        beginning_of_split split]
  | @noRelationship before after name reached split passed unreadable
      undeclared =>
      rw [split, followNames_of_passes passed (List.cons_ne_nil _ _)]
      cases after with
      | nil => rw [followNames, unreadable, if_neg Bool.false_ne_true]
      | cons next others =>
          rw [followNames, unreadable, undeclared, if_neg Bool.false_ne_true]
  | onlyRelationships passed => exact followNames_of_all_passed passed

/-- Names lead somewhere behind a name that is passed if they do so from its
target. -/
theorem LeadsTo.exists_cons
    {name : String}
    {relationship : Relationship}
    {target : FieldTarget}
    (unreadable : schema.isReadable resourceType name = false)
    (declared : schema.relationship? resourceType name = some relationship)
    (leads : schema.LeadsTo relationship.target names target) :
    ∃ further, schema.LeadsTo resourceType (name :: names) further := by
  cases leads with
  | readable split passed isReadable =>
      exact ⟨_, .readable (congrArg (List.cons name) split)
        (.cons unreadable declared passed) isReadable⟩
  | nameAfterAttribute split passed isReadable =>
      exact ⟨_, .nameAfterAttribute (congrArg (List.cons name) split)
        (.cons unreadable declared passed) isReadable⟩
  | noRelationship split passed stops undeclared =>
      exact ⟨_, .noRelationship (congrArg (List.cons name) split)
        (.cons unreadable declared passed) stops undeclared⟩
  | onlyRelationships passed =>
      exact ⟨_, .onlyRelationships (.cons unreadable declared passed)⟩

theorem exists_leadsTo
    (schema : Schema)
    (resourceType : String)
    (names : List String) :
    ∃ target, schema.LeadsTo resourceType names target := by
  induction names generalizing resourceType with
  | nil => exact ⟨_, .onlyRelationships (.nil resourceType)⟩
  | cons name names induction =>
      cases isReadable : schema.isReadable resourceType name with
      | true =>
          cases names with
          | nil =>
              exact ⟨_, .readable (List.nil_append _).symm (.nil resourceType)
                isReadable⟩
          | cons next others =>
              exact ⟨_, .nameAfterAttribute (List.nil_append _).symm
                (.nil resourceType) isReadable⟩
      | false =>
          cases declared : schema.relationship? resourceType name with
          | none =>
              exact ⟨_, .noRelationship (List.nil_append _).symm
                (.nil resourceType) isReadable declared⟩
          | some relationship =>
              rcases induction relationship.target with ⟨_, leads⟩
              exact leads.exists_cons isReadable declared

/-- A field is resolved to where its path leads. -/
theorem resolveField_eq_iff {target : FieldTarget} :
    schema.resolveField resourceType field = target ↔
      schema.LeadsTo resourceType (splitAt '.' field) target := by
  constructor
  · rintro rfl
    rcases schema.exists_leadsTo resourceType (splitAt '.' field) with
      ⟨target, leads⟩
    rw [leads.resolveField_eq]
    exact leads
  · exact LeadsTo.resolveField_eq

/-! ## What lies on the way -/

theorem Passes.chain
    {reached : String}
    (passed : schema.Passes resourceType names reached) :
    schema.Chain resourceType names reached := by
  induction passed with
  | nil resourceType => exact .nil resourceType
  | cons _ declared _ induction => exact .cons declared induction

/-- A field that is accepted leads to an attribute or to the identifier. -/
theorem LeadsTo.isReadable
    (leads : schema.LeadsTo resourceType names .readable) :
    schema.Readable resourceType names := by
  cases leads with
  | readable split passed isReadable =>
      exact ⟨_, _, _, split,
        passed.chain, by simpa [Schema.isReadable] using isReadable⟩

/-- A name behind an attribute is not the first one. -/
theorem LeadsTo.mem_tail
    {path name : String}
    (leads :
      schema.LeadsTo resourceType names (.nameAfterAttribute path name)) :
    name ∈ names.tail := by
  cases leads with
  | @nameAfterAttribute before after last next reached split _ _ =>
      cases before with
      | nil => simp [split]
      | cons first before => simp [split]

/-- A name behind an attribute stands among the last names, or they do not
matter. -/
theorem LeadsTo.of_append
    {last : List String}
    {path name : String}
    (leads : schema.LeadsTo resourceType (names ++ last)
      (.nameAfterAttribute path name)) :
    schema.LeadsTo resourceType names (.nameAfterAttribute path name) ∨
      name ∈ last := by
  cases leads with
  | @nameAfterAttribute before after found next reached split passed
      isReadable =>
      have regrouped :
          names ++ last = (before ++ [found]) ++ (name :: after) := by
        simp [split]
      rcases List.append_eq_append_iff.mp regrouped with
        ⟨more, _, inLast⟩ | ⟨rest, isNames, inRest⟩
      · exact Or.inr (by simp [inLast])
      · cases rest with
        | nil =>
            rw [List.nil_append] at inRest
            exact Or.inr (by simp [← inRest])
        | cons head rest =>
            cases inRest
            have earlier : names = before ++ found :: name :: rest := by
              simp [isNames]
            exact Or.inl (.nameAfterAttribute earlier passed isReadable)

/-- The path before a name behind an attribute is the text of the field before
the dot in front of this name. -/
theorem LeadsTo.text_eq
    {path name : String}
    (leads : schema.LeadsTo resourceType (splitAt '.' field)
      (.nameAfterAttribute path name)) :
    ∃ behind, field = path ++ "." ++ behind ∧
      (splitAt '.' behind).head? = some name := by
  cases leads with
  | @nameAfterAttribute before after last next reached split _ _ =>
      refine ⟨joinWith '.' (name :: after), text_of_split split, ?_⟩
      rw [splitAt_joinWith (List.cons_ne_nil _ _)]
      · rfl
      · intro part member
        have inField : part ∈ splitAt '.' field := by
          rw [split]
          exact List.mem_append_right _ (List.mem_cons_of_mem _ member)
        exact not_mem_of_mem_splitAt inField

/-! ## Faults -/

/-- What is wrong with a field that does not lead to an attribute or to the
identifier. -/
inductive FieldFault
    (schema : Schema)
    (resourceType field : String) : ValidationError → Prop where
  | unknownOperator
      {path name : String}
      (leads : schema.LeadsTo resourceType (splitAt '.' field)
        (.nameAfterAttribute path name)) :
      FieldFault schema resourceType field (.unknownOperator path name)
  | unknownField
      (leads : schema.LeadsTo resourceType (splitAt '.' field) .unknown) :
      FieldFault schema resourceType field
        (.unknownFilterField resourceType field)

theorem fieldFault_of_fieldError?
    {field : String}
    {error : ValidationError}
    (isError : schema.fieldError? resourceType field = some error) :
    schema.FieldFault resourceType field error := by
  rw [fieldError?] at isError
  split at isError
  · cases isError
  · rename_i resolved
    cases isError
    exact .unknownOperator (resolveField_eq_iff.mp resolved)
  · rename_i resolved
    cases isError
    exact .unknownField (resolveField_eq_iff.mp resolved)

/-- Exactly the fields that lead elsewhere are at fault. -/
theorem exists_fieldError?_iff {field : String} :
    (∃ error, schema.fieldError? resourceType field = some error) ↔
      ¬schema.LeadsTo resourceType (splitAt '.' field) .readable := by
  rw [← resolveField_eq_iff, fieldError?]
  cases schema.resolveField resourceType field <;> simp

end Schema

namespace Filter

/-- The check of a filter reports one fault for each different field that does
not lead to an attribute or to the identifier, in the order in which its leaves
first read these fields.  A name reported as an unknown operator stands in its
field, behind the reported path and a dot. -/
theorem fieldErrors_firstOccurring
    (filter : Filter)
    (schema : Schema)
    (resourceType : String) :
    ∃ offending,
      FirstOccurring
          (fun field =>
              ¬schema.LeadsTo resourceType (splitAt '.' field) .readable)
          (filter.leaves.filterMap leafField?) offending ∧
        List.Forall₂ (schema.FieldFault resourceType) offending
          (filter.fieldErrors schema resourceType) ∧
        ∀ path name,
          .unknownOperator path name ∈ filter.fieldErrors schema resourceType →
          ∃ field ∈ offending, ∃ behind,
            field = path ++ "." ++ behind ∧
              (splitAt '.' behind).head? = some name := by
  rw [← fields_eq_filterMap_leaves]
  rcases exists_firstOccurring_filterMap (schema.fieldError? resourceType)
    filter.fields with
    ⟨offending, listed, reported⟩
  simp only [Schema.exists_fieldError?_iff] at listed
  have faults :
      List.Forall₂ (schema.FieldFault resourceType) offending
        (filter.fieldErrors schema resourceType) :=
    reported.imp fun _ _ => Schema.fieldFault_of_fieldError?
  refine ⟨offending, listed, faults, ?_⟩
  intro path name member
  rcases List.mem_filterMap.mp member with ⟨field, occurs, isError⟩
  have atFault := Schema.exists_fieldError?_iff.mp ⟨_, isError⟩
  refine ⟨field,
    (listed.mem_iff field).mpr ⟨mem_firstOccurrences.mp occurs, atFault⟩, ?_⟩
  cases Schema.fieldFault_of_fieldError? isError with
  | unknownOperator leads => exact leads.text_eq

/-- Articles are read by a name behind an attribute, by a relationship alone and
by a field behind an unknown relationship; the first of these fields twice. -/
example :
    fieldErrors
        (.conjunction
          [.comparison "author.prénom.first" "eq" [.string "Anna"],
            .disjunction
              [.nullCheck "author" true,
                  .comparison "author.prénom.first" "eq" [.string "Ben"]],
            .comparison "author.prénom" "eq" [.string "Cleo"],
            .comparison "reviewer.prénom" "eq" [.string "Dora"]])
        ⟨[("articles", ⟨["title"], [("author", ⟨"people", false⟩)]⟩),
          ("people", ⟨["prénom"], []⟩)]⟩
        "articles" =
      [.unknownOperator "author.prénom" "first",
        .unknownFilterField "articles" "author",
        .unknownFilterField "articles" "reviewer.prénom"] :=
  rfl

end Filter

end JsonApi
