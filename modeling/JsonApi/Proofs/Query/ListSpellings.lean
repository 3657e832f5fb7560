import JsonApi.Proofs.Filter.Canonical
import JsonApi.Proofs.Query.Decoding
import JsonApi.Proofs.Query.Encoding

/-!
# Spellings of a list filter

That a field is one of some values can be asked for in four ways: by a comma
list behind the operator, by values appended to the operator, by values
appended to the field, and by values under explicit positions.  Gathered into a
filter tree, each of the last three becomes a branch of leaves under positions
(`insertLeaves_appended`, `insertLeaves_positioned`), which is read as the list
of the leaves in the order of the positions.  A list at a field asks for the
same operator as is written out in the first two ways, and this operator takes
the same operands from a comma list and from a list, so that all spellings have
the same outcome (`QueryParameters.read_of_listSpelling`).
-/

namespace JsonApi

open JsonApi.Text

/-- A key that names the field of a list filter in a query string. -/
structure IsListedField (field : String) : Prop where
  isField : FilterInput.IsFieldKey field
  segment : IsSegment field
  notPosition : FilterBranch.position? field = none

/-- The pairs of a query string that ask for a field to be one of some
values. -/
inductive ListSpelling
    (field : String)
    (values : List String) : List (String × String) → Prop where
  /-- The values as a comma list behind the operator. -/
  | commaList :
      ListSpelling field values
        [(Parameter.filter [field, Operator.memberName]
            (joinWith ',' values)).pair]
  /-- The values appended to the operator, one after the other. -/
  | appendedToOperator :
      ListSpelling field values
        (values.map fun value =>
            (Parameter.filter [field, Operator.memberName, ""] value).pair)
  /-- The values appended to the field, one after the other. -/
  | appended :
      ListSpelling field values
        (values.map fun value => (Parameter.filter [field, ""] value).pair)
  /-- The values under keys that are read as ascending positions, sent in
  whatever order. -/
  | positioned
      {placed : List (String × String)}
      {positions : List Nat}
      {pairs : List (String × String)}
      (areRead : placed.map (fun entry => FilterBranch.position? entry.1) =
        positions.map some)
      (ascending : positions.Pairwise (· < ·))
      (areValues : placed.map Prod.snd = values)
      (order :
        pairs.Perm (placed.map fun entry =>
            (Parameter.filter [field, entry.1] entry.2).pair)) :
      ListSpelling field values pairs

/-- What reading a list filter leads to: the values as operands, unless there
are too many. -/
def listOutcome
    (field : String)
    (values : List String)
    (limit : Nat) :
    Except ValidationErrors (Option Filter) :=
  if limit < values.length then
    .error (.single (.invalidOperand field Operator.memberName
      s!"accepts at most {limit} values (got {values.length})"))
  else .ok (some (.comparison field Operator.memberName (values.map .string)))

namespace FilterBranch

open FilterInput

variable {entries held : List (String × FilterBranch)}
  {segment key value : String} {values : List String}

/-! ## Keys that are positions -/

/-- What is read as a position can be a segment. -/
theorem isSegment_of_position?
    {position : Nat}
    (isRead : position? key = some position) :
    key ≠ "" ∧ IsSegment key := by
  have digits : ∀ character ∈ key.toList, character ≠ '+' →
      digitValue? character ≠ none := by
    intro character member notSign notDigit
    have unread : ∀ {characters : List Char}, character ∈ characters →
        readNat? characters = none := by
      intro characters inside
      rw [readNat?, digitValues?, mapM_eq_none inside notDigit]
      split <;> rfl
    simp only [position?, readWord?] at isRead
    split at isRead
    · rename_i rest signed
      rw [signed, List.mem_cons] at member
      rw [unread (member.resolve_left notSign)] at isRead
      cases isRead
    · rw [unread member] at isRead
      cases isRead
  refine ⟨?_, fun opening => digits '[' opening (by decide) rfl,
    fun closing => digits ']' closing (by decide) rfl⟩
  rintro rfl
  cases isRead

/-! ## Gathering leaves below a key -/

theorem insertLeaf_below
    (named : segment ≠ "")
    {path : List String}
    (nonempty : path ≠ [])
    (inner : List (String × FilterBranch)) :
    insertLeaf value (segment :: path) [(segment, .branch inner)] =
      (insertLeaf value path inner).map fun changed =>
        [(segment, .branch changed)] := by
  rcases List.exists_cons_of_ne_nil nonempty with ⟨next, rest, rfl⟩
  rw [insertLeaf, keyOf_of_ne named, Dictionary.find?_cons, if_pos rfl]
  simp [Dictionary.insert]

theorem insertLeaf_below_empty
    (named : segment ≠ "")
    {path : List String}
    (nonempty : path ≠ []) :
    insertLeaf value (segment :: path) [] =
      (insertLeaf value path []).map fun created =>
        [(segment, .branch created)] := by
  rcases List.exists_cons_of_ne_nil nonempty with ⟨next, rest, rfl⟩
  rw [insertLeaf, keyOf_of_ne named]
  rfl

theorem insertLeaves_cons_eq_ok
    {leaf : List String × String}
    {leaves : List (List String × String)} :
    insertLeaves (leaf :: leaves) entries = .ok held ↔
      ∃ changed, insertLeaf leaf.2 leaf.1 entries = .ok changed ∧
        insertLeaves leaves changed = .ok held := by
  rw [insertLeaves, List.foldlM_cons, Outcome.bind_eq_ok_iff]
  rfl

/-- Further leaves below a key that holds a branch are gathered into that
branch. -/
theorem insertLeaves_below
    (named : segment ≠ "")
    {leaves : List (List String × String)}
    (below : ∀ leaf ∈ leaves, leaf.1 ≠ [])
    {inner : List (String × FilterBranch)}
    (gathered : insertLeaves leaves inner = .ok held) :
    insertLeaves (underKey segment leaves) [(segment, .branch inner)] =
      .ok [(segment, .branch held)] := by
  induction leaves generalizing inner with
  | nil =>
      cases gathered
      rfl
  | cons leaf leaves induction =>
      rcases List.forall_mem_cons.mp below with ⟨isFirst, others⟩
      rcases insertLeaves_cons_eq_ok.mp gathered with ⟨changed, added, rest⟩
      refine insertLeaves_cons_eq_ok.mpr ⟨_, ?_, induction others rest⟩
      rw [insertLeaf_below named isFirst, added]
      rfl

/-- Leaves below one key are gathered into the branch under that key. -/
theorem insertLeaves_underKey
    (named : segment ≠ "")
    {leaves : List (List String × String)}
    (filled : leaves ≠ [])
    (below : ∀ leaf ∈ leaves, leaf.1 ≠ [])
    (gathered : insertLeaves leaves [] = .ok held) :
    insertLeaves (underKey segment leaves) [] =
      .ok [(segment, .branch held)] := by
  rcases List.exists_cons_of_ne_nil filled with ⟨leaf, leaves, rfl⟩
  rcases List.forall_mem_cons.mp below with ⟨isFirst, others⟩
  rcases insertLeaves_cons_eq_ok.mp gathered with ⟨changed, added, rest⟩
  refine insertLeaves_cons_eq_ok.mpr
    ⟨_, ?_, insertLeaves_below named others rest⟩
  rw [insertLeaf_below_empty named isFirst, added]
  rfl

/-! ## Gathering leaves under different keys -/

/-- Leaves under their keys. -/
def leafEntries (placed : List (String × String)) :
    List (String × FilterBranch) :=
  Dictionary.mapValues .leaf placed

/-- A value that lands under a new key is one more leaf. -/
theorem insertLeaf_of_new
    {placed : List (String × String)}
    (order : entries.Perm (leafEntries placed))
    (lands : keyOf segment entries = key)
    (isNew : key ∉ Dictionary.keys placed)
    (value : String) :
    ∃ changed, insertLeaf value [segment] entries = .ok changed ∧
      changed.Perm (leafEntries (placed ++ [(key, value)])) := by
  have absent : key ∉ Dictionary.keys entries := by
    rw [Dictionary.keys, (order.map Prod.fst).mem_iff]
    rwa [leafEntries, ← Dictionary.keys, Dictionary.keys_mapValues]
  refine ⟨Dictionary.insert key (.leaf value) entries, ?_, ?_⟩
  · rw [insertLeaf, lands, Dictionary.find?_eq_none absent]
  · have added :=
      (Dictionary.insert_perm (FilterBranch.leaf value) absent).trans
      (List.Perm.cons _ order)
    rw [leafEntries, Dictionary.mapValues, List.map_append]
    exact added.trans (List.perm_append_singleton _ _).symm

theorem insertLeaves_concat
    {leaves : List (List String × String)}
    {leaf : List String × String}
    {changed : List (String × FilterBranch)}
    (gathered : insertLeaves leaves entries = .ok held)
    (added : insertLeaf leaf.2 leaf.1 held = .ok changed) :
    insertLeaves (leaves ++ [leaf]) entries = .ok changed := by
  rw [insertLeaves] at gathered
  rw [insertLeaves, List.foldlM_append, gathered]
  exact insertLeaves_cons_eq_ok.mpr ⟨changed, added, rfl⟩

/-- Leaves under different keys are all gathered. -/
theorem insertLeaves_positioned
    {placed : List (String × String)}
    (named : ∀ entry ∈ placed, entry.1 ≠ "")
    (distinct : (Dictionary.keys placed).Nodup) :
    ∃ held, insertLeaves (placed.map fun entry => ([entry.1], entry.2)) [] =
      .ok held ∧
      held.Perm (leafEntries placed) := by
  induction placed using List.reverseRecOn with
  | nil => exact ⟨[], rfl, List.Perm.refl _⟩
  | append_singleton placed last induction =>
      rw [Dictionary.keys, List.map_append, List.nodup_append] at distinct
      rcases induction (fun entry member =>
          named entry (List.mem_append_left _ member)) distinct.1 with
        ⟨held, gathered, order⟩
      have isNew : last.1 ∉ Dictionary.keys placed := fun earlier =>
        distinct.2.2 last.1 earlier last.1 (by simp) rfl
      rcases insertLeaf_of_new order (keyOf_of_ne (named last (by simp))) isNew
        last.2 with
        ⟨changed, added, changedOrder⟩
      refine ⟨changed, ?_, changedOrder⟩
      rw [List.map_append]
      exact insertLeaves_concat gathered added

/-- Values under their positions. -/
def numberedTexts (values : List String) : List (String × String) :=
  values.zipIdx.map fun entry => (toString entry.2, entry.1)

/-- Appended values are gathered under their positions: each lands behind those
before it. -/
theorem insertLeaves_appended (values : List String) :
    ∃ held, insertLeaves (values.map fun value => ([""], value)) [] = .ok held ∧
      held.Perm (leafEntries (numberedTexts values)) := by
  induction values using List.reverseRecOn with
  | nil => exact ⟨[], rfl, List.Perm.refl _⟩
  | append_singleton values last induction =>
      rcases induction with ⟨held, gathered, order⟩
      have count : held.length = values.length := by
        simpa [leafEntries, Dictionary.mapValues, numberedTexts] using
          order.length_eq
      have lands : keyOf "" held = toString values.length := by
        rw [keyOf, if_pos rfl, count]
      have isNew :
          toString values.length ∉ Dictionary.keys (numberedTexts values) := by
        simp only [Dictionary.keys, numberedTexts, List.map_map, List.mem_map,
          not_exists, not_and]
        rintro ⟨value, position⟩ member equal
        have below := (List.mem_zipIdx member).2.1
        have same := toString_injective equal
        simp only at same
        omega
      rcases insertLeaf_of_new order lands isNew last with
        ⟨changed, added, changedOrder⟩
      refine ⟨changed, ?_, ?_⟩
      · rw [List.map_append]
        exact insertLeaves_concat gathered added
      · rw [numberedTexts, List.zipIdx_append, List.map_append, Nat.zero_add]
        exact changedOrder

/-! ## What the trees stand for -/

/-- Leaves under ascending positions stand for the list of their values. -/
theorem toInput_of_perm_leafEntries
    {placed : List (String × String)}
    {positions : List Nat}
    (nonempty : placed ≠ [])
    (areRead : placed.map (fun entry => position? entry.1) = positions.map some)
    (ascending : positions.Pairwise (· < ·))
    (order : held.Perm (leafEntries placed)) :
    (branch held).toInput =
      .list (placed.map fun entry => .scalar (.string entry.2)) := by
  have inputs :
      (entriesToInput held).Perm
        (placed.map fun entry => (entry.1, .scalar (.string entry.2))) := by
    rw [entriesToInput_eq_mapValues, Dictionary.mapValues]
    refine (order.map _).trans (List.Perm.of_eq ?_)
    rw [leafEntries, Dictionary.mapValues, List.map_map]
    rfl
  have inputsRead :
      (placed.map fun entry =>
          (entry.1, FilterInput.scalar (.string entry.2))).map
        (fun entry => position? entry.1) = positions.map some := by
    rwa [List.map_map]
  rw [toInput, inputOf_of_perm_positions (by simpa using nonempty) inputsRead
    ascending inputs, List.map_map]
  rfl

/-- Appended values are gathered into a branch that stands for their list. -/
theorem exists_branch_of_appended
    (nonempty : values ≠ [])
    (bounded : values.length ≤ wordLimit) :
    ∃ held, insertLeaves (values.map fun value => ([""], value)) [] = .ok held ∧
      (branch held).toInput =
        .list (values.map fun value => .scalar (.string value)) := by
  rcases insertLeaves_appended values with ⟨held, gathered, order⟩
  have areRead : (numberedTexts values).map (fun entry => position? entry.1) =
      (List.range' 0 values.length).map some := by
    rw [numberedTexts, List.map_map]
    exact map_position?_zipIdx bounded
  have areValues : (numberedTexts values).map Prod.snd = values := by
    rw [numberedTexts, List.map_map]
    exact List.zipIdx_map_fst 0 values
  refine ⟨held, gathered, ?_⟩
  rw [toInput_of_perm_leafEntries (by simpa [numberedTexts] using nonempty)
    areRead (List.pairwise_lt_range' 1) order]
  conv_rhs => rw [← areValues, List.map_map]
  rfl

/-- Values under ascending positions are gathered into a branch that stands for
their list, in whatever order they come. -/
theorem exists_branch_of_positioned
    {placed shuffled : List (String × String)}
    {positions : List Nat}
    (nonempty : placed ≠ [])
    (areRead : placed.map (fun entry => position? entry.1) = positions.map some)
    (ascending : positions.Pairwise (· < ·))
    (order : shuffled.Perm placed) :
    ∃ held, insertLeaves (shuffled.map fun entry => ([entry.1], entry.2)) [] =
      .ok held ∧
      (branch held).toInput =
        .list (placed.map fun entry => .scalar (.string entry.2)) := by
  have named : ∀ entry ∈ shuffled, entry.1 ≠ "" := by
    intro entry member
    rcases exists_position?_of_mem areRead (order.mem_iff.mp member) with
      ⟨position, isRead⟩
    exact (isSegment_of_position? isRead).1
  have distinct : (Dictionary.keys shuffled).Nodup := by
    apply List.Nodup.of_map position?
    rw [Dictionary.keys, List.map_map, (order.map _).nodup_iff]
    have distinctPositions : positions.Nodup := ascending.imp Nat.ne_of_lt
    rw [show position? ∘ Prod.fst = fun entry : String × String =>
      position? entry.1 from rfl, areRead]
    exact distinctPositions.map fun _ _ => Option.some.inj
  rcases insertLeaves_positioned named distinct with ⟨held, gathered, heldOrder⟩
  refine ⟨held, gathered,
    toInput_of_perm_leafEntries nonempty areRead ascending ?_⟩
  exact heldOrder.trans (order.map _)

/-- A branch under a key that is no position stands for a map. -/
theorem toInput_singleton
    (named : position? key = none)
    (tree : FilterBranch) :
    (branch [(key, tree)]).toInput = .map [(key, tree.toInput)] :=
  inputOf_of_named (List.mem_singleton_self _) named

end FilterBranch

/-! ## Decoding and reading -/

namespace QueryParameters

open FilterBranch

variable {field : String} {values : List String} {limit : Nat}

/-- The pairs of some leaves are decoded to the filter that is gathered from
these. -/
theorem ofPairs_leaves
    {leaves : List (List String × String)}
    (filled : leaves ≠ [])
    (readable : ∀ leaf ∈ leaves, leaf.1 ≠ [] ∧ ∀ segment ∈ leaf.1,
      IsSegment segment)
    {held : List (String × FilterBranch)}
    (gathered : insertLeaves leaves [] = .ok held) :
    ofPairs (leaves.map fun leaf => (Parameter.filter leaf.1 leaf.2).pair) =
      { filter := (branch held).toInput } := by
  have areLeaves :
      (leaves.map fun leaf => Parameter.filter leaf.1 leaf.2).filterMap
      Parameter.leaf? = leaves := by
    simp [List.filterMap_map, Function.comp_def, Parameter.leaf?]
  have areReadable :
      ∀ parameter ∈ leaves.map fun leaf => Parameter.filter leaf.1 leaf.2,
      parameter.Readable := by
    intro parameter member
    rcases List.mem_map.mp member with ⟨leaf, isLeaf, rfl⟩
    exact .filter leaf.2 (readable leaf isLeaf).1 (readable leaf isLeaf).2
  have decoded :=
    Decoding.foldl_add_pair areReadable {} (areLeaves.symm ▸ gathered)
  have nothingElse :
      ∀ (leaves : List (List String × String)) (parameters : QueryParameters),
      (leaves.map fun leaf => Parameter.filter leaf.1 leaf.2).foldl
        withParameter parameters =
        parameters := by
    intro leaves parameters
    rw [List.foldl_map]
    exact List.foldl_fixed' (fun _ => rfl) leaves
  rw [List.map_map, areLeaves, nothingElse] at decoded
  rw [ofPairs]
  rw [show (fun leaf : List String × String =>
      (Parameter.filter leaf.1 leaf.2).pair) = Parameter.pair ∘ fun leaf =>
    Parameter.filter leaf.1 leaf.2 from rfl, decoded]
  simp [Decoding.finish, List.isEmpty_eq_false_iff.mpr filled]

/-- The inputs that spellings of a list filter stand for. -/
inductive ListInput
    (field : String)
    (values : List String) : FilterInput → Prop where
  | atField :
      ListInput field values
        (.map
            [(field, .list (values.map fun value => .scalar (.string value)))])
  | atOperator
      {operand : FilterInput}
      (operands : Operator.listOperands? operand = .ok (values.map .string)) :
      ListInput field values
        (.map [(field, .map [(Operator.memberName, operand)])])

theorem listOperands?_list (values : List String) :
    Operator.listOperands?
      (.list (values.map fun value => .scalar (.string value))) =
      .ok (values.map .string) := by
  have scalars := Operator.scalars?_map_scalar (values.map Operand.string)
  rwa [List.map_map] at scalars

/-- A comma list has the operands that it is made of. -/
theorem listOperands?_joinWith
    (nonempty : values ≠ [])
    (entries : ∀ value ∈ values, IsListEntry value) :
    Operator.listOperands? (.scalar (.string (joinWith ',' values))) =
      .ok (values.map .string) := by
  have cut :
      pieces ',' (joinWith ',' values).toList = values.map String.toList := by
    rw [joinWith, String.toList_ofList]
    apply pieces_joinPieces (by simpa using nonempty)
    intro piece member
    rcases List.mem_map.mp member with ⟨value, isValue, rfl⟩
    exact (entries value isValue).noComma
  have trimmed : (values.map String.toList).map trimCharacters =
      values.map String.toList := by
    rw [List.map_map]
    apply List.map_congr_left
    intro value member
    exact trimCharacters_eq_self (entries value member).firstSolid
      (entries value member).lastSolid
  have filled :
      (values.map String.toList).filter (fun piece => !piece.isEmpty) =
      values.map String.toList := by
    rw [List.filter_eq_self]
    intro piece member
    rcases List.mem_map.mp member with ⟨value, isValue, rfl⟩
    simpa using (entries value isValue).nonempty
  rw [Operator.listOperands?, Operator.commaOperands, cut, trimmed, filled,
    List.map_map]
  simp [Function.comp_def]

/-- The reading that has an outcome. -/
def readingOf : Except ValidationErrors (Option Filter) → Reading
  | .ok filter => ⟨filter.toList, []⟩
  | .error report => ⟨[], report.errors⟩

theorem conjoined_readingOf
    (outcome : Except ValidationErrors (Option Filter)) :
    (readingOf outcome).conjoined = readingOf outcome := by
  cases outcome with
  | error report => rfl
  | ok filter => cases filter <;> rfl

theorem append_nothing (reading : Reading) :
    reading.append .nothing = reading := by
  simp [Reading.append, Reading.nothing]

theorem unlessAny_readingOf
    (outcome : Except ValidationErrors (Option Filter)) :
    ValidationErrors.unlessAny (readingOf outcome).errors
      (Filter.all? (readingOf outcome).filters) = outcome := by
  cases outcome with
  | error report =>
      exact ValidationErrors.unlessAny_eq_error_iff.mpr ⟨report.nonempty, rfl⟩
  | ok filter => cases filter <;> rfl

/-- The membership operator takes the values as its operands, unless there are
too many. -/
theorem readOperator_member
    (nonempty : values ≠ [])
    {operand : FilterInput}
    (operands : Operator.listOperands? operand = .ok (values.map .string)) :
    FilterInput.readOperator ⟨.builtins, limit⟩ field Operator.memberName
      operand =
      readingOf (listOutcome field values limit) := by
  have found : OperatorRegistry.builtins.find? Operator.memberName =
      some ⟨Operator.memberName, .list, false⟩ := by decide
  have filled : (values.map Operand.string).isEmpty = false := by
    simpa using nonempty
  have noNull : (values.map Operand.string).any Operand.isNull = false := by
    simp [Operand.isNull]
  have notNullCheck : Operator.memberName ≠ Operator.isNullName := by decide
  rw [FilterInput.readOperator, found]
  simp only [Operator.normalize, Operator.normalizeList, operands,
    filled, noNull, listOutcome, List.length_map, Bool.false_eq_true, if_false,
    Bool.false_and]
  by_cases many : limit < values.length
  · simp only [if_pos many]
    rfl
  · simp only [if_neg many, if_neg notNullCheck]
    rfl

/-- An input of a list filter is read as one. -/
theorem read_of_listInput
    (isField : FilterInput.IsFieldKey field)
    (nonempty : values ≠ [])
    {input : FilterInput}
    (isInput : ListInput field values input) :
    FilterInput.read ⟨.builtins, limit⟩ input =
      listOutcome field values limit := by
  have noGroup : ¬(field = FilterInput.andKey ∨ field = FilterInput.orKey) :=
    isField.not_group
  cases isInput with
  | atField =>
      rw [FilterInput.read,
        FilterInput.readScope, FilterInput.readScope, append_nothing,
        FilterInput.readEntry, if_neg noGroup, if_neg isField.2.2,
        readOperator_member nonempty (listOperands?_list values)]
      exact unlessAny_readingOf _
  | @atOperator operand operands =>
      have isOperator : FilterInput.hasOperatorKey ⟨.builtins, limit⟩
          [(Operator.memberName, operand)] = true := by
        rw [FilterInput.hasOperatorKey, List.any_cons]
        rfl
      rw [FilterInput.read, FilterInput.readScope, FilterInput.readScope,
        append_nothing, FilterInput.readEntry, if_neg noGroup,
        if_neg isField.2.2]
      simp only [List.isEmpty_cons, Bool.false_eq_true, if_false,
        if_pos isOperator, FilterInput.readOperators, append_nothing]
      rw [readOperator_member nonempty operands, conjoined_readingOf]
      exact unlessAny_readingOf _

theorem readable_underKey
    {key : String}
    (segment : IsSegment key)
    {leaves : List (List String × String)}
    (readable : ∀ leaf ∈ leaves, leaf.1 ≠ [] ∧ ∀ segment ∈ leaf.1,
      IsSegment segment) :
    ∀ leaf ∈ FilterInput.underKey key leaves,
      leaf.1 ≠ [] ∧ ∀ segment ∈ leaf.1, IsSegment segment := by
  intro leaf member
  rcases List.mem_map.mp member with ⟨inner, isInner, rfl⟩
  exact ⟨List.cons_ne_nil _ _,
    List.forall_mem_cons.mpr ⟨segment, (readable inner isInner).2⟩⟩

/-- Leaves below the field of a list filter are decoded to what they stand for
at this field. -/
theorem ofPairs_underKey
    (isListed : IsListedField field)
    {leaves : List (List String × String)}
    (filled : leaves ≠ [])
    (readable : ∀ leaf ∈ leaves, leaf.1 ≠ [] ∧ ∀ segment ∈ leaf.1,
      IsSegment segment)
    {held : List (String × FilterBranch)}
    (gathered : insertLeaves leaves [] = .ok held) :
    ofPairs ((FilterInput.underKey field leaves).map fun leaf =>
        (Parameter.filter leaf.1 leaf.2).pair) =
      { filter := .map [(field, (branch held).toInput)] } := by
  have below := insertLeaves_underKey isListed.isField.2.2 filled
    (fun leaf member => (readable leaf member).1) gathered
  rw [ofPairs_leaves (by simpa [FilterInput.underKey] using filled)
      (readable_underKey isListed.segment readable) below,
    toInput_singleton isListed.notPosition]

/-- Every spelling of a list filter is decoded to such an input, without
errors. -/
theorem ofPairs_of_listSpelling
    (isListed : IsListedField field)
    (nonempty : values ≠ [])
    (entries : ∀ value ∈ values, IsListEntry value)
    (bounded : values.length ≤ wordLimit)
    {pairs : List (String × String)}
    (spelling : ListSpelling field values pairs) :
    ∃ input, ListInput field values input ∧
      ofPairs pairs = { filter := input } := by
  have operatorSegment : IsSegment Operator.memberName := by decide
  have operatorNamed : position? Operator.memberName = none := by decide
  have appendable : ∀ leaf ∈ values.map fun value => ([""], value),
      leaf.1 ≠ [] ∧ ∀ segment ∈ leaf.1, IsSegment segment := by
    rintro _ member
    rcases List.mem_map.mp member with ⟨value, _, rfl⟩
    exact ⟨List.cons_ne_nil _ _, List.forall_mem_singleton.mpr (by decide)⟩
  have filled : (values.map fun value => ([""], value)) ≠ [] := by
    simpa using nonempty
  cases spelling with
  | commaList =>
      have gathered :
          insertLeaves [([Operator.memberName], joinWith ',' values)] [] =
          .ok [(Operator.memberName, .leaf (joinWith ',' values))] := rfl
      have decoded := ofPairs_underKey isListed (List.cons_ne_nil _ _)
        (by simpa using operatorSegment) gathered
      rw [toInput_singleton operatorNamed, toInput] at decoded
      exact ⟨_, .atOperator (listOperands?_joinWith nonempty entries), decoded⟩
  | appendedToOperator =>
      rcases exists_branch_of_appended nonempty bounded with
        ⟨held, gathered, isList⟩
      have operatorKey : Operator.memberName ≠ "" := by decide
      have below := insertLeaves_underKey operatorKey filled
        (fun leaf member => (appendable leaf member).1) gathered
      have decoded :=
        ofPairs_underKey isListed (by simpa [FilterInput.underKey] using filled)
        (readable_underKey operatorSegment appendable) below
      rw [toInput_singleton operatorNamed, isList] at decoded
      refine ⟨_, .atOperator (listOperands?_list values), ?_⟩
      simpa [FilterInput.underKey, Function.comp_def] using decoded
  | appended =>
      rcases exists_branch_of_appended nonempty bounded with
        ⟨held, gathered, isList⟩
      have decoded := ofPairs_underKey isListed filled appendable gathered
      rw [isList] at decoded
      refine ⟨_, .atField, ?_⟩
      simpa [FilterInput.underKey, Function.comp_def] using decoded
  | @positioned placed positions pairs areRead ascending areValues order =>
      subst areValues
      rcases exists_perm_of_perm_map order with ⟨shuffled, shuffledOrder, rfl⟩
      have someValue : placed ≠ [] := by simpa using nonempty
      rcases exists_branch_of_positioned someValue areRead ascending
        shuffledOrder with
        ⟨held, gathered, isList⟩
      have readable : ∀ leaf ∈ shuffled.map fun entry => ([entry.1], entry.2),
          leaf.1 ≠ [] ∧ ∀ segment ∈ leaf.1, IsSegment segment := by
        rintro _ member
        rcases List.mem_map.mp member with ⟨entry, isEntry, rfl⟩
        rcases exists_position?_of_mem areRead
          (shuffledOrder.mem_iff.mp isEntry) with
          ⟨position, isRead⟩
        exact ⟨List.cons_ne_nil _ _,
          List.forall_mem_singleton.mpr (isSegment_of_position? isRead).2⟩
      have someEntry :
          (shuffled.map fun entry => ([entry.1], entry.2)) ≠ [] := by
        rw [Ne, List.map_eq_nil_iff]
        rintro rfl
        exact someValue shuffledOrder.symm.eq_nil
      have decoded := ofPairs_underKey isListed someEntry readable gathered
      rw [isList] at decoded
      refine ⟨_, .atField, ?_⟩
      simpa [FilterInput.underKey, Function.comp_def] using decoded

/-- Encoded pairs are decoded again. -/
theorem pairsOf_print (pairs : List (String × String)) :
    pairsOf (String.ofList (Form.print pairs)) = pairs := by
  have noMark := Form.head?_print_ne pairs
  rw [pairsOf, String.toList_ofList]
  split
  · rename_i marked
    rw [marked] at noMark
    exact absurd rfl noMark
  · exact Form.parse_print pairs

/-- All spellings of a list filter have the same outcome under the built-in
operators.  Each is decoded from the query string in which its pairs are
encoded; and whatever query string it is decoded from, nothing is wrong with the
parameters, and the filter compares the field with the values in order, unless
there are more of them than an operator may have.  There are no more values than
positions, which are counts of 64 bits. -/
theorem read_of_listSpelling
    (isListed : IsListedField field)
    (nonempty : values ≠ [])
    (entries : ∀ value ∈ values, IsListEntry value)
    (bounded : values.length ≤ wordLimit)
    {pairs : List (String × String)}
    (spelling : ListSpelling field values pairs)
    (limit : Nat) :
    pairsOf (String.ofList (Form.print pairs)) = pairs ∧
      ∀ query, pairsOf query = pairs →
        (ofQueryString query).parseErrors = [] ∧
          FilterInput.read ⟨.builtins, limit⟩ (ofQueryString query).filter =
            listOutcome field values limit := by
  refine ⟨pairsOf_print pairs, ?_⟩
  intro query decoded
  rcases ofPairs_of_listSpelling isListed nonempty entries bounded spelling with
    ⟨input, isInput, parameters⟩
  rw [← ofPairs_pairsOf, decoded, parameters]
  exact ⟨rfl, read_of_listInput isListed.isField nonempty isInput⟩

/-- Two tags under positions 2 and 10, the second one sent first. -/
def placedTags : List (String × String) :=
  [Parameter.pair (.filter ["tags", "10"] "science & fiction"),
    Parameter.pair (.filter ["tags", "2"] "classic")]

theorem read_of_listSpelling_placedTags :
    IsListedField "tags" ∧
      ListSpelling "tags" ["classic", "science & fiction"] placedTags ∧
      FilterInput.read ⟨.builtins, 2⟩
          (ofQueryString (String.ofList (Form.print placedTags))).filter =
        .ok (some (.comparison "tags" "in"
            [.string "classic", .string "science & fiction"])) ∧
      FilterInput.read ⟨.builtins, 1⟩
          (ofQueryString (String.ofList (Form.print placedTags))).filter =
        .error (.single (.invalidOperand "tags" "in"
            "accepts at most 1 values (got 2)")) := by
  have isListed : IsListedField "tags" :=
    ⟨⟨by decide, by decide, by decide⟩, by decide, by decide⟩
  have areRead :
      [("2", "classic"), ("10", "science & fiction")].map
          (fun entry => FilterBranch.position? entry.1) = [2, 10].map some := by
    decide
  have spelling :
      ListSpelling "tags" ["classic", "science & fiction"] placedTags :=
    .positioned areRead (by decide) rfl (List.Perm.swap _ _ [])
  have outcome :=
    read_of_listSpelling isListed (by decide) (by decide) (by decide) spelling
  exact ⟨isListed, spelling, ((outcome 2).2 _ (outcome 2).1).2,
    ((outcome 1).2 _ (outcome 1).1).2⟩

end QueryParameters

end JsonApi
