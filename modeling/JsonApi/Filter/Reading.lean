import JsonApi.Fault
import JsonApi.Filter.Basic
import JsonApi.Schema
import JsonApi.Text.Basic

/-!
# From inputs to filters

Operators turn what is written behind them into operands, a filter input is
read to a filter, scope by scope, and the fields of the filter are checked
against a schema.
-/

/-!
## Filter operators

An operator has a name and an arity: one scalar, a list, a pair or a flag.
`Operator.normalize` turns what was written behind the operator into a list
of operands of that arity, or says why it cannot.  A text where a list or a
pair is expected is a comma list.  A registry holds operators in ascending
name order, each name once.
-/

namespace JsonApi

/-- How many operands an operator takes. -/
inductive Arity where
  /-- Exactly one scalar. -/
  | single
  /-- One or more scalars. -/
  | list
  /-- Exactly two scalars. -/
  | pair
  /-- One boolean. -/
  | flag
deriving DecidableEq

/-- A named filter operator. -/
structure Operator where
  name : String
  arity : Arity
  /-- Whether null may be an operand of a single or list operator. -/
  acceptsNull : Bool
deriving DecidableEq

namespace Operator

/-- The operator that a scalar attached to a field stands for. -/
def equalName : String := "eq"

/-- The operator that a list attached to a field stands for. -/
def memberName : String := "in"

/-- The operator that tests for null. -/
def isNullName : String := "isnull"

/-- The greatest number of list operands, unless another limit is configured. -/
def defaultMaxOperands : Nat := 1000

/-- The non-empty pieces of a comma list, without the blanks around them. -/
def commaOperands (written : String) : List Operand :=
  (((Text.pieces ',' written.toList).map Text.trimCharacters).filter
      fun piece =>
    !piece.isEmpty).map fun piece => .string (String.ofList piece)

/-- The scalars of a list, unless something else is among them. -/
def scalars? : List FilterInput → Except String (List Operand)
  | [] => .ok []
  | .scalar value :: items => (scalars? items).map (value :: ·)
  | other :: _ => .error s!"expects a list of scalars, found a {other.shape}"

/-- The operands of a list or pair operator before they are counted. -/
def listOperands? : FilterInput → Except String (List Operand)
  | .scalar (.string written) => .ok (commaOperands written)
  | .scalar value => .ok [value]
  | .list items => scalars? items
  | .map _ => .error "expects a list, got a map"

/-- The operand of an operator that takes one scalar. -/
def normalizeSingle (acceptsNull : Bool) :
    FilterInput → Except String (List Operand)
  | .scalar value =>
    if value.isNull && !acceptsNull then .error "does not accept null"
      else .ok [value]
  | other => .error s!"expects a scalar, got a {other.shape}"

/-- The operand of an operator that takes a flag. -/
def normalizeFlag : FilterInput → Except String (List Operand)
  | .scalar value =>
    match value.flag? with
    | some flag => .ok [.bool flag]
    | none => .error s!"expects true or false, got {value.text}"
  | other => .error s!"expects a boolean, got a {other.shape}"

/-- The operands of an operator that takes a pair, neither of which may be
null. -/
def normalizePair (input : FilterInput) : Except String (List Operand) := do
  let operands ← listOperands? input
  if operands.length ≠ 2 then
    .error s!"expects exactly two values (got {operands.length})"
  else if operands.any Operand.isNull then .error "does not accept null"
  else .ok operands

/-- The operands of an operator that takes a list of at least one and at most
`limit`. -/
def normalizeList
    (operator : Operator)
    (field : String)
    (limit : Nat)
    (input : FilterInput) :
    Except ValidationError (List Operand) :=
  let invalid (reason : String) :=
    ValidationError.invalidOperand field operator.name reason
  match listOperands? input with
  | .error reason => .error (invalid reason)
  | .ok operands =>
    if operands.isEmpty then .error (.emptyOperandList field operator.name)
    else if limit < operands.length then
      .error
        (invalid s!"accepts at most {limit} values (got {operands.length})")
    else if operands.any Operand.isNull && !operator.acceptsNull then
      .error (invalid "does not accept null")
    else .ok operands

/-- The operands of an operator on a field; `limit` bounds those of a list
operator. -/
def normalize
    (operator : Operator)
    (field : String)
    (limit : Nat)
    (input : FilterInput) :
    Except ValidationError (List Operand) :=
  let invalid :=
    Except.mapError (ValidationError.invalidOperand field operator.name)
  match operator.arity with
  | .single => invalid (normalizeSingle operator.acceptsNull input)
  | .flag => invalid (normalizeFlag input)
  | .pair => invalid (normalizePair input)
  | .list => operator.normalizeList field limit input

end Operator

/-- Operators in ascending name order, each name once. -/
structure OperatorRegistry where
  operators : List Operator
deriving DecidableEq

namespace OperatorRegistry

/-- The registry without operators. -/
def empty : OperatorRegistry := ⟨[]⟩

/-- The operators with one more, which replaces an operator of the same name. -/
def insertOperator (operator : Operator) : List Operator → List Operator
  | [] => [operator]
  | present :: rest =>
    if operator.name < present.name then operator :: present :: rest
    else if operator.name = present.name then operator :: rest
    else present :: insertOperator operator rest

/-- The registry with one more operator, which replaces an operator of the same
name. -/
def register
    (registry : OperatorRegistry)
    (operator : Operator) : OperatorRegistry :=
  ⟨insertOperator operator registry.operators⟩

/-- The operator of the given name. -/
def find? (registry : OperatorRegistry) (name : String) : Option Operator :=
  registry.operators.find? fun operator => operator.name = name

/-- Whether an operator has the given name. -/
def contains (registry : OperatorRegistry) (name : String) : Bool :=
  (registry.find? name).isSome

/-- The names of the operators in ascending order. -/
def names (registry : OperatorRegistry) : List String :=
  registry.operators.map Operator.name

/-- The operators that every filter may use. -/
def builtins : OperatorRegistry :=
  ⟨[⟨"between", .pair, false⟩, ⟨"eq", .single, true⟩, ⟨"gt", .single, false⟩,
    ⟨"gte", .single, false⟩, ⟨"in", .list, false⟩, ⟨"isnull", .flag, false⟩,
    ⟨"like", .single, false⟩, ⟨"lt", .single, false⟩, ⟨"lte", .single, false⟩,
    ⟨"neq", .single, true⟩, ⟨"nin", .list, false⟩]⟩

end OperatorRegistry

/-!
## Reading a filter

A filter input is read scope by scope.  In a scope, the keys `and` and `or`
hold a group of scopes and every other key names a field.  A scalar at a field
asks for equality and a list for membership; a map with at least one operator
among its keys applies operators, and any other map is a scope of fields
nested below the field.  The entries of a scope are joined by conjunction.

Reading never stops at a fault: `Reading` carries the filters found together
with all the faults.
-/

open JsonApi.Text

/-- Filters read so far, and the faults met. -/
structure Reading where
  filters : List Filter
  errors : List ValidationError

namespace Reading

/-- Nothing read and nothing wrong. -/
def nothing : Reading := ⟨[], []⟩

/-- One fault. -/
def fault (error : ValidationError) : Reading := ⟨[], [error]⟩

/-- What was read first, and what was read after it. -/
def append (first second : Reading) : Reading :=
  ⟨first.filters ++ second.filters, first.errors ++ second.errors⟩

/-- The conjunction of what was read, in place of its parts. -/
def conjoined (reading : Reading) : Reading :=
  ⟨(Filter.all? reading.filters).toList, reading.errors⟩

/-- Joining changes nothing where nothing was read, and leaves one filter
otherwise. -/
theorem conjoined_cases (reading : Reading) :
    (reading.filters = [] ∧ reading.conjoined = reading) ∨
      ∃ joined, Filter.all? reading.filters = some joined ∧
        reading.filters.isEmpty = false ∧
        reading.conjoined = ⟨[joined], reading.errors⟩ := by
  obtain ⟨filters, errors⟩ := reading
  cases isJoined : Filter.all? filters with
  | none =>
    have noFilters := Filter.all?_eq_none_iff.mp isJoined
    subst noFilters
    exact Or.inl ⟨rfl, rfl⟩
  | some joined =>
    refine Or.inr ⟨joined, rfl, ?_, by simp [conjoined, isJoined]⟩
    cases filters with
    | nil => cases isJoined
    | cons first rest => rfl

end Reading

namespace FilterInput

/-- The key of a group whose members must all hold. -/
def andKey : String := "and"

/-- The key of a group of which some member must hold. -/
def orKey : String := "or"

/-- The path of a field below the field whose scope it stands in. -/
def fieldPath (scope : Option String) (field : String) : String :=
  match scope with
  | some outer => outer ++ "." ++ field
  | none => field

/-- The query parameter of a key in the scope of a field. -/
def scopeParameter (scope : Option String) (key : String) : String :=
  match scope with
  | some outer => "filter" ++ bracketedPath outer ++ bracketedPath key
  | none => "filter" ++ bracketedPath key

/-- How many operands an operator may have, and which operators there are. -/
structure Rules where
  operators : OperatorRegistry
  maxOperands : Nat

/-- Reads an operator with what is written behind it. -/
def readOperator
    (rules : Rules)
    (field name : String)
    (input : FilterInput) : Reading :=
  match rules.operators.find? name with
  | none => .fault (.unknownOperator field name)
  | some operator =>
    match operator.normalize field rules.maxOperands input with
    | .error error => .fault error
    | .ok operands =>
      if name = Operator.isNullName then
        ⟨[.nullCheck field (operands.head? == some (.bool true))], []⟩
      else ⟨[.comparison field name operands], []⟩

/-- Reads each key of a map as an operator of a field. -/
def readOperators
    (rules : Rules)
    (field : String) : List (String × FilterInput) → Reading
  | [] => .nothing
  | (name, input) :: entries =>
    (readOperator rules field name input).append
      (readOperators rules field entries)

/-- Joins the members of a group and reports a group without any.

A group also counts as empty when all its members are at fault. -/
def closeGroup (key : String) (members : Reading) : Reading :=
  let joined? :=
    if key = orKey then Filter.any? members.filters
      else Filter.all? members.filters
  match joined? with
  | some joined => ⟨[joined], members.errors⟩
  | none => ⟨[], members.errors ++ [.emptyFilterGroup key]⟩

/-- Whether some key of a map is the name of an operator. -/
def hasOperatorKey
    (rules : Rules)
    (entries : List (String × FilterInput)) : Bool :=
  entries.any fun entry => rules.operators.contains entry.1

mutual

/-- Reads the entries of a scope. -/
def readScope
    (rules : Rules)
    (scope : Option String) :
    List (String × FilterInput) → Reading
  | [] => .nothing
  | (key, input) :: entries =>
    (readEntry rules scope key input).append (readScope rules scope entries)

/-- Reads one entry of a scope: a group or a field. -/
def readEntry
    (rules : Rules)
    (scope : Option String)
    (key : String) :
    FilterInput → Reading
  | .scalar value =>
    if key = andKey ∨ key = orKey then
      .fault (.malformedParameter (scopeParameter scope key)
          "expects a list of filter objects")
    else if key = "" then
      .fault
        (.malformedParameter (scopeParameter scope "") "field name is empty")
    else readOperator rules (fieldPath scope key) Operator.equalName
      (.scalar value)
  | .list items =>
    if key = andKey ∨
      key = orKey then closeGroup key (readMembers rules scope key items)
    else if key = "" then
      .fault
        (.malformedParameter (scopeParameter scope "") "field name is empty")
    else readOperator rules (fieldPath scope key) Operator.memberName
      (.list items)
  | .map entries =>
    if key = andKey ∨ key = orKey then
      closeGroup key (readScope rules scope entries).conjoined
    else if key = "" then
      .fault
        (.malformedParameter (scopeParameter scope "") "field name is empty")
    else
      let path := fieldPath scope key
      if entries.isEmpty then
        .fault
          (.malformedParameter (scopeParameter none path) "has no operators")
      else if hasOperatorKey rules entries
        then (readOperators rules path entries).conjoined
      else (readScope rules (some path) entries).conjoined

/-- Reads the members of a group, each of which has to be a map. -/
def readMembers
    (rules : Rules)
    (scope : Option String)
    (key : String) :
    List FilterInput → Reading
  | [] => .nothing
  | .map entries :: items =>
    (readScope rules scope entries).conjoined.append
      (readMembers rules scope key items)
  | other :: items =>
    (Reading.fault (.malformedParameter (scopeParameter scope key)
      s!"expects filter objects, found a {other.shape}")).append
      (readMembers rules scope key items)

end

/-- Reads a filter input: a filter, none for an empty map, or all the faults. -/
def read
    (rules : Rules)
    (input : FilterInput) :
    Except ValidationErrors (Option Filter) :=
  match input with
  | .map entries =>
    let reading := readScope rules none entries
    ValidationErrors.unlessAny reading.errors (Filter.all? reading.filters)
  | other =>
    .error (.single (.malformedParameter "filter"
      s!"expects an object of field filters, got a {other.shape}"))

end FilterInput

/-!
## Checking the fields of a filter

The path of a field is followed from a resource type: every name but the last
has to be a relationship, and the last one an attribute of the type reached,
or the identifier.  A name behind an attribute was meant as an operator, and
it is reported as an unknown one.
-/

/-- What the path of a field leads to. -/
inductive FieldTarget where
  /-- An attribute or the identifier. -/
  | readable
  /-- An attribute, with a further name behind it. -/
  | nameAfterAttribute (path name : String)
  /-- Neither. -/
  | unknown
deriving DecidableEq

/-- Whether a name is an attribute of a type or stands for the identifier. -/
def Schema.isReadable (schema : Schema) (resourceType name : String) : Bool :=
  name = idField || schema.hasAttribute resourceType name

/-- Follows the names of the path of a field, of which `offset` bytes stand
before them.

The path up to an attribute is cut from the field. -/
def Schema.followNames
    (schema : Schema)
    (field : String) :
    String → Nat → List String → FieldTarget
  | _, _, [] => .unknown
  | resourceType, _, [name] =>
    if schema.isReadable resourceType name then .readable else .unknown
  | resourceType, offset, name :: next :: names =>
    let behind := offset + byteLength name
    if schema.isReadable resourceType name then
      .nameAfterAttribute (beginning field behind) next
    else
      match schema.relationship? resourceType name with
      | some relationship =>
        schema.followNames field relationship.target (behind + 1)
          (next :: names)
      | none => .unknown

/-- What the path of a field leads to from a resource type. -/
def Schema.resolveField
    (schema : Schema)
    (resourceType field : String) : FieldTarget :=
  schema.followNames field resourceType 0 (splitAt '.' field)

/-- The texts of a list without those that stand earlier in it. -/
def firstOccurrences : List String → List String
  | [] => []
  | text :: texts =>
      text :: (firstOccurrences texts).filter fun other => other ≠ text

/-- The fault of one field of a filter, if it has one. -/
def Schema.fieldError?
    (schema : Schema)
    (resourceType field : String) :
    Option ValidationError :=
  match schema.resolveField resourceType field with
  | .readable => none
  | .nameAfterAttribute path name => some (.unknownOperator path name)
  | .unknown => some (.unknownFilterField resourceType field)

/-- The faults of the fields of a filter, one for each field at fault. -/
def Filter.fieldErrors
    (filter : Filter)
    (schema : Schema)
    (resourceType : String) :
    List ValidationError :=
  (firstOccurrences filter.fields).filterMap (schema.fieldError? resourceType)

end JsonApi
