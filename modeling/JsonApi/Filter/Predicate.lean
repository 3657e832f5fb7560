import JsonApi.Filter.Basic
import JsonApi.Filter.Like
import JsonApi.Filter.Reading
import JsonApi.Json.Basic
import JsonApi.Sorting

/-!
# From filters to predicates

A filter is compiled to a predicate by a table of handlers.  The bundled
backend has handlers for all operators that there are from the start, and
decides its predicates over JSON values.
-/

/-!
## Compiling a filter

A backend turns a filter into a predicate of its own kind.  It says how
predicates are joined, and a table of handlers says what each operator means.
A handler registered for a field and an operator goes before the one
registered for the operator alone; a leaf without a handler is not supported.
A null check reaches the handlers as the operator `isnull` with one flag.
-/

namespace JsonApi

/-- Why a filter could not be compiled. -/
inductive CompileError where
  /-- No handler exists for the operator on the field. -/
  | unsupportedFilter (field operator : String)
  /-- The handler refused the operands. -/
  | invalidOperand (field operator reason : String)
deriving DecidableEq

namespace CompileError

/-- The code of an error. -/
def code : CompileError → String
  | unsupportedFilter .. => "UnsupportedFilter"
  | invalidOperand .. => "InvalidOperand"

/-- The message of an error. -/
def message : CompileError → String
  | unsupportedFilter field operator =>
    s!"no handler supports operator '{operator}' on field '{field}'"
  | invalidOperand field operator reason =>
    s!"operator '{operator}' on field '{field}' cannot compile operands: {reason}"

end CompileError

/-- How a backend joins predicates. -/
structure FilterBackend (Predicate : Type) where
  all : List Predicate → Predicate
  any : List Predicate → Predicate

/-- Makes the predicate of a field, an operator and its operands. -/
abbrev OperatorHandler (Predicate : Type) :=
  String → String → List Operand → Except CompileError Predicate

/-- Handlers by operator, and handlers by field and operator. -/
structure HandlerTable (Predicate : Type) where
  defaults : List (String × OperatorHandler Predicate)
  /-- Handlers for one field each, the latest first. -/
  perField : List ((String × String) × OperatorHandler Predicate)

namespace HandlerTable

variable {Predicate : Type}

/-- The table without handlers. -/
def empty : HandlerTable Predicate := ⟨[], []⟩

/-- Registers the handler of an operator, in place of an earlier one. -/
def withDefault
    (table : HandlerTable Predicate)
    (operator : String)
    (handler : OperatorHandler Predicate) : HandlerTable Predicate :=
  { table with defaults := Dictionary.insert operator handler table.defaults }

/-- Registers the handler of an operator on one field, in place of an earlier
one. -/
def withField
    (table : HandlerTable Predicate)
    (field operator : String)
    (handler : OperatorHandler Predicate) : HandlerTable Predicate :=
  { table with
    perField := ((field, operator), handler) ::
      table.perField.filter fun entry => entry.1 ≠ (field, operator) }

/-- The handler of an operator on a field. -/
def find?
    (table : HandlerTable Predicate)
    (field operator : String) :
    Option (OperatorHandler Predicate) :=
  (table.perField.lookup (field, operator)).or
    (Dictionary.find? table.defaults operator)

/-- Quoted texts between brackets. -/
def quotedList (texts : List String) : String :=
  "[" ++ ", ".intercalate (texts.map Text.quoted) ++ "]"

/-- The registered operators, and the registered pairs of field and operator, in
text order. -/
def text (table : HandlerTable Predicate) : String :=
  let pairs := table.perField.map fun entry => entry.1.1 ++ ":" ++ entry.1.2
  "HandlerRegistry \x7b defaults: " ++
    quotedList (Dictionary.keys table.defaults) ++
    ", per_field: " ++ quotedList (stableSort compare pairs) ++ " \x7d"

end HandlerTable

namespace Filter

variable {Predicate : Type}

/-- The predicate of one leaf. -/
def compileLeaf
    (table : HandlerTable Predicate)
    (field operator : String)
    (operands : List Operand) : Except CompileError Predicate :=
  match table.find? field operator with
  | some handler => handler field operator operands
  | none => .error (.unsupportedFilter field operator)

mutual

/-- The predicate of a filter. -/
def compile
    (backend : FilterBackend Predicate)
    (table : HandlerTable Predicate) :
    Filter → Except CompileError Predicate
  | .comparison field operator operands =>
      compileLeaf table field operator operands
  | .nullCheck field isNull =>
      compileLeaf table field Operator.isNullName [.bool isNull]
  | .conjunction children =>
      (compileList backend table children).map backend.all
  | .disjunction children =>
      (compileList backend table children).map backend.any

/-- The predicates of some filters, or the first error. -/
def compileList
    (backend : FilterBackend Predicate)
    (table : HandlerTable Predicate) :
    List Filter → Except CompileError (List Predicate)
  | [] => .ok []
  | child :: children => do
    let predicate ← child.compile backend table
    let predicates ← compileList backend table children
    pure (predicate :: predicates)

end

end Filter

/-!
## Predicates over JSON values

The bundled backend compiles a filter to a `FieldPredicate`, which is decided
by reading fields.  A field may have several values, namely when its path goes
through a relationship to many; a comparison holds when it holds of one of
them.  A field without values counts as null.
-/

/-- The order relations of a comparison. -/
inductive Relation where
  | eq
  | neq
  | lt
  | lte
  | gt
  | gte
deriving DecidableEq

/-- A compiled filter. -/
inductive FieldPredicate where
  /-- A value stands in the relation to the operand. -/
  | compare (field : String) (relation : Relation) (operand : Operand)
  /-- A text value matches the pattern. -/
  | like (field pattern : String)
  /-- A value equals one of the operands; negated, none does. -/
  | isIn (field : String) (operands : List Operand) (negated : Bool)
  /-- A value lies between the bounds or equals one of them. -/
  | between (field : String) (low high : Operand)
  /-- All values are null, or not all of them are. -/
  | isNull (field : String) (wanted : Bool)
  | all (children : List FieldPredicate)
  | any (children : List FieldPredicate)

/-- Reads the values of a field, given by its dotted path. -/
abbrev FieldLookup := String → List Json

/-- Compares a stored value with an operand, or tells that they cannot be
compared.

A stored boolean is compared with the flag that the operand stands for, and a
stored number with its number.  A stored text is compared with a text by its
characters, and with a number as the number it denotes.  Null equals null
only. -/
def compareOperand (value : Json) (operand : Operand) : Option Ordering :=
  match value, operand with
  | .null, .null => some .eq
  | .null, _ => none
  | _, .null => none
  | .bool left, operand => operand.flag?.map (compareFlags left)
  | .number left, operand => operand.number?.bind left.toBinary64.compare?
  | .string left, .string right => some (compareTexts left right)
  | .string left, operand => do
    let left ← Binary64.read? (Text.trimCharacters left.toList)
    let right ← operand.number?
    left.compare? right
  | _, _ => none

/-- Whether a stored value equals an operand. -/
def equalsOperand (value : Json) (operand : Operand) : Bool :=
  compareOperand value operand == some .eq

/-- Whether an ordering is one that a relation admits. -/
def Relation.admits : Relation → Ordering → Bool
  | .eq, ordering => ordering == .eq
  | .neq, ordering => ordering != .eq
  | .lt, ordering => ordering == .lt
  | .lte, ordering => ordering != .gt
  | .gt, ordering => ordering == .gt
  | .gte, ordering => ordering != .lt

/-- Whether a stored value can be compared with an operand and the relation
admits the outcome. -/
def Relation.holds
    (relation : Relation)
    (value : Json)
    (operand : Operand) : Bool :=
  match compareOperand value operand with
  | some ordering => relation.admits ordering
  | none => false

namespace FieldPredicate

/-- The values of a field, of which there is at least a null. -/
def valuesOf (lookup : FieldLookup) (field : String) : List Json :=
  match lookup field with
  | [] => [.null]
  | values => values

/-- Whether some value of a field stands in a relation to an operand; for `neq`,
no value equals it. -/
def compareHolds
    (values : List Json)
    (relation : Relation)
    (operand : Operand) : Bool :=
  match relation with
  | .neq => !values.any fun value => equalsOperand value operand
  | .eq => values.any fun value => equalsOperand value operand
  | ordered => values.any fun value => ordered.holds value operand

mutual

/-- Decides a predicate by reading fields. -/
def holds (lookup : FieldLookup) : FieldPredicate → Bool
  | .compare field relation operand =>
      compareHolds (valuesOf lookup field) relation operand
  | .like field pattern =>
    (valuesOf lookup field).any fun value =>
      match value with
      | .string text => Like.isMatch text pattern
      | _ => false
  | .isIn field operands negated =>
    ((valuesOf lookup field).any fun value =>
        operands.any (equalsOperand value)) != negated
  | .between field low high =>
    (valuesOf lookup field).any fun value =>
      Relation.gte.holds value low && Relation.lte.holds value high
  | .isNull field wanted => (valuesOf lookup field).all Json.isNull == wanted
  | .all children => allHold lookup children
  | .any children => anyHolds lookup children

/-- Whether all of some predicates hold. -/
def allHold (lookup : FieldLookup) : List FieldPredicate → Bool
  | [] => true
  | child :: children => child.holds lookup && allHold lookup children

/-- Whether some of some predicates holds. -/
def anyHolds (lookup : FieldLookup) : List FieldPredicate → Bool
  | [] => false
  | child :: children => child.holds lookup || anyHolds lookup children

end

/-- The backend of predicates over JSON values. -/
def backend : FilterBackend FieldPredicate where
  all := .all
  any := .any

/-- The one operand of an operator that takes one. -/
def single (field operator : String) :
    List Operand → Except CompileError Operand
  | [only] => .ok only
  | _ => .error (.invalidOperand field operator "expects exactly one value")

/-- The handler of an order relation. -/
def relationHandler (relation : Relation) : OperatorHandler FieldPredicate :=
  fun field operator operands =>
    (single field operator operands).map (.compare field relation)

/-- The handler of text patterns. -/
def likeHandler : OperatorHandler FieldPredicate :=
  fun field operator operands => do
  match ← single field operator operands with
  | .string pattern => pure (.like field pattern)
  | _ => .error (.invalidOperand field operator "pattern must be a string")

/-- The handler of membership, or of its negation. -/
def membershipHandler (negated : Bool) : OperatorHandler FieldPredicate :=
  fun field operator operands =>
    if operands.isEmpty then
      .error (.invalidOperand field operator "expects at least one value")
    else .ok (.isIn field operands negated)

/-- The handler of ranges. -/
def betweenHandler : OperatorHandler FieldPredicate :=
  fun field operator operands =>
  match operands with
  | [low, high] => .ok (.between field low high)
  | _ => .error (.invalidOperand field operator "expects exactly two bounds")

/-- The handler of null tests. -/
def isNullHandler : OperatorHandler FieldPredicate :=
  fun field operator operands => do
  match (← single field operator operands).flag? with
  | some flag => pure (.isNull field flag)
  | none => .error (.invalidOperand field operator "expects a boolean")

/-- The handlers of the built-in operators. -/
def handlers : HandlerTable FieldPredicate :=
  ⟨[("between", betweenHandler), ("eq", relationHandler .eq),
    ("gt", relationHandler .gt), ("gte", relationHandler .gte),
    ("in", membershipHandler false), ("isnull", isNullHandler),
    ("like", likeHandler), ("lt", relationHandler .lt),
    ("lte", relationHandler .lte), ("neq", relationHandler .neq),
    ("nin", membershipHandler true)], []⟩

end FieldPredicate

/-- The predicate of a filter over JSON values. -/
def Filter.toPredicate (filter : Filter) : Except CompileError FieldPredicate :=
  filter.compile FieldPredicate.backend FieldPredicate.handlers

end JsonApi
