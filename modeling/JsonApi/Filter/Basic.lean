import JsonApi.Binary64
import JsonApi.Json.Basic
import JsonApi.Text.Basic
import JsonApi.Text.Quoted

/-!
# Filters and filter inputs

A request brings an input, and a filter is read from it.  Both hold operands;
a filter has a JSON form.
-/

/-!
## Operands

An operand is one scalar that a filter compares a field with.  Operands from a
query string are always texts; a text is read as a flag or as a number where
the comparison calls for one.
-/

namespace JsonApi

/-- A scalar on the right of a comparison. -/
inductive Operand where
  | null
  | bool (value : Bool)
  | int (value : Int)
  | float (value : Binary64)
  | string (value : String)
deriving DecidableEq

namespace Operand

/-- Numbers among operands are written positionally and without a superfluous
point. -/
def numberLayout : Binary64.Layout where
  positional _ := true
  pointZero := false
  plusSign := false
  tie := .upward

/-- The text of a string operand. -/
def text? : Operand → Option String
  | .string value => some value
  | _ => none

/-- Whether the operand is the null literal. -/
def isNull : Operand → Bool
  | .null => true
  | _ => false

/-- The operand as a flag: a boolean, one of the numbers 0 and 1, or such a
value as text. -/
def flag? : Operand → Option Bool
  | .bool value => some value
  | .int value =>
      if value = 0 then some false else if value = 1 then some true else none
  | .string value =>
    let lowered :=
      String.ofList ((Text.trimCharacters value.toList).map Char.toLower)
    if lowered = "true" ∨ lowered = "1" then some true
    else if lowered = "false" ∨ lowered = "0" then some false
    else none
  | _ => none

/-- The operand as a floating point number: a number, or a numeral as text. -/
def number? : Operand → Option Binary64
  | .int value => some (Binary64.ofInt value)
  | .float value => some value
  | .string value => Binary64.read? (Text.trimCharacters value.toList)
  | _ => none

/-- The operand as JSON; what is no finite number becomes null. -/
def toJson : Operand → Json
  | .null => .null
  | .bool value => .bool value
  | .int value => .ofInt value
  | .float value =>
    if value.isNaN || value.isInfinite then .null else .number (.binary value)
  | .string value => .string value

/-- The operand as it is shown in a filter text. -/
def text : Operand → String
  | .null => "null"
  | .bool value => if value then "true" else "false"
  | .int value => toString value
  | .float value => value.text numberLayout
  | .string value => Text.quoted value

end Operand

/-!
## Filter input

The filter of a request before it is read: a scalar, a list, or a map from
keys to inputs.  The keys of a map are ascending.
-/

/-- A filter as requested. -/
inductive FilterInput where
  /-- One operand; attached to a field it asks for equality. -/
  | scalar (value : Operand)
  /-- A list; attached to a field it asks for membership. -/
  | list (items : List FilterInput)
  /-- Operators of a field, fields of a nested scope, or groups. -/
  | map (entries : List (String × FilterInput))

namespace FilterInput

/-- The input that asks for nothing. -/
def empty : FilterInput := .map []

/-- Whether the input is a list or map without entries. -/
def isEmpty : FilterInput → Bool
  | .scalar _ => false
  | .list items => items.isEmpty
  | .map entries => entries.isEmpty

/-- The name of the input's shape in messages. -/
def shape : FilterInput → String
  | .scalar _ => "scalar"
  | .list _ => "list"
  | .map _ => "map"

/-- The operand of a JSON number: a signed 64-bit integer as such, all else in
floating point. -/
def operandOfNumber (number : Number) : Operand :=
  match number.toInt64? with
  | some value => .int value
  | none => .float number.toBinary64

mutual

/-- The input that a JSON value stands for. -/
def ofJson : Json → FilterInput
  | .null => .scalar .null
  | .bool value => .scalar (.bool value)
  | .number value => .scalar (operandOfNumber value)
  | .string value => .scalar (.string value)
  | .array items => .list (ofItems items)
  | .object members => .map (ofMembers members)

/-- The inputs that some JSON items stand for. -/
def ofItems : List Json → List FilterInput
  | [] => []
  | item :: items => ofJson item :: ofItems items

/-- The inputs that some JSON members stand for, each under its name. -/
def ofMembers : List (String × Json) → List (String × FilterInput)
  | [] => []
  | (name, value) :: members => (name, ofJson value) :: ofMembers members

end

mutual

/-- The input as JSON. -/
def toJson : FilterInput → Json
  | .scalar value => value.toJson
  | .list items => .array (itemsToJson items)
  | .map entries => .object (entriesToJson entries)

/-- Some inputs as JSON. -/
def itemsToJson : List FilterInput → List Json
  | [] => []
  | item :: items => item.toJson :: itemsToJson items

/-- Some inputs as JSON, each under its key. -/
def entriesToJson : List (String × FilterInput) → List (String × Json)
  | [] => []
  | (key, value) :: entries => (key, value.toJson) :: entriesToJson entries

end

end FilterInput

/-!
## Filters

A filter is a tree whose leaves compare a field with operands or test it for
null, and whose inner nodes ask that all or that some of their children hold.
A field is written as a path of names with dots between them.
-/

/-- A filter expression. -/
inductive Filter where
  /-- The field stands in the relation of the named operator to the operands. -/
  | comparison (field operator : String) (operands : List Operand)
  /-- The field is null, or is not null. -/
  | nullCheck (field : String) (isNull : Bool)
  /-- Every child holds. -/
  | conjunction (children : List Filter)
  /-- Some child holds. -/
  | disjunction (children : List Filter)

namespace Filter

/-- The conjunction of some filters; none of them gives none, and one stands for
itself. -/
def all? : List Filter → Option Filter
  | [] => none
  | [only] => some only
  | children => some (.conjunction children)

/-- The disjunction of some filters; none of them gives none, and one stands for
itself. -/
def any? : List Filter → Option Filter
  | [] => none
  | [only] => some only
  | children => some (.disjunction children)

theorem all?_eq_none_iff {children : List Filter} :
    all? children = none ↔ children = [] := by
  cases children with
  | nil => simp [all?]
  | cons first rest => cases rest <;> simp [all?]

/-- A joined filter is the only child or has all children. -/
theorem all?_cases
    {children : List Filter}
    {joined : Filter}
    (isJoined : all? children = some joined) :
    children = [joined] ∨ joined = .conjunction children := by
  cases children with
  | nil => cases isJoined
  | cons first rest =>
    cases rest with
    | nil => exact Or.inl (by rw [Option.some.inj isJoined])
    | cons second rest => exact Or.inr (Option.some.inj isJoined).symm

theorem any?_cases
    {children : List Filter}
    {joined : Filter}
    (isJoined : any? children = some joined) :
    children = [joined] ∨ joined = .disjunction children := by
  cases children with
  | nil => cases isJoined
  | cons first rest =>
    cases rest with
    | nil => exact Or.inl (by rw [Option.some.inj isJoined])
    | cons second rest => exact Or.inr (Option.some.inj isJoined).symm

mutual

/-- The number of nodes of a filter. -/
def nodeCount : Filter → Nat
  | .comparison .. => 1
  | .nullCheck .. => 1
  | .conjunction children => 1 + nodeCounts children
  | .disjunction children => 1 + nodeCounts children

/-- The number of nodes of some filters together. -/
def nodeCounts : List Filter → Nat
  | [] => 0
  | child :: children => child.nodeCount + nodeCounts children

end

mutual

/-- The number of levels of a filter; a leaf has one. -/
def depth : Filter → Nat
  | .comparison .. => 1
  | .nullCheck .. => 1
  | .conjunction children => 1 + greatestDepth children
  | .disjunction children => 1 + greatestDepth children

/-- The greatest number of levels among some filters. -/
def greatestDepth : List Filter → Nat
  | [] => 0
  | child :: children => max child.depth (greatestDepth children)

end

mutual

/-- The fields of the leaves, from left to right and with repetitions. -/
def fields : Filter → List String
  | .comparison field .. => [field]
  | .nullCheck field _ => [field]
  | .conjunction children => fieldsOf children
  | .disjunction children => fieldsOf children

/-- The fields of the leaves of some filters. -/
def fieldsOf : List Filter → List String
  | [] => []
  | child :: children => child.fields ++ fieldsOf children

end

/-- Operands as they are shown behind an operator. -/
def operandsText : List Operand → String
  | [only] => only.text
  | operands => "[" ++ ", ".intercalate (operands.map Operand.text) ++ "]"

mutual

/-- The filter as it is shown to a reader. -/
def text : Filter → String
  | .comparison field operator operands =>
    field ++ " " ++ operator ++ " " ++ operandsText operands
  | .nullCheck field isNull =>
      field ++ (if isNull then " is null" else " is not null")
  | .conjunction children => "(" ++ " AND ".intercalate (texts children) ++ ")"
  | .disjunction children => "(" ++ " OR ".intercalate (texts children) ++ ")"

/-- Some filters as they are shown to a reader. -/
def texts : List Filter → List String
  | [] => []
  | child :: children => child.text :: texts children

end

end Filter

end JsonApi

/-!
## Filters as JSON

A filter is written as an object whose member `kind` tells which node it is,
followed by the parts of the node.
-/

namespace JsonApi.Filter

open JsonApi.Json (Outline)

mutual

/-- The outline of a filter. -/
def outline : Filter → Outline
  | .comparison field operator operands =>
    .record [("kind", .text "comparison"), ("field", .text field),
      ("operator", .text operator),
      ("values", .list (operands.map fun operand => .leaf operand.toJson))]
  | .nullCheck field isNull =>
    .record [("kind", .text "null_check"), ("field", .text field),
      ("is_null", .leaf (.bool isNull))]
  | .conjunction children =>
    .record
      [("kind", .text "conjunction"), ("children", .list (outlines children))]
  | .disjunction children =>
    .record
      [("kind", .text "disjunction"), ("children", .list (outlines children))]

/-- The outlines of some filters. -/
def outlines : List Filter → List Outline
  | [] => []
  | child :: children => child.outline :: outlines children

end

/-- A filter as JSON. -/
def toJson (filter : Filter) : Json :=
  filter.outline.value

end JsonApi.Filter
