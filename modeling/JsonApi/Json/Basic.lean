import JsonApi.Binary64
import JsonApi.Dictionary
import JsonApi.Text.Basic

/-!
# JSON values

A number is either an integer or a floating point number, as it was written:
`1` is an integer and `1.0` is not.  Integers that come from text lie within
the signed or the unsigned 64-bit range.  The members of an object are a
dictionary.
-/

namespace JsonApi

/-- A JSON number. -/
inductive Number where
  | integer (value : Int)
  | binary (value : Binary64)
deriving DecidableEq

/-- The nearest floating point number. -/
def Number.toBinary64 : Number → Binary64
  | .integer value => Binary64.ofInt value
  | .binary value => value

/-- The number as a signed 64-bit integer, if it was written as one. -/
def Number.toInt64? : Number → Option Int
  | .integer value => if Text.isInt64 value then some value else none
  | .binary _ => none

/-- A JSON value. -/
inductive Json where
  | null
  | bool (value : Bool)
  | number (value : Number)
  | string (value : String)
  | array (items : List Json)
  | object (members : List (String × Json))
deriving Inhabited

namespace Json

/-- The JSON number of a natural number. -/
def ofNat (value : Nat) : Json :=
  .number (.integer value)

/-- The JSON number of an integer. -/
def ofInt (value : Int) : Json :=
  .number (.integer value)

/-- The JSON array of some texts. -/
def ofTexts (texts : List String) : Json :=
  .array (texts.map Json.string)

/-- The member of an object with the given name. -/
def member? (value : Json) (name : String) : Option Json :=
  match value with
  | .object members => Dictionary.find? members name
  | _ => none

/-- The text of a JSON string. -/
def text? : Json → Option String
  | .string value => some value
  | _ => none

/-- The items of a JSON array. -/
def items? : Json → Option (List Json)
  | .array items => some items
  | _ => none

/-- The members of a JSON object. -/
def members? : Json → Option (List (String × Json))
  | .object members => some members
  | _ => none

/-- Whether a value is the null literal. -/
def isNull : Json → Bool
  | .null => true
  | _ => false

end Json

end JsonApi

/-!
## JSON numerals

A numeral without fraction and exponent denotes an integer as long as it fits
64 bits, signed when it is negative and unsigned otherwise.  Every other
numeral denotes a floating point number: as many leading digits as fit an
unsigned 64-bit count are taken, the digits behind them only move the decimal
point, and the count is scaled by the power of ten in one rounded operation
(below the least power of ten of that format, in several).  A numeral that is
too great denotes nothing.
-/

namespace JsonApi.Json

open JsonApi.Text

/-- The parts of a numeral: its sign and its digits before the point, after it
and in the exponent. -/
structure Numeral where
  negative : Bool
  whole : List Nat
  fraction : Option (List Nat)
  /-- The sign of the exponent, which is set for a negative one, and its
  digits. -/
  exponent : Option (Bool × List Nat)

/-- Appends digits to a count while it stays below `2 ^ 64`; gives the count and
the digits left. -/
def appendDigits (count : Nat) : List Nat → Nat × List Nat
  | [] => (count, [])
  | digit :: rest =>
    if count * 10 + digit < wordLimit
      then appendDigits (count * 10 + digit) rest
    else (count, digit :: rest)

/-- The greatest power of ten that is a floating point number. -/
def greatestPower : Nat := 308

/-- A power of ten, rounded. -/
def powerOfTen (power : Nat) : Binary64 :=
  Binary64.ofRatio false (Nat.pow 10 power) 1

/-- A non-negative number scaled down by a power of ten. -/
def scaleDown (number : Binary64) (power : Nat) : Binary64 :=
  if power ≤ greatestPower then number.div (powerOfTen power)
  else if number.isZero then number
  else scaleDown (number.div (powerOfTen greatestPower)) (power - greatestPower)
termination_by power
decreasing_by
  simp only [greatestPower] at *
  omega

/-- A non-negative number scaled up by a power of ten, unless the outcome is too
great. -/
def scaleUp? (number : Binary64) (power : Nat) : Option Binary64 :=
  if number.isZero then some number
  else if power ≤ greatestPower then
    some (number.mul (powerOfTen power)) |>.filter fun scaled =>
      !scaled.isInfinite
  else none

/-- A count scaled by a power of ten, with the given sign. -/
def scaled? (negative : Bool) (count : Nat) (power : Int) : Option Binary64 :=
  let number := Binary64.ofRatio false count 1
  let magnitude? :=
    if 0 ≤ power then scaleUp? number power.toNat
      else some (scaleDown number power.natAbs)
  magnitude?.map fun magnitude =>
    if negative then magnitude.negate else magnitude

/-- The greatest exponent that is taken at its value; a greater one scales
without bound. -/
def exponentLimit : Nat := Nat.pow 2 31 - 1

/-- A count scaled by a power of ten that is the sum of a shift and a written
exponent. -/
def exponentiated?
    (negative : Bool)
    (count : Nat)
    (shift : Int)
    (exponent : Bool × List Nat) : Option Binary64 :=
  let value := natOfDigits exponent.2
  if value > exponentLimit then
    if count ≠ 0 ∧
      !exponent.1 then none else some (Binary64.ofMagnitude negative 0)
  else scaled? negative count
    (if exponent.1 then shift - value else shift + value)

/-- An integer numeral: the integer if it fits 64 bits, and a floating point
number otherwise. -/
def integer (negative : Bool) (count : Nat) : Number :=
  if negative then
    if count = 0 ∨
      count > Nat.pow 2 63 then .binary (Binary64.ofRatio true count 1)
    else .integer (-(count : Int))
  else .integer count

/-- The number that a numeral denotes. -/
def Numeral.value? (numeral : Numeral) : Option Number :=
  let (count, dropped) := appendDigits 0 numeral.whole
  match numeral.fraction, numeral.exponent with
  | none, none =>
    if dropped.isEmpty then some (integer numeral.negative count)
    else (scaled? numeral.negative count dropped.length).map Number.binary
  | fraction?, exponent? =>
    let fraction := fraction?.getD []
    let (count, ignored) := appendDigits count fraction
    let shift : Int := dropped.length - (fraction.length - ignored.length : Nat)
    match exponent? with
    | none => (scaled? numeral.negative count shift).map Number.binary
    | some exponent =>
        (exponentiated? numeral.negative count shift exponent).map Number.binary

end JsonApi.Json

/-!
## The order of JSON values

Values of different kinds are ordered by kind: null, booleans, numbers,
strings, arrays, objects.  Booleans, numbers and strings of one kind are
ordered among themselves; all arrays are equal to each other in this order,
and so are all objects.  Two numbers that are both signed 64-bit integers are
compared as integers, and any other two as floating point numbers.
-/

namespace JsonApi

/-- Compares two booleans; false is less than true. -/
def compareFlags (left right : Bool) : Ordering :=
  compare left.toNat right.toNat

/-- Compares two texts by their code points. -/
def compareTexts (left right : String) : Ordering :=
  if left < right then .lt else if left = right then .eq else .gt

/-- Compares two numbers, of which "not a number" is the greatest. -/
def compareNumbers (left right : Number) : Ordering :=
  match left.toInt64?, right.toInt64? with
  | some left, some right => compare left right
  | _, _ =>
    let left := left.toBinary64
    let right := right.toBinary64
    (left.compare? right).getD (compareFlags left.isNaN right.isNaN)

namespace Json

/-- The place of a value's kind among the kinds. -/
def rank : Json → Nat
  | .null => 0
  | .bool _ => 1
  | .number _ => 2
  | .string _ => 3
  | .array _ => 4
  | .object _ => 5

/-- Compares two values. -/
def order : Json → Json → Ordering
  | .bool left, .bool right => compareFlags left right
  | .number left, .number right => compareNumbers left right
  | .string left, .string right => compareTexts left right
  | left, right => compare left.rank right.rank

end Json

end JsonApi

/-!
## Outlines of JSON documents

A document may list its members in another order than the one of their names.
An outline keeps the order in which members are written; its value forgets it.
-/

namespace JsonApi.Json

/-- A value whose members stand in the order in which they are written. -/
inductive Outline where
  | leaf (value : Json)
  | list (items : List Outline)
  | record (members : List (String × Outline))

/-- The outline of a text. -/
def Outline.text (text : String) : Outline :=
  .leaf (.string text)

/-- The outline of a natural number. -/
def Outline.count (value : Nat) : Outline :=
  .leaf (.ofNat value)

/-- The outline of a list of texts. -/
def Outline.texts (texts : List String) : Outline :=
  .list (texts.map Outline.text)

mutual

/-- The outline of a value, with members in the order of their names. -/
def toOutline : Json → Outline
  | .array items => .list (itemsToOutline items)
  | .object members => .record (membersToOutline members)
  | value => .leaf value

/-- The outlines of some items. -/
def itemsToOutline : List Json → List Outline
  | [] => []
  | item :: items => item.toOutline :: itemsToOutline items

/-- The outlines of some members. -/
def membersToOutline : List (String × Json) → List (String × Outline)
  | [] => []
  | (name, value) :: members =>
      (name, value.toOutline) :: membersToOutline members

end

mutual

/-- The value of an outline. -/
def Outline.value : Outline → Json
  | .leaf value => value
  | .list items => .array (outlineItems items)
  | .record members => .object (Dictionary.ofList (outlineMembers members))

/-- The values of some outlines. -/
def outlineItems : List Outline → List Json
  | [] => []
  | item :: items => item.value :: outlineItems items

/-- The values of the outlines of some members. -/
def outlineMembers : List (String × Outline) → List (String × Json)
  | [] => []
  | (name, outline) :: members =>
      (name, outline.value) :: outlineMembers members

end

/-!
## Writing JSON

The compact form has no white space.  The indented form sets every item and
member on a line of its own, two spaces deeper than its container; an empty
container stays on its line.  In strings the quotation mark, the backslash and
the control characters are escaped and nothing else is.

The indented form is also defined on outlines, whose members need not stand in
the order of their names.
-/

open JsonApi.Text

/-- Floating point numbers have a point or an exponent, from `1e+16` on and
below `1e-5`. -/
def numberLayout : Binary64.Layout where
  positional leading := -5 ≤ leading && leading < 16
  pointZero := true
  plusSign := true
  tie := .toEven

/-- The text of a number; what is no finite number is written as null. -/
def numberText : Number → String
  | .integer value => toString value
  | .binary value =>
    if value.isNaN || value.isInfinite then "null" else value.text numberLayout

/-- One character as it stands inside a JSON string. -/
def stringCharacter (character : Char) : List Char :=
  if character = '\x22' then ['\\', '\x22']
  else if character = '\\' then ['\\', '\\']
  else if character = '\x08' then ['\\', 'b']
  else if character = '\x0c' then ['\\', 'f']
  else if character = '\n' then ['\\', 'n']
  else if character = '\r' then ['\\', 'r']
  else if character = '\t' then ['\\', 't']
  else if character.toNat < 0x20
    then '\\' :: 'u' :: (paddedHexText 4 character.toNat).toList
  else [character]

/-- A text as a JSON string. -/
def stringText (text : String) : String :=
  String.ofList ('\x22' :: text.toList.flatMap stringCharacter ++ ['\x22'])

mutual

/-- The compact form of a value. -/
def compact : Json → String
  | .null => "null"
  | .bool value => if value then "true" else "false"
  | .number value => numberText value
  | .string value => stringText value
  | .array items => "[" ++ ",".intercalate (compactItems items) ++ "]"
  | .object members =>
      "\x7b" ++ ",".intercalate (compactMembers members) ++ "\x7d"

/-- The compact forms of some items. -/
def compactItems : List Json → List String
  | [] => []
  | item :: items => item.compact :: compactItems items

/-- The compact forms of some members, each with its name. -/
def compactMembers : List (String × Json) → List String
  | [] => []
  | (name, value) :: members =>
    (stringText name ++ ":" ++ value.compact) :: compactMembers members

end

/-- A new line at the given depth. -/
def newLine (depth : Nat) : String :=
  "\n" ++ String.ofList (List.replicate (2 * depth) ' ')

/-- Parts set between brackets, each on a line of its own. -/
def bracketed
    (opening closing : String)
    (depth : Nat)
    (parts : List String) : String :=
  if parts.isEmpty then opening ++ closing
  else
    opening ++ newLine (depth + 1) ++
      ("," ++ newLine (depth + 1)).intercalate parts ++
      newLine depth ++ closing

mutual

/-- The indented form of an outline that starts at the given depth. -/
def Outline.indented (depth : Nat) : Outline → String
  | .leaf value => value.compact
  | .list items => bracketed "[" "]" depth (indentedItems (depth + 1) items)
  | .record members =>
      bracketed "\x7b" "\x7d" depth (indentedMembers (depth + 1) members)

/-- The indented forms of some items. -/
def indentedItems (depth : Nat) : List Outline → List String
  | [] => []
  | item :: items => item.indented depth :: indentedItems depth items

/-- The indented forms of some members, each with its name. -/
def indentedMembers (depth : Nat) : List (String × Outline) → List String
  | [] => []
  | (name, value) :: members =>
    (stringText name ++ ": " ++ value.indented depth) ::
      indentedMembers depth members

end

/-- The indented form of a value. -/
def indented (value : Json) : String :=
  value.toOutline.indented 0

end JsonApi.Json
