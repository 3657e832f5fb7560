import JsonApi.Json.Basic

/-!
# JSON as it stands in a text

Reading a text has two steps.  The first finds the structure: every member of
an object stays, also when its name occurs twice, and numerals and strings
that denote nothing (too great a number, half of a surrogate pair) are marked
and do not stop the reading.  The second, `toJson?`, gives the value: it fails
at such a mark and beyond a nesting depth, and of several members with one
name it keeps the last.  A reader of a particular shape can use the structure
itself, and so ignore parts that have no value.
-/

namespace JsonApi.Json

open JsonApi.Text

/-- A JSON value as it stands in a text. -/
inductive Written where
  | null
  | bool (value : Bool)
  /-- A numeral, without a number if none is denoted. -/
  | number (value : Option Number)
  /-- A string, without a text if none is denoted. -/
  | string (value : Option String)
  | array (items : List Written)
  | object (members : List (Option String × Written))

/-- The rest of a text after JSON white space. -/
def skipBlanks : List Char → List Char
  | [] => []
  | head :: tail =>
    if head = ' ' ∨ head = '\n' ∨ head = '\t' ∨ head = '\r' then skipBlanks tail
    else head :: tail

/-- The rest of a text after a word it begins with. -/
def afterWord? : List Char → List Char → Option (List Char)
  | [], rest => some rest
  | letter :: letters, head :: tail =>
      if head = letter then afterWord? letters tail else none
  | _ :: _, [] => none

/-- The digits that a text begins with, with the rest. -/
def takeDigits (characters : List Char) : List Nat × List Char :=
  ((characters.takeWhile Char.isDigit).map fun digit => digit.toNat - 48,
    characters.dropWhile Char.isDigit)

/-- Reads the digits before the point: a lone zero, or digits that do not begin
with zero. -/
def readWhole? (characters : List Char) : Option (List Nat × List Char) :=
  match takeDigits characters with
  | ([], _) => none
  | (0 :: _ :: _, _) => none
  | taken => some taken

/-- Reads a fraction, if the text begins with a point. -/
def readFraction? : List Char → Option (Option (List Nat) × List Char)
  | '.' :: rest =>
    match takeDigits rest with
    | ([], _) => none
    | (digits, rest) => some (some digits, rest)
  | rest => some (none, rest)

/-- Reads an exponent, if the text begins with its mark. -/
def readExponentPart? : List Char →
  Option (Option (Bool × List Nat) × List Char)
  | [] => some (none, [])
  | head :: tail =>
    if head = 'e' ∨ head = 'E' then
      let (negative, digits) :=
        match tail with
        | '-' :: rest => (true, rest)
        | '+' :: rest => (false, rest)
        | rest => (false, rest)
      match takeDigits digits with
      | ([], _) => none
      | (digits, rest) => some (some (negative, digits), rest)
    else some (none, head :: tail)

/-- Reads a numeral. -/
def readNumeral? (characters : List Char) : Option (Numeral × List Char) := do
  let (negative, unsigned) :=
    match characters with
    | '-' :: rest => (true, rest)
    | rest => (false, rest)
  let (whole, rest) ← readWhole? unsigned
  let (fraction, rest) ← readFraction? rest
  let (exponent, rest) ← readExponentPart? rest
  pure (⟨negative, whole, fraction, exponent⟩, rest)

/-- The character that a letter after a backslash stands for. -/
def unescape? (letter : Char) : Option Char :=
  if letter = '\x22' ∨ letter = '\\' ∨ letter = '/' then some letter
  else if letter = 'b' then some '\x08'
  else if letter = 'f' then some '\x0c'
  else if letter = 'n' then some '\n'
  else if letter = 'r' then some '\r'
  else if letter = 't' then some '\t'
  else none

/-- Four hexadecimal digits at the beginning of a text, with the rest. -/
def readUnit? : List Char → Option (Nat × List Char)
  | first :: second :: third :: fourth :: rest =>
    (hexNumber? [first, second, third, fourth]).map fun unit => (unit, rest)
  | _ => none

/-- Whether a 16-bit unit is the first half of a surrogate pair. -/
def isLeading (unit : Nat) : Bool := 0xD800 ≤ unit && unit < 0xDC00

/-- Whether a 16-bit unit is the second half of a surrogate pair. -/
def isTrailing (unit : Nat) : Bool := 0xDC00 ≤ unit && unit < 0xE000

/-- The character of a unit, or of a surrogate pair whose second half the text
goes on with. -/
def unitCharacter (unit : Nat) (rest : List Char) : Option Char × List Char :=
  if isTrailing unit then (none, rest)
  else if isLeading unit then
    match rest with
    | '\\' :: 'u' :: following =>
      match readUnit? following with
      | some (second, rest) =>
        if isTrailing second then
          (some (Char.ofNat
              (0x10000 + (unit - 0xD800) * 0x400 + (second - 0xDC00))), rest)
        else (none, rest)
      | none => (none, rest)
    | _ => (none, rest)
  else (some (Char.ofNat unit), rest)

/-- Reads the characters of a string up to its closing quotation mark.

The characters come in reverse order, or not at all when some escape denotes
no character. -/
def readCharacters? : Nat → Option (List Char) → List Char →
    Option (Option (List Char) × List Char)
  | 0, _, _ => none
  | _, _, [] => none
  | fuel + 1, gathered, '\\' :: 'u' :: rest =>
    match readUnit? rest with
    | none => none
    | some (unit, rest) =>
      let (character, rest) := unitCharacter unit rest
      readCharacters? fuel
        (gathered.bind fun found => character.map (· :: found)) rest
  | fuel + 1, gathered, '\\' :: letter :: rest =>
    match unescape? letter with
    | none => none
    | some character =>
        readCharacters? fuel (gathered.map (character :: ·)) rest
  | fuel + 1, gathered, head :: rest =>
    if head = '\x22' then some (gathered, rest)
    else if head.toNat < 0x20 ∨ head = '\\' then none
    else readCharacters? fuel (gathered.map (head :: ·)) rest

/-- Reads a string behind its opening quotation mark. -/
def readString? (characters : List Char) : Option (Option String × List Char) :=
  (readCharacters? (characters.length + 1) (some []) characters).map
    fun (found, rest) =>
    (found.map fun characters => String.ofList characters.reverse, rest)

mutual

/-- Reads one value behind white space; the fuel bounds the number of steps. -/
def readValue? : Nat → List Char → Option (Written × List Char)
  | 0, _ => none
  | fuel + 1, characters =>
    match skipBlanks characters with
    | [] => none
    | head :: tail =>
      if head = 'n' then (afterWord? ['u', 'l', 'l'] tail).map fun rest =>
        (.null, rest)
      else if head = 't' then
        (afterWord? ['r', 'u', 'e'] tail).map fun rest => (.bool true, rest)
      else if head = 'f' then
        (afterWord? ['a', 'l', 's', 'e'] tail).map fun rest =>
          (.bool false, rest)
      else if head = '\x22' then
        (readString? tail).map fun (value, rest) => (.string value, rest)
      else if head = '[' then
        match skipBlanks tail with
        | ']' :: rest => some (.array [], rest)
        | rest =>
            (readItems? fuel rest).map fun (items, rest) => (.array items, rest)
      else if head = '\x7b' then
        match skipBlanks tail with
        | '\x7d' :: rest => some (.object [], rest)
        | rest =>
            (readMembers? fuel rest).map fun (members, rest) =>
              (.object members, rest)
      else (readNumeral? (head :: tail)).map fun (numeral, rest) =>
        (.number numeral.value?, rest)

/-- Reads one or more items and the closing bracket. -/
def readItems? : Nat → List Char → Option (List Written × List Char)
  | 0, _ => none
  | fuel + 1, characters =>
    match readValue? fuel characters with
    | none => none
    | some (item, rest) =>
      match skipBlanks rest with
      | ',' :: rest =>
          (readItems? fuel rest).map fun (items, rest) => (item :: items, rest)
      | ']' :: rest => some ([item], rest)
      | _ => none

/-- Reads one or more members and the closing brace. -/
def readMembers? : Nat → List Char →
  Option (List (Option String × Written) × List Char)
  | 0, _ => none
  | fuel + 1, characters =>
    match skipBlanks characters with
    | '\x22' :: rest =>
      match readString? rest with
      | none => none
      | some (name, rest) =>
        match skipBlanks rest with
        | ':' :: rest =>
          match readValue? fuel rest with
          | none => none
          | some (value, rest) =>
            match skipBlanks rest with
            | ',' :: rest =>
              (readMembers? fuel rest).map fun (members, rest) =>
                ((name, value) :: members, rest)
            | '\x7d' :: rest => some ([(name, value)], rest)
            | _ => none
        | _ => none
    | _ => none

end

/-- Reads a text that holds one JSON value and nothing else but white space. -/
def Written.read? (text : String) : Option Written :=
  let characters := text.toList
  match readValue? (2 * characters.length + 2) characters with
  | some (value, rest) => if (skipBlanks rest).isEmpty then some value else none
  | none => none

/-- The nesting still allowed inside a container, if the container itself is
allowed.

Without a limit everything is allowed. -/
def innerLimit? : Option Nat → Option (Option Nat)
  | none => some none
  | some 0 => none
  | some 1 => none
  | some (limit + 2) => some (some (limit + 1))

mutual

/-- The value of a written value whose containers nest less deep than
`limit`. -/
def Written.toJson? (limit : Option Nat) : Written → Option Json
  | .null => some .null
  | .bool value => some (.bool value)
  | .number value => value.map Json.number
  | .string value => value.map Json.string
  | .array items =>
    match innerLimit? limit with
    | some inner => (itemsToJson? inner items).map Json.array
    | none => none
  | .object members =>
    match innerLimit? limit with
    | some inner =>
      (membersToJson? inner members).map fun pairs =>
        Json.object (Dictionary.ofList pairs)
    | none => none

/-- The values of written items. -/
def itemsToJson? (limit : Option Nat) : List Written → Option (List Json)
  | [] => some []
  | item :: items => do
    let value ← item.toJson? limit
    let values ← itemsToJson? limit items
    pure (value :: values)

/-- The values of written members, in the order written. -/
def membersToJson? (limit : Option Nat) :
    List (Option String × Written) → Option (List (String × Json))
  | [] => some []
  | (name, member) :: members => do
    let name ← name
    let value ← member.toJson? limit
    let values ← membersToJson? limit members
    pure ((name, value) :: values)

end

/-- A text nests less than this many arrays and objects. -/
def nestingLimit : Nat := 128

/-- The value of a JSON text. -/
def read? (text : String) : Option Json :=
  (Written.read? text).bind (Written.toJson? (some nestingLimit))

mutual

/-- A value as it stands in its text. -/
def toWritten : Json → Written
  | .null => .null
  | .bool value => .bool value
  | .number value => .number (some value)
  | .string value => .string (some value)
  | .array items => .array (itemsToWritten items)
  | .object members => .object (membersToWritten members)

/-- Some items as they stand in their text. -/
def itemsToWritten : List Json → List Written
  | [] => []
  | item :: items => item.toWritten :: itemsToWritten items

/-- Some members as they stand in their text. -/
def membersToWritten : List (String × Json) → List (Option String × Written)
  | [] => []
  | (name, value) :: members =>
      (some name, value.toWritten) :: membersToWritten members

end

end JsonApi.Json
