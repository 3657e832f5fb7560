import JsonApi.Binary64
import JsonApi.Json.Basic
import JsonApi.Text.Basic

/-!
# TOML scalars

Strings in their four forms, booleans, integers in four bases, floating point
numbers, dates and times.  Every reader takes a scalar from the beginning of a
text and gives what follows it.
-/

namespace JsonApi.Toml

open JsonApi.Text

/-- A value read from the beginning of a text, and the rest of it. -/
abbrev Taken (α : Type) := Option (α × List Char)

/-- The rest of a text behind spaces and tabs. -/
def skipSpaces (characters : List Char) : List Char :=
  characters.dropWhile fun character => character = ' ' || character = '\t'

/-- The rest of a text behind one line end. -/
def afterNewline? : List Char → Option (List Char)
  | '\n' :: rest => some rest
  | '\r' :: '\n' :: rest => some rest
  | _ => none

/-- Whether a character may stand in a comment or, but for its delimiters, in a
string. -/
def isPlain (character : Char) : Bool :=
  character = '\t' || (0x20 ≤ character.toNat && character.toNat ≠ 0x7F)

/-- The rest of a text behind a comment, if it begins with one. -/
def skipComment : List Char → List Char
  | '#' :: rest => rest.dropWhile isPlain
  | rest => rest

/-- Goes on behind spaces, line ends and comments; the fuel bounds the number of
steps. -/
def skipLines : Nat → List Char → List Char
  | 0, rest => rest
  | fuel + 1, characters =>
    let rest := skipComment (skipSpaces characters)
    match afterNewline? rest with
    | some rest => skipLines fuel rest
    | none => rest

/-- The character of a hexadecimal code point, unless it is a surrogate or too
great. -/
def codePoint? (digits : List Char) : Option Char := do
  let value ← hexNumber? digits
  if value < 0xD800 ∨
    (0xE000 ≤ value ∧ value < 0x110000) then some (Char.ofNat value) else none

/-- Reads a code point of a fixed number of digits. -/
def takeCodePoint (count : Nat) (characters : List Char) : Taken Char :=
  if characters.length < count then none
  else (codePoint? (characters.take count)).map fun character =>
    (character, characters.drop count)

/-- Reads an escape behind its backslash. -/
def takeEscape : List Char → Taken Char
  | [] => none
  | letter :: rest =>
    if letter = 'u' then takeCodePoint 4 rest
    else if letter = 'U' then takeCodePoint 8 rest
    else if letter = 'b' then some ('\x08', rest)
    else if letter = 't' then some ('\t', rest)
    else if letter = 'n' then some ('\n', rest)
    else if letter = 'f' then some ('\x0c', rest)
    else if letter = 'r' then some ('\r', rest)
    else if letter = '\x22' ∨ letter = '\\' then some (letter, rest)
    else none

/-- Reads a basic string of one line behind its quotation mark. -/
def takeBasic : Nat → List Char → List Char → Taken String
  | 0, _, _ => none
  | _, _, [] => none
  | fuel + 1, gathered, head :: rest =>
    if head = '\x22' then some (String.ofList gathered.reverse, rest)
    else if head = '\\' then
      match takeEscape rest with
      | some (character, rest) => takeBasic fuel (character :: gathered) rest
      | none => none
    else if isPlain head then takeBasic fuel (head :: gathered) rest
    else none

/-- Reads a literal string of one line behind its apostrophe. -/
def takeLiteral (characters : List Char) : Taken String :=
  let inner := characters.takeWhile fun character =>
    isPlain character && character ≠ '\x27'
  match characters.dropWhile fun character =>
    isPlain character && character ≠ '\x27' with
  | '\x27' :: rest => some (String.ofList inner, rest)
  | _ => none

/-- The number of delimiters that a text begins with, but at most five. -/
def delimiterCount (delimiter : Char) (characters : List Char) : Nat :=
  ((characters.take 5).takeWhile (· = delimiter)).length

/-- The rest of a text behind a backslash at the end of a line and the blanks
that follow. -/
def afterLineContinuation?
    (fuel : Nat)
    (characters : List Char) : Option (List Char) :=
  (afterNewline? (skipSpaces characters)).map (skipBlankLines fuel)
where
  /-- Goes on behind spaces and line ends. -/
  skipBlankLines : Nat → List Char → List Char
    | 0, rest => rest
    | fuel + 1, characters =>
      let rest := skipSpaces characters
      match afterNewline? rest with
      | some rest => skipBlankLines fuel rest
      | none => rest

/-- Reads a string of several lines behind its opening delimiters and the line
end there.

Three delimiters in a row close it, and up to two further ones belong to it. -/
def takeLines (delimiter : Char) : Nat → List Char → List Char → Taken String
  | 0, _, _ => none
  | _, _, [] => none
  | fuel + 1, gathered, head :: rest =>
    if head = delimiter then
      let count := delimiterCount delimiter (head :: rest)
      let behind := (head :: rest).drop count
      if count < 3 then takeLines delimiter fuel
        (List.replicate count delimiter ++ gathered) behind
      else
        some (String.ofList
            (List.replicate (count - 3) delimiter ++ gathered).reverse, behind)
    else if head = '\\' ∧ delimiter = '\x22' then
      match afterLineContinuation? fuel rest with
      | some rest => takeLines delimiter fuel gathered rest
      | none =>
        match takeEscape rest with
        | some (character, rest) =>
            takeLines delimiter fuel (character :: gathered) rest
        | none => none
    else
      match afterNewline? (head :: rest) with
      | some rest => takeLines delimiter fuel ('\n' :: gathered) rest
      | none =>
        if isPlain head then takeLines delimiter fuel (head :: gathered) rest
          else none

/-- A text without the line end it begins with. -/
def dropFirstNewline (characters : List Char) : List Char :=
  (afterNewline? characters).getD characters

/-- Reads a string of one line. -/
def takeLine : List Char → Taken String
  | '\x22' :: rest => takeBasic (rest.length + 1) [] rest
  | '\x27' :: rest => takeLiteral rest
  | _ => none

/-- Reads a string of any form. -/
def takeString : List Char → Taken String
  | '\x22' :: '\x22' :: '\x22' :: rest =>
    takeLines '\x22' (rest.length + 1) [] (dropFirstNewline rest)
  | '\x27' :: '\x27' :: '\x27' :: rest =>
    takeLines '\x27' (rest.length + 1) [] (dropFirstNewline rest)
  | characters => takeLine characters

/-- The digits of a numeral in which single underscores may stand between
digits. -/
def underscored?
    (isDigit : Char → Bool)
    (characters : List Char) : Option (List Char) :=
  let groups := pieces '_' characters
  if groups.all fun group =>
    !group.isEmpty && group.all isDigit then some groups.flatten else none

/-- A whole number in a base other than ten. -/
def basedNumber?
    (isDigit : Char → Bool)
    (base : Nat)
    (digits : List Char) : Option Nat := do
  let digits ← underscored? isDigit digits
  let values ← digits.mapM hexValue?
  pure (values.foldl (fun value digit => value * base + digit) 0)

/-- Whether decimal digits have no superfluous zero in front. -/
def hasNoLeadingZero (digits : List Char) : Bool :=
  digits.length ≤ 1 || digits.head? ≠ some '0'

/-- Reads an integer that makes up the whole text. -/
def integer? (characters : List Char) : Option Int :=
  let isHexDigit (digit : Char) : Bool := (hexValue? digit).isSome
  let isBelow (limit : Char) (digit : Char) : Bool :=
    '0' ≤ digit && digit < limit
  let value? : Option Int :=
    match characters with
    | '0' :: 'x' :: digits => (basedNumber? isHexDigit 16 digits).map Int.ofNat
    | '0' :: 'o' :: digits =>
        (basedNumber? (isBelow '8') 8 digits).map Int.ofNat
    | '0' :: 'b' :: digits =>
        (basedNumber? (isBelow '2') 2 digits).map Int.ofNat
    | _ => do
      let (negative, unsigned) := Binary64.takeSign characters
      let digits ← (underscored? Char.isDigit unsigned).filter hasNoLeadingZero
      let value ← readNat? digits
      pure (if negative then -(value : Int) else value)
  value?.filter isInt64

/-- Reads a floating point number that makes up the whole text. -/
def float? (characters : List Char) : Option Binary64 :=
  let (_, unsigned) := Binary64.takeSign characters
  if unsigned = ['i', 'n', 'f'] ∨
    unsigned = ['n', 'a', 'n'] then Binary64.read? characters
  else
    let inMantissa (character : Char) : Bool :=
      character ≠ 'e' && character ≠ 'E'
    let mantissa := unsigned.takeWhile inMantissa
    let exponent := (unsigned.dropWhile inMantissa).drop 1
    let (_, exponentDigits) := Binary64.takeSign exponent
    let hasExponent := mantissa.length < unsigned.length
    let wholeIsSound (whole : List Char) : Bool :=
      ((underscored? Char.isDigit whole).map hasNoLeadingZero).getD false
    let isSound :=
      match pieces '.' mantissa with
      | [whole] => wholeIsSound whole && hasExponent
      | [whole, fraction] =>
          wholeIsSound whole && (underscored? Char.isDigit fraction).isSome
      | _ => false
    if isSound &&
      (!hasExponent || (underscored? Char.isDigit exponentDigits).isSome) then
      (Binary64.read? (characters.filter (· ≠ '_'))).filter fun number =>
        number ≠ Binary64.infinity false
    else none

/-- The number that a given count of decimal digits denotes. -/
def fixedDigits? (count : Nat) (characters : List Char) : Option Nat :=
  if characters.length = count then readNat? characters else none

/-- The number of days of a month. -/
def daysOf (year month : Nat) : Nat :=
  if month = 2 then
    if year % 4 = 0 ∧ (year % 100 ≠ 0 ∨ year % 400 = 0) then 29 else 28
  else if month = 4 ∨ month = 6 ∨ month = 9 ∨ month = 11 then 30
  else 31

/-- Whether a text is a date. -/
def isDate (characters : List Char) : Bool :=
  match pieces '-' characters with
  | [year, month, day] =>
    match fixedDigits? 4 year, fixedDigits? 2 month, fixedDigits? 2 day with
    | some year, some month, some day =>
      1 ≤ month && month ≤ 12 && 1 ≤ day && day ≤ daysOf year month
    | _, _, _ => false
  | _ => false

/-- Whether a text is a time of day, with or without a fraction of the
second. -/
def isTime (characters : List Char) : Bool :=
  match pieces ':' characters with
  | [hour, minute, second] =>
    let whole := second.takeWhile (· ≠ '.')
    let fraction := second.dropWhile (· ≠ '.')
    let fractionIsSound :=
      match fraction with
      | [] => true
      | _ :: digits => !digits.isEmpty && digits.all Char.isDigit
    match fixedDigits? 2 hour, fixedDigits? 2 minute, fixedDigits? 2 whole with
    | some hour, some minute, some second =>
      hour ≤ 23 && minute ≤ 59 && second ≤ 60 && fractionIsSound
    | _, _, _ => false
  | _ => false

/-- Whether a text is an offset of hours and minutes. -/
def isOffset (characters : List Char) : Bool :=
  match pieces ':' characters with
  | [hour, minute] =>
    match fixedDigits? 2 hour, fixedDigits? 2 minute with
    | some hour, some minute => hour ≤ 23 && minute ≤ 59
    | _, _ => false
  | _ => false

/-- Whether a text is a time of day with an optional offset. -/
def isOffsetTime (characters : List Char) : Bool :=
  let inTime (character : Char) : Bool :=
    character.isDigit || character = ':' || character = '.'
  let time := characters.takeWhile inTime
  isTime time &&
    match characters.dropWhile inTime with
    | [] => true
    | ['Z'] => true
    | ['z'] => true
    | '+' :: offset => isOffset offset
    | '-' :: offset => isOffset offset
    | _ => false

/-- Whether a text is a date, a time of day, or both. -/
def isDateTime (characters : List Char) : Bool :=
  isDate characters || isTime characters ||
    (isDate (characters.take 10) &&
      match characters.drop 10 with
      | [] => false
      | separator :: time =>
        (separator = 'T' || separator = 't' || separator = ' ') &&
          isOffsetTime time)

/-- Whether a character may stand in a number, a word, a date or a time. -/
def isInToken (character : Char) : Bool :=
  character.isAlphanum || character = '_' || character = '+' ||
    character = '-' || character = '.' || character = ':'

/-- The characters of a token; a date takes a time behind a single space with
it. -/
def takeToken (characters : List Char) : List Char × List Char :=
  let token := characters.takeWhile isInToken
  let rest := characters.dropWhile isInToken
  match isDate token, rest with
  | true, ' ' :: next :: following =>
    if next.isDigit then
      let time := (next :: following).takeWhile isInToken
      (token ++ ' ' :: time, (next :: following).dropWhile isInToken)
    else (token, rest)
  | _, _ => (token, rest)

/-- The one member of the object that a date or time stands for. -/
def dateTimeMember : String := "$__toml_private_datetime"

/-- The value of a token.

A date or time is an object with a single member, so that it is taken neither
for a text nor for a number. -/
def tokenValue? (token : List Char) : Option Json :=
  if token = ['t', 'r', 'u', 'e'] then some (.bool true)
  else if token = ['f', 'a', 'l', 's', 'e'] then some (.bool false)
  else
    match integer? token with
    | some value => some (.ofInt value)
    | none =>
      match float? token with
      | some value => some (.number (.binary value))
      | none =>
        if isDateTime token then
          some (.object [(dateTimeMember, .string (String.ofList token))])
        else none

end JsonApi.Toml
