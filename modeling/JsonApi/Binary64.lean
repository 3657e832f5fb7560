import JsonApi.Text.Basic

/-!
# Binary floating point numbers of 64 bits

A number is its 64-bit word: one sign bit, eleven exponent bits, fifty-two
fraction bits.  Everything is computed on the word in exact integer
arithmetic.  The word without its sign bit is the *magnitude*; magnitudes are
ordered as the absolute values they stand for, so that the order of two
numbers is the order of their signed magnitudes.
-/

namespace JsonApi

/-- A binary floating point number of 64 bits. -/
structure Binary64 where
  /-- Sign, exponent and fraction bits, from the most significant bit down. -/
  word : UInt64
deriving DecidableEq

namespace Binary64

/-- The weight of the sign bit. -/
def signWeight : Nat := Nat.pow 2 63

/-- The weight of the lowest exponent bit. -/
def exponentWeight : Nat := Nat.pow 2 52

/-- The exponent of the least positive number, which is a power of two. -/
def leastExponent : Int := -1074

/-- The magnitude of the infinities; a greater magnitude is no number. -/
def infiniteMagnitude : Nat := 2047 * exponentWeight

/-- The word without its sign bit. -/
def magnitude (number : Binary64) : Nat :=
  number.word.toNat % signWeight

/-- Whether the sign bit is set. -/
def isNegative (number : Binary64) : Bool :=
  signWeight ≤ number.word.toNat

/-- The number with the given sign and magnitude. -/
def ofMagnitude (negative : Bool) (magnitude : Nat) : Binary64 :=
  ⟨UInt64.ofNat (magnitude + if negative then signWeight else 0)⟩

/-- The infinity of the given sign. -/
def infinity (negative : Bool) : Binary64 :=
  ofMagnitude negative infiniteMagnitude

/-- The word that stands for "not a number". -/
def notANumber : Binary64 :=
  ofMagnitude false (infiniteMagnitude + Nat.pow 2 51)

/-- Whether the word stands for no number. -/
def isNaN (number : Binary64) : Bool :=
  infiniteMagnitude < number.magnitude

/-- Whether the number is one of the two infinities. -/
def isInfinite (number : Binary64) : Bool :=
  number.magnitude = infiniteMagnitude

/-- Whether the number is a zero of either sign. -/
def isZero (number : Binary64) : Bool :=
  number.magnitude = 0

/-- The integer factor of a finite number: its absolute value is this times `2 ^
exponent`. -/
def significand (number : Binary64) : Nat :=
  if number.magnitude < exponentWeight then number.magnitude
  else exponentWeight + number.magnitude % exponentWeight

/-- The exponent of two that belongs to `significand`. -/
def exponent (number : Binary64) : Int :=
  if number.magnitude < exponentWeight then leastExponent
  else (number.magnitude / exponentWeight : Nat) - 1075

/-- The magnitude with the sign of the number; both zeros have signed magnitude
zero. -/
def signedMagnitude (number : Binary64) : Int :=
  if number.isNegative then -(number.magnitude : Int) else number.magnitude

/-- How two numbers compare; "not a number" compares with nothing. -/
def compare? (left right : Binary64) : Option Ordering :=
  if left.isNaN || right.isNaN then none
  else some (compare left.signedMagnitude right.signedMagnitude)

/-- The same number with the other sign. -/
def negate (number : Binary64) : Binary64 :=
  ofMagnitude (!number.isNegative) number.magnitude

end Binary64

end JsonApi

/-!
## Rounding to 64-bit floating point

`ofRatio` rounds a non-negative rational number to the nearest floating point
number; of two equally near ones it takes the one with the even significand.
Whole numbers, products and quotients are the exact result rounded once.
-/

namespace JsonApi.Binary64

/-- The whole number nearest to a quotient; a quotient halfway between two gives
the even one. -/
def roundedQuotient (numerator denominator : Nat) : Nat :=
  let quotient := numerator / denominator
  match compare (2 * (numerator % denominator)) denominator with
  | .lt => quotient
  | .gt => quotient + 1
  | .eq => if quotient % 2 = 0 then quotient else quotient + 1

/-- The numerator and denominator of a ratio counted in units of `2 ^ scale`. -/
def inUnits (numerator denominator : Nat) (scale : Int) : Nat × Nat :=
  (numerator * Nat.pow 2 (-scale).toNat, denominator * Nat.pow 2 scale.toNat)

/-- The exponent of the unit in which a ratio has at most fifty-three binary
digits. -/
def unitExponent (numerator denominator : Nat) : Int :=
  let guess :=
    max ((numerator.log2 : Int) - denominator.log2 - 53) leastExponent
  let (units, whole) := inUnits numerator denominator guess
  if units / whole < Nat.pow 2 53 then guess else guess + 1

/-- The magnitude of the number nearest to a ratio; too great a ratio gives the
infinite one. -/
def roundedMagnitude (numerator denominator : Nat) : Nat :=
  if numerator = 0 then 0
  else
    let scale := unitExponent numerator denominator
    let (units, whole) := inUnits numerator denominator scale
    min infiniteMagnitude
      ((scale - leastExponent).toNat * exponentWeight +
          roundedQuotient units whole)

/-- The number nearest to a ratio of natural numbers, with the given sign. -/
def ofRatio (negative : Bool) (numerator denominator : Nat) : Binary64 :=
  ofMagnitude negative (roundedMagnitude numerator denominator)

/-- The number nearest to `factor * 2 ^ scale`, with the given sign. -/
def ofScaled (negative : Bool) (factor : Nat) (scale : Int) : Binary64 :=
  ofRatio negative (factor * Nat.pow 2 scale.toNat) (Nat.pow 2 (-scale).toNat)

/-- The number nearest to an integer. -/
def ofInt (value : Int) : Binary64 :=
  ofRatio (value < 0) value.natAbs 1

/-- The product of two finite numbers, rounded once. -/
def mul (left right : Binary64) : Binary64 :=
  ofScaled (left.isNegative != right.isNegative)
    (left.significand * right.significand) (left.exponent + right.exponent)

/-- The quotient of a finite number by a finite number other than zero, rounded
once. -/
def div (left right : Binary64) : Binary64 :=
  let scale := left.exponent - right.exponent
  ofRatio (left.isNegative != right.isNegative)
    (left.significand * Nat.pow 2 scale.toNat)
    (right.significand * Nat.pow 2 (-scale).toNat)

/-- The number nearest to `digits * 10 ^ scale`, with the given sign.

Beyond a scale of four hundred the outcome no longer depends on the digits:
it is infinite or zero, and no great power of ten is computed. -/
def ofDecimal (negative : Bool) (digits : Nat) (scale : Int) : Binary64 :=
  if digits = 0 then ofMagnitude negative 0
  else if scale > 400 then infinity negative
  else if scale + digits.log2 + 1 < -400 then ofMagnitude negative 0
  else ofRatio negative (digits * Nat.pow 10 scale.toNat)
    (Nat.pow 10 (-scale).toNat)

/-!
## The shortest decimal of a floating point number

The real numbers that round to a given number form an interval, with its ends
included exactly when the significand is even.  The shortest decimal is the
one in that interval with the fewest digits; among several of that length it
is the one nearest to the number, and the tie rule decides between two that
are equally near.  The search asks, for one digit, two digits and so on, for
the two neighbours of the number on the grid of decimals of that length.
-/

/-- A non-negative decimal number: `digits * 10 ^ scale`. -/
structure Decimal where
  digits : Nat
  scale : Int
deriving DecidableEq, Repr

/-- Which of two equally near decimals is taken. -/
inductive Tie where
  | upward
  | toEven
deriving DecidableEq, Repr

/-- How `digits * 10 ^ scale` compares with `factor * 2 ^ exponent`. -/
def compareScaled
    (decimal : Decimal)
    (factor : Nat)
    (exponent : Int) : Ordering :=
  compare (decimal.digits *
      Nat.pow 10 decimal.scale.toNat * Nat.pow 2 (-exponent).toNat)
    (factor * Nat.pow 2 exponent.toNat * Nat.pow 10 (-decimal.scale).toNat)

/-- Whether a decimal lies in the interval of real numbers that round to a
positive number. -/
def readsBack (number : Binary64) (decimal : Decimal) : Bool :=
  let quarters := 4 * number.significand
  let exponent := number.exponent - 2
  let narrowBelow :=
    number.significand = exponentWeight && leastExponent < number.exponent
  let low := compareScaled decimal
    (if narrowBelow then quarters - 1 else quarters - 2) exponent
  let high := compareScaled decimal (quarters + 2) exponent
  let endsIncluded := number.significand % 2 == 0
  (low == .gt || (endsIncluded && low == .eq)) &&
    (high == .lt || (endsIncluded && high == .eq))

/-- The least power of ten above a positive number. -/
def decimalMagnitude (number : Binary64) : Int :=
  let guess := Int.fdiv
    (((number.significand.log2 : Int) + number.exponent) * 30103) 100000
  let above (power : Int) : Bool :=
    compareScaled ⟨1, power⟩ number.significand number.exponent == .gt
  if above (guess - 1) then guess - 1
  else if above guess then guess
  else if above (guess + 1) then guess + 1
  else guess + 2

/-- The whole number of units of `10 ^ scale` in a number, rounded down. -/
def unitsBelow (number : Binary64) (scale : Int) : Nat :=
  number.significand *
    Nat.pow 2 number.exponent.toNat * Nat.pow 10 (-scale).toNat /
    (Nat.pow 2 (-number.exponent).toNat * Nat.pow 10 scale.toNat)

/-- The nearer of the two neighbours on the grid of `10 ^ scale` that read back,
if any does. -/
def neighbour? (tie : Tie) (number : Binary64) (scale : Int) : Option Decimal :=
  let low := unitsBelow number scale
  let below : Decimal := ⟨low, scale⟩
  let above : Decimal := ⟨low + 1, scale⟩
  match readsBack number below, readsBack number above with
  | false, false => none
  | true, false => some below
  | false, true => some above
  | true, true =>
    match compareScaled ⟨2 * low + 1, scale⟩ (2 * number.significand)
      number.exponent, tie with
    | .gt, _ => some below
    | .lt, _ => some above
    | .eq, .upward => some above
    | .eq, .toEven => some (if low % 2 = 0 then below else above)

/-- A decimal without trailing zeros in its digits; `steps` bounds how many are
dropped. -/
def dropTrailingZeros : Nat → Decimal → Decimal
  | 0, decimal => decimal
  | steps + 1, decimal =>
    if decimal.digits % 10 = 0 then
      dropTrailingZeros steps ⟨decimal.digits / 10, decimal.scale + 1⟩
    else decimal

/-- The shortest decimal of a positive finite number. -/
def shortest (tie : Tie) (number : Binary64) : Decimal :=
  let magnitude := decimalMagnitude number
  let found := (List.range 17).findSome? fun (places : Nat) =>
    neighbour? tie number (magnitude - places - 1)
  dropTrailingZeros 17
    (found.getD ⟨unitsBelow number (magnitude - 17), magnitude - 17⟩)

/-!
## How a floating point number is written

A layout fixes how the shortest decimal of a number is set down: for which
exponents of the leading digit without an exponent part, whether a whole
number keeps a point and a zero, whether an exponent has a plus sign, and which
of two equally near decimals is chosen.  Where an exponent part is written it
is `e` followed by the exponent of the leading digit.
-/

/-- The decisions of one written form of floating point numbers. -/
structure Layout where
  /-- The exponents of the leading digit that are written without an exponent
  part. -/
  positional : Int → Bool
  /-- Whether a whole number written without an exponent part ends in `.0`. -/
  pointZero : Bool
  /-- Whether a plus sign stands before an exponent that is not negative. -/
  plusSign : Bool
  /-- The choice between two equally near decimals. -/
  tie : Tie

/-- Digits with a point behind the leading one, if another follows. -/
def scientificDigits : List Char → List Char
  | [] => []
  | [leading] => [leading]
  | leading :: others => leading :: '.' :: others

/-- A decimal set down according to a layout. -/
def Decimal.text (decimal : Decimal) (layout : Layout) : String :=
  let digits := Nat.toDigits 10 decimal.digits
  let leadingExponent := decimal.scale + digits.length - 1
  if layout.positional leadingExponent then
    if 0 ≤ decimal.scale then
      String.ofList (digits ++ List.replicate decimal.scale.toNat '0') ++
        (if layout.pointZero then ".0" else "")
    else if 0 ≤ leadingExponent then
      let wholeLength := (leadingExponent + 1).toNat
      String.ofList (digits.take wholeLength ++ '.' :: digits.drop wholeLength)
    else
      "0." ++ String.ofList
        (List.replicate (-leadingExponent - 1).toNat '0' ++ digits)
  else
    let sign := if layout.plusSign ∧ 0 ≤ leadingExponent then "+" else ""
    String.ofList (scientificDigits digits) ++ "e" ++ sign ++
      toString leadingExponent

/-- A number set down according to a layout. -/
def text (layout : Layout) (number : Binary64) : String :=
  if number.isNaN then "NaN"
  else
    let sign := if number.isNegative then "-" else ""
    if number.isInfinite then sign ++ "inf"
    else if number.isZero then sign ++ "0" ++
      (if layout.pointZero then ".0" else "")
    else sign ++ (shortest layout.tie number).text layout

/-!
## Floating point numbers written in text

A numeral is an optional sign followed by `inf`, `infinity` or `nan` in any
case, or by decimal digits with at most one point, of which at least one digit
stands before or after the point, and an optional exponent: the letter `e`,
an optional sign and at least one digit.  It denotes the nearest number.
-/

open JsonApi.Text

/-- A sign in front of a numeral, with what follows it. -/
def takeSign : List Char → Bool × List Char
  | '-' :: rest => (true, rest)
  | '+' :: rest => (false, rest)
  | rest => (false, rest)

/-- The value of an exponent part: nothing, or a mark, an optional sign and
digits. -/
def readExponent? : List Char → Option Int
  | [] => some 0
  | mark :: rest =>
    if mark = 'e' ∨ mark = 'E' then
      let (negative, digits) := takeSign rest
      (readNat? digits).map fun value =>
        if negative then -(value : Int) else value
    else none

/-- Reads decimal digits with an optional point and an optional exponent. -/
def readDigits? (negative : Bool) (characters : List Char) : Option Binary64 :=
  let whole := characters.takeWhile Char.isDigit
  let afterWhole := characters.dropWhile Char.isDigit
  let (fraction, afterFraction) :=
    match afterWhole with
    | '.' :: rest => (rest.takeWhile Char.isDigit, rest.dropWhile Char.isDigit)
    | rest => ([], rest)
  if whole.isEmpty && fraction.isEmpty then none
  else do
    let digits ← readNat? (whole ++ fraction)
    let scale ← readExponent? afterFraction
    pure (ofDecimal negative digits (scale - fraction.length))

/-- Reads a floating point numeral that makes up the whole of the given
characters. -/
def read? (characters : List Char) : Option Binary64 :=
  let (negative, unsigned) := takeSign characters
  let lowered := String.ofList (unsigned.map Char.toLower)
  if lowered = "inf" ∨ lowered = "infinity" then some (infinity negative)
  else if lowered = "nan" then some notANumber
  else readDigits? negative unsigned

end JsonApi.Binary64
