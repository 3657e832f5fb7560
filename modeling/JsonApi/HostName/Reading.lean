import JsonApi.HostName.NormalForm

/-!
# Host names

A host name is checked part by part, for joiners, for marks and for the
direction of writing, and has a form in ASCII.
-/

/-!
## Joiners

The letters of some scripts join to their neighbours.  Two characters that are
not seen themselves change that: one joins and the other one keeps apart.  In a
host name they may stand where they make a difference: behind a mark that
joins consonants, and the one that keeps apart also between two letters that
would join.  Marks between these letters do not count.  The tables follow
Unicode 17.
-/

namespace JsonApi.HostName

/-- The letters that join to both neighbours. -/
def bothSidesTable : String := "
620 626 628 62A-62E 633-63F 641-647 649-64A 66E-66F 679-687 69A-6BF 6C1-6C2 6CC
6CE 6D0-6D1 6FA-6FC 6FF 712-714 71A-71D 71F-727 729 72B 72D-72E 74E-758 75C-76A
76D-770 772 775-777 77A-77F 7CA-7EA 841-845 848 84A-853 855 860 862-865 868 886
889-88D 88F 8A0-8A9 8AF-8B0 8B3-8B8 8BA-8C8 1807 1820-1878 1887-18A8 18AA
A840-A871 10AC0-10AC4 10AD3-10AD6 10AD8-10ADC 10ADE-10AE0 10AEB-10AEE 10B80
10B82 10B86-10B88 10B8A-10B8B 10B8D 10B90 10BAD-10BAE 10D01-10D21 10D23
10EC3-10EC4 10EC6-10EC7 10F30-10F32 10F34-10F44 10F51-10F53 10F70-10F73
10F76-10F81 10FB0 10FB2-10FB3 10FB8 10FBB-10FBC 10FBE-10FBF 10FC1 10FC4 10FCA
1E922-1E943
"

/-- The letters that join only to the one behind them. -/
def leftSideTable : String := "
A872 10ACD 10AD7 10D00 10FCB
"

/-- The letters that join only to the one before them. -/
def rightSideTable : String := "
622-625 627 629 62F-632 648 671-673 688-699 6C0 6C3-6CB 6CD 6CF 6D2-6D3 6D5
6EE-6EF 710 715-719 71E 728 72A 72C 72F 74D 759-75B 76B-76C 771 773-774 778-779
840 846-847 849 854 856-858 867 869-882 88E 8AA-8AC 8AE 8B1-8B2 8B9 10AC5 10AC7
10AC9-10ACA 10ACE-10AD2 10ADD 10AE1 10AE4 10AEF 10B81 10B83-10B85 10B89 10B8C
10B8E-10B8F 10B91 10BA9-10BAC 10D22 10EC2 10F33 10F54 10F74-10F75 10FB4-10FB6
10FB9-10FBA 10FBD 10FC2-10FC3 10FC9
"

/-- The letters that join to both neighbours. -/
def bothSidesRows : List Row := rowsOf bothSidesTable

/-- The letters that join only to the one behind them. -/
def leftSideRows : List Row := rowsOf leftSideTable

/-- The letters that join only to the one before them. -/
def rightSideRows : List Row := rowsOf rightSideTable

/-- The character that keeps its neighbours apart. -/
def nonJoiner : Char := '\u200c'

/-- The character that joins its neighbours. -/
def joiner : Char := '\u200d'

/-- The class of the marks that join consonants. -/
def joiningClass : Nat := 9

/-- Whether letters join across a character. -/
def isTransparent (character : Char) : Bool :=
  isNonspacing character || character.toNat = 0x1E94B

/-- The first letter that a joining can reach. -/
def firstReached? (characters : List Char) : Option Char :=
  (characters.dropWhile isTransparent).head?

/-- Whether some letter joins to the one behind it. -/
def joinsOnward (character : Char) : Bool :=
  hasRow bothSidesRows character.toNat || hasRow leftSideRows character.toNat

/-- Whether some letter joins to the one before it. -/
def joinsBack (character : Char) : Bool :=
  hasRow bothSidesRows character.toNat || hasRow rightSideRows character.toNat

/-- Whether the joiners in a text make a difference; `before` is what precedes
the text, last character first. -/
def areJoinersUseful (before : List Char) : List Char → Bool
  | [] => true
  | character :: rest =>
    let isBehindMark := before.head?.any fun previous =>
      combiningClass previous = joiningClass
    let isBetweenLetters :=
      (firstReached? before).any joinsOnward &&
        (firstReached? rest).any joinsBack
    let isUseful :=
      if character = nonJoiner then isBehindMark || isBetweenLetters
      else if character = joiner then isBehindMark
      else true
    isUseful && areJoinersUseful (character :: before) rest

/-!
## Directions of writing

Characters are written from left to right or from right to left, and numbers,
marks and signs follow what is around them.  A host name in which something is
written from right to left is shown in its proper order only if each of its
parts keeps to one direction: it begins with a letter of that direction, it
holds no letter of the other one, and it ends, apart from marks, with a letter
of its direction or a digit.  A part written from right to left does not hold
digits of both kinds.  The tables follow Unicode 17.
-/

/-- The characters that are written from right to left. -/
def rightToLeftTable : String := "
5BE 5C0 5C3 5C6 5D0-5F4 608 60B 60D 61B-64A 66D-66F 671-6D5 6E5-6E6 6EE-6EF
6FA-710 712-72F 74D-7A5 7B1-7EA 7F4-7F5 7FA 7FE-815 81A 824 828 830-858 85E-88F
8A0-8C9 FBB2-FBC2 FE73 10800-1091B 10920-10A00 10A10-10A35 10A40-10AE4
10AEB-10B35 10B40-10D23 10D40-10D4F 10D6F-10D8F 10E80-10EA9 10EAD-10EC7
10F00-10F45 10F51-10F81 10F86-10FF6 1E800-1E8CF 1E922-1E943 1E94B-1ED3D
"

/-- The digits written from left to right within either direction. -/
def westernDigitTable : String := "
30-39 6F0-6F9 102E1-102FB
"

/-- The digits of the Arabic script, with their separators. -/
def arabicDigitTable : String := "
660-669 66B-66C 10D30-10D39 10E60-10E7E
"

/-- The characters without a direction of their own. -/
def neutralTable : String := "
0-2F 3A-60 7B-D7 F7 2B9-2BA 2C2-2CF 2D2-2ED 2EF-2FF 375 3F6 58A-58F 606-607
609-60A 60C 60E-60F 66A 6DE 6E9 7F6-7F9 9F2-9F3 9FB AF1 BF3-BFA C78-C7E E3F
F3A-F3D 1390-1399 1400 169B-169C 17DB 17F0-180A 1940-1945 19DE-19FF 200C-20C1
2104-214D 218A-2335 237B-2394 2396-26AB 26AD-27FF 2900-2BFF 2CE5-2CEA 2CF9-2CFF
2E00-3004 3008-3020 3030 3037 303D-303F 30A0 30FB 31C0-31E5 4DC0-4DFF A490-A4C6
A60D-A60F A673 A67E-A67F A700-A721 A788 A828-A82B A838-A839 A874-A877 AB6A-AB6B
FBC3-FDFF FE45-FE46 10101 10140-1018C 10190-101A0 1091F 10B39-10B3F 10D6E
10ED0-10ED8 11052-11065 11660-1166C 11FD5-11FF1 16FE2 1CC00-1CEF0 1D1E9-1D241
1D245 1D300-1D356 1E2FF 1EEF0-1F12F 1F16D-1F16F 1F1AD 1F260-1FBFA
"

/-- The nonspacing marks that are written from left to right by themselves. -/
def leftToRightMarks : List Char :=
  ['\u0cbf', '\u0cc6', Char.ofNat 0x11A07, Char.ofNat 0x11A08,
      Char.ofNat 0x11C3F]

/-- The direction of a character. -/
inductive Direction where
  | leftToRight
  | rightToLeft
  | westernDigit
  | arabicDigit
  | neutral
  | mark
deriving DecidableEq

namespace Direction

/-- The tables of the directions other than that of most letters. -/
def tables : List (Direction × List Row) :=
  [(.rightToLeft, rowsOf rightToLeftTable),
    (.westernDigit, rowsOf westernDigitTable),
    (.arabicDigit, rowsOf arabicDigitTable), (.neutral, rowsOf neutralTable)]

/-- The direction in which a character is written. -/
def ofCharacter (character : Char) : Direction :=
  if leftToRightMarks.contains character then .leftToRight
  else if isNonspacing character then .mark
  else
    match tables.find? fun (_, rows) => hasRow rows character.toNat with
    | some (direction, _) => direction
    | none => .leftToRight

/-- Whether a character makes a host name one with parts written from right to
left. -/
def isReversing (direction : Direction) : Bool :=
  direction = .rightToLeft || direction = .arabicDigit

/-- Whether a part of a host name with the given directions keeps to one
direction. -/
def areConsistent (directions : List Direction) : Bool :=
  let holdsOnly (admitted : List Direction) : Bool :=
    directions.all admitted.contains
  let endsWith (admitted : List Direction) : Bool :=
    match directions.reverse.dropWhile (· = .mark) with
    | [] => false
    | last :: _ => admitted.contains last
  match directions with
  | [] => true
  | .leftToRight :: _ =>
    holdsOnly [.leftToRight, .westernDigit, .neutral, .mark] &&
      endsWith [.leftToRight, .westernDigit]
  | .rightToLeft :: _ =>
    holdsOnly [.rightToLeft, .westernDigit, .arabicDigit, .neutral, .mark] &&
      endsWith [.rightToLeft, .westernDigit, .arabicDigit] &&
      !(directions.contains .westernDigit && directions.contains .arabicDigit)
  | _ => false

end Direction

end JsonApi.HostName

/-!
## Labels in ASCII

A label with characters beyond ASCII is coded as its ASCII characters, a hyphen
if there are any, and the other characters as the differences between
successive code points and positions in base thirty-six.  A difference is
written least digit first, each digit in a base that depends on its position
and on the differences before.
-/

namespace JsonApi.HostName.Punycode

/-- The digit of a value below thirty-six. -/
def digit (value : Nat) : Char :=
  if value < 26 then Char.ofNat (97 + value) else Char.ofNat (22 + value)

/-- The value of a digit. -/
def digitValue? (character : Char) : Option Nat :=
  if 'a' ≤ character ∧ character ≤ 'z' then some (character.toNat - 97)
  else if '0' ≤ character ∧ character ≤ '9' then some (character.toNat - 22)
  else none

/-- The least code point beyond ASCII, at which coding begins. -/
def initialCodePoint : Nat := 128

/-- The bias with which coding begins. -/
def initialBias : Nat := 72

/-- Whether a character is an ASCII character. -/
def isAscii (character : Char) : Bool :=
  character.toNat < initialCodePoint

/-- The least value of a digit that is not the last one of its difference. -/
def threshold (bias position : Nat) : Nat :=
  if position ≤ bias then 1 else if bias + 26 ≤ position then 26
    else position - bias

/-- Divides a difference down until it is small; gives it with the number of
digits. -/
def scaleDown : Nat → Nat → Nat → Nat × Nat
  | 0, difference, places => (difference, places)
  | fuel + 1, difference, places =>
    if difference > 455 then scaleDown fuel (difference / 35) (places + 36)
    else (difference, places)

/-- The bias with which the next difference is written. -/
def adapt (difference count : Nat) (isFirst : Bool) : Nat :=
  let damped := if isFirst then difference / 700 else difference / 2
  let (small, places) := scaleDown difference (damped + damped / count) 0
  places + 36 * small / (small + 38)

/-! ### Coding -/

/-- A difference in digits. -/
def writeDifference (bias : Nat) : Nat → Nat → Nat → List Char
  | 0, _, _ => []
  | fuel + 1, position, value =>
    let least := threshold bias position
    if value < least then [digit value]
    else
      digit (least + (value - least) % (36 - least)) ::
        writeDifference bias fuel (position + 36)
          ((value - least) / (36 - least))

/-- The progress of coding a label. -/
structure Progress where
  difference : Nat
  bias : Nat
  /-- The number of characters coded so far. -/
  coded : Nat
  /-- The number of ASCII characters of the label. -/
  basic : Nat
  written : List Char

/-- Codes the occurrences of one code point in a label. -/
def codeOccurrences
    (codePoint : Nat)
    (progress : Progress)
    (label : List Nat) : Progress :=
  label.foldl (fun progress present =>
    if present < codePoint
      then { progress with difference := progress.difference + 1 }
    else if present = codePoint then
      { difference := 0
        bias := adapt progress.difference (progress.coded + 1)
          (progress.coded = progress.basic)
        coded := progress.coded + 1
        basic := progress.basic
        written := progress.written ++
          writeDifference progress.bias (progress.difference + 1) 36
            progress.difference }
    else progress) progress

/-- Codes the given code points of a label, which ascend from `previous` on. -/
def codeAll (label : List Nat) : Nat → List Nat → Progress → Progress
  | _, [], progress => progress
  | previous, codePoint :: others, progress =>
    let skipped := (codePoint - previous) * (progress.coded + 1)
    let begun := { progress with difference := progress.difference + skipped }
    let done := codeOccurrences codePoint begun label
    codeAll label (codePoint + 1) others
      { done with difference := done.difference + 1 }

/-- Inserts a number into an ascending list, unless it is there. -/
def insertAscending (value : Nat) : List Nat → List Nat
  | [] => [value]
  | present :: rest =>
    if value < present then value :: present :: rest
    else if value = present then present :: rest
    else present :: insertAscending value rest

/-- The coded form of a label. -/
def encode (label : List Char) : List Char :=
  let codePoints := label.map Char.toNat
  let basic := label.filter isAscii
  let foreign := (codePoints.filter (initialCodePoint ≤ ·)).foldl
    (fun ascending value => insertAscending value ascending) []
  let progress := codeAll codePoints initialCodePoint foreign
    ⟨0, initialBias, basic.length, basic.length, []⟩
  basic ++ (if basic.isEmpty then [] else ['-']) ++ progress.written

/-! ### Decoding -/

/-- Reads a difference, which is added to `value`; gives the sum and what
follows. -/
def takeDifference (bias : Nat) :
    Nat → Nat → Nat → List Char → Option (Nat × List Char)
  | _, _, _, [] => none
  | position, weight, value, head :: tail =>
    match digitValue? head with
    | none => none
    | some digit =>
      let least := threshold bias position
      let sum := value + digit * weight
      if digit < least then some (sum, tail)
      else takeDifference bias (position + 36) (weight * (36 - least)) sum tail

/-- The progress of decoding a label. -/
structure Decoding where
  /-- The code point of the characters that are put in. -/
  codePoint : Nat
  /-- The place behind the last character that was put in. -/
  place : Nat
  bias : Nat
  label : List Char

/-- Puts the character in that a sum of place and difference names. -/
def Decoding.put? (decoding : Decoding) (sum : Nat) : Option Decoding :=
  let count := decoding.label.length + 1
  let codePoint := decoding.codePoint + sum / count
  let place := sum % count
  if codePoint.isValidChar then
    some
      { codePoint := codePoint
        place := place + 1
        bias := adapt (sum - decoding.place) count (decoding.place = 0)
        label := decoding.label.take place ++ Char.ofNat codePoint ::
          decoding.label.drop place }
  else none

/-- Decodes differences to the end of a text; the fuel bounds their number. -/
def decodeAll : Nat → Decoding → List Char → Option (List Char)
  | _, decoding, [] => some decoding.label
  | 0, _, _ => none
  | fuel + 1, decoding, written =>
    match takeDifference decoding.bias 36 1 decoding.place written with
    | none => none
    | some (sum, rest) =>
        (decoding.put? sum).bind fun next => decodeAll fuel next rest

/-- The label that a coded form stands for. -/
def decode? (written : List Char) : Option (List Char) :=
  let digits := (written.reverse.takeWhile (· ≠ '-')).reverse
  let basic := ((written.reverse.dropWhile (· ≠ '-')).drop 1).reverse
  if basic.isEmpty ∧ written.contains '-' then none
  else decodeAll written.length ⟨initialCodePoint, 0, initialBias, basic⟩ digits

end JsonApi.HostName.Punycode

/-!
## Labels of host names

The parts of a host name between its dots are labels.  A label beyond ASCII has
a coded form in ASCII, which begins with `xn--`, and a label may be given in
that form.  What it stands for must then be in normal form, and its characters
must stand for themselves.
-/

namespace JsonApi.HostName

/-- A label: the characters it stands for, and its form in ASCII. -/
structure Label where
  meaning : List Char
  ascii : List Char

namespace Label

/-- The beginning of coded labels. -/
def codedMark : List Char := ['x', 'n', '-', '-']

/-- The greatest length of a label beyond ASCII. -/
def maxLength : Nat := 1000

/-- The greatest length of a coded form, without its beginning. -/
def maxCodedLength : Nat := 2000

/-- Whether a label is written in ASCII. -/
def isPlain (meaning : List Char) : Bool :=
  meaning.all Punycode.isAscii

/-- Whether the characters of a label may stand where they do. -/
def isWellFormed (meaning : List Char) : Bool :=
  !meaning.head?.any isMark && areJoinersUseful [] meaning &&
    (isPlain meaning || meaning.length ≤ maxLength)

/-- What a coded form stands for, if it is one that a label can have. -/
def decode? (coded : List Char) : Option (List Char) :=
  if maxCodedLength < coded.length then none
  else
    (Punycode.decode? coded).filter fun meaning =>
      !isPlain meaning && !codedMark.isPrefixOf meaning &&
        meaning.all standsForItself &&
        normalForm meaning = meaning

/-- Reads a label whose characters stand for themselves. -/
def read? (characters : List Char) : Option Label := do
  let label : Label ←
    if codedMark.isPrefixOf characters then do
      let coded := characters.drop codedMark.length
      if isPlain coded then pure ⟨← decode? coded, characters⟩ else none
    else if isPlain characters then pure ⟨characters, characters⟩
    else pure ⟨characters, codedMark ++ Punycode.encode characters⟩
  if isWellFormed label.meaning then pure label else none

end Label

/-!
## Reading host names

A host name is read by putting each character in place of which it stands,
taking the normal form, and reading the labels between the dots.  If something
in the name is written from right to left, then every label has to keep to one
direction.  The result is the form of the name in ASCII.
-/

open JsonApi.Text

/-- Whether labels can be shown in their proper order. -/
def areDirectionsConsistent (labels : List Label) : Bool :=
  let directions := labels.map fun label =>
    label.meaning.map Direction.ofCharacter
  !directions.any (·.any Direction.isReversing) ||
    directions.all Direction.areConsistent

/-- The form of a host name in ASCII. -/
def toAscii? (name : List Char) : Option (List Char) := do
  let mapped ← name.mapM mapCharacter?
  let labels ← (pieces '.' (normalForm mapped.flatten)).mapM Label.read?
  if areDirectionsConsistent labels
    then pure (joinPieces '.' (labels.map Label.ascii)) else none

end JsonApi.HostName
