import JsonApi.HostName.Tables
import JsonApi.Text.Basic

/-!
# The characters of host names

Host names that are seen as one name have one form: each character is put in
place of what it stands for, and what can be composed is composed.
-/

/-!
## Tables of characters

A table tells something about characters in rows.  A row is about the code
points from a first one to a last one, each one or every second, third and so
on of them, and may hold values.  Tables are written as words: `41` is the row
of one code point, `41-5A` a range, `100-12E/2` every second code point of a
range, and values stand behind a colon, with dots between them.  All numbers
are hexadecimal.
-/

namespace JsonApi.HostName

open JsonApi.Text

/-- A row of a table. -/
structure Row where
  first : Nat
  last : Nat
  step : Nat
  values : List Nat

namespace Row

/-- Whether a row is about a code point. -/
def covers (row : Row) (codePoint : Nat) : Bool :=
  row.first ≤ codePoint && codePoint ≤
    row.last && (codePoint - row.first) % row.step = 0

/-- What stands before the first occurrence of a mark, and what stands behind
it. -/
def cutAt (mark : Char) (word : List Char) : List Char × Option (List Char) :=
  (word.takeWhile (· ≠ mark),
    match word.dropWhile (· ≠ mark) with
    | [] => none
    | _ :: behind => some behind)

/-- The values behind a colon. -/
def readValues? (written : List Char) : Option (List Nat) :=
  if written.isEmpty then some [] else (pieces '.' written).mapM hexNumber?

/-- Reads a row. -/
def read? (word : List Char) : Option Row := do
  let (place, values?) := cutAt ':' word
  let (range, step?) := cutAt '/' place
  let (first, last?) := cutAt '-' range
  pure
    { first := ← hexNumber? first
      last := ← hexNumber? (last?.getD first)
      step := ← hexNumber? (step?.getD ['1'])
      values := ← readValues? (values?.getD []) }

end Row

/-- The rows of a table. -/
def rowsOf (written : String) : List Row :=
  let words := (written.splitOn "\n").flatMap (·.splitOn " ")
  (words.filter (!·.isEmpty)).filterMap fun word => Row.read? word.toList

/-- The row of a table that is about a code point. -/
def rowOf? (rows : List Row) (codePoint : Nat) : Option Row :=
  rows.find? (·.covers codePoint)

/-- Whether a table has a row about a code point. -/
def hasRow (rows : List Row) (codePoint : Nat) : Bool :=
  (rowOf? rows codePoint).isSome

end JsonApi.HostName

/-!
## Characters admitted to host names

Host names that differ only in the case or the width of letters and in like
respects are one name.  Every character admitted to host names stands for a
sequence of characters, mostly for itself alone: a capital for its small
letter, a presentation form for the characters it presents, and some
characters for nothing at all.
-/

namespace JsonApi.HostName

/-- The admitted characters. -/
def admittedRows : List Row := rowsOf admittedTable

/-- The admitted characters that do not stand for themselves. -/
def mappingRows : List Row := rowsOf mappingTable

/-- The code points that a code point of a row stands for.

A single value is that of the first code point, and the others follow it at the
same distances. -/
def Row.target (row : Row) (codePoint : Nat) : List Nat :=
  match row.values with
  | [value] => [value + (codePoint - row.first)]
  | values => values

/-- The characters that a character stands for, if it is admitted. -/
def mapCharacter? (character : Char) : Option (List Char) :=
  let codePoint := character.toNat
  if hasRow admittedRows codePoint then
    match rowOf? mappingRows codePoint with
    | some row => some ((row.target codePoint).map Char.ofNat)
    | none => some [character]
  else none

/-- Whether a character is admitted and stands for itself. -/
def standsForItself (character : Char) : Bool :=
  mapCharacter? character = some [character]

/-!
## Composed characters

A letter with marks can be written in several ways: as one composed character,
or as a letter with the marks behind it, in several orders.  The normal form
takes composed characters apart, puts the marks behind a letter into the order
of their classes, and composes what can be composed.

A Korean syllable is composed of two or three letters, and its code point is
computed from theirs.
-/

/-- The composed characters. -/
def compositionRows : List Row := rowsOf compositionTable

/-- The combining marks. -/
def classRows : List Row := rowsOf classTable

/-- The class of a combining mark, and zero for any other character. -/
def combiningClass (character : Char) : Nat :=
  match rowOf? classRows character.toNat with
  | some row => row.values.headD 0
  | none => 0

/-! ### Korean syllables -/

/-- The code point of the first Korean syllable. -/
def firstSyllable : Nat := 0xAC00

/-- The code points of the first Korean letters of the three places in a
syllable; the last place may be empty, so its code points begin one before the
first letter. -/
def syllableLetters : Nat × Nat × Nat := (0x1100, 0x1161, 0x11A7)

/-- How many letters each place of a syllable has. -/
def syllablePlaces : Nat × Nat × Nat := (19, 21, 28)

/-- The two characters that a Korean syllable is composed of. -/
def syllableParts? (codePoint : Nat) : Option (Nat × Nat) :=
  let (leading, vowel, trailing) := syllableLetters
  let (leadings, vowels, trailings) := syllablePlaces
  let index := codePoint - firstSyllable
  if codePoint < firstSyllable ∨ leadings * vowels * trailings ≤ index then none
  else if index % trailings = 0 then
    some (leading + index / (vowels * trailings),
        vowel + index / trailings % vowels)
  else some (codePoint - index % trailings, trailing + index % trailings)

/-- The Korean syllable composed of two characters. -/
def syllableOf? (first second : Nat) : Option Nat :=
  let (leading, vowel, trailing) := syllableLetters
  let (leadings, vowels, trailings) := syllablePlaces
  if leading ≤ first ∧ first < leading + leadings ∧ vowel ≤ second ∧
    second < vowel + vowels then
    some (firstSyllable +
        ((first - leading) * vowels + (second - vowel)) * trailings)
  else if firstSyllable ≤ first ∧
    first < firstSyllable + leadings * vowels * trailings ∧
      (first - firstSyllable) % trailings = 0 ∧
      trailing < second ∧ second < trailing + trailings then
    some (first + (second - trailing))
  else none

/-! ### Taking apart and composing -/

/-- The two characters that a character is composed of. -/
def parts? (character : Char) : Option (Char × Char) :=
  let codePoint := character.toNat
  let pair? :=
    match rowOf? compositionRows codePoint with
    | some ⟨_, _, _, [first, second]⟩ => some (first, second)
    | _ => syllableParts? codePoint
  pair?.map fun (first, second) => (Char.ofNat first, Char.ofNat second)

/-- The character composed of two others. -/
def composed? (first second : Char) : Option Char :=
  let pair := [first.toNat, second.toNat]
  let codePoint? :=
    match compositionRows.find? (·.values == pair) with
    | some row => some row.first
    | none => syllableOf? first.toNat second.toNat
  codePoint?.map Char.ofNat

/-- How often a character and then the first of its parts can be taken apart. -/
def compositionDepth : Nat := 2

/-- A character taken apart at most `depth` times. -/
def takeApart : Nat → Char → List Char
  | 0, character => [character]
  | depth + 1, character =>
    match parts? character with
    | some (first, second) => takeApart depth first ++ [second]
    | none => [character]

/-- Puts a character before others; a mark goes behind the marks of lower
classes. -/
def insertMark (character : Char) : List Char → List Char
  | [] => [character]
  | next :: others =>
    if combiningClass next ≠ 0 ∧
      combiningClass next < combiningClass character then
      next :: insertMark character others
    else character :: next :: others

/-- A text being composed: the last character that is no mark can still be
joined. -/
structure Composition where
  /-- The characters before the open one, last one first. -/
  written : List Char
  /-- The last character that is no mark. -/
  opened : Option Char
  /-- The marks behind it, last one first. -/
  marks : List Char

namespace Composition

/-- The characters of the text, last one first. -/
def reversed (composition : Composition) : List Char :=
  composition.marks ++ composition.opened.toList ++ composition.written

/-- Appends a character that is not joined to another one. -/
def append (composition : Composition) (character : Char) : Composition :=
  if combiningClass character = 0
    then ⟨composition.reversed, some character, []⟩
  else { composition with marks := character :: composition.marks }

/-- Whether marks keep a character from being joined: those of its own or a
greater class do. -/
def isBlocked (composition : Composition) (character : Char) : Bool :=
  match composition.marks with
  | [] => false
  | mark :: _ => combiningClass character ≤ combiningClass mark

/-- Appends a character, joined to the open one if they can be composed. -/
def add (composition : Composition) (character : Char) : Composition :=
  let joined? :=
    if composition.isBlocked character then none
    else composition.opened.bind fun opened => composed? opened character
  match joined? with
  | some joined => { composition with opened := some joined }
  | none => composition.append character

end Composition

/-- The normal form of a text. -/
def normalForm (characters : List Char) : List Char :=
  let apart :=
    (characters.flatMap (takeApart compositionDepth)).foldr insertMark []
  (apart.foldl Composition.add ⟨[], none, []⟩).reversed.reverse

/-!
## Marks

Marks are written above, below or around the character before them, or next to
it.  No part of a host name begins with a mark.  The tables follow Unicode 17.
-/

/-- The marks that take no space of their own. -/
def nonspacingTable : String := "
300-36F 483-489 591-5BD 5BF 5C1-5C2 5C4-5C5 5C7 610-61A 64B-65F 670 6D6-6DC
6DF-6E4 6E7-6E8 6EA-6ED 711 730-74A 7A6-7B0 7EB-7F3 7FD 816-819 81B-823 825-827
829-82D 859-85B 897-89F 8CA-902 93A 93C 941-948 94D 951-957 962-963 981 9BC
9C1-9C4 9CD 9E2-9E3 9FE-A02 A3C A41-A51 A70-A71 A75 A81-A82 ABC AC1-AC8 ACD
AE2-AE3 AFA-B01 B3C B3F B41-B44 B4D-B56 B62-B63 B82 BC0 BCD C00 C04 C3C C3E-C40
C46-C56 C62-C63 C81 CBC CBF CC6 CCC-CCD CE2-CE3 D00-D01 D3B-D3C D41-D44 D4D
D62-D63 D81 DCA DD2-DD6 E31 E34-E3A E47-E4E EB1 EB4-EBC EC8-ECE F18-F19 F35 F37
F39 F71-F7E F80-F84 F86-F87 F8D-FBC FC6 102D-1030 1032-1037 1039-103A 103D-103E
1058-1059 105E-1060 1071-1074 1082 1085-1086 108D 109D 135D-135F 1712-1714
1732-1733 1752-1753 1772-1773 17B7-17BD 17C6 17C9-17D3 17DD 1885-1886 18A9
1920-1922 1927-1928 1932 1939-193B 1A17-1A18 1A1B 1A56 1A58-1A60 1A62 1A65-1A6C
1A73-1A7F 1AB0-1B03 1B34 1B36-1B3A 1B3C 1B42 1B6B-1B73 1B80-1B81 1BA2-1BA5
1BA8-1BA9 1BAB-1BAD 1BE6 1BE8-1BE9 1BED 1BEF-1BF1 1C2C-1C33 1C36-1C37 1CD0-1CD2
1CD4-1CE0 1CE2-1CE8 1CED 1CF4 1CF8-1CF9 1DC0-1DFF 20D0-20F0 2CEF-2CF1 2D7F
2DE0-2DFF 302A-302D 3099-309A A66F-A672 A674-A67D A69E-A69F A6F0-A6F1 A802 A806
A80B A825-A826 A82C A8C4-A8C5 A8E0-A8F1 A8FF A926-A92D A947-A951 A980-A982 A9B3
A9B6-A9B9 A9BC-A9BD A9E5 AA29-AA2E AA31-AA32 AA35-AA36 AA43 AA4C AA7C AAB0
AAB2-AAB4 AAB7-AAB8 AABE-AABF AAC1 AAEC-AAED AAF6 ABE5 ABE8 ABED FB1E FE20-FE2F
101FD 102E0 10376-1037A 10A01-10A0F 10A38-10A3F 10AE5-10AE6 10D24-10D27
10D69-10D6D 10EAB-10EAC 10EFA-10EFF 10F46-10F50 10F82-10F85 11001 11038-11046
11070 11073-11074 1107F-11081 110B3-110B6 110B9-110BA 110C2 11100-11102
11127-1112B 1112D-11134 11173 11180-11181 111B6-111BE 111C9-111CC 111CF
1122F-11231 11234 11236-11237 1123E 11241 112DF 112E3-112EA 11300-11301
1133B-1133C 11340 11366-11374 113BB-113C0 113CE 113D0 113D2 113E1-113E2
11438-1143F 11442-11444 11446 1145E 114B3-114B8 114BA 114BF-114C0 114C2-114C3
115B2-115B5 115BC-115BD 115BF-115C0 115DC-115DD 11633-1163A 1163D 1163F-11640
116AB 116AD 116B0-116B5 116B7 1171D 1171F 11722-11725 11727-1172B 1182F-11837
11839-1183A 1193B-1193C 1193E 11943 119D4-119DB 119E0 11A01-11A0A 11A33-11A38
11A3B-11A3E 11A47 11A51-11A56 11A59-11A5B 11A8A-11A96 11A98-11A99 11B60
11B62-11B64 11B66 11C30-11C3D 11C3F 11C92-11CA7 11CAA-11CB0 11CB2-11CB3
11CB5-11CB6 11D31-11D45 11D47 11D90-11D91 11D95 11D97 11EF3-11EF4 11F00-11F01
11F36-11F3A 11F40 11F42 11F5A 13440 13447-13455 1611E-16129 1612D-1612F
16AF0-16AF4 16B30-16B36 16F4F 16F8F-16F92 16FE4 1BC9D-1BC9E 1CF00-1CF46
1D167-1D169 1D17B-1D182 1D185-1D18B 1D1AA-1D1AD 1D242-1D244 1DA00-1DA36
1DA3B-1DA6C 1DA75 1DA84 1DA9B-1DAAF 1E000-1E08F 1E130-1E136 1E2AE 1E2EC-1E2EF
1E4EC-1E4EF 1E5EE-1E5EF 1E6E3 1E6E6 1E6EE-1E6EF 1E6F5 1E8D0-1E8D6 1E944-1E94A
"

/-- The marks that take space. -/
def spacingTable : String := "
903 93B 93E-940 949-94C 94E-94F 982-983 9BE-9C0 9C7-9CC 9D7 A03 A3E-A40 A83
ABE-AC0 AC9-ACC B02-B03 B3E B40 B47-B4C B57 BBE-BBF BC1-BCC BD7 C01-C03 C41-C44
C82-C83 CBE CC0-CC4 CC7-CCB CD5-CD6 CF3 D02-D03 D3E-D40 D46-D4C D57 D82-D83
DCF-DD1 DD8-DDF DF2-DF3 F3E-F3F F7F 102B-102C 1031 1038 103B-103C 1056-1057
1062-1064 1067-106D 1083-1084 1087-108C 108F 109A-109C 1715 1734 17B6 17BE-17C5
17C7-17C8 1923-1926 1929-1931 1933-1938 1A19-1A1A 1A55 1A57 1A61 1A63-1A64
1A6D-1A72 1B04 1B35 1B3B 1B3D-1B41 1B43-1B44 1B82 1BA1 1BA6-1BA7 1BAA 1BE7
1BEA-1BEC 1BEE 1BF2-1BF3 1C24-1C2B 1C34-1C35 1CE1 1CF7 302E-302F A823-A824 A827
A880-A881 A8B4-A8C3 A952-A953 A983 A9B4-A9B5 A9BA-A9BB A9BE-A9C0 AA2F-AA30
AA33-AA34 AA4D AA7B AA7D AAEB AAEE-AAEF AAF5 ABE3-ABE4 ABE6-ABE7 ABE9-ABEA ABEC
11000 11002 11082 110B0-110B2 110B7-110B8 1112C 11145-11146 11182 111B3-111B5
111BF-111C0 111CE 1122C-1122E 11232-11233 11235 112E0-112E2 11302-11303
1133E-1133F 11341-1134D 11357 11362-11363 113B8-113BA 113C2-113CD 113CF
11435-11437 11440-11441 11445 114B0-114B2 114B9 114BB-114BE 114C1 115AF-115B1
115B8-115BB 115BE 11630-11632 1163B-1163C 1163E 116AC 116AE-116AF 116B6 1171E
11720-11721 11726 1182C-1182E 11838 11930-11938 1193D 11940 11942 119D1-119D3
119DC-119DF 119E4 11A39 11A57-11A58 11A97 11B61 11B65 11B67 11C2F 11C3E 11CA9
11CB1 11CB4 11D8A-11D8E 11D93-11D94 11D96 11EF5-11EF6 11F03 11F34-11F35
11F3E-11F3F 11F41 1612A-1612C 16F51-16F87 16FF0-16FF1 1D165-1D166 1D16D-1D172
"

/-- The marks that take no space of their own. -/
def nonspacingRows : List Row := rowsOf nonspacingTable

/-- The marks that take space. -/
def spacingRows : List Row := rowsOf spacingTable

/-- Whether a character is a mark that takes no space of its own. -/
def isNonspacing (character : Char) : Bool :=
  hasRow nonspacingRows character.toNat

/-- Whether a character is a mark. -/
def isMark (character : Char) : Bool :=
  isNonspacing character || hasRow spacingRows character.toNat

end JsonApi.HostName
