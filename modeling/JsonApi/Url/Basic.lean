import JsonApi.Text.Basic

/-!
# URLs

A URL is kept in its normal form: the scheme in lower case, the authority, the
path and the fragment as they are written, and the query as it was given.  A
path that begins with two slashes would be taken for an authority where there
is none, so it is then written with a slash and a dot before it.
-/

namespace JsonApi

/-- A URL in normal form. -/
structure Url where
  scheme : String
  /-- User information, host and port; a URL whose path is opaque has none. -/
  authority : Option String
  path : String
  query : Option (List Char)
  fragment : Option String
deriving DecidableEq

/-- The text of a URL. -/
def Url.text (url : Url) : String :=
  let authority :=
    match url.authority with
    | some authority => "//" ++ authority
    | none => if url.path.startsWith "//" then "/." else ""
  let query :=
    match url.query with
    | some query => "?" ++ String.ofList query
    | none => ""
  let fragment :=
    match url.fragment with
    | some fragment => "#" ++ fragment
    | none => ""
  url.scheme ++ ":" ++ authority ++ url.path ++ query ++ fragment

/-- Whether the path of a URL is not made of segments. -/
def Url.isOpaque (url : Url) : Bool :=
  url.authority.isNone && url.path.toList.head? ≠ some '/'

/-- The URL with another query; spaces at the end of an opaque path go with the
old one. -/
def Url.withQuery (url : Url) (query : List Char) : Url :=
  let path :=
    if url.isOpaque && url.fragment.isNone then
      String.ofList (url.path.toList.reverse.dropWhile (· = ' ')).reverse
    else url.path
  { url with path := path, query := some query }

end JsonApi

/-!
## Characters of URLs

Each place in a URL has its own characters that are written as themselves; all
others are percent-encoded there.
-/

namespace JsonApi.Url

open JsonApi.Text

/-- Whether a character is written as itself in an opaque path or host. -/
def isKeptOpaque (character : Char) : Bool :=
  0x20 ≤ character.toNat && character.toNat < 0x7F

/-- Whether a character is written as itself in a fragment. -/
def isKeptInFragment (character : Char) : Bool :=
  isKeptOpaque character &&
    !([' ', '\x22', '<', '>', '\x60'].contains character)

/-- Whether a character is written as itself in a path. -/
def isKeptInPath (character : Char) : Bool :=
  isKeptInFragment character && !(['#', '?', '\x7b', '\x7d'].contains character)

/-- Whether a character is written as itself in user information. -/
def isKeptInUser (character : Char) : Bool :=
  isKeptInPath character &&
    !(['/', ':', ';', '=', '@', '[', '\\', ']', '^', '|'].contains character)

/-- Percent-encodes the characters that are not kept. -/
def encodeWith (kept : Char → Bool) (characters : List Char) : String :=
  String.ofList (characters.flatMap (percentEncodeCharacter kept))

/-- Whether a character separates the segments of a special URL. -/
def isSlash (character : Char) : Bool :=
  character = '/' || character = '\\'

/-!
## Paths of URLs

A path is a list of segments with a slash before each.  A segment of one dot
names the place where it stands and one of two dots the place above; both are
taken out.  A segment that looks like a drive of a file system, which is a
letter and a colon or a bar, is not left by a step up.  At the beginning of the
path of a file URL a drive is written with a colon, and such a URL has no host.
-/

/-- The kinds of schemes, as far as paths are concerned. -/
inductive SchemeKind where
  | file
  /-- A scheme other than that of files whose URLs always have a host. -/
  | special
  | other
deriving DecidableEq

/-- Whether a path segment names the place it stands at. -/
def isSingleDot (segment : String) : Bool :=
  [".", "%2e"].contains (String.ofList (segment.toList.map Char.toLower))

/-- Whether a path segment names the place above it. -/
def isDoubleDot (segment : String) : Bool :=
  ["..", ".%2e", "%2e.", "%2e%2e"].contains
    (String.ofList (segment.toList.map Char.toLower))

/-- Whether a segment is a drive. -/
def isDrive (segment : String) : Bool :=
  match segment.toList with
  | [letter, mark] => letter.isAlpha && (mark = ':' || mark = '|')
  | _ => false

/-- Whether a step up does not leave a segment: a drive, also with a backslash
behind it. -/
def holdsStepUp (segment : String) : Bool :=
  isDrive (String.ofList (segment.toList.take 2)) &&
    (segment.toList.drop 2).head?.all (· = '\\')

/-- A drive written with a colon. -/
def withColon (drive : String) : String :=
  String.ofList (drive.toList.take 1 ++ [':'])

/-- The segments before the place above, last one first. -/
def stepUp : List String → List String
  | [] => []
  | last :: walked => if holdsStepUp last then last :: walked else walked

/-- The segments with one more, last one first. -/
def stepTo
    (kind : SchemeKind)
    (segment : String)
    (walked : List String) : List String :=
  if kind = .file ∧ walked.isEmpty ∧ isDrive segment then [withColon segment]
  else segment :: walked

/-- The segments of a path without dot segments; `walked` are those before, last
one first. -/
def resolveDots (kind : SchemeKind) : List String → List String → List String
  | walked, [] => walked.reverse
  | walked, [last] =>
    if isDoubleDot last then ("" :: stepUp walked).reverse
    else if isSingleDot last then ("" :: walked).reverse
    else (stepTo kind last walked).reverse
  | walked, segment :: next :: segments =>
    if isDoubleDot segment
      then resolveDots kind (stepUp walked) (next :: segments)
    else if isSingleDot segment then resolveDots kind walked (next :: segments)
    else resolveDots kind (stepTo kind segment walked) (next :: segments)

/-- The segments that are written behind the first slash of a path. -/
def pathSegments (kind : SchemeKind) (written : List Char) : List String :=
  let slashed :=
    if kind = .other then written
    else written.map fun character =>
      if isSlash character then '/' else character
  resolveDots kind [] ((pieces '/' slashed).map (encodeWith isKeptInPath))

/-- A path; that of a file URL has no empty segments at its beginning. -/
def pathText (kind : SchemeKind) (segments : List String) : String :=
  "/" ++ "/".intercalate
    (if kind = .file then segments.dropWhile String.isEmpty else segments)

/-- What is written behind the first slash of a path, if it begins with one. -/
def afterSlash (kind : SchemeKind) (written : List Char) : List Char :=
  match written with
  | [] => []
  | first :: rest =>
    if first = '/' ∨
      (kind ≠ .other ∧ isSlash first) then rest else first :: rest

/-- The path behind an authority. -/
def pathAfterAuthority (kind : SchemeKind) (written : List Char) : String :=
  if kind = .other ∧ written.isEmpty then ""
  else pathText kind (pathSegments kind (afterSlash kind written))

end JsonApi.Url

/-!
## Numeric host addresses

An address of four bytes is written with dots.  Each part may be decimal,
octal or hexadecimal, and the last part fills all bytes that are left.  An
address of eight 16-bit groups is written in hexadecimal with colons; two
colons stand for a run of zero groups, and the last two groups may be given as
an address of four bytes.
-/

namespace JsonApi.Address

open JsonApi.Text

/-- The number that digits of a base denote; no digits denote zero. -/
def numberInBase? (base : Nat) (digits : List Char) : Option Nat :=
  (digits.mapM fun digit => (hexValue? digit).filter (· < base)).map
    fun values =>
    values.foldl (fun total value => total * base + value) 0

/-- The number of one dotted part: hexadecimal behind `0x`, octal behind `0`,
else decimal. -/
def partNumber? : List Char → Option Nat
  | [] => none
  | '0' :: 'x' :: digits => numberInBase? 16 digits
  | '0' :: 'X' :: digits => numberInBase? 16 digits
  | '0' :: digits => numberInBase? 8 digits
  | digits => numberInBase? 10 digits

/-- The dotted parts of a host; an empty one at the end does not count. -/
def dottedParts (host : List Char) : List (List Char) :=
  let parts := pieces '.' host
  if parts.length > 1 ∧ parts.getLast? = some [] then parts.dropLast else parts

/-- Whether the last part of a host is a number, so that the host is an
address. -/
def endsInNumber (host : List Char) : Bool :=
  match (dottedParts host).getLast? with
  | none => false
  | some part =>
    (!part.isEmpty && part.all Char.isDigit) ||
      match part with
      | '0' :: 'x' :: digits => (numberInBase? 16 digits).isSome
      | '0' :: 'X' :: digits => (numberInBase? 16 digits).isSome
      | _ => false

/-- The value of an address given by the numbers of its parts. -/
def valueOfParts? (numbers : List Nat) : Option Nat :=
  match numbers.reverse with
  | [] => none
  | last :: leading =>
    if leading.length > 3 ∨ leading.any (· > 255) ∨
        last ≥ Nat.pow 256 (4 - leading.length) then none
    else
      some (leading.reverse.foldl (fun total number => total * 256 + number) 0 *
        Nat.pow 256 (4 - leading.length) + last)

/-- Reads an address of four bytes. -/
def readDotted? (host : List Char) : Option Nat :=
  ((dottedParts host).mapM partNumber?).bind valueOfParts?

/-- An address of four bytes in decimal. -/
def dottedText (value : Nat) : String :=
  ".".intercalate (([3, 2, 1, 0] : List Nat).map fun place =>
    toString (value / Nat.pow 256 place % 256))

/-- A decimal byte, without a leading zero. -/
def strictByte? (digits : List Char) : Option Nat :=
  if digits.length > 1 ∧ digits.head? = some '0' then none
  else (readNat? digits).filter (· ≤ 255)

/-- The two groups that an embedded address of four bytes fills. -/
def embeddedGroups? (written : List Char) : Option (List Nat) :=
  match (pieces '.' written).mapM strictByte? with
  | some [first, second, third, fourth] =>
      some [first * 256 + second, third * 256 + fourth]
  | _ => none

/-- The group that one to four hexadecimal digits denote. -/
def group? (digits : List Char) : Option Nat :=
  if digits.isEmpty ∨ digits.length > 4 then none else hexNumber? digits

/-- The groups of a text without two colons in a row; none for the empty
text. -/
def groups? (written : List Char) : Option (List Nat) :=
  if written.isEmpty then some []
  else
    let parts := pieces ':' written
    match parts.getLast? with
    | none => none
    | some last =>
      if last.contains '.' then do
        let leading ← parts.dropLast.mapM group?
        pure (leading ++ (← embeddedGroups? last))
      else parts.mapM group?

/-- The text before and behind the first two colons in a row, if there are
any. -/
def splitAtGap : List Char → Option (List Char × List Char)
  | ':' :: ':' :: rest => some ([], rest)
  | head :: tail =>
      (splitAtGap tail).map fun (before, behind) => (head :: before, behind)
  | [] => none

/-- Reads an address of eight groups. -/
def readGroups? (written : List Char) : Option (List Nat) :=
  match splitAtGap written with
  | none => (groups? written).filter fun groups => groups.length = 8
  | some (before, behind) => do
    let leading ← if before.contains '.' then none else groups? before
    let trailing ← groups? behind
    let present := leading.length + trailing.length
    if present ≤ 7 then
      pure (leading ++ List.replicate (8 - present) 0 ++ trailing) else none

/-- The number of zero groups at the beginning. -/
def leadingZeros (groups : List Nat) : Nat :=
  (groups.takeWhile (· = 0)).length

/-- The position and the length of the first longest run of at least two zero
groups. -/
def longestGap (groups : List Nat) : Option (Nat × Nat) :=
  let runs := (List.range groups.length).map fun index =>
    (index, leadingZeros (groups.drop index))
  let best :=
    runs.foldl (fun best run => if best.2 < run.2 then run else best) (0, 0)
  if 2 ≤ best.2 then some best else none

/-- Groups in hexadecimal with colons between them. -/
def plainGroups (groups : List Nat) : String :=
  ":".intercalate (groups.map hexText)

/-- An address of eight groups, with its longest run of zero groups left out. -/
def groupsText (groups : List Nat) : String :=
  match longestGap groups with
  | none => plainGroups groups
  | some (index, length) =>
    plainGroups (groups.take index) ++ "::" ++
      plainGroups (groups.drop (index + length))

end JsonApi.Address
