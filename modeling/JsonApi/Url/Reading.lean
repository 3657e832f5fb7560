import JsonApi.HostName.Reading
import JsonApi.Text.Basic
import JsonApi.Url.Basic

/-!
# From texts to URLs

The authority of a URL is read first and its other parts behind it.
-/

/-!
## Authorities of URLs

An authority has user information, a host and a port.  The hosts of special
schemes are host names or addresses in their normal form, and those of other
schemes are nearly arbitrary texts.  The default port of a scheme is not
written.
-/

namespace JsonApi.Url

open JsonApi.Text

/-- The special schemes with their default ports. -/
def specialPorts : List (String × Option Nat) :=
  [("file", none), ("ftp", some 21), ("http", some 80), ("https", some 443),
    ("ws", some 80), ("wss", some 443)]

/-- The kind of a scheme. -/
def schemeKind (scheme : String) : SchemeKind :=
  if scheme = "file" then .file
  else if (specialPorts.lookup scheme).isSome then .special
  else .other

/-- The default port of a scheme. -/
def defaultPort? (scheme : String) : Option Nat :=
  (specialPorts.lookup scheme).join

/-! ### User information -/

/-- User information as it is written, with the at sign behind it. -/
def userText (user : List Char) : String :=
  let name := user.takeWhile (· ≠ ':')
  let secret := (user.dropWhile (· ≠ ':')).drop 1
  if name.isEmpty && secret.isEmpty then ""
  else
    encodeWith isKeptInUser name ++
      (if secret.isEmpty then "" else ":" ++ encodeWith isKeptInUser secret) ++
        "@"

/-- Splits an authority at its last at sign; without one there is no user
information. -/
def splitUser (authority : List Char) : Option (List Char) × List Char :=
  let reversed := authority.reverse
  match reversed.dropWhile (· ≠ '@') with
  | [] => (none, authority)
  | _ :: user => (some user.reverse, (reversed.takeWhile (· ≠ '@')).reverse)

/-! ### Hosts -/

/-- Characters that no host may hold. -/
def forbiddenInHost : List Char :=
  ['\x00', '\t', '\n', '\r', ' ', '#', '/', ':', '<', '>', '?', '@', '[', '\\',
      ']', '^', '|']

/-- Whether a host name may not hold a character. -/
def isForbiddenInName (character : Char) : Bool :=
  character.toNat ≤ 0x20 || character.toNat = 0x7F || character = '%' ||
    forbiddenInHost.contains character

/-- Reads an address between brackets, if the host begins with one. -/
def readBracketed? (host : List Char) : Option (Option String) :=
  match host with
  | '[' :: inner =>
    if inner.getLast? = some ']' then
      some ((Address.readGroups? inner.dropLast).map fun groups =>
        "[" ++ Address.groupsText groups ++ "]")
    else some none
  | _ => none

/-- Reads the host of a scheme that is not special. -/
def readOpaqueHost? (host : List Char) : Option String :=
  match readBracketed? host with
  | some address => address
  | none =>
    if host.any forbiddenInHost.contains then none
      else some (encodeWith isKeptOpaque host)

/-- Reads a host name, or a numeric address in the place of one. -/
def readName? (host : List Char) : Option String := do
  let decoded := ofUtf8 (percentDecode (host.flatMap String.utf8EncodeChar))
  let name ← HostName.toAscii? decoded.toList
  if name.isEmpty ∨ name.any isForbiddenInName then none
  else if Address.endsInNumber name
    then (Address.readDotted? name).map Address.dottedText
  else some (String.ofList name)

/-- Reads the host of a special scheme. -/
def readSpecialHost? (host : List Char) : Option String :=
  match readBracketed? host with
  | some address => address
  | none => readName? host

/-! ### Ports -/

/-- Reads a port and gives what follows it; only a backslash may.  An empty port
and the default one are not written. -/
def readPort?
    (scheme : String)
    (written : List Char) : Option (String × List Char) :=
  let digits := written.takeWhile Char.isDigit
  let rest := written.dropWhile Char.isDigit
  if rest.head?.any (· ≠ '\\') then none
  else if digits.isEmpty then some ("", rest)
  else
    (readNat? digits).bind fun number =>
      if number > 65535 then none
      else if defaultPort? scheme = some number then some ("", rest)
      else some (":" ++ toString number, rest)

/-- Splits a host from its port at the first colon outside brackets. -/
def splitPort : Bool → List Char → List Char × Option (List Char)
  | _, [] => ([], none)
  | inBrackets, head :: tail =>
    if head = ':' ∧ !inBrackets then ([], some tail)
    else
      let inside :=
        if head = '[' then true else if head = ']' then false else inBrackets
      let (host, port) := splitPort inside tail
      (head :: host, port)

/-! ### Authorities -/

/-- Whether a character ends the authority of a URL. -/
def endsAuthority (kind : SchemeKind) (character : Char) : Bool :=
  character = '/' || (kind ≠ .other && isSlash character)

/-- Reads the authority of a URL other than a file; gives what follows the port
in it. -/
def readAuthority?
    (scheme : String)
    (authority : List Char) : Option (String × List Char) := do
  let (user?, hostAndPort) := splitUser authority
  let (host, port?) := splitPort false hostAndPort
  let isSpecial := schemeKind scheme ≠ .other
  let user := (user?.map userText).getD ""
  let hostText ← if isSpecial then readSpecialHost? host
      else readOpaqueHost? host
  let (port, rest) ← readPort? scheme (port?.getD [])
  if hostText = "" ∧ (isSpecial ∨ port?.isSome ∨ user ≠ "") then none
  else pure (user ++ hostText ++ port, rest)

/-!
## Reading URLs

A URL is read without regard to blanks around it and to tabs and line ends in
it.  Some schemes are special: they have a host, and a backslash counts as a
slash.  A URL of another scheme may be without an authority, and if then no
slash follows the scheme its path is not made of segments.
-/

/-- Whether a character is a control character or a space. -/
def isMargin (character : Char) : Bool :=
  character.toNat ≤ 0x20

/-- The characters of a URL, without the margins around them and the line ends
in them. -/
def significant (text : String) : List Char :=
  let inner :=
    ((text.toList.dropWhile isMargin).reverse.dropWhile isMargin).reverse
  inner.filter fun character =>
    character ≠ '\t' ∧ character ≠ '\n' ∧ character ≠ '\r'

/-- The scheme that a text begins with, in lower case, and what follows its
colon. -/
def takeScheme? (characters : List Char) : Option (String × List Char) :=
  let inScheme (character : Char) : Bool :=
    character.isAlphanum || character = '+' || character = '-' || character =
      '.'
  let scheme := characters.takeWhile inScheme
  match scheme, characters.dropWhile inScheme with
  | first :: _, ':' :: rest =>
    if first.isAlpha then some (String.ofList (scheme.map Char.toLower), rest)
      else none
  | _, _ => none

/-- What stands behind the path of a URL. -/
structure Tail where
  query : Option (List Char)
  fragment : Option String

/-- Whether a URL ends with its path. -/
def Tail.isEmpty (tail : Tail) : Bool :=
  tail.query.isNone && tail.fragment.isNone

/-- What stands before the query, and what stands behind the path. -/
def splitTail (characters : List Char) : List Char × Tail :=
  let untilFragment := characters.takeWhile (· ≠ '#')
  let fragment :=
    match characters.dropWhile (· ≠ '#') with
    | [] => none
    | _ :: fragment => some (encodeWith isKeptInFragment fragment)
  let query :=
    match untilFragment.dropWhile (· ≠ '?') with
    | [] => none
    | _ :: query => some query
  (untilFragment.takeWhile (· ≠ '?'), ⟨query, fragment⟩)

/-- The path of a file URL without a host. -/
def filePath (written : List Char) : String :=
  pathText .file (pathSegments .file written)

/-- Reads the host and the path of a file URL.

A drive in the place of the host belongs to the path. -/
def readFileHost? (written : List Char) : Option (String × String) :=
  let host := written.takeWhile (!isSlash ·)
  let path := written.dropWhile (!isSlash ·)
  if host.isEmpty ∨
    isDrive (String.ofList host) then some ("", filePath written)
  else
    (readSpecialHost? host).map fun hostText =>
      let segments := pathSegments .file (afterSlash .file path)
      if hostText = "localhost" then ("", filePath path)
      else if segments.head?.any isDrive then ("", pathText .file segments)
      else (hostText, pathText .file segments)

/-- Reads what stands behind the scheme of a file URL, up to the query. -/
def readFile? (written : List Char) : Option (String × String) :=
  match written with
  | first :: second :: rest =>
    if isSlash first && isSlash second then readFileHost? rest
    else some ("", filePath (afterSlash .file written))
  | _ => some ("", filePath (afterSlash .file written))

/-- Reads the authority and the path of a URL other than a file.

An authority of an at sign alone has to end the URL. -/
def readWithAuthority?
    (scheme : String)
    (written : List Char)
    (tail : Tail) :
    Option (Option String × String) :=
  let kind := schemeKind scheme
  let authority := written.takeWhile (!endsAuthority kind ·)
  let path := written.dropWhile (!endsAuthority kind ·)
  if authority = ['@'] ∧ !(path.isEmpty && tail.isEmpty) then none
  else
    (readAuthority? scheme authority).map fun (text, rest) =>
      (some text, pathAfterAuthority kind (rest ++ path))

/-- Reads what stands behind any other scheme, up to the query: the authority
and the path. -/
def readHierarchy?
    (scheme : String)
    (written : List Char)
    (tail : Tail) :
    Option (Option String × String) :=
  if schemeKind scheme = .special then
    readWithAuthority? scheme (written.dropWhile isSlash) tail
  else
    match written with
    | '/' :: '/' :: rest => readWithAuthority? scheme rest tail
    | '/' :: rest => some (none, pathText .other (pathSegments .other rest))
    | rest => some (none, encodeWith isKeptOpaque rest)

/-- Reads a URL. -/
def read? (text : String) : Option Url := do
  let (scheme, rest) ← takeScheme? (significant text)
  let (hierarchy, tail) := splitTail rest
  if schemeKind scheme = .file then
    let (authority, path) ← readFile? hierarchy
    pure ⟨scheme, some authority, path, tail.query, tail.fragment⟩
  else
    let (authority, path) ← readHierarchy? scheme hierarchy tail
    pure ⟨scheme, authority, path, tail.query, tail.fragment⟩

end JsonApi.Url
