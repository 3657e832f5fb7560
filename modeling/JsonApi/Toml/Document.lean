import JsonApi.Toml.Scalar

/-!
# TOML documents

A document is a sequence of statements: pairs of a dotted key and a value, and
headers that open a table or append a table to an array of tables.  A table
may be opened once; the tables on the way to it come into being by themselves
and may be opened later.  Tables that dotted keys brought into being may get
further dotted keys and inner tables and may not be opened.  A key is given
once.  The value of a document is the JSON object of its root table.

Arrays and inline tables may stand in each other up to a bounded depth, and a
dotted key has a bounded number of names.
-/

namespace JsonApi.Toml

open JsonApi.Text

/-- How a table came into being. -/
inductive Origin where
  /-- On the way to a table that a header opened. -/
  | implicit
  /-- By a header, or as the root. -/
  | opened
  /-- On the way of a dotted key. -/
  | dotted
deriving DecidableEq

/-- What stands under a key. -/
inductive Node where
  | value (value : Json)
  | table (origin : Origin) (entries : List (String × Node))
  /-- An array of tables, the last one first. -/
  | tables (elements : List (List (String × Node)))

/-- The entries of a table. -/
abbrev Entries := List (String × Node)

/-- Changes the table at a path; tables missing on the way come into being.

A dotted key does not pass through a table that a header opened. -/
def updateAt
    (viaDots : Bool)
    (change : Origin → Entries → Option Entries) :
    List String → Origin → Entries → Option Entries
  | [], origin, entries => change origin entries
  | key :: path, _, entries =>
    match Dictionary.find? entries key with
    | none =>
      let origin := if viaDots then Origin.dotted else Origin.implicit
      (updateAt viaDots change path origin []).map fun inner =>
        Dictionary.insert key (.table origin inner) entries
    | some (.value _) => none
    | some (.table origin inner) =>
      if viaDots ∧ origin = .opened then none
      else
        (updateAt viaDots change path origin inner).map fun inner =>
          Dictionary.insert key (.table origin inner) entries
    | some (.tables []) => none
    | some (.tables (last :: earlier)) =>
      (updateAt viaDots change path .opened last).map fun last =>
        Dictionary.insert key (.tables (last :: earlier)) entries

/-- Splits a path into the keys on the way and the last key. -/
def splitLast? (path : List String) : Option (List String × String) :=
  path.getLast?.map fun last => (path.dropLast, last)

/-- Adds a new key to a table. -/
def addNew (key : String) (node : Node) (entries : Entries) : Option Entries :=
  if Dictionary.contains entries key then none
    else some (Dictionary.insert key node entries)

/-- Gives a value to a dotted key below a table. -/
def assign
    (path : List String)
    (value : Json)
    (origin : Origin)
    (entries : Entries) :
    Option Entries := do
  let (way, key) ← splitLast? path
  let assignLast (reached : Origin) (entries : Entries) : Option Entries :=
    if (reached == .dotted) == way.isEmpty then none
      else addNew key (.value value) entries
  updateAt true assignLast way origin entries

/-- Opens the table at a path of the root. -/
def openTable (path : List String) (root : Entries) : Option Entries := do
  let (way, key) ← splitLast? path
  let openLast (_ : Origin) (entries : Entries) : Option Entries :=
    match Dictionary.find? entries key with
    | none => some (Dictionary.insert key (.table .opened []) entries)
    | some (.table .implicit inner) =>
        some (Dictionary.insert key (.table .opened inner) entries)
    | some _ => none
  updateAt false openLast way .opened root

/-- Appends a table to the array of tables at a path of the root. -/
def appendTable (path : List String) (root : Entries) : Option Entries := do
  let (way, key) ← splitLast? path
  let appendLast (_ : Origin) (entries : Entries) : Option Entries :=
    match Dictionary.find? entries key with
    | none => some (Dictionary.insert key (.tables [[]]) entries)
    | some (.tables elements) =>
        some (Dictionary.insert key (.tables ([] :: elements)) entries)
    | some _ => none
  updateAt false appendLast way .opened root

mutual

/-- The JSON value of what stands under a key. -/
def Node.toJson : Node → Json
  | .value value => value
  | .table _ entries => .object (entriesToJson entries)
  | .tables elements => .array (elementsToJson elements).reverse

/-- The JSON members of a table. -/
def entriesToJson : List (String × Node) → List (String × Json)
  | [] => []
  | (key, node) :: entries => (key, node.toJson) :: entriesToJson entries

/-- The JSON objects of some tables. -/
def elementsToJson : List (List (String × Node)) → List Json
  | [] => []
  | element :: elements =>
      .object (entriesToJson element) :: elementsToJson elements

end

/-- Whether a character may stand in a key without quotation marks. -/
def isBareKey (character : Char) : Bool :=
  character.isAlphanum || character = '_' || character = '-'

/-- Reads one name of a key. -/
def takeName (characters : List Char) : Taken String :=
  match takeLine characters with
  | some taken => some taken
  | none =>
    let name := characters.takeWhile isBareKey
    if name.isEmpty then none
    else some (String.ofList name, characters.dropWhile isBareKey)

/-- Reads a dotted key and the spaces behind it; the fuel bounds the number of
names. -/
def takeKey : Nat → List Char → Taken (List String)
  | 0, _ => none
  | fuel + 1, characters =>
    match takeName characters with
    | none => none
    | some (name, rest) =>
      match skipSpaces rest with
      | '.' :: rest =>
        (takeKey fuel (skipSpaces rest)).map fun (names, rest) =>
          (name :: names, rest)
      | rest => some ([name], rest)

/-- How deep arrays and inline tables may stand in each other, and how long a
key may be. -/
def maxNesting : Nat := 79

/-- Reads a dotted key of admissible length and the spaces behind it. -/
def takePath (characters : List Char) : Taken (List String) :=
  (takeKey (characters.length + 1) characters).filter fun (names, _) =>
    names.length ≤ maxNesting

/-- The object of the pairs of an inline table. -/
def inlineTable? (pairs : List (List String × Json)) : Option Json :=
  (pairs.foldlM (fun entries pair => assign pair.1 pair.2 .opened entries)
      []).map fun entries =>
    .object (entriesToJson entries)

mutual

/-- Reads a value in which arrays and inline tables may stand `room` deep; the
fuel bounds the number of steps. -/
def takeValue (room : Nat) : Nat → List Char → Taken Json
  | 0, _ => none
  | _, [] => none
  | fuel + 1, head :: tail =>
    if head = '\x22' ∨ head = '\x27' then
      (takeString (head :: tail)).map fun (text, rest) => (.string text, rest)
    else if (head = '[' ∨ head = '\x7b') ∧ room = 0 then none
    else if head = '[' then
      (takeItems (room - 1) fuel tail).map fun (items, rest) =>
        (.array items, rest)
    else if head = '\x7b' then
      match skipSpaces tail with
      | '\x7d' :: rest => some (.object [], rest)
      | rest =>
        match takePairs (room - 1) fuel rest with
        | some (pairs, rest) =>
            (inlineTable? pairs).map fun table => (table, rest)
        | none => none
    else
      let (token, rest) := takeToken (head :: tail)
      (tokenValue? token).map fun value => (value, rest)

/-- Reads the items of an array and its closing bracket. -/
def takeItems (room : Nat) : Nat → List Char → Taken (List Json)
  | 0, _ => none
  | fuel + 1, characters =>
    match skipLines characters.length characters with
    | ']' :: rest => some ([], rest)
    | rest =>
      match takeValue room fuel rest with
      | none => none
      | some (item, rest) =>
        match skipLines rest.length rest with
        | ',' :: rest =>
            (takeItems room fuel rest).map fun (items, rest) =>
              (item :: items, rest)
        | ']' :: rest => some ([item], rest)
        | _ => none

/-- Reads one or more pairs of an inline table and its closing brace. -/
def takePairs (room : Nat) : Nat → List Char → Taken (List (List String × Json))
  | 0, _ => none
  | fuel + 1, characters =>
    match takePath (skipSpaces characters) with
    | some (key, '=' :: rest) =>
      match takeValue room fuel (skipSpaces rest) with
      | none => none
      | some (value, rest) =>
        match skipSpaces rest with
        | ',' :: rest =>
          (takePairs room fuel rest).map fun (pairs, rest) =>
            ((key, value) :: pairs, rest)
        | '\x7d' :: rest => some ([(key, value)], rest)
        | _ => none
    | _ => none

end

/-- One statement of a document. -/
inductive Statement where
  | openTable (path : List String)
  | appendTable (path : List String)
  | assign (path : List String) (value : Json)

/-- Reads a statement. -/
def takeStatement (characters : List Char) : Taken Statement :=
  match characters with
  | '[' :: '[' :: rest =>
    match takePath (skipSpaces rest) with
    | some (path, ']' :: ']' :: rest) => some (.appendTable path, rest)
    | _ => none
  | '[' :: rest =>
    match takePath (skipSpaces rest) with
    | some (path, ']' :: rest) => some (.openTable path, rest)
    | _ => none
  | _ =>
    match takePath characters with
    | some (path, '=' :: rest) =>
      let fuel := 2 * characters.length + 2
      (takeValue maxNesting fuel (skipSpaces rest)).map fun (value, rest) =>
        (.assign path value, rest)
    | _ => none

/-- Reads the statements of a document, each of which ends its line. -/
def takeStatements : Nat → List Char → Option (List Statement)
  | 0, _ => none
  | fuel + 1, characters =>
    match skipLines characters.length characters with
    | [] => some []
    | rest => do
      let (statement, rest) ← takeStatement rest
      let rest := skipComment (skipSpaces rest)
      if rest.isEmpty then pure [statement]
      else
        let statements ← takeStatements fuel (← afterNewline? rest)
        pure (statement :: statements)

/-- A document read so far: the root table and the path of the open table. -/
structure Progress where
  root : Entries
  current : List String

/-- Carries out a statement. -/
def Progress.apply (progress : Progress) : Statement → Option Progress
  | .openTable path =>
      (openTable path progress.root).map fun root => ⟨root, path⟩
  | .appendTable path =>
      (appendTable path progress.root).map fun root => ⟨root, path⟩
  | .assign path value =>
    (updateAt false (assign path value) progress.current .opened
        progress.root).map fun root =>
      ⟨root, progress.current⟩

/-- The text without a byte order mark in front. -/
def withoutMark : List Char → List Char
  | '\ufeff' :: rest => rest
  | rest => rest

/-- The JSON object of a TOML text. -/
def read? (text : String) : Option Json := do
  let characters := withoutMark text.toList
  let statements ← takeStatements (characters.length + 1) characters
  let progress ← statements.foldlM Progress.apply ⟨[], []⟩
  pure (.object (entriesToJson progress.root))

end JsonApi.Toml
