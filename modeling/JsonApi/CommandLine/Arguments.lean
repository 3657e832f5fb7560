import JsonApi.Url.Reading

/-!
# Command line arguments

A command line names one of two commands with the resource type and, both
optional, a query string; options stand before or behind the command's name and
among its arguments.  The value of an option is the next argument or follows an
equals sign.  Options that belong to both commands may be given once before
the command's name and once behind it, and then the latter counts.  Behind a
double hyphen there are no more options.

Reading goes from left to right and stops at the first fault or at a request
for help, whichever comes first.
-/

namespace JsonApi.CommandLine

/-- The form in which the outcome of a command is written. -/
inductive OutputFormat where
  | text
  | json
deriving DecidableEq

/-- What to do. -/
inductive Command where
  /-- Show how a query is understood. -/
  | inspect (resourceType query : String)
  /-- Render the document that answers a query from the fixture in a file. -/
  | render
      (resourceType query data : String)
      (id : Option String)
      (base : Option Url)

/-- A command line that was understood. -/
structure Invocation where
  /-- The configuration file, if one was named. -/
  config : Option String
  format : OutputFormat
  command : Command

/-- Why there is no command to carry out. -/
inductive Refusal where
  /-- The command line is at fault. -/
  | misuse
  /-- Help was asked for. -/
  | help
  /-- The version was asked for. -/
  | version
deriving DecidableEq

/-- The options. -/
inductive OptionName where
  | config
  | format
  | data
  | id
  | baseUrl
deriving DecidableEq

/-- The options that belong to every command. -/
def commonOptions : List (String × OptionName) :=
  [("config", .config), ("format", .format)]

/-- The options of the command that renders documents. -/
def renderOptions : List (String × OptionName) :=
  commonOptions ++ [("data", .data), ("id", .id), ("base-url", .baseUrl)]

/-- The output formats by name. -/
def formatNames : List (String × OutputFormat) :=
  [("text", .text), ("json", .json)]

/-- Whether a text is a proper value of an option: no file has an empty name. -/
def OptionName.accepts : OptionName → String → Bool
  | .config, value => value ≠ ""
  | .data, value => value ≠ ""
  | .format, value => (formatNames.lookup value).isSome
  | .baseUrl, value => (Url.read? value).isSome
  | .id, _ => true

/-- One argument by its form. -/
inductive Token where
  /-- A double hyphen alone. -/
  | separator
  /-- A name behind a double hyphen, perhaps with a value behind an equals
  sign. -/
  | long (name : String) (value : Option String)
  /-- A letter, and perhaps others, behind a single hyphen. -/
  | short (letter : Char)
  /-- Any other text. -/
  | word (text : String)

/-- The form of an argument. -/
def Token.ofArgument (argument : String) : Token :=
  match argument.toList with
  | ['-', '-'] => .separator
  | '-' :: '-' :: name =>
    match name.dropWhile (· ≠ '=') with
    | [] => .long (String.ofList name) none
    | _ :: value =>
      .long (String.ofList (name.takeWhile (· ≠ '=')))
        (some (String.ofList value))
  | '-' :: letter :: _ => .short letter
  | _ => .word argument

/-- The rules for the arguments before a command's name, or behind it. -/
structure Grammar where
  options : List (String × OptionName)
  /-- The greatest number of arguments that are no options. -/
  maxWords : Nat
  /-- Whether the version may be asked for. -/
  tellsVersion : Bool

/-- Arguments read so far. -/
structure Progress where
  values : List (OptionName × String) := []
  words : List String := []
  /-- The option whose value is still to come. -/
  pending : Option OptionName := none
  /-- Whether there are no more options. -/
  isSeparated : Bool := false

namespace Progress

/-- Gives an option its value, once. -/
def assign
    (progress : Progress)
    (option : OptionName)
    (value : String) :
    Except Refusal Progress :=
  if (progress.values.lookup option).isSome || !option.accepts value
    then .error .misuse
  else .ok { progress with
      values := (option, value) :: progress.values, pending := none }

/-- Adds an argument that is no option. -/
def addWord
    (grammar : Grammar)
    (progress : Progress)
    (word : String) :
    Except Refusal Progress :=
  if progress.words.length < grammar.maxWords then
    .ok { progress with words := progress.words ++ [word] }
  else .error .misuse

/-- Takes an option by name; `help` and `version` take no value. -/
def addLong
    (grammar : Grammar)
    (progress : Progress)
    (name : String)
    (value : Option String) :
    Except Refusal Progress :=
  match grammar.options.lookup name, value with
  | some option, some value => progress.assign option value
  | some option, none => .ok { progress with pending := some option }
  | none, none =>
    if name = "help" then .error .help
    else if name = "version" ∧ grammar.tellsVersion then .error .version
    else .error .misuse
  | none, some _ => .error .misuse

/-- Takes an option by letter. -/
def addShort (grammar : Grammar) (letter : Char) : Refusal :=
  if letter = 'h' then .help
  else if letter = 'V' ∧ grammar.tellsVersion then .version
  else .misuse

/-- Takes one more argument. -/
def add
    (grammar : Grammar)
    (progress : Progress)
    (argument : String) :
    Except Refusal Progress :=
  if progress.isSeparated then progress.addWord grammar argument
  else
    match progress.pending, Token.ofArgument argument with
    | some option, .word value => progress.assign option value
    | some _, _ => .error .misuse
    | none, .separator => .ok { progress with isSeparated := true }
    | none, .long name value => progress.addLong grammar name value
    | none, .short letter => .error (addShort grammar letter)
    | none, .word word => progress.addWord grammar word

/-- Reads arguments of which no option may be left without a value. -/
def readAll
    (grammar : Grammar)
    (arguments : List String) : Except Refusal Progress := do
  let progress ← arguments.foldlM (add grammar) {}
  if progress.pending.isSome then .error .misuse else .ok progress

/-- Reads the arguments before the name of the command, and gives that name and
what follows it. -/
def readCommon (grammar : Grammar) :
    Progress → List String → Except Refusal (Progress × String × List String)
  | _, [] => .error .misuse
  | progress, argument :: rest =>
    match progress.isSeparated, progress.pending, Token.ofArgument argument with
    | false, none, .word name => .ok (progress, name, rest)
    | _, _, _ => do readCommon grammar (← progress.add grammar argument) rest

end Progress

/-- The rules before the name of the command. -/
def commonGrammar : Grammar := ⟨commonOptions, 0, true⟩

/-- The names of the commands with the rules for their arguments. -/
def commandGrammars : List (String × Grammar) :=
  [("inspect", ⟨commonOptions, 2, false⟩),
      ("render", ⟨renderOptions, 2, false⟩)]

/-- The command of the given name with the arguments that were read. -/
def commandOf? (name : String) (progress : Progress) : Option Command :=
  let complete (resourceType query : String) : Option Command :=
    if name = "inspect" then some (.inspect resourceType query)
    else
      (progress.values.lookup .data).map fun data =>
        .render resourceType query data (progress.values.lookup .id)
          ((progress.values.lookup .baseUrl).bind Url.read?)
  match progress.words with
  | [resourceType] => complete resourceType ""
  | [resourceType, query] => complete resourceType query
  | _ => none

/-- The configuration file: named behind the command's name, before it, or by
the environment.

The environment is looked at wherever the option is left out, and must not name
an empty path there. -/
def chooseConfig (named before behind : Option String) :
    Except Refusal (Option String) :=
  if named = some "" ∧ (before.isNone ∨ behind.isNone) then .error .misuse
  else .ok (behind.or (before.or named))

/-- Reads a command line; `named` is the configuration file that the environment
names. -/
def readArguments
    (named : Option String)
    (arguments : List String) :
    Except Refusal Invocation := do
  let (before, name, rest) ← Progress.readCommon commonGrammar {} arguments
  match commandGrammars.lookup name with
  | none => .error .misuse
  | some grammar =>
    let behind ← Progress.readAll grammar rest
    match commandOf? name behind with
    | none => .error .misuse
    | some command =>
      let config ← chooseConfig named (before.values.lookup .config)
        (behind.values.lookup .config)
      let written :=
        (behind.values.lookup .format).or (before.values.lookup .format)
      pure ⟨config, (written.bind fun name => formatNames.lookup name).getD
          .text, command⟩

end JsonApi.CommandLine
