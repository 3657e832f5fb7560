import JsonApi.CommandLine.Arguments
import JsonApi.Config
import JsonApi.Document.Assembly
import JsonApi.Json.Basic
import JsonApi.Query.Specification

/-!
# Runs of the command line

How specifications and documents are shown to readers, and how a command line
is carried out.
-/

/-!
## Specifications and documents for readers

The readable form of a specification is a line for each of its parts, and that
of a document a line for each resource object and for each relationship,
member of information and link.
-/

namespace JsonApi

/-- Some names with commas between them, or a word for none. -/
def namesOrNone (names : List String) : String :=
  if names.isEmpty then "none" else ",".intercalate names

/-- The line of the sparse fieldsets, or one for each type that has one. -/
def FieldSelection.lines (selection : FieldSelection) : List String :=
  if selection.isEmpty then ["fields: all"]
  else
    selection.byType.map fun (resourceType, fields) =>
      s!"fields[{resourceType}]: " ++ ",".intercalate fields

/-- An include path as it is requested. -/
def IncludeTree.pathText (path : List String) : String :=
  Text.joinWith '.' path

/-- The lines of a specification. -/
def QuerySpecification.lines (specification : QuerySpecification) :
    List String :=
  let filter := (specification.filter.map Filter.text).getD "none"
  let page := specification.page
  let score := specification.complexity
  ["type: " ++ specification.resourceType, "filter: " ++ filter,
      "sort: " ++ namesOrNone (specification.sort.map SortKey.text),
      s!"page: number={page.number} size={page.size}"] ++
    specification.fields.lines ++
    ["include: " ++ namesOrNone
        (specification.inclusion.leafPaths.map IncludeTree.pathText),
      s!"complexity: total={score.total} includes={score.inclusions} " ++
        s!"fields={score.fields} filter={score.filter}"]

/-- The type and identifier of a resource in one text. -/
def ResourceIdentifier.label (identifier : ResourceIdentifier) : String :=
  identifier.resourceType ++ "/" ++ identifier.id

/-- The resources that a relationship leads to. -/
def Linkage.label : Linkage → String
  | toOne none => "null"
  | toOne (some identifier) => identifier.label
  | toMany identifiers =>
      ", ".intercalate (identifiers.map ResourceIdentifier.label)

/-- The lines of a resource object. -/
def ResourceNode.lines (node : ResourceNode) : List String :=
  let attributes :=
    if node.attributes.isEmpty then ""
      else " " ++ (Json.object node.attributes).compact
  (node.identifier.label ++ attributes) ::
    node.relationships.map fun (name, linkage) =>
      "  " ++ name ++ " -> " ++ linkage.label

/-- The lines of primary data. -/
def PrimaryData.lines : PrimaryData → List String
  | single none => ["data: null"]
  | single (some node) => node.lines
  | collection [] => ["data: none"]
  | collection nodes => nodes.flatMap ResourceNode.lines

/-- The lines of a document. -/
def Document.lines (document : Document) : List String :=
  let included :=
    if document.included.isEmpty then []
    else
      s!"included: {document.included.length}" ::
        document.included.flatMap ResourceNode.lines
  document.data.lines ++ included ++
    (document.information.map fun (name, value) =>
        "meta." ++ name ++ ": " ++ value.compact) ++
    document.links.map fun (name, link) => "links." ++ name ++ ": " ++ link

end JsonApi

/-!
## Carrying out a command line

A run is a function of the arguments, the environment, and what the files
hold.  It ends in a status with what is written to the two outputs: a refused
query in an error document and status two, a misused command line in status
two, and any other failure in one line on the error output and status one.
If sorting gives up, the run is broken off with status one hundred and one.
-/

namespace JsonApi.CommandLine

/-- What the environment tells a run. -/
structure Environment where
  /-- The configuration file that a variable names. -/
  configVariable : Option String := none
  /-- The directory in which configurations are kept. -/
  configDirectory : Option String := none

/-- What the files hold that a command line may name. -/
structure Files where
  configurationAt : String → Except ConfigError Configuration
  textAt : String → Except FileFault String

/-- How a run ends. -/
structure Outcome where
  status : Nat
  output : String
  /-- The line on the error output. -/
  complaint : Option String
deriving DecidableEq

/-- A failure of a run that was started properly. -/
inductive RunError where
  /-- The query was refused. -/
  | query (error : QueryError)
  /-- Something else failed, as the message tells. -/
  | failure (message : String)
  /-- The run is broken off, because sorting gave up. -/
  | crash (disorder : Disorder)

/-- Lines as they are written. -/
def printed (lines : List String) : String :=
  String.join (lines.map fun line => line ++ "\n")

namespace Outcome

/-- The end of a successful run. -/
def success (lines : List String) : Outcome :=
  ⟨0, printed lines, none⟩

/-- The end of a run that failed. -/
def ofError : RunError → Outcome
  | .query error =>
      ⟨2, printed [(ErrorDocument.ofQueryError error).outline.indented 0], none⟩
  | .failure message => ⟨1, "", some ("error: " ++ message)⟩
  | .crash _ => ⟨101, "", none⟩

/-- How the command is to be used. -/
def usage : List String :=
  ["Resolve JSON:API query parameters and render compound documents", "",
    "Usage: jsonapi-query [--config PATH] [--format text|json] COMMAND", "",
    "Commands:",
    "  inspect TYPE [QUERY]                Resolve a query string into a query specification",
    "  render TYPE [QUERY] --data FILE [--id ID] [--base-url URL]",
    "                                      Render a compound document from a JSON fixture"]

/-- The version of the command. -/
def version : String := "jsonapi-query 0.4.0"

/-- The end of a run without a command. -/
def ofRefusal : Refusal → Outcome
  | .misuse => ⟨2, "", some "error: invalid usage; try --help"⟩
  | .help => success usage
  | .version => success [version]

end Outcome

/-- The configuration file inside the directory of configurations. -/
def defaultConfigPath (directory : String) : String :=
  (if directory.endsWith "/" then directory else directory ++ "/") ++
    "jsonapi-query/config.toml"

/-- The configuration file of a run: the one named, or the one in the directory
of configurations. -/
def configPath
    (environment : Environment)
    (named : Option String) : Except ConfigError String :=
  match named.or (environment.configDirectory.map defaultConfigPath) with
  | some path => .ok path
  | none => .error .noPath

/-- Resolves a query string, in front of which there may be question marks. -/
def specify
    (configuration : Configuration)
    (resourceType query : String) :
    Except RunError QuerySpecification :=
  let written := String.ofList (query.toList.dropWhile (· = '?'))
  (QuerySpecification.ofQueryString configuration.schema .builtins
      configuration.settings resourceType written).mapError .query

/-- A failure with the message of an error. -/
def failing
    {ε α : Type}
    (message : ε → String) : Except ε α → Except RunError α :=
  Except.mapError fun error => .failure (message error)

/-- The failure of a run that finds no page of a collection. -/
def RunError.ofCollectionFault : CollectionFault → RunError
  | .refused error => .failure error.message
  | .disordered disorder => .crash disorder

/-- Loads the store from the fixture in a file. -/
def loadStore
    (configuration : Configuration)
    (files : Files)
    (path : String) :
    Except StoreError Store :=
  match files.textAt path with
  | .error fault => .error (.unreadable path fault)
  | .ok text => Store.ofText configuration.schema text

/-- Renders the document that answers a specification. -/
def renderDocument
    (configuration : Configuration)
    (store : Store)
    (specification : QuerySpecification)
    (id : Option String)
    (base : Option Url) :
    Except RunError Document := do
  let assembler :=
    Assembler.ofStore configuration.schema store configuration.settings.linkage
  match id with
  | some id => do
    let record ← failing StoreError.message
        (store.findOne specification.resourceType id)
    failing AssemblyError.message (assembler.assembleOne specification record)
  | none => do
    let found ←
      (store.findCollection specification.resourceType
        specification).mapError RunError.ofCollectionFault
    let document ← failing AssemblyError.message
      (assembler.assembleCollection specification found.items)
    let told := document.withInformation "total" (.ofNat found.total)
    match base with
    | some base =>
        pure (told.withLinks (specification.page.links base found.total))
    | none => pure told

/-- The lines that a command writes. -/
def Command.run
    (configuration : Configuration)
    (files : Files)
    (format : OutputFormat) :
    Command → Except RunError (List String)
  | .inspect resourceType query => do
    let specification ← specify configuration resourceType query
    match format with
    | .text => pure specification.lines
    | .json => pure [specification.outline.indented 0]
  | .render resourceType query data id base => do
    let specification ← specify configuration resourceType query
    let store ← failing StoreError.message (loadStore configuration files data)
    let document ← renderDocument configuration store specification id base
    match format with
    | .text => pure document.lines
    | .json => pure [document.toJson.indented]

/-- The lines that an invocation writes. -/
def Invocation.run
    (invocation : Invocation)
    (environment : Environment)
    (files : Files) :
    Except RunError (List String) := do
  let path ← failing ConfigError.message
      (configPath environment invocation.config)
  let configuration ← failing ConfigError.message (files.configurationAt path)
  invocation.command.run configuration files invocation.format

/-- Carries out a command line. -/
def run
    (environment : Environment)
    (files : Files)
    (arguments : List String) : Outcome :=
  match readArguments environment.configVariable arguments with
  | .error refusal => .ofRefusal refusal
  | .ok invocation =>
    match invocation.run environment files with
    | .ok lines => .success lines
    | .error error => .ofError error

/-- The configuration in a text, or why there is none. -/
def configurationIn (path : String) :
    Except FileFault String → Except ConfigError Configuration
  | .error fault => .error (.unreadable path fault)
  | .ok text => Configuration.ofToml text

/-- Files given by their texts. -/
def Files.ofTexts (textAt : String → Except FileFault String) : Files where
  configurationAt := fun path => configurationIn path (textAt path)
  textAt := textAt

/-- The files that an invocation reads. -/
def Invocation.paths
    (invocation : Invocation)
    (environment : Environment) : List String :=
  let config :=
    match configPath environment invocation.config with
    | .ok path => [path]
    | .error _ => []
  match invocation.command with
  | .inspect .. => config
  | .render _ _ data _ _ => config ++ [data]

end JsonApi.CommandLine
