import JsonApi.Fault
import JsonApi.Json.Basic
import JsonApi.Schema
import JsonApi.Text.Basic
import JsonApi.Toml.Document

/-!
# Configurations

A configuration is read from its sections, written with all of them, and
validated.
-/

/-!
## Sections of a configuration

A configuration is a value with nested sections, whatever format it was
written in.  A section is an object whose members are the fields of the
section; a field may have a second spelling, but may not be given under both,
and unknown members are ignored.  A section may also be written as the array of
its fields in their fixed order, of which the last ones may be left out.  A
field that is not given has its default value.

The two formats differ in two points only: in JSON an array must not be
longer than the section, and a choice written as an object carries null, while
in TOML it carries nothing, that is an empty table or array.
-/

namespace JsonApi.Config

/-- A format in which configurations are written. -/
inductive Format where
  | json
  | toml
deriving DecidableEq

/-- The fields that were given in a section, each under its first spelling. -/
abbrev Section := List (String × Json)

/-- Looks up a field under its spellings; fails when it was given under several
of them. -/
def givenField?
    (members : List (String × Json))
    (spellings : List String) :
    Option (List (String × Json)) :=
  match spellings.filterMap (Dictionary.find? members), spellings with
  | [], _ => some []
  | [value], name :: _ => some [(name, value)]
  | _, _ => none

/-- Whether an array may stand for a section with the given number of fields. -/
def Format.admitsLength (format : Format) (length fields : Nat) : Bool :=
  match format with
  | .json => length ≤ fields
  | .toml => true

/-- Reads a section whose fields have the given spellings. -/
def readSection?
    (format : Format)
    (fields : List (List String)) :
    Json → Option Section
  | .object members => (fields.mapM (givenField? members)).map List.flatten
  | .array items =>
    if format.admitsLength items.length fields.length then
      some ((fields.filterMap List.head?).zip items)
    else none
  | _ => none

/-- Reads a field of a section, which has a default value. -/
def Section.fieldOr?
    {α : Type}
    (given : Section)
    (name : String)
    (default : α)
    (read? : Json → Option α) : Option α :=
  match given.lookup name with
  | some value => read? value
  | none => some default

/-- Reads a field of a section that has to be given. -/
def Section.field?
    {α : Type}
    (given : Section)
    (name : String)
    (read? : Json → Option α) :
    Option α :=
  (given.lookup name).bind read?

/-- Reads an unsigned 64-bit count. -/
def count? : Json → Option Nat
  | .number (.integer value) =>
    if 0 ≤ value ∧ value < Text.wordLimit then some value.toNat else none
  | _ => none

/-- Reads a boolean. -/
def flag? : Json → Option Bool
  | .bool value => some value
  | _ => none

/-- Reads a list of texts. -/
def texts? : Json → Option (List String)
  | .array items => items.mapM Json.text?
  | _ => none

/-- Reads an object all of whose members are of one kind. -/
def dictionary?
    {α : Type}
    (read? : Json → Option α) : Json → Option (List (String × α))
  | .object members =>
      members.mapM fun (name, value) => (read? value).map fun read =>
        (name, read)
  | _ => none

/-- Whether a value is what a choice written as an object carries. -/
def Format.isBlankPayload : Format → Json → Bool
  | .json, .null => true
  | .toml, .object members => members.isEmpty
  | .toml, .array items => items.isEmpty
  | _, _ => false

/-- Reads a choice among names: the name itself, or an object with that name
alone. -/
def choice?
    {α : Type}
    (format : Format)
    (options : List (String × α)) : Json → Option α
  | .string name => options.lookup name
  | .object [(name, payload)] =>
    if format.isBlankPayload payload then options.lookup name else none
  | _ => none

end JsonApi.Config

/-!
## Reading a configuration

A configuration has the sections `pagination`, `sort`, `limits` and
`relationships`, which together are the settings, and the section `resources`
with the schema.  Fields are written with underscores; those of the settings,
apart from the weights, also have a spelling in camel case.
-/

namespace JsonApi

/-- A configuration: the settings and the schema. -/
structure Configuration where
  settings : Settings := {}
  schema : Schema := .empty
deriving DecidableEq

namespace Config

/-- The spellings of the linkage policies. -/
def linkageNames : List (String × LinkagePolicy) :=
  [("never", .never), ("when_included", .whenIncluded), ("always", .always)]

/-- Reads the bounds of pages. -/
def pages? (format : Format) (value : Json) : Option PageSettings := do
  let given ← readSection? format
    [["default_size", "defaultSize"], ["max_size", "maxSize"]] value
  let standard : PageSettings := {}
  pure
    { defaultSize := ← given.fieldOr? "default_size" standard.defaultSize count?
      maxSize := ← given.fieldOr? "max_size" standard.maxSize count? }

/-- Reads what may be sorted by. -/
def sorting? (format : Format) (value : Json) : Option SortSettings := do
  let given ← readSection? format
    [["whitelist_per_type", "whitelistPerType"]] value
  pure
    { whitelist :=
        ← given.fieldOr? "whitelist_per_type" [] (dictionary? texts?) }

/-- Reads the weights of the complexity score. -/
def weights? (format : Format) (value : Json) : Option ComplexityWeights := do
  let given ← readSection? format [["include"], ["field"], ["filter"]] value
  let standard : ComplexityWeights := {}
  pure
    { inclusion := ← given.fieldOr? "include" standard.inclusion count?
      field := ← given.fieldOr? "field" standard.field count?
      filter := ← given.fieldOr? "filter" standard.filter count? }

/-- The spellings of the fields of the limits. -/
def limitFields : List (List String) :=
  [["include_max_depth", "includeMaxDepth"],
    ["include_max_paths", "includeMaxPaths"],
    ["fields_max_total", "fieldsMaxTotal"],
    ["filter_max_depth", "filterMaxDepth"],
    ["filter_max_operands", "filterMaxOperands"],
    ["complexity_budget", "complexityBudget"],
    ["weights"]]

/-- Reads the limits. -/
def limits? (format : Format) (value : Json) : Option Limits := do
  let given ← readSection? format limitFields value
  let standard : Limits := {}
  pure
    { includeMaxDepth :=
        ← given.fieldOr? "include_max_depth" standard.includeMaxDepth count?
      includeMaxPaths :=
        ← given.fieldOr? "include_max_paths" standard.includeMaxPaths count?
      fieldsMaxTotal :=
        ← given.fieldOr? "fields_max_total" standard.fieldsMaxTotal count?
      filterMaxDepth :=
        ← given.fieldOr? "filter_max_depth" standard.filterMaxDepth count?
      filterMaxOperands :=
        ← given.fieldOr? "filter_max_operands" standard.filterMaxOperands count?
      complexityBudget :=
        ← given.fieldOr? "complexity_budget" standard.complexityBudget count?
      weights := ← given.fieldOr? "weights" standard.weights (weights? format) }

/-- Reads the linkage policy out of the section on relationships. -/
def linkage? (format : Format) (value : Json) : Option LinkagePolicy := do
  let given ← readSection? format
    [["linkage_in_resource", "linkageInResource"]] value
  let standard : Settings := {}
  given.fieldOr? "linkage_in_resource" standard.linkage
    (choice? format linkageNames)

/-- The sections of the settings. -/
def settingsSections : List (List String) :=
  [["pagination"], ["sort"], ["limits"], ["relationships"]]

/-- Reads the settings out of the sections that were given. -/
def settingsOf? (format : Format) (given : Section) : Option Settings := do
  let standard : Settings := {}
  pure
    { pages := ← given.fieldOr? "pagination" standard.pages (pages? format)
      sorting := ← given.fieldOr? "sort" standard.sorting (sorting? format)
      limits := ← given.fieldOr? "limits" standard.limits (limits? format)
      linkage :=
        ← given.fieldOr? "relationships" standard.linkage (linkage? format) }

/-- Reads the declaration of a relationship; it leads to one resource unless it
says otherwise. -/
def relationship? (format : Format) (value : Json) : Option Relationship := do
  let given ← readSection? format [["target"], ["to_many"]] value
  pure
    { target := ← given.field? "target" Json.text?
      toMany := ← given.fieldOr? "to_many" false flag? }

/-- Reads the declaration of a resource type. -/
def resourceType? (format : Format) (value : Json) : Option ResourceType := do
  let given ← readSection? format [["attributes"], ["relationships"]] value
  pure
    { attributes := Names.ofList (← given.fieldOr? "attributes" [] texts?)
      relationships :=
        ← given.fieldOr? "relationships" []
          (dictionary? (relationship? format)) }

/-- Reads a schema. -/
def schema? (format : Format) (value : Json) : Option Schema :=
  (dictionary? (resourceType? format) value).map Schema.mk

end Config

/-- Reads settings, without looking at a schema. -/
def Settings.ofJson?
    (format : Config.Format)
    (value : Json) : Option Settings := do
  let given ← Config.readSection? format Config.settingsSections value
  Config.settingsOf? format given

/-- Reads a configuration. -/
def Configuration.ofJson?
    (format : Config.Format)
    (value : Json) : Option Configuration := do
  let given ← Config.readSection? format
      (Config.settingsSections ++ [["resources"]]) value
  pure
    { settings := ← Config.settingsOf? format given
      schema := ← given.fieldOr? "resources" .empty (Config.schema? format) }

/-!
## Writing a configuration

A configuration is written with all its sections and fields, also those that
have their default values.
-/

/-- The spelling of a linkage policy. -/
def LinkagePolicy.name : LinkagePolicy → String
  | never => "never"
  | whenIncluded => "when_included"
  | always => "always"

/-- Names as JSON strings under their keys. -/
def Config.textsByKey (entries : List (String × List String)) : Json :=
  .object (Dictionary.mapValues Json.ofTexts entries)

/-- The bounds of pages as JSON. -/
def PageSettings.toJson (pages : PageSettings) : Json :=
  .object [("default_size", .ofNat pages.defaultSize),
      ("max_size", .ofNat pages.maxSize)]

/-- The sort settings as JSON. -/
def SortSettings.toJson (sorting : SortSettings) : Json :=
  .object [("whitelist_per_type", Config.textsByKey sorting.whitelist)]

/-- The weights as JSON. -/
def ComplexityWeights.toJson (weights : ComplexityWeights) : Json :=
  .object [("field", .ofNat weights.field), ("filter", .ofNat weights.filter),
    ("include", .ofNat weights.inclusion)]

/-- The limits as JSON. -/
def Limits.toJson (limits : Limits) : Json :=
  .object
    [("complexity_budget", .ofNat limits.complexityBudget),
      ("fields_max_total", .ofNat limits.fieldsMaxTotal),
      ("filter_max_depth", .ofNat limits.filterMaxDepth),
      ("filter_max_operands", .ofNat limits.filterMaxOperands),
      ("include_max_depth", .ofNat limits.includeMaxDepth),
      ("include_max_paths", .ofNat limits.includeMaxPaths),
      ("weights", limits.weights.toJson)]

/-- The sections of the settings as JSON members. -/
def Settings.members (settings : Settings) : List (String × Json) :=
  [("limits", settings.limits.toJson), ("pagination", settings.pages.toJson),
    ("relationships",
    .object [("linkage_in_resource", .string settings.linkage.name)]), ("sort",
    settings.sorting.toJson)]

/-- The settings as JSON. -/
def Settings.toJson (settings : Settings) : Json :=
  .object settings.members

/-- A relationship as JSON. -/
def Relationship.toJson (relationship : Relationship) : Json :=
  .object [("target", .string relationship.target),
      ("to_many", .bool relationship.toMany)]

/-- Relationships as JSON, each under its name. -/
def Relationship.byNameToJson (relationships : List (String × Relationship)) :
    Json :=
  .object (Dictionary.mapValues Relationship.toJson relationships)

/-- A resource type as JSON. -/
def ResourceType.toJson (resourceType : ResourceType) : Json :=
  .object [("attributes", Json.ofTexts resourceType.attributes),
    ("relationships", Relationship.byNameToJson resourceType.relationships)]

/-- A schema as JSON. -/
def Schema.toJson (schema : Schema) : Json :=
  .object (Dictionary.mapValues ResourceType.toJson schema.types)

/-- A configuration as JSON. -/
def Configuration.toJson (configuration : Configuration) : Json :=
  .object (Dictionary.insert "resources" configuration.schema.toJson
    configuration.settings.members)

/-!
## Sound configurations

Settings are sound when every request can have a page and a depth at all.  A
configuration is sound when moreover its relationships lead to declared types
and its sort allow-lists name fields of declared types.  Of several faults the
first one is reported, in the order in which they are checked here.
-/

open JsonApi.Text

/-- What makes a configuration unsound. -/
inductive ConfigFault where
  /-- The knob has to be at least one. -/
  | belowOne (knob : String)
  /-- The default page size is zero or greater than the greatest one. -/
  | defaultSizeOutOfRange (maxSize : Nat)
  | danglingRelationship (resourceType relationship target : String)
  /-- A sort allow-list belongs to a type that is not declared. -/
  | undeclaredSortType (resourceType : String)
  /-- A sort allow-list names what is no field of its type. -/
  | unknownSortField (resourceType field : String)
deriving DecidableEq

namespace ConfigFault

/-- The dotted name of the knob at fault. -/
def key : ConfigFault → String
  | belowOne knob => knob
  | defaultSizeOutOfRange _ => "pagination.default_size"
  | danglingRelationship resourceType relationship _ =>
    s!"resources.{resourceType}.relationships.{relationship}"
  | undeclaredSortType resourceType =>
      s!"sort.whitelist_per_type.{resourceType}"
  | unknownSortField resourceType _ =>
      s!"sort.whitelist_per_type.{resourceType}"

/-- Why the value of the knob was rejected. -/
def reason : ConfigFault → String
  | belowOne _ => "must be >= 1"
  | defaultSizeOutOfRange maxSize => s!"must be within [1, {maxSize}]"
  | danglingRelationship _ _ target => s!"targets undeclared type '{target}'"
  | undeclaredSortType _ => "names an undeclared resource type"
  | unknownSortField resourceType field =>
      s!"'{field}' is not a field of '{resourceType}'"

end ConfigFault

/-- Why a configuration cannot be used. -/
inductive ConfigError where
  /-- The file could not be read. -/
  | unreadable (path : String) (fault : FileFault)
  /-- The text is not of the expected form. -/
  | malformed
  /-- The configuration is unsound. -/
  | invalid (fault : ConfigFault)
  /-- No file was named and there is no directory to look in. -/
  | noPath
deriving DecidableEq

/-- The message of an error. -/
def ConfigError.message : ConfigError → String
  | unreadable path fault => s!"failed to read config {path}: {fault.message}"
  | malformed => "failed to parse config"
  | invalid fault => s!"invalid config value for {fault.key}: {fault.reason}"
  | noPath =>
      "no config directory found; pass --config or set JSONAPI_QUERY_CONFIG"

namespace Settings

/-- The knobs that have to be at least one and are checked after the page
sizes. -/
def positiveKnobs (settings : Settings) : List (String × Nat) :=
  [("limits.include_max_depth", settings.limits.includeMaxDepth),
    ("limits.filter_max_depth", settings.limits.filterMaxDepth),
    ("limits.filter_max_operands", settings.limits.filterMaxOperands)]

/-- The first fault of settings. -/
def fault? (settings : Settings) : Option ConfigFault :=
  let pages := settings.pages
  if pages.maxSize = 0 then some (.belowOne "pagination.max_size")
  else if pages.defaultSize = 0 ∨ pages.maxSize < pages.defaultSize then
    some (.defaultSizeOutOfRange pages.maxSize)
  else (settings.positiveKnobs.find? fun knob => knob.2 = 0).map fun knob =>
    .belowOne knob.1

/-- Whether a sort allow-list may name a field: the identifier, an attribute, or
a path that begins with a relationship. -/
def isSortable (schema : Schema) (resourceType field : String) : Bool :=
  field = idField || schema.hasAttribute resourceType field ||
    (schema.relationship? resourceType ((splitAt '.' field).headD field)).isSome

/-- The first fault of the sort allow-list of a type. -/
def sortFault?
    (schema : Schema)
    (entry : String × List String) : Option ConfigFault :=
  if schema.hasType entry.1 then
    (entry.2.find? fun field => !isSortable schema entry.1 field).map
      (.unknownSortField entry.1)
  else some (.undeclaredSortType entry.1)

/-- The first fault of sort allow-lists against a schema. -/
def faultAgainst?
    (settings : Settings)
    (schema : Schema) : Option ConfigFault :=
  settings.sorting.whitelist.findSome? (sortFault? schema)

end Settings

/-- The first relationship of a schema whose target is not declared, as a
fault. -/
def Schema.danglingFault? (schema : Schema) : Option ConfigFault :=
  schema.dangling.head?.map fun (resourceType, name, target) =>
    .danglingRelationship resourceType name target

/-- The first fault of a configuration. -/
def Configuration.fault? (configuration : Configuration) : Option ConfigFault :=
  configuration.settings.fault?.or
    (configuration.schema.danglingFault?.or
      (configuration.settings.faultAgainst? configuration.schema))

namespace Config

/-- What was read, if it was read and has no fault. -/
def sound
    {α : Type}
    (fault? : α → Option ConfigFault)
    (read : Option α) : Except ConfigError α :=
  match read with
  | none => .error .malformed
  | some value =>
    match fault? value with
    | some fault => .error (.invalid fault)
    | none => .ok value

end Config

/-- Loads sound settings from a value. -/
def Settings.load
    (format : Config.Format)
    (value : Json) : Except ConfigError Settings :=
  Config.sound Settings.fault? (Settings.ofJson? format value)

/-- Loads sound settings from a TOML text. -/
def Settings.ofToml (text : String) : Except ConfigError Settings :=
  Config.sound Settings.fault? ((Toml.read? text).bind (Settings.ofJson? .toml))

/-- Loads a sound configuration from a value. -/
def Configuration.load
    (format : Config.Format)
    (value : Json) :
    Except ConfigError Configuration :=
  Config.sound Configuration.fault? (Configuration.ofJson? format value)

/-- Loads a sound configuration from a TOML text. -/
def Configuration.ofToml (text : String) : Except ConfigError Configuration :=
  Config.sound Configuration.fault?
    ((Toml.read? text).bind (Configuration.ofJson? .toml))

end JsonApi
