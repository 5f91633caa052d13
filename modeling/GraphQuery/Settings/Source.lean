import GraphQuery.Settings.Validation
import GraphQuery.Yaml.Document

/-! Settings from the environment and from a file. -/
namespace GraphQuery.Settings

/-- Reads the settings from variables, whose values are bytes. A value that is no text counts as
not set. -/
def ofEnvironment (environment : List (String × ByteArray)) : Except SettingsError Settings :=
  let text (name default : String) :=
    ((environment.lookup ("CYPHER_BUILDER_" ++ name)).bind String.fromUTF8?).getD default
  let d : Settings := {}
  validate
    { identityColumn := text "IDENTITY_COLUMN" d.identityColumn
      identityFunction := text "IDENTITY_FUNCTION" d.identityFunction
      aggregateAlias := text "AGGREGATE_ALIAS" d.aggregateAlias
      fallbackAlias := text "FALLBACK_NODE_ALIAS" d.fallbackAlias
      updateSuffix := text "UPDATE_SUFFIX" d.updateSuffix }

/-- The fields that were given, by name. -/
abbrev Given := List (String × String)

def fieldNames : List String :=
  ["identity_column", "identity_function", "aggregate_alias", "fallback_node_alias",
    "update_suffix"]

/-- Each field at most once and as a scalar; other keys do not matter. -/
def given? (given : Given) : List (String × Option String) → Option Given
  | [] => some given
  | (key, value) :: rest =>
    if key ∈ fieldNames then
      match given.lookup key, value with
      | none, some text => given? (given ++ [(key, text)]) rest
      | _, _ => none
    else given? given rest

def ofGiven (given : Given) : Settings :=
  let text (name default : String) := (given.lookup name).getD default
  let d : Settings := {}
  { identityColumn := text "identity_column" d.identityColumn
    identityFunction := text "identity_function" d.identityFunction
    aggregateAlias := text "aggregate_alias" d.aggregateAlias
    fallbackAlias := text "fallback_node_alias" d.fallbackAlias
    updateSuffix := text "update_suffix" d.updateSuffix }

/-- The content of a settings file, or none when there is no such file. -/
def ofYaml (content : Option String) : Except SettingsError Settings :=
  match content with
  | none => .error (.parse "yaml_file" "file read failed")
  | some text =>
    match (Yaml.fields? text).bind (given? []) with
    | some given => validate (ofGiven given)
    | none => .error (.parse "yaml_content" text)

end GraphQuery.Settings
