import GraphQuery.Settings.Basic

/-! Which settings may be used. -/
namespace GraphQuery

/-- What is wrong with a field. -/
structure Violation where
  field : String
  code : String
  message : String
deriving DecidableEq

/-- Why settings cannot be used. -/
inductive SettingsError where
  /-- The text of a field, or of the whole source, could not be read. -/
  | parse (field value : String)
  | invalid (violations : List Violation)
deriving DecidableEq

namespace Settings

def identifierViolations (field value : String) : List Violation :=
  if Identifier.isPlain value.toList then []
  else [⟨field, "identifier", "must be a plain Cypher identifier"⟩]

def suffixViolations (field value : String) : List Violation :=
  (if value.isEmpty then [⟨field, "length", "Update suffix cannot be empty"⟩] else []) ++
  if value.toList.all Identifier.isWord then []
  else [⟨field, "suffix", "may only contain letters, digits and underscores"⟩]

/-- Sorted by field, then by code. -/
def violations (s : Settings) : List Violation :=
  identifierViolations "aggregate_alias" s.aggregateAlias ++
  identifierViolations "fallback_node_alias" s.fallbackAlias ++
  identifierViolations "identity_column" s.identityColumn ++
  identifierViolations "identity_function" s.identityFunction ++
  suffixViolations "update_suffix" s.updateSuffix

def validate (s : Settings) : Except SettingsError Settings :=
  if s.violations.isEmpty then .ok s else .error (.invalid s.violations)

end Settings
end GraphQuery
