import DocQuery.Config.Environment
import DocQuery.Config.Toml
import DocQuery.Session.Request

/-!
# Configurations

A configuration names a dataset, a time zone and a base path, and tells whether identities are
shown. It is read from a file, and variables of the environment replace what the file says.
Variables without a value do not count.
-/

namespace DocQuery

/-- A configuration as it is written, before the zone is looked up. -/
structure Config where
  data : Option String := none
  timezone : Option String := none
  basePath : Option String := none
  includeId : Bool := false
deriving DecidableEq, Repr

namespace Config

def textUnder? (d : Toml.Document) (key : String) : Option (Option String) :=
  match d.get? [key] with
  | none => some none
  | some (.value (.string s)) => some (some s)
  | _ => none

def flagUnder? (d : Toml.Document) (key : String) : Option Bool :=
  match d.get? [key] with
  | none => some false
  | some (.value (.boolean b)) => some b
  | _ => none

/-- The configuration that a file writes. Other keys and tables do not count. -/
def ofText? (text : String) : Option Config := do
  let d ← Toml.parse? text
  let data ← textUnder? d "data"
  let timezone ← textUnder? d "timezone"
  let basePath ← textUnder? d "base_path"
  let includeId ← flagUnder? d "include_id"
  return { data, timezone, basePath, includeId }

def variableNames : List String :=
  ["DOCSQL_DATA", "DOCSQL_TIMEZONE", "DOCSQL_BASE_PATH", "DOCSQL_INCLUDE_ID"]

/-- The truth value that a variable writes; blanks around it and case do not count. -/
def flag? (text : String) : Option Bool :=
  let word := String.ofList ((Text.trim text.toList).map Char.toLower)
  if word ∈ ["1", "true", "yes", "on"] then some true
  else if word ∈ ["0", "false", "no", "off"] then some false
  else none

/-- The configuration under variables of the environment. A flag that is no truth value does not
count. -/
def withVariables (c : Config) (valueOf? : String → Option String) : Config :=
  let given (name : String) : Option String := (valueOf? name).filter (· != "")
  { data := (given "DOCSQL_DATA").or c.data
    timezone := (given "DOCSQL_TIMEZONE").or c.timezone
    basePath := (given "DOCSQL_BASE_PATH").or c.basePath
    includeId := ((given "DOCSQL_INCLUDE_ID").bind flag?).getD c.includeId }

def settings (c : Config) (clocks : Clocks) : Except String Settings := do
  let zone ← c.timezone.mapM fun name =>
    match Zone.ofName? name with
    | some zone => .ok zone
    | none => .error name
  let basePath := (c.basePath.map Path.trim).filter (· != "")
  return { basePath, zone, includeId := c.includeId, clocks }

end Config

end DocQuery
