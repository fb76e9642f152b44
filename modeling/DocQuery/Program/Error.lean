import DocQuery.Config.Basic
import DocQuery.Store.Dataset

/-!
# Errors of the program

Why the program gives up before or while it answers, and the two readings that can make it: of the
text of a dataset and of the settings of a configuration.
-/

namespace DocQuery

inductive ProgramError where
  | noConfig (path : String)
  | unsettable (variableName : String)
  | unknownZone (name : String)
  | dataset (e : DatasetError)
  | badToml
  | badJson
  | unreadable
  | query (e : QueryError)
deriving DecidableEq

def ProgramError.message : ProgramError → String
  | .noConfig path => "Configuration file not found: " ++ path
  | .unsettable name => "Variable '" ++ name ++ "' cannot hold a NUL character"
  | .unknownZone name => "Unknown time zone '" ++ name ++ "'"
  | .dataset e => "Invalid dataset: " ++ e.message
  | .badToml => "TOML error"
  | .badJson => "JSON error"
  | .unreadable => "IO error"
  | .query e => e.message

def brokenExit : Nat := 101

def ProgramError.exit : ProgramError → Nat
  | .unsettable _ => brokenExit
  | _ => 1

def Dataset.ofText (text : String) : Except ProgramError Collections :=
  match Json.parse? text with
  | none => .error .badJson
  | some v => (Dataset.load v).mapError .dataset

def Config.sessionSettings (c : Config) (clocks : Clocks) : Except ProgramError Settings :=
  (c.settings clocks).mapError .unknownZone

end DocQuery
