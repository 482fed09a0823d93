import WebAccess.Document.Mistake
import WebAccess.Fault

/-!
# Errors of settings
-/

set_option autoImplicit false

namespace WebAccess.Settings

/-- Why settings cannot be loaded or used. -/
inductive Error where
  /-- The file does not exist. -/
  | fileNotFound (path : String)
  /-- The file cannot be read. -/
  | unreadableFile (path : String)
  /-- A TOML document has a mistake. -/
  | toml (mistake : Document.Mistake)
  /-- A JSON document has a mistake. -/
  | json (mistake : Document.Mistake)
  /-- A setting has a value that cannot be used. -/
  | invalidValue (field reason : String)
  /-- An environment variable has a value that cannot be read. -/
  | environment (name reason : String)
  /-- The settings describe a service that cannot work. -/
  | access (fault : Fault)
  /-- The settings cannot be taken from where they were sought. -/
  | invalid (reason : String)
deriving DecidableEq, Repr

/-- The message of an error; a mistake in a document speaks for itself, if it is described. -/
def Error.message? : Error → Option String
  | .fileNotFound path => some ("configuration file not found: " ++ path)
  | .unreadableFile path => some ("failed to read configuration file: " ++ path)
  | .toml mistake | .json mistake => mistake.message?
  | .invalidValue field reason =>
    some ("invalid configuration value for " ++ field ++ ": " ++ reason)
  | .environment name reason =>
    some ("failed to parse environment variable " ++ name ++ ": " ++ reason)
  | .access fault => some ("invalid webac configuration: " ++ fault.message)
  | .invalid reason => some ("configuration validation failed: " ++ reason)

end WebAccess.Settings
