import WebAccess.Document.Json.Reader
import WebAccess.Document.Toml.Reader
import WebAccess.Settings.Codec
import WebAccess.Settings.Validation
import WebAccess.Settings.VariableFile
import WebAccess.Text.UpperCase

/-!
# Loading settings

Settings come in layers: a preset to start from, documents, and the environment. A document
replaces all settings that were there; what it does not give has its default. The environment
changes single settings, and only if a beginning for the names of its variables was chosen.
-/

set_option autoImplicit false

namespace WebAccess.Settings

open WebAccess.Document

/-- The forms in which settings are written down. -/
inductive DocumentFormat where
  /-- TOML. -/
  | toml
  /-- JSON. -/
  | json
deriving DecidableEq, Repr

/-- The form with the given name, in any case. -/
def DocumentFormat.ofName? (name : String) : Option DocumentFormat :=
  if lowerCase name = "toml" then some .toml
  else if lowerCase name = "json" then some .json
  else none

/-- Takes settings from a document. -/
def ofDocument (format : DocumentFormat) (text : String) : Except Error Settings :=
  match format with
  | .toml =>
    match Toml.read text with
    | none => .error (.toml .malformed)
    | some t => (Settings.decode .toml t).mapError .toml
  | .json => (whole (Settings.decode .jsonText) (Json.read text)).mapError .json

/-- What stands under a name in a directory. -/
inductive FileEntry where
  /-- A file with its bytes. -/
  | file (bytes : ByteArray)
  /-- A directory. -/
  | directory

/-- What can be told about a name. -/
inductive Found where
  /-- No file can have the name. -/
  | impossible
  /-- Nothing stands under the name. -/
  | absent
  /-- What stands under the name is no text. -/
  | unreadable
  /-- A text stands under the name. -/
  | text (content : String)

/-- The files of a directory. -/
abbrev Directory := List (String × FileEntry)

/-- True if a file can have the name: it has at most 255 bytes, none of which is zero. -/
def isFileName (name : String) : Bool :=
  name.utf8ByteSize ≤ 255 && !name.toList.contains '\x00'

/-- What stands under a name. The directory itself and the one above it are no texts. -/
def Directory.find (d : Directory) (name : String) : Found :=
  if name = "." ∨ name = ".." then .unreadable
  else if !isFileName name then .impossible
  else
    match d.lookup name with
    | none => .absent
    | some .directory => .unreadable
    | some (.file bytes) =>
      match String.fromUTF8? bytes with
      | some content => .text content
      | none => .unreadable

/-- The part of a file name after its last point, if that is not the first character. -/
def extension? (name : String) : Option String :=
  let reversed := name.toList.reverse
  let tail := reversed.takeWhile (· ≠ '.')
  match reversed.drop tail.length with
  | _ :: _ :: _ => some (String.ofList tail.reverse)
  | _ => none

/-- What has been loaded, and what is known of the process. -/
structure Loader where
  /-- The settings so far. -/
  settings : Settings
  /-- The beginning of the names of variables, if one was chosen. -/
  beginning : Option String
  /-- The environment. -/
  environment : Environment

namespace Loader

/-- The loader that has loaded nothing. -/
def new (environment : Environment) : Loader := ⟨.default, none, environment⟩

/-- Starts again with the defaults; the environment stays. -/
def restart (l : Loader) : Loader := new l.environment

/-- Takes a preset. -/
def withPreset (l : Loader) (preset : Settings) : Loader := { l with settings := preset }

/-- Takes the settings of a document in the form named. -/
def withDocument (l : Loader) (format text : String) : Except Error Loader :=
  match DocumentFormat.ofName? format with
  | none => .error (.invalid ("unsupported configuration format: " ++ format))
  | some format => (ofDocument format text).map l.withPreset

/-- Takes the settings of a file, whose form is told by the end of its name. -/
def withFile (l : Loader) (d : Directory) (name : String) : Except Error Loader :=
  match d.find name with
  | .absent => .error (.fileNotFound name)
  | .impossible | .unreadable => .error (.unreadableFile name)
  | .text content =>
    match (extension? name).bind DocumentFormat.ofName? with
    | none => .error (.invalid ("unsupported configuration file format: " ++ name))
    | some format => (ofDocument format content).map l.withPreset

/-- Takes the settings of a file if there is one. -/
def withOptionalFile (l : Loader) (d : Directory) (name : String) : Except Error Loader :=
  match d.find name with
  | .impossible | .absent => .ok l
  | .unreadable | .text _ => l.withFile d name

/-- Chooses the beginning of the names of variables, which is always in upper case. -/
def withBeginning (l : Loader) (beginning : String) : Loader :=
  { l with beginning := some (Text.upperCase beginning) }

/-- Defines the variables of the file `.env`, if there is one. -/
def withVariableFile (l : Loader) (d : Directory) : Loader :=
  match d.lookup ".env" with
  | some (.file bytes) => { l with environment := VariableFile.load l.environment bytes }
  | none | some .directory => l

/-- The settings with what the environment changes, checked. -/
def load (l : Loader) : Except Error Settings := do
  let settings ←
    match l.beginning with
    | none => .ok l.settings
    | some beginning => l.settings.applyEnvironment beginning l.environment
  settings.validate
  return settings

end Loader

end WebAccess.Settings
