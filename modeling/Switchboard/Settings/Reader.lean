import Switchboard.Document.Json
import Switchboard.Document.Yaml
import Switchboard.Files
import Switchboard.Settings
/-!
# Reading settings

Settings as text, in JSON or YAML. Of a text in either notation JSON is tried first; whatever is
wrong with the text as JSON, it is then read as YAML, and a fault is that of YAML.

* `Settings.ReadFault` — why there are no settings.
* `Settings.ofJson`, `ofYaml`, `ofText` — settings from text.
* `Settings.ofFile` — settings from the contents of a file.
-/

namespace Switchboard.Settings

/-- Why settings cannot be read. -/
inductive ReadFault
  | unreadable (path : String) (why : FileFault)
  | notText
  /-- The text is no JSON, or no settings are written in it. -/
  | json
  /-- The text is no YAML, or no settings are written in it. -/
  | yaml
  | invalid (why : SettingsFault)
  deriving DecidableEq, Repr, Inhabited

/-- The settings that a document holds, if they are any and go together. -/
def ofDocument (fault : ReadFault) (d : Option Document) : Except ReadFault Settings :=
  match d.bind Draft.ofDocument with
  | none => .error fault
  | some draft =>
    match ofDraft draft with
    | .ok s => .ok s
    | .error why => .error (.invalid why)

def ofJson (s : String) : Except ReadFault Settings := ofDocument .json (Document.ofJson s)

/-- Settings in YAML; in a text of blanks nothing is written. -/
def ofYaml (s : String) : Except ReadFault Settings :=
  if Text.isBlankText s then .ok standard else ofDocument .yaml (Document.ofYaml s)

/-- Settings in JSON, or else in YAML. -/
def ofText (s : String) : Except ReadFault Settings :=
  match ofJson s with
  | .ok settings => .ok settings
  | .error _ => ofYaml s

def missingMessage (path : String) : String := "failed to find config at " ++ path

/-- Settings from the bytes of a file, if it can be read. -/
def ofFile (path : String) (bytes : Except FileFault ByteArray) : Except ReadFault Settings :=
  match bytes with
  | .error why => .error (.unreadable path why)
  | .ok bytes =>
    match String.fromUTF8? bytes with
    | none => .error .notText
    | some text => (ofText text).map fun s => { s with path := some path }

end Switchboard.Settings
