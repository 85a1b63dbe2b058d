import TopicRouting.Config.Override
import TopicRouting.Folder
import TopicRouting.Json.Reader
import TopicRouting.Json.Writer
import TopicRouting.Yaml

/-! A configuration has sections with settings. A file lays its sections over the defaults and
environment variables lie over both. -/
namespace TopicRouting

abbrev Sections := List (Value × Dict)

namespace Sections

def find? (s : Sections) (name : Value) : Option Dict :=
  (List.find? (fun entry => entry.1.sameKey name) s).map (·.2)

def put : Sections → Value → Dict → Sections
  | [], name, settings => [(name, settings)]
  | (n, d) :: rest, name, settings =>
      if n.sameKey name then (n, settings) :: rest else (n, d) :: put rest name settings

def settings (s : Sections) (name : Value) : Dict := (find? s name).getD []

def set (s : Sections) (name key value : Value) : Sections :=
  put s name (Dict.put (settings s name) key value)

def get? (s : Sections) (name key : Value) : Option Value :=
  match Dict.find? (settings s name) key with
  | some .null | none => none
  | some v => some v

def extend (s : Sections) (name : Value) (later : Dict) : Sections :=
  put s name (Dict.overlay (settings s name) later)

def toDict (s : Sections) : Dict := s.map fun (name, settings) => (name, .dict settings)

end Sections

structure Config where
  file : Text
  sections : Sections

namespace Config

def defaults : Sections :=
  let entry (key : Text) (v : Value) : Value × Value := (.text key, v)
  [ (.text "bus",
      [entry "url" (.text "mqtt://localhost:1883"), entry "client_id" .null,
        entry "keepalive" (.int 60), entry "qos" (.int 0)]),
    (.text "patterns", []),
    (.text "logging", [entry "level" (.text "INFO")]),
    (.text "monitoring",
      [entry "prometheus_enabled" (.bool false), entry "prometheus_port" (.int 9090)]),
    (.text "api", [entry "host" (.text "0.0.0.0"), entry "port" (.int 8080)]) ]

inductive Format where
  | yaml
  | json
  deriving DecidableEq, Repr

namespace Format

def ofName? (name : Text) : Option Format :=
  if Text.endsWith ".yaml" name || Text.endsWith ".yml" name then some yaml
  else if Text.endsWith ".json" name then some json
  else none

def read (text : Text) : Format → Except Error Value
  | yaml => ((Yaml.read text).mapError Yaml.Fault.error).map fun v => v.orElse (.dict [])
  | json => (Json.read text).mapError fun
      | .malformed => .plain .jsonDecode []
      | .tooManyDigits count => .value (.tooManyDigits count)
      | .tooDeep => .tooDeep

def draft (d : Dict) : Format → Draft
  | yaml => .ofResult (Yaml.write d)
  | json => Json.draftIndented (.dict d)

def writeError (cause : WriteError) (format : Format) : Error :=
  if cause = .noForm ∧ format = yaml then .plain .yamlUnwritable [] else .ofWrite cause

end Format

def mergeSection (file : Text) (s : Sections) (entry : Value × Value) : Except Error Sections :=
  match entry.2 with
  | .null => .ok s
  | .dict later => .ok (s.extend entry.1 later)
  | _ => .error (.value (.sectionNotMapping entry.1 file))

def merge (file : Text) (s : Sections) : Value → Except Error Sections
  | .dict document => document.foldlM (mergeSection file) s
  | _ => .error (.value (.notMapping file))

def applyOverride (env : Environment) (s : Sections) (o : Override) : Sections :=
  match o.value? env with
  | some v => s.set (.text o.group) (.text o.key) v
  | none => s

def applyEnvironment (env : Environment) (s : Sections) : Sections :=
  Override.all.foldl (applyOverride env) s

def fileName (env : Environment) (given : Text) : Text :=
  if given.isEmpty then (Environment.find? env "TOPICBUS_CONFIG").getD "topicbus.yaml" else given

/-- The defaults under the sections of a file. A file that is missing or whose name says no
format is passed over. -/
def readSections (folder : Folder) (file : Text) : Except Error Sections := do
  match ← folder.read file, Format.ofName? file with
  | some text, some format => merge file defaults (← format.read text)
  | _, _ => .ok defaults

def load (folder : Folder) (env : Environment) (given : Text) : Except Error Config := do
  let file := fileName env given
  let sections ← readSections folder file
  .ok ⟨file, applyEnvironment env sections⟩

def get (c : Config) (name key default : Value) : Value := (c.sections.get? name key).getD default

def set (c : Config) (name key value : Value) : Config :=
  { c with sections := c.sections.set name key value }

def lookup (c : Config) (name key default : Value) : Except Error Value :=
  if !name.isKey then .error (.unhashable name)
  else if !key.isKey then .error (.unhashable key)
  else .ok (c.get name key default)

def change (c : Config) (name key value : Value) : Config × Except Error Unit :=
  if !name.isKey then (c, .error (.unhashable name))
  else if !key.isKey then
    ({ c with sections := c.sections.extend name [] }, .error (.unhashable key))
  else (c.set name key value, .ok ())

def patterns (c : Config) : Dict := c.sections.settings (.text "patterns")

/-- Writes the configuration to a file, its own if none is named. What is not named as YAML is
JSON. A file that could not be written to its end holds what was written before. -/
def save (c : Config) (folder : Folder) (given : Text) : Folder × Except Error Text :=
  let file := if given.isEmpty then c.file else given
  let format := if Format.ofName? file = some .yaml then Format.yaml else .json
  let draft := format.draft c.sections.toDict
  match folder.write file draft.text with
  | .error e => (folder, .error e)
  | .ok folder => (folder, draft.result.mapError format.writeError)

end Config
end TopicRouting
