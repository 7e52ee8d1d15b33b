import TaskEndpoints.Settings.Registry
import TaskEndpoints.Tags
import TaskEndpoints.Value.Integer

/-!
# Settings from the environment

Sixteen variables of the environment set settings. They are applied in the order of a table, each one
after its text was converted and its value passed the check; the first that fails ends the loading and
leaves those before it applied. The metadata files are read last.

## Implementation notes

A variable that is missing or empty changes nothing. The order of the environment does not matter,
and variables outside the table have no effect.
-/

namespace TaskEndpoints

/-- The variables of an environment. -/
abbrev Environment := List (String × String)

/-- The value of a variable; a missing one is empty. -/
def Environment.read (env : Environment) (name : String) : String := (env.lookup name).getD ""

/-- How the text of a variable becomes a value. -/
inductive Conversion where
  | text
  | upperCase
  | integer
  | tags
deriving DecidableEq, Repr

/-- Convert a text, or say why it cannot be converted. -/
def Conversion.apply (c : Conversion) (raw : String) : Except String Value :=
  match c with
  | .text => .ok (.text raw)
  | .upperCase => .ok (.text (Text.upper raw))
  | .integer => match (Value.text raw).toInteger with
    | .ok n => .ok (.int n)
    | .error e => .error e.message
  | .tags => match readTags raw with
    | .ok pairs => .ok (.object (pairs.map fun p => (p.1, .text p.2)))
    | .error e => .error e.message

/-- A variable with the setting it sets. -/
structure Binding where
  source : String
  key : SettingKey
  conversion : Conversion
deriving DecidableEq, Repr

/-- The variables in the order in which they are applied. -/
def bindings : List Binding := [
  ⟨"ECS_LOCAL_METADATA_PORT", .port, .integer⟩,
  ⟨"ECS_LOCAL_DOCKER_TIMEOUT", .dockerTimeout, .integer⟩,
  ⟨"HOSTNAME", .ownContainerId, .text⟩,
  ⟨"CLUSTER_ARN", .cluster, .text⟩,
  ⟨"TASK_ARN", .taskArn, .text⟩,
  ⟨"TASK_DEFINITION_FAMILY", .family, .text⟩,
  ⟨"TASK_DEFINITION_REVISION", .revision, .text⟩,
  ⟨"CONTAINER_INSTANCE_TAGS", .containerInstanceTags, .tags⟩,
  ⟨"TASK_TAGS", .taskTags, .tags⟩,
  ⟨"ECS_LOCAL_TASK_METADATA", .taskMetadataPath, .text⟩,
  ⟨"ECS_LOCAL_CONTAINER_METADATA", .containerMetadataPath, .text⟩,
  ⟨"IAM_ENDPOINT", .iamEndpoint, .text⟩,
  ⟨"STS_ENDPOINT", .stsEndpoint, .text⟩,
  ⟨"SHARED_TOKEN_EXPIRATION", .sharedTokenExpiration, .text⟩,
  ⟨"ECS_LOCAL_LOG_LEVEL", .logLevel, .upperCase⟩,
  ⟨"ECS_LOCAL_LOG_DIR", .logDir, .text⟩]

namespace Binding

/-- The value that the text of a variable gives its setting, or what is wrong with it. -/
def convert (b : Binding) (raw : String) : Except String Value := do
  let v ← b.conversion.apply raw
  match Registry.complaint? b.key v with
  | none => return v
  | some reason => throw reason

/-- Apply a variable. The answer is the settings afterwards, or the error, which changes nothing. -/
def apply (b : Binding) (env : Environment) (s : Settings) : Except SettingError Settings :=
  let raw := env.read b.source
  if raw.isEmpty then .ok s
  else match b.convert raw with
    | .ok v => .ok (s.update b.key v)
    | .error reason => .error (.invalid b.key (.text raw) reason (some b.source))

/-- Apply variables in order up to the first error. The settings reached are kept in either case. -/
def applyAll (env : Environment) (s : Settings) : List Binding → Settings × Option SettingError
  | [] => (s, none)
  | b :: rest => match b.apply env s with
    | .ok next => applyAll env next rest
    | .error e => (s, some e)

end Binding

namespace Registry

/-- Read the metadata files that the settings name; what was read before a failure is kept. -/
def loadFiles (r : Registry) (files : FileTree) : Registry × Run LoadError Unit :=
  let task := MetadataFile.readNamed files (r.settings.text .taskMetadataPath)
  match task.outcome with
  | .error e => (r, ⟨task.events, .error e⟩)
  | .ok taskFields =>
    let r := { r with taskFields := taskFields }
    let container := MetadataFile.readNamed files (r.settings.text .containerMetadataPath)
    match container.outcome with
    | .error e => (r, ⟨task.events ++ container.events, .error e⟩)
    | .ok containerFields =>
      ({ r with containerFields := containerFields }, ⟨task.events ++ container.events, .ok ()⟩)

/-- Load the environment. The registry afterwards is given in every case. -/
def load (r : Registry) (files : FileTree) (env : Environment) : Registry × Run LoadError Unit :=
  match Binding.applyAll env r.settings bindings with
  | (s, some e) => (r.withSettings s, e.raise.mapError .setting)
  | (s, none) => (r.withSettings s).loadFiles files

end Registry

end TaskEndpoints
