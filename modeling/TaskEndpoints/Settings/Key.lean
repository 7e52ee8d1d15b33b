import TaskEndpoints.Log.Level
import TaskEndpoints.Settings.Check

/-!
# The settings of the service

Every setting belongs to a group, has a name in it, a default and a check.

## Implementation notes

Settings are keys of an inductive type and a state gives each of them a value. So each group has
exactly its own settings in every state; that the values pass their checks is a statement about the
operations.
-/

namespace TaskEndpoints

/-- A group of settings. -/
inductive SettingGroup where
  /-- The server and its access to the engine. -/
  | server
  | task
  | credentials
  | logging
deriving DecidableEq, Repr

namespace SettingGroup

/-- The name of a group. -/
def word : SettingGroup → String
  | .server => "server"
  | .task => "task"
  | .credentials => "credentials"
  | .logging => "logging"

/-- All groups. -/
def all : List SettingGroup := [.server, .task, .credentials, .logging]

/-- The group of a name. -/
def ofName? (name : String) : Option SettingGroup := all.find? (·.word == name)

end SettingGroup

/-- A setting. -/
inductive SettingKey where
  /-- The port that the server listens on. -/
  | port
  /-- The time limit of calls of the engine, in seconds. -/
  | dockerTimeout
  /-- The start of the identifier of the service's own container. -/
  | ownContainerId
  | cluster
  | taskArn
  | family
  | revision
  | containerInstanceTags
  | taskTags
  /-- The path of a file with fields of the task. -/
  | taskMetadataPath
  /-- The path of a file with fields of every container. -/
  | containerMetadataPath
  | iamEndpoint
  | stsEndpoint
  | sharedTokenExpiration
  | logLevel
  | logDir
  /-- The size of the log file in megabytes. -/
  | maxFileSize
  | maxArchivedFiles
deriving DecidableEq, Repr

/-- What belongs to a setting. -/
structure SettingSpec where
  group : SettingGroup
  name : String
  /-- The value before anything is set. -/
  default : Value
  check : Check

/-- The seconds that shared tokens last when nothing else is said. -/
def defaultTokenSeconds : Nat := 750

/-- The levels that the log can be set to. -/
def settableLevels : List Level := [.debug, .info, .warning, .error]

namespace SettingKey

/-- A check for texts. -/
def textCheck : Check := .ofType [.text]

/-- A check for integers in a range. -/
def rangeCheck (low high : Int) : Check :=
  .allOf [.ofType [.int], .inRange (.int low) (.int high)]

/-- A check for endpoints. -/
def endpointCheck : Check := .fits .webAddress "is not an http(s) URL"

/-- What belongs to each setting. -/
def spec : SettingKey → SettingSpec
  | .port => ⟨.server, "port", .int 80, rangeCheck 1 65535⟩
  | .dockerTimeout => ⟨.server, "docker_timeout_sec", .int 5, rangeCheck 1 120⟩
  | .ownContainerId => ⟨.server, "own_container_id", .text "", textCheck⟩
  | .cluster => ⟨.task, "cluster", .text "ecs-local-cluster", textCheck⟩
  | .taskArn => ⟨.task, "task_arn", .text ("arn:aws:ecs:us-west-2:111111111111:task/ecs-local-cluster/"
      ++ "37e873f6-37b4-42a7-af47-eac7275c6152"), textCheck⟩
  | .family => ⟨.task, "family", .text "ecs-local-task-definition", textCheck⟩
  | .revision => ⟨.task, "revision", .text "1", .fits .digits "is not a number"⟩
  | .containerInstanceTags => ⟨.task, "container_instance_tags", .map [], .tagMapping⟩
  | .taskTags => ⟨.task, "task_tags", .map [], .tagMapping⟩
  | .taskMetadataPath => ⟨.task, "task_metadata_path", .text "", textCheck⟩
  | .containerMetadataPath => ⟨.task, "container_metadata_path", .text "", textCheck⟩
  | .iamEndpoint => ⟨.credentials, "iam_endpoint", .text "", endpointCheck⟩
  | .stsEndpoint => ⟨.credentials, "sts_endpoint", .text "", endpointCheck⟩
  | .sharedTokenExpiration => ⟨.credentials, "shared_token_expiration",
      .text (toString defaultTokenSeconds ++ "s"), textCheck⟩
  | .logLevel => ⟨.logging, "level", .text "INFO", .oneOf (settableLevels.map fun l => .text l.word)⟩
  | .logDir => ⟨.logging, "log_dir", .text "", textCheck⟩
  | .maxFileSize => ⟨.logging, "max_file_size_mb", .int 10, rangeCheck 1 1000⟩
  | .maxArchivedFiles => ⟨.logging, "max_archived_files", .int 5, rangeCheck 1 50⟩

/-- All settings, group by group. -/
def all : List SettingKey :=
  [.port, .dockerTimeout, .ownContainerId, .cluster, .taskArn, .family, .revision,
    .containerInstanceTags, .taskTags, .taskMetadataPath, .containerMetadataPath, .iamEndpoint,
    .stsEndpoint, .sharedTokenExpiration, .logLevel, .logDir, .maxFileSize, .maxArchivedFiles]

theorem mem_all (k : SettingKey) : k ∈ all := by cases k <;> decide

/-- The settings of a group. -/
def ofGroup (group : SettingGroup) : List SettingKey := all.filter (·.spec.group = group)

/-- The setting of a group with a given name. -/
def find? (group : SettingGroup) (name : String) : Option SettingKey :=
  (ofGroup group).find? (·.spec.name == name)

/-- The name of a setting with its group. -/
def fullName (k : SettingKey) : String := k.spec.group.word ++ "." ++ k.spec.name

end SettingKey

/-- A value for every setting. -/
structure Settings where
  value : SettingKey → Value

namespace Settings

/-- The settings before anything is set. -/
def defaults : Settings := ⟨fun k => k.spec.default⟩

/-- The settings with one value replaced. -/
def update (s : Settings) (k : SettingKey) (v : Value) : Settings :=
  ⟨fun k' => if k' = k then v else s.value k'⟩

/-- The settings with the values of one group put back. -/
def resetGroup (s : Settings) (group : SettingGroup) : Settings :=
  ⟨fun k => if k.spec.group = group then k.spec.default else s.value k⟩

/-- The names and values of a group. -/
def groupFields (s : Settings) (group : SettingGroup) : List (String × Value) :=
  (SettingKey.ofGroup group).map fun k => (k.spec.name, s.value k)

/-- The text of a setting that holds a text. -/
def text (s : Settings) (k : SettingKey) : String :=
  match s.value k with
  | v => if v.isText then v.plain else ""

/-- The integer of a setting that holds an integer. -/
def integer (s : Settings) (k : SettingKey) : Int :=
  match s.value k with
  | .int n => n
  | _ => 0

/-- The entries of a setting that holds a mapping. -/
def entries (s : Settings) (k : SettingKey) : List (Value × Value) :=
  match s.value k with
  | .map entries => entries
  | _ => []

/-- Every value passes the check of its setting. -/
def Valid (s : Settings) : Prop := ∀ k : SettingKey, k.spec.check.Accepts (s.value k)

@[simp] theorem value_update (s : Settings) (k k' : SettingKey) (v : Value) :
    (s.update k v).value k' = if k' = k then v else s.value k' := rfl

end Settings

end TaskEndpoints
