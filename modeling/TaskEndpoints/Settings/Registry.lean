import TaskEndpoints.Settings.Override

/-!
# The registry of settings

The registry holds the settings and the fields from the two metadata files. Settings are read and
written by the names of their group and key; a write that is refused changes nothing.

## Implementation notes

Tag mappings are handed out as they are kept, so a field written into one reaches the registry without
a check. All other values are handed out as copies.
-/

namespace TaskEndpoints

/-- The settings and the fields from the metadata files. -/
structure Registry where
  settings : Settings
  taskFields : Fields
  containerFields : Fields

namespace Registry

/-- The registry before anything is loaded. -/
def initial : Registry := ⟨Settings.defaults, [], []⟩

/-- The registry with other settings. -/
def withSettings (r : Registry) (s : Settings) : Registry := { r with settings := s }

/-- The group of a name, which has to exist. -/
def requireGroup (name : String) : Run SettingError SettingGroup :=
  match SettingGroup.ofName? name with
  | some group => Run.done group
  | none => (SettingError.unknown name none).raise

/-- The setting of a name in a group, which has to exist. -/
def requireKey (group : SettingGroup) (name : String) : Run SettingError SettingKey :=
  match SettingKey.find? group name with
  | some key => Run.done key
  | none => (SettingError.unknown group.word (some name)).raise

/-- The setting of two names, both of which have to exist. -/
def requireSetting (group key : String) : Run SettingError SettingKey := do
  requireKey (← requireGroup group) key

/-- The value of a setting. Where the setting does not exist, the fallback is taken unless it is null;
a missing setting of an existing group is logged in either case. -/
def get (r : Registry) (group key : String) (fallback : Value) : Run SettingError Value :=
  match SettingGroup.ofName? group with
  | none =>
    if fallback = .null then (SettingError.unknown group (some key)).raise else Run.done fallback
  | some g => match SettingKey.find? g key with
    | some k => Run.done (r.settings.value k)
    | none =>
      let e := SettingError.unknown g.word (some key)
      if fallback = .null then e.raise else do
        e.note
        return fallback

/-- The value of a setting of an existing group. -/
def getInGroup (r : Registry) (group key : String) : Run SettingError Value := do
  return r.settings.value (← requireSetting group key)

/-- The complaint about a value for a setting. -/
def complaint? (key : SettingKey) (v : Value) : Option String :=
  match key.spec.check.judge v with
  | .ok none => none
  | .ok (some c) => some c.message
  | .error e => some e.message

/-- What is wrong with a value for a setting; nothing is the empty text. -/
def validate (group key : String) (v : Value) : Run SettingError String := do
  return (complaint? (← requireSetting group key) v).getD ""

/-- Give a setting a value that passes its check. -/
def set (r : Registry) (group key : String) (v : Value) : Run SettingError Registry := do
  let k ← requireSetting group key
  match complaint? k v with
  | none => return r.withSettings (r.settings.update k v)
  | some reason => (SettingError.invalid k v reason none).raise

/-- The names and values of a group. -/
def dump (r : Registry) (group : String) : Run SettingError (List (String × Value)) := do
  return r.settings.groupFields (← requireGroup group)

/-- Put the values of a group back. -/
def reset (r : Registry) (group : String) : Run SettingError Registry := do
  return r.withSettings (r.settings.resetGroup (← requireGroup group))

/-- Why a field cannot be written into a value. -/
inductive WriteError where
  | setting (e : SettingError)
  | noValue (name : String)
  | noFields (typeWord : String)

/-- The wording of each cause. -/
def WriteError.message : WriteError → String
  | .setting e => e.message
  | .noValue name => Text.quoted name
  | .noFields word => "'" ++ word ++ "' object does not support item assignment"

/-- Write a field into the mapping that a setting holds. -/
def writeField (r : Registry) (group key name : String) (v : Value) : Run WriteError Registry := do
  let k ← (requireSetting' group key).mapError .setting
  match r.settings.value k with
  | .map entries =>
    return r.withSettings (r.settings.update k (.map (Assoc.insert entries (.text name) v)))
  | other => Run.fail (.noFields other.longTypeWord)
where
  /-- The setting of two names; an unknown group is reported with the key. -/
  requireSetting' (group key : String) : Run SettingError SettingKey :=
    match SettingGroup.ofName? group with
    | none => (SettingError.unknown group (some key)).raise
    | some g => requireKey g key

/-- Write a field into a mapping of a copy of a group, which leaves no trace. -/
def writeCopiedField (r : Registry) (group key : String) : Run WriteError Unit := do
  let g ← (requireGroup group).mapError .setting
  match (r.settings.groupFields g).lookup key with
  | none => Run.fail (.noValue key)
  | some (.map _) => return
  | some other => Run.fail (.noFields other.longTypeWord)

end Registry

end TaskEndpoints
