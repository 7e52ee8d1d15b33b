import TaskEndpoints.Journal
import TaskEndpoints.Settings.Key

/-!
# Errors in settings

An error in the settings is written to the log at the moment it arises, with the values that belong to
it, because the service may not live to say it later.
-/

namespace TaskEndpoints

/-- What is wrong with settings. -/
inductive SettingError where
  /-- There is no such group, or no such setting in it. -/
  | unknown (group : String) (key : Option String)
  /-- A value is refused; the variable is named when the value came from the environment. -/
  | invalid (key : SettingKey) (value : Value) (reason : String) (source : Option String)
  /-- A file with fields cannot be used. -/
  | file (path : String) (reason : String)

namespace SettingError

/-- The wording of each cause. -/
def message : SettingError → String
  | .unknown group key =>
    let name := match key with
      | none => group
      | some key => if key.isEmpty then group else group ++ "." ++ key
    "Unknown setting '" ++ name ++ "'"
  | .invalid key value reason source =>
    "Invalid value for " ++ source.getD key.fullName ++ ": " ++ reason
      ++ " (value=" ++ value.display ++ ")"
  | .file path reason => "I/O error with metadata file '" ++ path ++ "': " ++ reason

/-- The values that belong to an error, by name. -/
def context : SettingError → List (String × Value)
  | .unknown group key =>
    [("group", .text group), ("key", match key with
      | none => .null
      | some key => .text key)]
  | .invalid key value _ _ => [("key", .text key.fullName), ("value", value)]
  | .file path _ => [("path", .text path)]

/-- The message of the log record of an error. -/
def logText (e : SettingError) : String :=
  "Configuration error: " ++ e.message ++ " ["
    ++ ", ".intercalate (e.context.map fun c => c.1 ++ "=" ++ c.2.display) ++ "]"

/-- A step that writes the record of an error and fails with it. -/
def raise {α : Type} (e : SettingError) : Run SettingError α := do
  Run.log .settingErrors .error e.logText
  Run.fail e

/-- A step that writes the record of an error and goes on. -/
def note {ε : Type} (e : SettingError) : Run ε Unit :=
  Run.log .settingErrors .error e.logText

end SettingError

end TaskEndpoints
