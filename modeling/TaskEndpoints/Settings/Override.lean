import TaskEndpoints.Files.Tree
import TaskEndpoints.Json.Reader
import TaskEndpoints.Settings.Error

/-!
# Files with metadata of one's own

A metadata file holds one JSON object whose fields replace or complete those of an answer. A file that
cannot be read or holds something else is an error in the settings, except that octets which are no
UTF-8 text, numbers with too many digits and paths that name nothing are failures of their own.
-/

namespace TaskEndpoints

/-- Why settings could not be loaded. -/
inductive LoadError where
  | setting (e : SettingError)
  | decode (e : Text.DecodeError)
  /-- A metadata file holds an integer with too many digits. -/
  | tooManyDigits (count : Nat)
  /-- A metadata file has a null character in its path. -/
  | nullInPath

/-- The wording of each cause. -/
def LoadError.message : LoadError → String
  | .setting e => e.message
  | .decode e => e.message
  | .tooManyDigits count => Json.tooManyDigitsMessage count
  | .nullInPath => FileError.nullInPath.message

namespace MetadataFile

/-- Fail with an error about a file. -/
def reject {α : Type} (path : FilePath) (reason : String) : Run LoadError α :=
  (SettingError.file path.text reason).raise.mapError .setting

/-- Read the text of a file. -/
def readText (files : FileTree) (path : FilePath) : Run LoadError (List Char) :=
  match files.read path with
  | .error .nullInPath => Run.fail .nullInPath
  | .error e => reject path e.message
  | .ok octets => match Text.decodeUtf8 octets with
    | .error e => Run.fail (.decode e)
    | .ok text => Run.done (Text.unifyLineEnds text)

/-- Read the object in a file. -/
def read (files : FileTree) (path : FilePath) : Run LoadError Fields := do
  let text ← readText files path
  match Json.readChars text with
  | .error (.tooManyDigits count) => Run.fail (.tooManyDigits count)
  | .error e => reject path e.message
  | .ok (.map fields) => Run.done fields
  | .ok other => reject path ("expected JSON object, got " ++ other.typeWord)

/-- Read the object in a file that a setting names. Without a name, and where the file is an error in
the settings, there are no fields. -/
def readNamed (files : FileTree) (name : String) : Run LoadError Fields :=
  if name.isEmpty then Run.done []
  else
    let attempt := read files (.ofString name)
    match attempt.outcome with
    | .error (.setting _) =>
      ⟨attempt.events ++ [.logged ⟨.settings, .error,
        "Failed to read user defined metadata file: " ++ name⟩], .ok []⟩
    | _ => attempt

end MetadataFile

end TaskEndpoints
