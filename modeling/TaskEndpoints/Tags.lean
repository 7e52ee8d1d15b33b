import TaskEndpoints.Assoc
import TaskEndpoints.Text.Split

/-!
# Resource tags

Tags are written as `key=value` pairs between commas. A repeated key keeps the place of its first pair
and takes the value of its last.
-/

namespace TaskEndpoints

/-- A piece of the tag text that is not of the form `key=value`. -/
structure TagError where
  piece : String
deriving DecidableEq, Repr

/-- The wording of the cause. -/
def TagError.message (e : TagError) : String :=
  "Tag input not formatted correctly: " ++ e.piece

/-- Read one pair; the piece holds exactly one `=`. -/
def readTag (piece : List Char) : Except TagError (String × String) :=
  match Text.splitAtEvery '=' piece with
  | [key, value] => .ok (String.ofList key, String.ofList value)
  | _ => .error ⟨String.ofList piece⟩

/-- Read tags. -/
def readTags (text : String) : Except TagError (Assoc String String) := do
  return Assoc.ofPairs (← (Text.splitAtEvery ',' text.toList).mapM readTag)

/-- Write tags. -/
def writeTags (tags : List (String × String)) : String :=
  String.intercalate "," (tags.map fun t => t.1 ++ "=" ++ t.2)

end TaskEndpoints
