import TaskEndpoints.Value.Display

/-!
# Fields that have to be there

Reading a field of a value fails if the value is no map or lacks the field.
-/

namespace TaskEndpoints

/-- Why a field cannot be read. -/
inductive IndexError where
  | missing (name : String)
  /-- The value is a sequence of the given kind, whose places are numbers. -/
  | placesAreNumbers (kind : String)
  /-- The value is a text, whose places are numbers. -/
  | text
  /-- The value has no fields and no places. -/
  | notIndexed (typeWord : String)
deriving DecidableEq, Repr

/-- The wording of each cause. -/
def IndexError.message : IndexError → String
  | .missing name => Text.quoted name
  | .placesAreNumbers kind => kind ++ " indices must be integers or slices, not str"
  | .text => "string indices must be integers, not 'str'"
  | .notIndexed word => "'" ++ word ++ "' object is not subscriptable"

/-- Read a field that has to be there. -/
def Value.index (v : Value) (name : String) : Except IndexError Value :=
  match v with
  | .map entries => match Assoc.get? entries (.text name) with
    | some field => .ok field
    | none => .error (.missing name)
  | .list _ => .error (.placesAreNumbers "list")
  | .octets _ => .error (.placesAreNumbers "byte")
  | .text _ | .surrogateText _ => .error .text
  | other => .error (.notIndexed other.longTypeWord)

end TaskEndpoints
