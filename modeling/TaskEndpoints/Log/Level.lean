import TaskEndpoints.Text.UpperCase
import TaskEndpoints.Number.Decimal

/-!
# Log levels

The levels of log records, their names and numbers. Two further names are accepted for two of the
levels, and names are read without regard to case.
-/

namespace TaskEndpoints

/-- How serious a record is. -/
inductive Level where
  | debug
  /-- What happens in regular service. -/
  | info
  /-- Something unexpected that the service copes with. -/
  | warning
  | error
deriving DecidableEq, Repr

namespace Level

/-- The number of a level; larger is more serious. -/
def number : Level → Int
  | .debug => 10
  | .info => 20
  | .warning => 30
  | .error => 40

/-- The name of a level. -/
def word : Level → String
  | .debug => "DEBUG"
  | .info => "INFO"
  | .warning => "WARNING"
  | .error => "ERROR"

end Level

/-- The names of levels with their numbers. -/
def levelNames : List (String × Int) :=
  [("CRITICAL", 50), ("FATAL", 50), ("ERROR", 40), ("WARNING", 30), ("WARN", 30), ("INFO", 20),
    ("DEBUG", 10), ("NOTSET", 0)]

/-- A name that belongs to no level. -/
structure UnknownLevel where
  /-- The name as given. -/
  name : String
deriving DecidableEq, Repr

/-- The wording of the cause. -/
def UnknownLevel.message (e : UnknownLevel) : String := "Unknown log level: " ++ e.name

/-- The number of a level name in any case. -/
def levelNumber (name : String) : Except UnknownLevel Int :=
  match levelNames.lookup (Text.upper name) with
  | some number => .ok number
  | none => .error ⟨name⟩

/-- The text that a record shows for a level number. -/
def levelText (number : Int) : String :=
  match levelNames.find? (·.2 == number) with
  | some (name, _) => name
  | none => "Level " ++ intText number

end TaskEndpoints
