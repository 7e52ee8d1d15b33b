/-!
# The program

The name and the version under which the program makes itself known.
-/

namespace TaskEndpoints

/-- The name of the program. -/
def programName : String := "ecs-local-container-endpoints"

/-- The version of the program. -/
def programVersion : String := "1.4.0"

end TaskEndpoints
