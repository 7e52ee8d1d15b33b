import TaskEndpoints.Caller

/-!
# The task of a caller

The containers of a task are those in the project of the caller, in the order of the engine. All
running containers make up one task where the caller is unknown or is in no project.
-/

namespace TaskEndpoints

namespace LocalTask

/-- The candidates in a project, or all of them if there are none in it. -/
def inProject (project : Value) (candidates : List Listed) : List Listed :=
  keepMatching (fun c => c.1.project = project) candidates

/-- Begin of the messages which say that the task is made up of all containers. -/
def allContainersNote : String := "Will use all containers to represent one 'local task'"

/-- The containers of the caller's task with their positions. -/
def members {ε : Type} (q : CallerQuery) (snapshot : List Container) : Run ε (List Listed) := do
  match ← (q.find snapshot).attempt with
  | .error e =>
    Run.log .localTask .warning e.message
    Run.log .localTask .info allContainersNote
    return snapshot.zipIdx
  | .ok (caller, _) =>
    if caller.project.isTruthy then return inProject caller.project snapshot.zipIdx
    else
      Run.log .localTask .info (allContainersNote
        ++ ": The container which made the request is not in a Docker Compose Project")
      return snapshot.zipIdx

end LocalTask

end TaskEndpoints
