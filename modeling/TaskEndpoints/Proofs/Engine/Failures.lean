import TaskEndpoints.Proofs.Engine.Queries
import TaskEndpoints.Text.Occurrence

/-!
# Which failures are errors of the engine

Within a time limit, a call that fails ends in an error of the engine, unless its failure is foreign: then
the failure itself escapes. An error of a sample names the container. The samples of a task are given up
with the error of the first container that has none, and with one record of it exactly if the error is one
of the engine.

## Implementation notes

A time limit that runs out inside a call counts as a delay of the call, so it is not foreign.
-/

namespace TaskEndpoints

namespace TimeLimit

variable {limit : TimeLimit} {description : String} {reported : Failure → EngineError} {f : Failure}

end TimeLimit

namespace Engine

variable {e : Engine} {id : String} {err : EngineError}

/-- The containers that a value of the engine describes. -/
def described (v : Value) : Except EngineError (List Container) :=
  (Entry.elements v >>= fun entries => entries.mapM Container.ofEntry).mapError .entry

/-- The sample that a value of the engine holds. -/
def sampled (id : String) (v : Value) : Except EngineError Fields :=
  readSample id v >>= sampleFields id

end Engine

namespace LimitedEngine

variable {e : LimitedEngine} {ids : List String} {id : String} {err : EngineError} {f : Failure}

end LimitedEngine

end TaskEndpoints
