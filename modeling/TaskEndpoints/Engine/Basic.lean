import TaskEndpoints.Container.Entry
import TaskEndpoints.Failure
import TaskEndpoints.Journal

/-!
# The container engine

The engine lists the running containers and takes samples of how much a container uses. Its answers,
failures and silences are inputs of the service.
-/

namespace TaskEndpoints

/-- What the engine answers. -/
structure Engine where
  list : Reply Value
  sample : String → Reply Value

/-- How long a call of the engine may take, in seconds. -/
inductive TimeLimit where
  | whole (seconds : Int)
  | fraction (seconds : Float)
deriving DecidableEq

namespace TimeLimit

/-- The limit of five seconds that holds where nothing else is said. -/
def initial : TimeLimit := .whole 5

/-- Decide whether calls are limited at all. -/
def isPositive : TimeLimit → Bool
  | .whole seconds => 0 < seconds
  | .fraction seconds => !(seconds ≤ 0)

/-- The seconds in messages. -/
def text : TimeLimit → String
  | .whole seconds => (Value.int seconds).display
  | .fraction seconds => (Value.float seconds).display

end TimeLimit

/-- Why the engine could not be used. -/
inductive EngineError where
  /-- No client of the engine could be made. -/
  | noClient (f : Failure)
  | noList (f : Failure)
  /-- A container could not be sampled, for the given reason. -/
  | noSample (id reason : String)
  /-- A call took longer than the limit. -/
  | tooLate (description : String) (limit : TimeLimit)
  /-- A call failed in a way that does not belong to the engine. -/
  | foreign (f : Failure)
  /-- An entry of the list describes no container. -/
  | entry (e : EntryError)
  /-- A call without a limit does not end. -/
  | unanswered
deriving DecidableEq

namespace EngineError

/-- The wording of each cause. -/
def message : EngineError → String
  | .noClient f => f.message
  | .noList f => "failed to list docker containers: " ++ f.message
  | .noSample id reason => "failed to get docker stats for " ++ id ++ ": " ++ reason
  | .tooLate description limit => description ++ ": timeout after " ++ limit.text ++ " seconds"
  | .foreign f => f.message
  | .entry e => e.message
  | .unanswered => "no answer"

/-- Decide whether an error is reported as one of the engine. -/
def isOfEngine : EngineError → Bool
  | .noClient _ | .noList _ | .noSample .. | .tooLate .. => true
  | _ => false

/-- Decide whether an error means that a call took too long. -/
def isDelay : EngineError → Bool
  | .unanswered => true
  | .foreign f => f.kind = .timeout
  | _ => false

end EngineError

end TaskEndpoints
