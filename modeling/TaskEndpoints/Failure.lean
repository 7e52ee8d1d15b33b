/-!
# Failures of collaborators

The container engine, the cloud and the listening socket are outside the service. Each call of them
ends in a value, in a failure, or not at all. The service treats failures by their kind.
-/

namespace TaskEndpoints

/-- The kind of a failure that a collaborator reports. -/
inductive FailureKind where
  | engine
  | engineRefusal
  /-- The engine does not know a container. -/
  | engineNotFound
  /-- A time limit inside the collaborator ran out. -/
  | timeout
  | connection
  /-- The operating system refused something. -/
  | system
  | value
  | runtime
  | cloudRefusal
  /-- The cloud cannot be called without credentials. -/
  | cloudCredentialsMissing
  /-- The cloud cannot be called without a region. -/
  | cloudRegionMissing
deriving DecidableEq, Repr

namespace FailureKind

/-- Decide whether the engine's own client reports this kind. -/
def isEngine : FailureKind → Bool
  | .engine | .engineRefusal | .engineNotFound => true
  | _ => false

/-- Decide whether the kind counts among the failures of the operating system. -/
def isSystem : FailureKind → Bool
  | .engineRefusal | .engineNotFound | .timeout | .connection | .system => true
  | _ => false

/-- Decide whether the kind means that the client of the cloud lacks something. -/
def isCloudSetup : FailureKind → Bool
  | .cloudCredentialsMissing | .cloudRegionMissing => true
  | _ => false

end FailureKind

/-- A failure with its message. -/
structure Failure where
  kind : FailureKind
  message : String
deriving DecidableEq, Repr

/-- How a call of a collaborator ends. -/
inductive Reply (α : Type) where
  | value (a : α)
  | failure (f : Failure)
  | silence
deriving Repr

end TaskEndpoints
