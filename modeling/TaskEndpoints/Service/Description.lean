import TaskEndpoints.Engine.Query
import TaskEndpoints.LocalTask
import TaskEndpoints.Metadata
import TaskEndpoints.Settings.Registry

/-!
# Metadata requests

Each request for metadata or samples takes a fresh list of the containers, finds the caller or its task
in it, and describes or samples that.
-/

namespace TaskEndpoints

/-- What a metadata request asks for. -/
inductive MetadataKind where
  | taskMetadata
  | taskStats
  | containerMetadata
  | containerStats
deriving DecidableEq, Repr

/-- The word for a kind in messages. -/
def MetadataKind.word : MetadataKind → String
  | .taskMetadata => "task_metadata"
  | .taskStats => "task_stats"
  | .containerMetadata => "container_metadata"
  | .containerStats => "container_stats"

/-- Why a metadata request fails. -/
inductive DescriptionError where
  | engine (e : EngineError)
  | caller (e : CallerNotFound)
  | metadata (e : MetadataError)
deriving DecidableEq

/-- The wording of each cause. -/
def DescriptionError.message : DescriptionError → String
  | .engine e => e.message
  | .caller e => e.message
  | .metadata e => e.message

/-- What the service tells about itself, the task and the containers. -/
structure Description where
  /-- The start of the identifier of the container in which the service runs. -/
  ownId : String
  taskSettings : Fields
  /-- Fields of one's own for the task. -/
  taskFields : Fields
  /-- Fields of one's own for every container. -/
  containerFields : Fields
deriving DecidableEq

namespace Description

/-- The description by settings, for a given container of one's own or the one in the settings. -/
def ofRegistry (r : Registry) (own? : Option String) : Description :=
  { ownId := own?.getD (r.settings.text .ownContainerId)
    taskSettings := (r.settings.groupFields .task).map fun (name, v) => (.text name, v)
    taskFields := r.taskFields
    containerFields := r.containerFields }

/-- What is known about the caller of a request. -/
def query (d : Description) (identifier address : String) : CallerQuery :=
  ⟨identifier, address, d.ownId⟩

/-- The running containers. -/
def snapshot (engine : LimitedEngine) : Run DescriptionError (List Container) :=
  engine.containers.mapError .engine

/-- The containers of the caller's task. -/
def task (q : CallerQuery) (engine : LimitedEngine) : Run DescriptionError (List Container) := do
  return (← LocalTask.members q (← snapshot engine)).map (·.1)

/-- The caller. -/
def caller (q : CallerQuery) (engine : LimitedEngine) : Run DescriptionError Container := do
  return (← (q.find (← snapshot engine)).mapError .caller).1

/-- The value that a request asks for. -/
def value (d : Description) (engine : LimitedEngine) (kind : MetadataKind) (q : CallerQuery) :
    Run DescriptionError Value :=
  match kind with
  | .taskMetadata => do
    let containers ← task q engine
    Run.ofExcept <| (LocalTask.metadata d.taskSettings d.taskFields d.containerFields containers).mapError
      .metadata
  | .taskStats => do
    let containers ← task q engine
    let samples ← (engine.taskSamples (containers.map (·.id))).mapError .engine
    return .object (samples.map fun (id, fields) => (id, .map fields))
  | .containerMetadata => do
    Run.ofExcept (((← caller q engine).metadata d.containerFields).mapError .metadata)
  | .containerStats => do
    return .map (← (engine.sample (← caller q engine).id).mapError .engine)

/-- Answer a metadata request. -/
def respond (d : Description) (engine : LimitedEngine) (kind : MetadataKind)
    (identifier address : String) : Run DescriptionError Value := do
  Run.log .metadata .debug ("Received " ++ kind.word ++ " request (identifier="
    ++ Text.quoted identifier ++ ", caller=" ++ address ++ ")")
  d.value engine kind (d.query identifier address)

end Description

end TaskEndpoints
