import TaskEndpoints.Engine.Basic
import TaskEndpoints.Json.Octets

/-!
# Queries of the engine

The list of containers, the sample of a container, and the samples of a task. The samples of a task are
all there or none is: the error of the first container in the list that has one is the error of all.

## Implementation notes

The containers of a task are asked at once. What is logged before the time limit comes before what is
logged at the limit, and the end is logged as soon as the container with the error is known.
-/

namespace TaskEndpoints

namespace Engine

/-- The value of a reply; failures of the engine's own are put as the caller says. -/
def settle (reported : Failure → EngineError) : Reply Value → Except EngineError Value
  | .value v => .ok v
  | .failure f => .error (if f.kind.isEngine then reported f else .foreign f)
  | .silence => .error .unanswered

/-- The running containers. -/
def containers (e : Engine) : Run EngineError (List Container) :=
  Run.ofExcept do
    let listed ← settle .noList e.list
    let entries ← (Entry.elements listed).mapError .entry
    entries.mapM fun entry => (Container.ofEntry entry).mapError .entry

/-- The value of a sample, which may come as the JSON text or the octets of it. -/
def readSample (id : String) (v : Value) : Except EngineError Value :=
  match v with
  | .text s => (Json.read s).mapError fun e => .noSample id e.message
  | .octets bytes => (Json.readOctets bytes).mapError fun e => .noSample id e.message
  | other => .ok other

/-- The fields of a sample. -/
def sampleFields (id : String) (v : Value) : Except EngineError Fields :=
  match v with
  | .map fields => .ok fields
  | other => .error (.noSample id ("unexpected payload " ++ other.typeWord))

/-- A sample of a container. -/
def takeSample (e : Engine) (id : String) : Run EngineError Fields := do
  Run.emit (.statsAsked id)
  Run.ofExcept do
    let v ← settle (fun f => .noSample id f.message) (e.sample id)
    sampleFields id (← readSample id v)

end Engine

/-- A call of the engine that ends with an error once it takes longer than the limit. A limit that is not
positive limits nothing. -/
def TimeLimit.guard {α : Type} (limit : TimeLimit) (description : String)
    (call : Run EngineError α) : Run EngineError α :=
  match call.outcome with
  | .ok _ => call
  | .error e =>
    if limit.isPositive && e.isDelay then
      ⟨call.events ++ [.logged ⟨.engineCalls, .error, "Docker call '" ++ description
        ++ "' timed out after " ++ limit.text ++ " seconds"⟩], .error (.tooLate description limit)⟩
    else call

/-- The engine with the time limit of its calls. -/
structure LimitedEngine where
  engine : Engine
  limit : TimeLimit

namespace LimitedEngine

/-- The running containers. -/
def containers (e : LimitedEngine) : Run EngineError (List Container) :=
  e.limit.guard "list containers" e.engine.containers

/-- A sample of a container. -/
def sample (e : LimitedEngine) (id : String) : Run EngineError Fields :=
  e.limit.guard ("stats for " ++ id) (e.engine.takeSample id)

/-- Decide whether the engine is silent about a container. -/
def isSilent (e : LimitedEngine) (id : String) : Bool :=
  match e.engine.sample id with
  | .silence => true
  | _ => false

/-- The first container in a list that has no sample, with its error. -/
def firstFailing? (e : LimitedEngine) (ids : List String) : Option (String × EngineError) :=
  ids.findSome? fun id => match (e.sample id).outcome with
    | .ok _ => none
    | .error err => some (id, err)

/-- The samples that the engine gives. -/
def available (e : LimitedEngine) (ids : List String) : Assoc String Fields :=
  Assoc.ofPairs (ids.filterMap fun id => match (e.sample id).outcome with
    | .ok fields => some (id, fields)
    | .error _ => none)

/-- The events of asking for samples of some containers. -/
def askingEvents (e : LimitedEngine) (ids : List String) : List Event :=
  ids.flatMap fun id => (e.sample id).events

/-- The event that the samples of a task are given up. -/
def giveUpEvents (id : String) (err : EngineError) : List Event :=
  if err.isOfEngine then
    [.logged ⟨.engineCalls, .error, "Task stats aborted, container " ++ id ++ " failed: " ++ err.message⟩]
  else []

/-- The samples of the containers of a task. -/
def taskSamples (e : LimitedEngine) (ids : List String) : Run EngineError (Assoc String Fields) :=
  let (late, prompt) := ids.partition e.isSilent
  match e.firstFailing? ids with
  | none => ⟨e.askingEvents ids, .ok (e.available ids)⟩
  | some (id, err) =>
    let (before, after) := if e.isSilent id then (prompt ++ late.take 1, late.drop 1) else (prompt, late)
    ⟨e.askingEvents before ++ giveUpEvents id err ++ e.askingEvents after, .error err⟩

end LimitedEngine

end TaskEndpoints
