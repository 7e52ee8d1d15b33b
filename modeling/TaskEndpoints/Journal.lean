import TaskEndpoints.Failure
import TaskEndpoints.Log.Sink
import TaskEndpoints.Value.Basic

/-!
# The journal of a step

A step of the service ends in a result or an error, and on the way it writes log records and calls
collaborators. The journal holds these events in order.

## Implementation notes

A step is a value, so that what a step does can be stated as a fact about its journal. Events that
happened before an error stay in the journal.
-/

namespace TaskEndpoints

/-- The parts of the service that write log records. -/
inductive Component where
  | startup
  | settingErrors
  | settings
  | engineClient
  | engineCalls
  | caller
  | localTask
  | http
  | metadata
  | credentials
deriving DecidableEq, Repr

/-- The name under which a component logs. -/
def Component.loggerName : Component → String
  | .startup => "ecs_local_endpoints.main"
  | .settingErrors => "ecs_local_endpoints.settings.exceptions"
  | .settings => "ecs_local_endpoints.settings.registry"
  | .engineClient => "ecs_local_endpoints.docker_api.client"
  | .engineCalls => "ecs_local_endpoints.docker_api.data_provider"
  | .caller => "ecs_local_endpoints.identity.resolver"
  | .localTask => "ecs_local_endpoints.identity.grouping"
  | .http => "ecs_local_endpoints.handlers.http"
  | .metadata => "ecs_local_endpoints.handlers.metadata"
  | .credentials => "ecs_local_endpoints.handlers.credentials"

/-- A log record. -/
structure LogRecord where
  component : Component
  level : Level
  text : String
deriving DecidableEq, Repr

/-- The line of a record. -/
def LogRecord.line (r : LogRecord) : LogLine :=
  ⟨r.component.loggerName, r.level.number, r.text⟩

/-- A call of the cloud. -/
inductive CloudCall where
  | getRole (name : String)
  | assumeRole (arn : Value) (seconds : Nat) (session : String)
  | getSessionToken (seconds : Nat)
deriving DecidableEq

/-- The two services of the cloud that are used. -/
inductive CloudService where
  | iam
  | sts
deriving DecidableEq, Repr

/-- The name of a service. -/
def CloudService.word : CloudService → String
  | .iam => "iam"
  | .sts => "sts"

/-- What a client of a cloud service is made from. -/
structure CloudClientSpec where
  service : CloudService
  /-- The endpoint, where it is not the usual one. -/
  endpoint : Option String
  /-- What the client adds to the name it gives itself. -/
  agent : String
deriving DecidableEq, Repr

/-- What a client of the engine is made from. -/
structure EngineClientSpec where
  version : String
  environment : List (String × String)
  /-- The time limit of the client in seconds, if there is one. -/
  timeout : Option Int
deriving DecidableEq, Repr

/-- What the server listens on. -/
structure ListenSpec where
  host : String
  port : Int
  /-- Whether each request has a thread of its own. -/
  threaded : Bool
deriving DecidableEq, Repr

/-- One thing that a step does to its surroundings. -/
inductive Event where
  | logged (r : LogRecord)
  /-- The log is set up, if the files allow it. -/
  | logConfigured (config : LogConfig)
  /-- The engine is asked for a sample of a container. -/
  | statsAsked (id : String)
  | cloudCalled (call : CloudCall)
  /-- The level of a logger of the cloud's client is set. -/
  | cloudLogLevelSet (logger : String) (level : Int)
  /-- A client of a cloud service is made. -/
  | cloudClientMade (spec : CloudClientSpec)
  /-- A client of the engine is made. -/
  | engineClientMade (spec : EngineClientSpec)
  | listening (spec : ListenSpec)
deriving DecidableEq

/-- A step: the events in order, and how it ends. -/
structure Run (ε α : Type) where
  events : List Event
  outcome : Except ε α

namespace Run

variable {ε ε' α β : Type}

/-- A step that does nothing. -/
def done (a : α) : Run ε α := ⟨[], .ok a⟩

/-- A step that fails at once. -/
def fail (e : ε) : Run ε α := ⟨[], .error e⟩

/-- One step after another; the second is not taken when the first fails. -/
def andThen (r : Run ε α) (next : α → Run ε β) : Run ε β :=
  match r.outcome with
  | .ok a => ⟨r.events ++ (next a).events, (next a).outcome⟩
  | .error e => ⟨r.events, .error e⟩

instance : Monad (Run ε) where
  pure := done
  bind := andThen

instance : MonadExceptOf ε (Run ε) where
  throw := fail
  tryCatch r handler := match r.outcome with
    | .ok _ => r
    | .error e => ⟨r.events ++ (handler e).events, (handler e).outcome⟩

/-- A step with one event. -/
def emit (e : Event) : Run ε Unit := ⟨[e], .ok ()⟩

/-- A step that writes one log record. -/
def log (component : Component) (level : Level) (text : String) : Run ε Unit :=
  emit (.logged ⟨component, level, text⟩)

/-- A step that has no events. -/
def ofExcept (x : Except ε α) : Run ε α := ⟨[], x⟩

/-- A step that has the given events. -/
def replay (events : List Event) : Run ε Unit := ⟨events, .ok ()⟩

/-- The same step with its error put differently. -/
def mapError (f : ε → ε') (r : Run ε α) : Run ε' α := ⟨r.events, r.outcome.mapError f⟩

/-- The same step, which hands its error on as a result. -/
def attempt (r : Run ε α) : Run ε' (Except ε α) := ⟨r.events, .ok r.outcome⟩

/-- The log records of a step. -/
def records (r : Run ε α) : List LogRecord :=
  r.events.filterMap fun
    | .logged record => some record
    | _ => none

/-- The containers whose samples a step asks for, in the order of asking. -/
def statsAsked (r : Run ε α) : List String :=
  r.events.filterMap fun
    | .statsAsked id => some id
    | _ => none

/-- The calls of the cloud in a step. -/
def cloudCalls (r : Run ε α) : List CloudCall :=
  r.events.filterMap fun
    | .cloudCalled call => some call
    | _ => none

@[simp] theorem pure_events (a : α) : (pure a : Run ε α).events = [] := rfl

@[simp] theorem pure_outcome (a : α) : (pure a : Run ε α).outcome = .ok a := rfl

theorem bind_of_ok {r : Run ε α} {a : α} (h : r.outcome = .ok a) (next : α → Run ε β) :
    r >>= next = ⟨r.events ++ (next a).events, (next a).outcome⟩ := by
  show andThen r next = _
  simp [andThen, h]

theorem bind_of_error {r : Run ε α} {e : ε} (h : r.outcome = .error e) (next : α → Run ε β) :
    r >>= next = ⟨r.events, .error e⟩ := by
  show andThen r next = _
  simp [andThen, h]

/-- A sequence of steps ends as the second one does, unless the first fails. -/
theorem bind_outcome (r : Run ε α) (next : α → Run ε β) :
    (r >>= next).outcome = r.outcome.bind fun a => (next a).outcome := by
  rcases h : r.outcome with e | a
  · rw [bind_of_error h, Except.bind]
  · rw [bind_of_ok h, Except.bind]

@[simp] theorem fail_outcome (e : ε) : (fail e : Run ε α).outcome = .error e := rfl

@[simp] theorem log_outcome (component : Component) (level : Level) (text : String) :
    (log component level text : Run ε Unit).outcome = .ok () := rfl

@[simp] theorem attempt_outcome (r : Run ε α) : (attempt r : Run ε' _).outcome = .ok r.outcome := rfl

theorem map_id_run (r : Run ε α) : id <$> r = r := by
  show andThen r _ = r
  rcases r with ⟨events, _ | _⟩ <;> simp [andThen, done]

theorem andThen_assoc {γ : Type} (r : Run ε α) (f : α → Run ε β) (g : β → Run ε γ) :
    andThen (andThen r f) g = andThen r fun a => andThen (f a) g := by
  rcases r with ⟨events, e | a⟩
  · simp [andThen]
  · rcases h : (f a).outcome with e | b <;> simp [andThen, h]

instance : LawfulMonad (Run ε) :=
  LawfulMonad.mk' (Run ε) map_id_run
    (fun a f => by show andThen (done a) f = f a; simp [andThen, done])
    andThen_assoc

end Run

end TaskEndpoints
