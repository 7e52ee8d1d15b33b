import TaskEndpoints.Engine.Client
import TaskEndpoints.Service.Basic

/-!
# Starting up

The program loads its settings, sets up the log, makes the clients of the cloud and of the engine, and
listens. A failure that belongs to one of these steps is logged and ends the program with the exit code
one; other failures escape.
-/

namespace TaskEndpoints

/-- What the program is started with, and how the outside reacts to it. -/
structure Host where
  environment : Environment
  files : FileTree
  /-- The failure that making a client of a cloud service ends in, if it fails. -/
  cloudFailure? : CloudService → Option Failure
  /-- The failure that making a client of the engine ends in, if it fails. -/
  engineFailure? : Option Failure
  /-- The failure that listening ends in, if it fails. -/
  listenFailure? : Option Failure

/-- A failure that escapes from the program. -/
inductive StartupError where
  | load (e : LoadError)
  /-- The log could not be set up. -/
  | log (e : LogError)
  /-- A client could not be made, or listening failed. -/
  | outside (f : Failure)

/-- The wording of each cause. -/
def StartupError.message : StartupError → String
  | .load e => e.message
  | .log e => e.message
  | .outside f => f.message

/-- How the program stops before it listens. -/
inductive Stop where
  | exit (code : Nat)
  | escape (e : StartupError)

/-- All that the program needs to listen. -/
structure Prepared where
  service : Service
  /-- The time limit of calls of the engine. -/
  limit : TimeLimit
  port : Int
deriving DecidableEq

/-- The configuration of the log by settings. -/
def LogConfig.ofSettings (s : Settings) : LogConfig :=
  let directory := s.text .logDir
  { LogConfig.initial with
    directory := if directory.isEmpty then none else some (FilePath.ofString directory)
    levelName := s.text .logLevel
    maxBytes := s.integer .maxFileSize * 1024 * 1024
    archives := (s.integer .maxArchivedFiles).toNat }

/-- The endpoints of the cloud by settings. -/
def CloudEndpoints.ofSettings (s : Settings) : CloudEndpoints :=
  ⟨s.text .iamEndpoint, s.text .stsEndpoint⟩

namespace Startup

/-- Write a log record. -/
def log (level : Level) (text : String) : Run Stop Unit := Run.log .startup level text

/-- Log why the program stops, and stop with the exit code one. -/
def stop {α : Type} (text : String) : Run Stop α := do
  log .error text
  Run.fail (.exit 1)

/-- Let a failure escape. -/
def escape {α : Type} (e : StartupError) : Run Stop α := Run.fail (.escape e)

/-- Load the settings. -/
def loadSettings (h : Host) : Run Stop Registry := do
  let (registry, load) := Registry.initial.load h.files h.environment
  match ← load.attempt with
  | .ok () => return registry
  | .error (.setting e) => stop ("Invalid configuration: " ++ e.message)
  | .error e => escape (.load e)

/-- Set up the log by settings. -/
def configureLog (h : Host) (s : Settings) : Run Stop Unit := do
  let config := LogConfig.ofSettings s
  Run.emit (.logConfigured config)
  match (config.openSink h.files).1 with
  | .ok _ => return
  | .error e => escape (.log e)

/-- Make the clients of the cloud. -/
def connectCloud (h : Host) (s : Settings) : Run Stop Unit := do
  match ← ((CloudEndpoints.ofSettings s).createClients h.cloudFailure?).attempt with
  | .ok () => return
  | .error f =>
    if f.kind.isCloudSetup then stop ("Failed to create Credentials Service: " ++ f.message)
    else escape (.outside f)

/-- Make the client of the engine by settings. The result is the time limit of its calls. -/
def connectEngine (h : Host) (s : Settings) : Run Stop TimeLimit := do
  let timeout := s.integer .dockerTimeout
  match ← ((EngineClientSpec.ofEnvironment h.environment (some timeout)).create
      h.engineFailure?).attempt with
  | .ok () => return .whole timeout
  | .error (.noClient f) => stop ("Failed to create Metadata Service: " ++ f.message)
  | .error (.foreign f) => escape (.outside f)
  | .error e => stop ("Failed to create Metadata Service: " ++ e.message)

/-- Do all that comes before listening. -/
def prepare (h : Host) : Run Stop Prepared := do
  Run.emit (.logConfigured LogConfig.initial)
  let registry ← loadSettings h
  let settings := registry.settings
  configureLog h settings
  log .info (programName ++ " version " ++ programVersion)
  log .info "Running..."
  connectCloud h settings
  let limit ← connectEngine h settings
  return ⟨.ofRegistry registry none true, limit, settings.integer .port⟩

/-- The address that stands for all addresses of the host. -/
def allAddresses : String := "0.0.0.0"

/-- Listen. The session gives the events while the program listens. -/
def listen (h : Host) (session : Prepared → List Event) (p : Prepared) : Run StartupError Nat := do
  Run.emit (.listening ⟨allAddresses, p.port, true⟩)
  Run.replay (session p)
  match h.listenFailure? with
  | none => return 0
  | some f =>
    if f.kind.isSystem then
      Run.log .startup .error ("HTTP Server exited with error: " ++ f.message)
      return 1
    else Run.fail (.outside f)

/-- Run the program; the result is its exit code. -/
def run (h : Host) (session : Prepared → List Event) : Run StartupError Nat := do
  match ← (prepare h).attempt with
  | .ok p => listen h session p
  | .error (.exit code) => return code
  | .error (.escape e) => Run.fail e

end Startup

end TaskEndpoints
