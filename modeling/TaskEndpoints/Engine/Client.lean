import TaskEndpoints.Engine.Basic
import TaskEndpoints.Settings.Environment

/-!
# The client of the engine

A client is made from the environment. It speaks the oldest version of the engine's interface in which
everything needed exists, unless the environment names another.
-/

namespace TaskEndpoints

namespace EngineClientSpec

/-- The version of the engine's interface that is spoken where the environment names none. -/
def oldestVersion : String := "1.27"

/-- What a client is made from. A time limit of zero counts as none. -/
def ofEnvironment (env : Environment) (timeout : Option Int) : EngineClientSpec :=
  let named := env.read "DOCKER_API_VERSION"
  ⟨if named.isEmpty then oldestVersion else named, env, timeout.filter (· ≠ 0)⟩

/-- Make a client. The failure is what making it ends in, if it fails. -/
def create (spec : EngineClientSpec) (failure? : Option Failure) : Run EngineError Unit := do
  Run.emit (.engineClientMade spec)
  match failure? with
  | none => return
  | some f =>
    if f.kind.isEngine then
      let host := (spec.environment.lookup "DOCKER_HOST").getD "default"
      Run.log .engineClient .error
        ("Docker client init error (DOCKER_HOST=" ++ host ++ "): " ++ f.message)
      Run.fail (.noClient f)
    else Run.fail (.foreign f)

end EngineClientSpec

end TaskEndpoints
