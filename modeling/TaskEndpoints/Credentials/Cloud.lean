import TaskEndpoints.Journal
import TaskEndpoints.Program

/-!
# The cloud

The cloud hands out credentials for roles and temporary credentials. The surroundings of the service may
hold credentials of their own.
-/

namespace TaskEndpoints

/-- Credentials that the surroundings hold. -/
structure HeldCredentials where
  keyId : Value
  secretKey : Value
  /-- The token of the session; only temporary credentials have one. -/
  token : Value
  /-- The expiration; null if it is not known. -/
  expiry : Value
deriving DecidableEq

/-- What the surroundings hold and what the cloud answers. -/
structure Cloud where
  /-- The credentials that the surroundings hold, if there are any. -/
  held : Option HeldCredentials
  reply : CloudCall → Except Failure Value

/-- Call the cloud. -/
def Cloud.call (cloud : Cloud) (call : CloudCall) : Run Failure Value := do
  Run.emit (.cloudCalled call)
  Run.ofExcept (cloud.reply call)

/-- The endpoints of the cloud's services where they are not the usual ones. -/
structure CloudEndpoints where
  /-- The endpoint for roles; the empty text means the usual one. -/
  iam : String
  /-- The endpoint for tokens; the empty text means the usual one. -/
  sts : String
deriving DecidableEq, Repr

namespace CloudEndpoints

/-- The endpoint of a service. -/
def endpoint? (e : CloudEndpoints) (service : CloudService) : Option String :=
  let text := match service with
    | .iam => e.iam
    | .sts => e.sts
  if text.isEmpty then none else some text

/-- The name of a service in messages. -/
def serviceTitle : CloudService → String
  | .iam => "IAM"
  | .sts => "STS"

/-- What a client of a service is made from. -/
def clientSpec (e : CloudEndpoints) (service : CloudService) : CloudClientSpec :=
  ⟨service, e.endpoint? service, "aws-" ++ programName ++ "/" ++ programVersion ++ " (linux)"⟩

/-- Note that a service has an endpoint of its own. -/
def note (e : CloudEndpoints) (service : CloudService) : Run Failure Unit :=
  match e.endpoint? service with
  | none => Run.done ()
  | some text =>
    Run.log .credentials .info ("Using custom " ++ serviceTitle service ++ " endpoint " ++ text)

/-- Make the client of a service. -/
def createClient (e : CloudEndpoints) (failure? : CloudService → Option Failure)
    (service : CloudService) : Run Failure Unit := do
  Run.emit (.cloudClientMade (e.clientSpec service))
  match failure? service with
  | none => return
  | some f => Run.fail f

/-- Make the clients of both services. A failure is what making a client ends in, if it fails. -/
def createClients (e : CloudEndpoints) (failure? : CloudService → Option Failure) :
    Run Failure Unit := do
  Run.emit (.cloudLogLevelSet "botocore.credentials" Level.error.number)
  e.note .iam
  e.note .sts
  e.createClient failure? .iam
  e.createClient failure? .sts

end CloudEndpoints

end TaskEndpoints
