import TaskEndpoints.Proofs.Service.Reports
import TaskEndpoints.Proofs.Service.Results
import TaskEndpoints.Proofs.Service.Spellings

/-!
# The answer to a request

A request has one answer, which is of one of four kinds: a value, the methods of a path, another address,
or a refusal. A refusal is reported in the log once, and no other answer is. A status of 500 says that
what answers the request failed.
-/

namespace TaskEndpoints

namespace Http

variable {ε : Type}

/-- The report of a refusal. -/
def Refusal.report (r : Refusal) : LogRecord :=
  ⟨.http, .error, "HTTP " ++ toString r.status ++ " - " ++ r.message⟩

end Http

open Http

namespace Service

variable (s : Service) (w : Surroundings) (request : Request)

/-- What answers a credentials path. -/
def vending? (endpoint : Endpoint) (text : String) : Option (Run VendingError CredentialDocument) :=
  match endpoint with
  | .role => some (Vending.forRole w.cloud text)
  | .roleArn => some (Vending.forPath w.cloud text)
  | .temporary => some (Vending.temporary w.cloud (s.sharedLifetime.getD "") w.now)
  | .metadata _ | .asset => none

/-- What answers a path fails, with the wording of the failure: metadata cannot be told, credentials
cannot be given under a path that names a role, or the value has no JSON text. -/
inductive Fails (address : String) : Endpoint → String → String → Prop
  | metadata {kind : MetadataKind} {identifier : String} {e : DescriptionError}
      (h : (s.description.respond w.engine kind identifier address).outcome = .error e) :
      Fails address (.metadata kind) identifier e.message
  | credentials {endpoint : Endpoint} {text : String} {step : Run VendingError CredentialDocument}
      {e : VendingError} (hv : s.vending? w endpoint text = some step) (h : step.outcome = .error e)
      (hpath : ∀ arn, e ≠ .badPath arn) : Fails address endpoint text e.message
  | unwritable {endpoint : Endpoint} {text : String} {v : Value} {e : Json.WriteError}
      (h : (s.view w address endpoint text).outcome = .ok v) (hw : Json.write v = .error e) :
      Fails address endpoint text e.message

variable {s : Service} {w : Surroundings} {request : Request} {endpoint : Endpoint}
  {address text message : String}

/-! ### Failures -/

variable {ε : Type}

end Service

end TaskEndpoints
