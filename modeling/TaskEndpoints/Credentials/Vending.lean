import TaskEndpoints.Credentials.Cloud
import TaskEndpoints.Credentials.Document
import TaskEndpoints.Credentials.Expiration
import TaskEndpoints.Text.Cut
import TaskEndpoints.Text.Split
import TaskEndpoints.Value.Index

/-!
# Vending credentials

Credentials of a role are asked for by the name of the role or by its resource name. Temporary
credentials are those of the surroundings where these are temporary themselves, since such credentials
cannot ask for others; else the cloud is asked.
-/

namespace TaskEndpoints

/-- Why no credentials are handed out. -/
inductive VendingError where
  /-- The path holds no resource name of a role. -/
  | badPath (arn : String)
  | cloud (f : Failure)
  /-- An answer of the cloud lacks a field. -/
  | incomplete (e : IndexError)
  | notMoment (typeWord : String)
  | calendar (e : CalendarError)
deriving DecidableEq, Repr

/-- The wording of each cause. -/
def VendingError.message : VendingError → String
  | .badPath arn =>
    "Invalid URL path /role-arn/" ++ arn ++ "; expected '/role-arn/<IAM Role ARN>'"
  | .cloud f => f.message
  | .incomplete e => e.message
  | .notMoment word => "'" ++ word ++ "' object has no attribute 'tzinfo'"
  | .calendar e => e.message

namespace Vending

/-- The seconds for which credentials are asked. -/
def lifetime : Nat := 3600

/-- The longest name of a session. -/
def sessionNameLength : Nat := 64

/-- The name of the session for a role. -/
def sessionName (role : String) : String := Text.cut sessionNameLength ("ecs-local-" ++ role)

/-- A field that has to be there. -/
def required (v : Value) (name : String) : Except VendingError Value :=
  (v.index name).mapError .incomplete

/-- The published form of an expiration. -/
def expirationText (v : Value) : Except VendingError Value :=
  match v with
  | .moment m => (m.universalText.map .text).mapError .calendar
  | other => .error (.notMoment other.longTypeWord)

/-- The document for an answer of the cloud. -/
def document (output roleArn : Value) : Except VendingError CredentialDocument := do
  let given ← required output "Credentials"
  return ⟨← required given "AccessKeyId", ← required given "SecretAccessKey",
    ← required given "SessionToken", ← expirationText (← required given "Expiration"), roleArn⟩

/-- Write a note. -/
def note (text : String) : Run VendingError Unit := Run.log .credentials .debug text

/-- Call the cloud. -/
def ask (cloud : Cloud) (call : CloudCall) : Run VendingError Value := (cloud.call call).mapError .cloud

/-- Credentials of a role with a resource name, for a session named after the role. -/
def forArn (cloud : Cloud) (arn : Value) (role : String) : Run VendingError CredentialDocument := do
  note ("Requesting credentials for role with ARN " ++ arn.plain)
  let output ← ask cloud (.assumeRole arn lifetime (sessionName role))
  Run.ofExcept (document output arn)

/-- Credentials of a role with a name. -/
def forRole (cloud : Cloud) (role : String) : Run VendingError CredentialDocument := do
  note "Received role credentials request"
  note ("Requesting credentials for " ++ role)
  let output ← ask cloud (.getRole role)
  let arn ← Run.ofExcept do required (← required output "Role") "Arn"
  forArn cloud arn role

/-- A resource name without the slashes at its end. -/
def trimArn (tail : String) : String := String.ofList (Text.dropEndWhile (· == '/') tail.toList)

/-- The text after the last slash, if there is a slash. -/
def roleName? (arn : String) : Option String :=
  match (Text.splitAtEvery '/' arn.toList).reverse with
  | last :: _ :: _ => if last.isEmpty then none else some (String.ofList last)
  | _ => none

/-- Credentials of a role whose resource name is the given part of a path. -/
def forPath (cloud : Cloud) (tail : String) : Run VendingError CredentialDocument := do
  note "Received role credentials request using ARN"
  let arn := trimArn tail
  match roleName? arn with
  | some role => forArn cloud (.text arn) role
  | none => Run.fail (.badPath arn)

/-- The document for temporary credentials that the surroundings hold. -/
def relay (held : HeldCredentials) (rawLifetime : String) (now : Moment) :
    Run VendingError CredentialDocument := do
  note "Current session contains temporary credentials"
  let expiry ← match held.expiry with
    | .null => .moment <$> (sharedTokenExpiration rawLifetime now).mapError .calendar
    | known => pure known
  let expiration ← Run.ofExcept (expirationText expiry)
  return ⟨held.keyId, held.secretKey, held.token, expiration, .text ""⟩

/-- Temporary credentials. The raw lifetime is the setting for shared tokens. -/
def temporary (cloud : Cloud) (rawLifetime : String) (now : Moment) :
    Run VendingError CredentialDocument := do
  note "Received temporary local credentials request"
  match cloud.held.filter (·.token.isTruthy) with
  | some held => relay held rawLifetime now
  | none =>
    let output ← ask cloud (.getSessionToken lifetime)
    Run.ofExcept (document output (.text ""))

end Vending

end TaskEndpoints
