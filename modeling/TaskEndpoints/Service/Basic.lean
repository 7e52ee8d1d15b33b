import TaskEndpoints.Credentials.Vending
import TaskEndpoints.Http.Server
import TaskEndpoints.Service.Description

/-!
# The service

The routes of the two versions of the metadata interface and of the credentials, and what answers them.
Every metadata path and most credentials paths may end in a slash.
-/

namespace TaskEndpoints

open Http

/-- What answers a path. -/
inductive Endpoint where
  | metadata (kind : MetadataKind)
  /-- Credentials of a role with a name. -/
  | role
  /-- Credentials of a role with a resource name. -/
  | roleArn
  | temporary
  /-- A file of the service, of which there are none. -/
  | asset
deriving DecidableEq, Repr

namespace Endpoint

/-- The paths of the second version of the metadata interface. -/
def second : List (List Segment × MetadataKind) := [
  ([.literal "v2", .literal "metadata"], .taskMetadata),
  ([.literal "v2", .literal "metadata", .any], .containerMetadata),
  ([.literal "v2", .literal "stats"], .taskStats),
  ([.literal "v2", .literal "stats", .any], .containerStats)]

/-- The paths of the third version of the metadata interface. -/
def third : List (List Segment × MetadataKind) := [
  ([.literal "v3"], .containerMetadata),
  ([.literal "v3", .literal "containers", .any], .containerMetadata),
  ([.literal "v3", .literal "stats"], .containerStats),
  ([.literal "v3", .literal "containers", .any, .literal "stats"], .containerStats),
  ([.literal "v3", .literal "task"], .taskMetadata),
  ([.literal "v3", .literal "containers", .any, .literal "task"], .taskMetadata),
  ([.literal "v3", .literal "task", .literal "stats"], .taskStats),
  ([.literal "v3", .literal "containers", .any, .literal "task", .literal "stats"], .taskStats)]

/-- A route and the same route with a slash at its end. -/
def withSlash (pattern : List Segment) (e : Endpoint) : List (Route Endpoint) :=
  [.get pattern e, .get (pattern ++ [.literal ""]) e]

/-- The routes of the metadata interface. -/
def metadataRoutes : List (Route Endpoint) :=
  (second ++ third).flatMap fun (pattern, kind) => withSlash pattern (.metadata kind)

/-- The routes of the credentials. -/
def credentialRoutes : List (Route Endpoint) :=
  withSlash [.literal "role", .any] .role
    ++ [.get [.literal "role-arn", .rest] .roleArn]
    ++ withSlash [.literal "creds"] .temporary

/-- The route of the files of the service. -/
def assetRoute : Route Endpoint := .get [.literal "static", .rest] .asset

end Endpoint

/-- The service. -/
structure Service where
  /-- What is told about task and containers. -/
  description : Description
  /-- The setting for the lifetime of shared tokens; `none` if no credentials are offered. -/
  sharedLifetime : Option String
deriving DecidableEq

/-- What the service works with. -/
structure Surroundings where
  engine : LimitedEngine
  cloud : Cloud
  now : Moment

namespace Service

/-- The service by settings. -/
def ofRegistry (r : Registry) (own? : Option String) (offersCredentials : Bool) : Service :=
  ⟨.ofRegistry r own?,
    if offersCredentials then some (r.settings.text .sharedTokenExpiration) else none⟩

/-- The routes of the service. -/
def routes (s : Service) : List (Route Endpoint) :=
  Endpoint.assetRoute :: Endpoint.metadataRoutes
    ++ (if s.sharedLifetime.isSome then Endpoint.credentialRoutes else [])

/-- How a failed metadata request is refused. -/
def refuseDescription (e : DescriptionError) : Refusal := .failed e.message

/-- How a failed credentials request is refused. -/
def refuseVending (e : VendingError) : Refusal :=
  match e with
  | .badPath _ => .stated 400 e.message
  | _ => .failed e.message

/-- The value of a credentials request. -/
def vend (step : Run VendingError CredentialDocument) : Run Refusal Value :=
  CredentialDocument.toValue <$> step.mapError refuseVending

/-- The value that a path stands for, with the text of its variable part. -/
def view (s : Service) (w : Surroundings) (address : String) (e : Endpoint) (text : String) :
    Run Refusal Value :=
  match e with
  | .metadata kind => (s.description.respond w.engine kind text address).mapError refuseDescription
  | .role => vend (Vending.forRole w.cloud text)
  | .roleArn => vend (Vending.forPath w.cloud text)
  | .temporary => vend (Vending.temporary w.cloud (s.sharedLifetime.getD "") w.now)
  | .asset => Run.fail .unknownPath

/-- Answer a request. -/
def answer {ε : Type} (s : Service) (w : Surroundings) (request : Request) : Run ε Answer :=
  serve s.routes (s.view w request.address) request

end Service

end TaskEndpoints
