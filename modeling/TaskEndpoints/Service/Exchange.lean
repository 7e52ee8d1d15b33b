import TaskEndpoints.Json.Reader
import TaskEndpoints.Service.Basic

/-!
# Exchanges with a gateway

A gateway takes requests from the network and hands each of them on as one line of JSON, together with
what the engine and the cloud have to say. The answer is one line of JSON as well.

The fields of a line are `method`, `target` and `address` of the request, `now` in seconds from the Unix
epoch, `containers` with the list of the engine, `samples` by container, `role`, `credentials` and `token`
with the answers of the cloud, and `held` with credentials of the surroundings. An answer from outside is
an object with a `value` or with a `failure` text.
-/

namespace TaskEndpoints

open Http

/-- A request together with what is needed to answer it. -/
structure Exchange where
  request : Request
  surroundings : Surroundings
  /-- The time in seconds from the Unix epoch. -/
  seconds : Int

namespace Exchange

/-- The field of a value; what is no map has no fields. -/
def field (v : Value) (name : String) : Value :=
  match v with
  | .map entries => Value.fieldOf entries name
  | _ => .null

/-- The text of a value that is one. -/
def text : Value → String
  | .text s => s
  | _ => ""

/-- An answer from outside. -/
def outcome (kind : FailureKind) (v : Value) : Except Failure Value :=
  match field v "failure" with
  | .text message => .error ⟨kind, message⟩
  | _ => .ok (field v "value")

/-- An answer of the engine. -/
def reply (v : Value) : Reply Value :=
  match outcome .engine v with
  | .ok w => .value w
  | .error f => .failure f

/-- The moment of a count of seconds from the Unix epoch. -/
def momentOf (seconds : Int) : Except CalendarError Moment :=
  Moment.ofLocalMicros ((epochClock + seconds) * microsPerSecond) (some 0)

/-- An expiration that is given in seconds from the Unix epoch. -/
def expiration (v : Value) : Value :=
  match v with
  | .int seconds => match momentOf seconds with
    | .ok m => .moment m
    | .error _ => v
  | other => other

/-- Credentials as the cloud answers them, with the expiration as a moment. -/
def withExpiration (v : Value) : Value :=
  match v, field v "Credentials" with
  | .map fields, .map parts =>
    .map (Assoc.insert fields (.text "Credentials")
      (.map (Assoc.insert parts (.text "Expiration") (expiration (Value.fieldOf parts "Expiration")))))
  | other, _ => other

/-- The cloud of a line. -/
def cloud (line : Value) : Cloud :=
  let held := match field line "held" with
    | .map parts => some ⟨Value.fieldOf parts "key", Value.fieldOf parts "secret",
        Value.fieldOf parts "token", expiration (Value.fieldOf parts "expiry")⟩
    | _ => none
  let answer (name : String) := outcome .cloudRefusal (field line name)
  ⟨held, fun
    | .getRole _ => answer "role"
    | .assumeRole .. => (answer "credentials").map withExpiration
    | .getSessionToken _ => (answer "token").map withExpiration⟩

/-- The exchange of a line, with the time limit of calls of the engine. -/
def ofValue (limit : TimeLimit) (line : Value) : Except CalendarError Exchange := do
  let seconds := match field line "now" with
    | .int n => n
    | _ => 0
  let engine : Engine := ⟨reply (field line "containers"), fun id =>
    reply (field (field line "samples") id)⟩
  return ⟨⟨text (field line "method"), text (field line "target"), text (field line "address")⟩,
    ⟨⟨engine, limit⟩, cloud line, ← momentOf seconds⟩, seconds⟩

end Exchange

/-- The object for an answer. -/
def Http.Answer.toValue (a : Answer) : Value :=
  let optional (name : String) (v : Option Value) := (v.map fun w => (name, w)).toList
  .object ([("status", .int a.status), ("body", .text a.body)]
    ++ optional "type" (a.contentType.map .text)
    ++ optional "location" (a.location.map .text)
    ++ optional "allow" (a.allow.map fun methods => .list (methods.map .text)))

end TaskEndpoints
