import TaskEndpoints.Http.Answer
import TaskEndpoints.Http.Route
import TaskEndpoints.Http.Target
import TaskEndpoints.Json.Writer
import TaskEndpoints.Text.UpperCase

/-!
# Serving requests

A request is led to a route, the route's value is answered as JSON, and everything that goes wrong is
answered with a refusal.
-/

namespace TaskEndpoints.Http

/-- A request. -/
structure Request where
  method : String
  /-- The target as it was sent. -/
  target : String
  /-- The address that the request came from; the empty text means that it is unknown. -/
  address : String
deriving DecidableEq, Repr

/-- The answer with a value. -/
def answerValue {ε : Type} (v : Value) : Run ε Answer :=
  match Json.write v with
  | .ok text => return .json text
  | .error e => (Refusal.failed e.message).answer

/-- The answer that a step ends in. -/
def answerStep {ε : Type} (step : Run Refusal Value) : Run ε Answer := do
  match ← step.attempt with
  | .ok v => answerValue v
  | .error refusal => refusal.answer

/-- Answer a request. A view gives the value of a route for the text of its variable part. -/
def serve {ε α : Type} (routes : List (Route α)) (view : α → String → Run Refusal Value)
    (request : Request) : Run ε Answer := do
  let method := Text.upper request.method
  let target := Target.ofText request.target
  let answer ← match Destination.find routes method target.path with
    | .found route text allowed =>
      if method == "OPTIONS" && route.tellsMethods then pure (.methods allowed)
      else answerStep (view route.target text)
    | .moved path => pure (.moved (Target.address path target.query))
    | .wrongMethod => Refusal.wrongMethod.answer
    | .unknown => Refusal.unknownPath.answer
  return answer.sentFor request.method

end TaskEndpoints.Http
