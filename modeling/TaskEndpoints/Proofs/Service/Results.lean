import TaskEndpoints.Proofs.Journal
import TaskEndpoints.Proofs.Traversal
import TaskEndpoints.Service.Basic

/-!
# The results of requests

What answers a path comes to a JSON text or to a refusal. This result alone decides about the answer: the
text is answered with the status 200, and a refusal has a status of at least 400.
-/

namespace TaskEndpoints

namespace Http

variable {ε : Type}

/-- The JSON text that a step comes to, or why the request is refused. -/
def result (step : Run Refusal Value) : Except Refusal String :=
  step.outcome.bind fun v => (Json.write v).mapError fun e => .failed e.message

/-- The answer with a result. -/
def answerResult : Except Refusal String → Run ε Answer
  | .ok text => pure (.json text)
  | .error refusal => refusal.answer

theorem result_eq_ok_iff {step : Run Refusal Value} {text : String} :
    result step = .ok text ↔ ∃ v, step.outcome = .ok v ∧ Json.write v = .ok text := by
  rw [result]
  exact bind_eq_ok_iff.trans (exists_congr fun v => and_congr_right fun _ => mapError_eq_ok_iff)

/-- A request is refused by a step, or because the value that the step comes to has no JSON text. -/
theorem result_eq_error_iff {step : Run Refusal Value} {refusal : Refusal} :
    result step = .error refusal ↔ step.outcome = .error refusal ∨
      ∃ v e, step.outcome = .ok v ∧ Json.write v = .error e ∧ .failed e.message = refusal := by
  rw [result]
  cases step.outcome with
  | error e => simp [Except.bind]
  | ok v => simp [Except.bind, mapError_eq_error_iff]

theorem answerValue_eq (v : Value) :
    (answerValue v : Run ε Answer) =
      answerResult ((Json.write v).mapError fun e => .failed e.message) := by
  rw [answerValue]
  cases Json.write v with
  | error e => rfl
  | ok text => rfl

/-- A step is answered with its result. -/
theorem answerStep_eq (step : Run Refusal Value) :
    (answerStep step : Run ε Answer) = ⟨step.events, .ok ()⟩ >>= fun _ => answerResult (result step) := by
  rw [answerStep, Run.bind_of_ok (Run.attempt_outcome step), Run.bind_of_ok rfl, result]
  cases step.outcome with
  | error refusal => rfl
  | ok v =>
      exact congrArg (fun r : Run ε Answer => Run.mk (step.events ++ r.events) r.outcome)
        (answerValue_eq v)

/-- The events of answering follow those of the step. -/
theorem events_answerStep (step : Run Refusal Value) :
    (answerStep step : Run ε Answer).events =
      step.events ++ (answerResult (result step) : Run ε Answer).events := by
  rw [answerStep_eq, Run.bind_of_ok rfl]

/-- Answers with most statuses are sent as they are, except that reading the head alone gives no body. -/
theorem Answer.sentFor_eq (a : Answer) (hb : isBodiless a.status = false) (method : String) :
    a.sentFor method = { a with body := if method = "HEAD" then "" else a.body } := by
  have hs : a.status ≠ 304 := fun h => by
    rw [h] at hb
    cases hb
  rw [sentFor, hb, if_neg hs, Bool.or_false]
  simp only [beq_iff_eq]

theorem Answer.isBodiless_of_le {status : Nat} (h : 400 ≤ status) : isBodiless status = false := by
  simp only [isBodiless, Bool.or_eq_false_iff, Bool.and_eq_false_iff, decide_eq_false_iff_not,
    beq_eq_false_iff_ne]
  omega

end Http

open Http

namespace Service

/-- A request is led to what answers a path, with the text of the variable part. -/
def Reaches (s : Service) (request : Request) (endpoint : Endpoint) (text : String) : Prop :=
  Text.upper request.method ≠ "OPTIONS" ∧ ∃ route allowed,
    Destination.find s.routes (Text.upper request.method) (Target.ofText request.target).path =
      .found route text allowed ∧ route.target = endpoint

variable {ε : Type} {s : Service} {w : Surroundings} {request : Request} {endpoint : Endpoint}
  {address text : String} {refusal : Refusal}

theorem Reaches.unique {endpoint' : Endpoint} {text' : String} (h : s.Reaches request endpoint text)
    (h' : s.Reaches request endpoint' text') : endpoint' = endpoint ∧ text' = text := by
  obtain ⟨-, route, allowed, hfind, rfl⟩ := h
  obtain ⟨-, route', allowed', hfind', rfl⟩ := h'
  rw [hfind] at hfind'
  cases hfind'
  exact ⟨rfl, rfl⟩

theorem vend_eq_error_iff {step : Run VendingError CredentialDocument} :
    (vend step).outcome = .error refusal ↔
      ∃ e, step.outcome = .error e ∧ refuseVending e = refusal := by
  rw [vend, map_eq_pure_bind, Run.bind_outcome, Run.mapError]
  cases step.outcome with
  | error e => simp [Except.mapError, Except.bind]
  | ok document => simp [Except.mapError, Except.bind]

theorem le_status_of_vend {step : Run VendingError CredentialDocument}
    (h : (vend step).outcome = .error refusal) : 400 ≤ refusal.status := by
  obtain ⟨e, -, rfl⟩ := vend_eq_error_iff.mp h
  cases e with
  | badPath arn => exact Nat.le_refl 400
  | _ => exact (by decide : 400 ≤ 500)

/-- What answers a path refuses only with statuses that tell of an error. -/
theorem le_status_of_result (h : result (s.view w address endpoint text) = .error refusal) :
    400 ≤ refusal.status := by
  obtain hv | ⟨v, e, -, -, rfl⟩ := result_eq_error_iff.mp h
  · cases endpoint with
    | metadata kind =>
        obtain ⟨e, -, rfl⟩ := mapError_eq_error_iff.mp hv
        exact (by decide : 400 ≤ 500)
    | role | roleArn | temporary => exact le_status_of_vend hv
    | asset =>
        rw [← (Except.error.inj hv : Refusal.unknownPath = refusal)]
        decide
  · exact (by decide : 400 ≤ 500)

theorem answer_of_reaches (h : s.Reaches request endpoint text) :
    (s.answer w request : Run ε Answer) =
      answerStep (s.view w request.address endpoint text) >>= fun a =>
        pure (a.sentFor request.method) := by
  obtain ⟨hm, route, allowed, hfind, rfl⟩ := h
  have htells : (Text.upper request.method == "OPTIONS" && route.tellsMethods) = false := by
    rw [beq_false_of_ne hm, Bool.false_and]
  rw [answer, serve]
  simp only [hfind, htells]
  rfl

/-- A request that is led to what answers a path is answered by the result. -/
theorem outcome_of_reaches (h : s.Reaches request endpoint text) :
    (s.answer w request : Run ε Answer).outcome =
      (answerResult (result (s.view w request.address endpoint text)) : Run ε Answer).outcome.map
        (·.sentFor request.method) := by
  rw [answer_of_reaches h, Run.bind_outcome, answerStep_eq, Run.bind_of_ok rfl]
  rfl

theorem outcome_of_text {body : String} (h : s.Reaches request endpoint text)
    (hr : result (s.view w request.address endpoint text) = .ok body) :
    (s.answer w request : Run ε Answer).outcome =
      .ok { Answer.json body with body := if request.method = "HEAD" then "" else body ++ "\n" } := by
  rw [outcome_of_reaches h, hr]
  exact congrArg Except.ok (Answer.sentFor_eq _ rfl _)

theorem outcome_of_refusal (h : s.Reaches request endpoint text)
    (hr : result (s.view w request.address endpoint text) = .error refusal) :
    (s.answer w request : Run ε Answer).outcome =
      .ok { Answer.plain refusal.status refusal.text with
        body := if request.method = "HEAD" then "" else refusal.text ++ "\n" } := by
  rw [outcome_of_reaches h, hr]
  exact congrArg Except.ok (Answer.sentFor_eq _ (Answer.isBodiless_of_le (le_status_of_result hr)) _)

/-- An answer with the status 200 to a request that is led to what answers a path has the text of a value
as its body, unless the head alone is asked for. -/
theorem exists_value_of_status (h : s.Reaches request endpoint text) {answer : Answer}
    (ha : (s.answer w request : Run ε Answer).outcome = .ok answer) (hs : answer.status = 200) :
    ∃ v body, (s.view w request.address endpoint text).outcome = .ok v ∧ Json.write v = .ok body ∧
      answer = { Answer.json body with body := if request.method = "HEAD" then "" else body ++ "\n" } := by
  cases hr : result (s.view w request.address endpoint text) with
  | ok body =>
      obtain ⟨v, hv, hw⟩ := result_eq_ok_iff.mp hr
      rw [outcome_of_text h hr] at ha
      exact ⟨v, body, hv, hw, (Except.ok.inj ha).symm⟩
  | error refusal =>
      have hle := le_status_of_result hr
      rw [outcome_of_refusal h hr] at ha
      rw [← Except.ok.inj ha] at hs
      exact absurd (show refusal.status = 200 from hs) (by omega)

/-- The events of an answer are those of what answers the path, and the report of a refusal. -/
theorem events_answer (h : s.Reaches request endpoint text) :
    (s.answer w request : Run ε Answer).events = (s.view w request.address endpoint text).events ++
      (answerResult (result (s.view w request.address endpoint text)) : Run ε Answer).events := by
  rw [answer_of_reaches h, Run.events_bind_pure, events_answerStep]

/-- Only what answers the path asks for samples. -/
theorem statsAsked_answer (h : s.Reaches request endpoint text) :
    (s.answer w request : Run ε Answer).statsAsked =
      (s.view w request.address endpoint text).statsAsked := by
  rw [Run.statsAsked, events_answer h, List.filterMap_append]
  cases result (s.view w request.address endpoint text) with
  | error refusal => exact List.append_nil _
  | ok body => exact List.append_nil _

/-- Only what answers the path calls the cloud. -/
theorem cloudCalls_answer (h : s.Reaches request endpoint text) :
    (s.answer w request : Run ε Answer).cloudCalls =
      (s.view w request.address endpoint text).cloudCalls := by
  rw [Run.cloudCalls, events_answer h, List.filterMap_append]
  cases result (s.view w request.address endpoint text) with
  | error refusal => exact List.append_nil _
  | ok body => exact List.append_nil _

end Service

end TaskEndpoints
