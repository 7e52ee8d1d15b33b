import TaskEndpoints.Journal

/-!
# Steps in sequence

A sequence of steps succeeds if all of its steps do, and asks for the samples that its steps ask for. It
has only events of a kind if its steps have only such events.
-/

namespace TaskEndpoints

namespace Run

variable {ε ε' α β : Type}

theorem bind_eq_ok_iff {r : Run ε α} {next : α → Run ε β} {b : β} :
    (r >>= next).outcome = .ok b ↔ ∃ a, r.outcome = .ok a ∧ (next a).outcome = .ok b := by
  rw [bind_outcome]
  cases r.outcome with
  | error e => simp [Except.bind]
  | ok a => simp [Except.bind]

/-- A step with a successful first part asks for what its two parts ask for. -/
theorem statsAsked_bind_of_ok {r : Run ε α} {a : α} (h : r.outcome = .ok a) (next : α → Run ε β) :
    (r >>= next).statsAsked = r.statsAsked ++ (next a).statsAsked := by
  rw [bind_of_ok h, statsAsked, List.filterMap_append]
  rfl

theorem statsAsked_bind_of_error {r : Run ε α} {e : ε} (h : r.outcome = .error e)
    (next : α → Run ε β) : (r >>= next).statsAsked = r.statsAsked := by
  rw [bind_of_error h]
  rfl

/-- What is made of the result of a step adds no event. -/
theorem events_bind_pure (r : Run ε α) (f : α → β) : (r >>= fun a => pure (f a)).events = r.events := by
  cases h : r.outcome with
  | error e => rw [bind_of_error h]
  | ok a => rw [bind_of_ok h, pure_events, List.append_nil]

/-- All events of a step are of a kind. -/
def Only (P : Event → Prop) (r : Run ε α) : Prop := ∀ e ∈ r.events, P e

variable {P : Event → Prop}

theorem Only.of_no_events {r : Run ε α} (h : r.events = []) : r.Only P := by
  intro e he
  rw [h] at he
  cases he

theorem only_pure (a : α) : (pure a : Run ε α).Only P := .of_no_events rfl

/-- A sequence of two steps has only events of a kind if both steps do. -/
theorem Only.bind {r : Run ε α} (h : r.Only P) {next : α → Run ε β}
    (hn : ∀ a, r.outcome = .ok a → (next a).Only P) : (r >>= next).Only P := by
  cases ho : r.outcome with
  | error e =>
      rw [bind_of_error ho]
      exact h
  | ok a =>
      rw [bind_of_ok ho]
      exact List.forall_mem_append.mpr ⟨h, hn a ho⟩

theorem Only.map {r : Run ε α} (h : r.Only P) (f : α → β) : (f <$> r).Only P := by
  rw [map_eq_pure_bind]
  exact h.bind fun a _ => only_pure (f a)

theorem Only.mapError {r : Run ε α} (h : r.Only P) (f : ε → ε') : (r.mapError f).Only P := h

theorem Only.attempt {r : Run ε α} (h : r.Only P) : (r.attempt : Run ε' (Except ε α)).Only P := h

end Run

end TaskEndpoints
