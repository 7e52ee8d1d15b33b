import Mathlib.Data.Multiset.Range
import Mathlib.Logic.Relation
import TaskEndpoints.Proofs.Engine.Queries

/-!
# Gathering the samples of a task

The containers of a task are asked at once, each by a call of its own, and the calls begin and end in any
order. The samples are gathered container after container. Whatever the order, the gathering comes to what
the samples of the task are: all of them, or the error of the first container in the list that has one.

## Implementation notes

Calls are numbered by their place in the list of containers. Where an identifier is listed more than once,
only the last of its calls is waited for, in the place of the first; the other calls are made all the same.
-/

namespace TaskEndpoints

/-- What the gathering of samples has come to at some time. -/
structure Gathering where
  /-- The calls that have not begun. -/
  pending : Multiset Nat
  /-- The calls that have begun and not ended. -/
  running : Multiset Nat
  ended : Multiset Nat
  /-- The calls that were given up before they began. -/
  dropped : Multiset Nat
  /-- The containers whose samples are not gathered yet, in order, each with its call. -/
  waiting : Assoc String Nat
  gathered : Assoc String Fields
  outcome : Option (Except EngineError (Assoc String Fields))

namespace Gathering

/-- The calls that are waited for. -/
def calls (ids : List String) : Assoc String Nat := Assoc.ofPairs ids.zipIdx

/-- All calls are handed over, and none has begun. -/
def start (ids : List String) : Gathering where
  pending := Multiset.range ids.length
  running := 0
  ended := 0
  dropped := 0
  waiting := calls ids
  gathered := []
  outcome := none

/-- One thing that happens while samples are gathered. -/
inductive Step (e : LimitedEngine) (ids : List String) (g : Gathering) : Gathering → Prop
  | begins {i : Nat} {rest : Multiset Nat} (h : g.pending = i ::ₘ rest) :
      Step e ids g { g with pending := rest, running := i ::ₘ g.running }
  /-- A call ends unless it waits for an answer that does not come. -/
  | ends {i : Nat} {rest : Multiset Nat} {id : String} (h : g.running = i ::ₘ rest)
      (hid : ids[i]? = some id) (hend : (e.sample id).outcome ≠ .error .unanswered) :
      Step e ids g { g with running := rest, ended := i ::ₘ g.ended }
  | gathers {i : Nat} {id : String} {rest : Assoc String Nat} {fields : Fields} (ho : g.outcome = none)
      (hw : g.waiting = (id, i) :: rest) (hi : i ∈ g.ended) (hs : (e.sample id).outcome = .ok fields) :
      Step e ids g { g with waiting := rest, gathered := g.gathered.insert id fields }
  | fails {i : Nat} {id : String} {rest : Assoc String Nat} {err : EngineError} (ho : g.outcome = none)
      (hw : g.waiting = (id, i) :: rest) (hi : i ∈ g.ended) (hs : (e.sample id).outcome = .error err) :
      Step e ids g { g with outcome := some (.error err) }
  /-- After an error of the engine the calls that are waited for are given up, if they have not begun. -/
  | drops {i : Nat} {rest : Multiset Nat} {err : EngineError} (ho : g.outcome = some (.error err))
      (herr : err.isOfEngine = true) (hi : i ∈ (calls ids).map (·.2)) (h : g.pending = i ::ₘ rest) :
      Step e ids g { g with pending := rest, dropped := i ::ₘ g.dropped }
  | completes (ho : g.outcome = none) (hw : g.waiting = []) :
      Step e ids g { g with outcome := some (.ok g.gathered) }

/-- The gathering has an outcome, and no call is left. -/
def IsFinished (g : Gathering) : Prop :=
  g.outcome ≠ none ∧ g.pending = 0 ∧ g.running = 0

/-- What holds all the time while samples are gathered. -/
structure Inv (e : LimitedEngine) (ids : List String) (g : Gathering) : Prop where
  /-- Every container of the list has one call, which is in one state. -/
  calls : g.pending + g.running + g.ended + g.dropped = Multiset.range ids.length
  dropped : (∀ err, g.outcome ≠ some (.error err)) → g.dropped = 0
  waiting : ∀ p ∈ g.waiting, ids[p.2]? = some p.1
  keys : g.gathered.keys ++ g.waiting.keys = ids.eraseDups
  gathered : ∀ p ∈ g.gathered, (e.sample p.1).outcome = .ok p.2
  outcome : ∀ o, g.outcome = some o → o = (e.taskSamples ids).outcome

variable {e : LimitedEngine} {ids : List String} {g next : Gathering}

/-- The calls that are waited for are those of the listed containers, in order of first occurrence. -/
theorem keys_calls (ids : List String) : (calls ids).keys = ids.eraseDups := by
  rw [calls, Assoc.keys_ofPairs, List.zipIdx_map_fst]

theorem getElem?_of_mem_calls {p : String × Nat} (h : p ∈ calls ids) : ids[p.2]? = some p.1 := by
  have hp := (Assoc.mem_of_mem_insertAll h).resolve_left List.not_mem_nil
  exact List.mem_zipIdx_iff_getElem?.mp hp

theorem inv_start (e : LimitedEngine) (ids : List String) : Inv e ids (start ids) where
  calls := by simp [start]
  dropped := fun _ => rfl
  waiting := fun _ hp => getElem?_of_mem_calls hp
  keys := keys_calls ids
  gathered := fun _ hp => absurd hp List.not_mem_nil
  outcome := fun _ ho => nomatch ho

namespace Inv

/-- The container that is waited for first comes after those whose samples are gathered. -/
theorem eraseDups_ids (h : Inv e ids g) {id : String} {i : Nat} {rest : Assoc String Nat}
    (hw : g.waiting = (id, i) :: rest) : ids.eraseDups = g.gathered.keys ++ id :: rest.keys := by
  rw [← h.keys, hw]
  rfl

theorem hasSamples (h : Inv e ids g) : e.HasSamples g.gathered.keys := by
  intro id hid
  obtain ⟨p, hp, rfl⟩ := List.mem_map.mp hid
  exact ⟨p.2, h.gathered p hp⟩

theorem gathers (h : Inv e ids g) {id : String} {i : Nat} {rest : Assoc String Nat} {fields : Fields}
    (hw : g.waiting = (id, i) :: rest) (hs : (e.sample id).outcome = .ok fields) :
    Inv e ids { g with waiting := rest, gathered := g.gathered.insert id fields } := by
  have hids := h.eraseDups_ids hw
  have hnew : id ∉ g.gathered.keys := fun hm =>
    List.disjoint_of_nodup_append (hids ▸ Assoc.nodup_eraseDups ids) hm List.mem_cons_self
  refine { h with
    waiting := fun p hp => h.waiting p (hw ▸ List.mem_cons_of_mem _ hp)
    keys := ?_
    gathered := fun p hp => ?_ }
  · rw [Assoc.keys_insert, if_neg hnew, hids, List.append_assoc]
    rfl
  · rcases Assoc.mem_of_mem_insert hp with hp | rfl
    · exact h.gathered p hp
    · exact hs

/-- A container without a sample is the first one where all that were waited for before have theirs. -/
theorem outcome_of_fails (h : Inv e ids g) {id : String} {i : Nat} {rest : Assoc String Nat}
    {err : EngineError} (hw : g.waiting = (id, i) :: rest) (hs : (e.sample id).outcome = .error err) :
    (e.taskSamples ids).outcome = .error err := by
  apply LimitedEngine.taskSamples_eq_error_iff.mpr
  refine ⟨id, ?_⟩
  rw [← LimitedEngine.firstFailing?_eraseDups]
  exact LimitedEngine.firstFailing?_eq_some_iff.mpr ⟨_, _, h.eraseDups_ids hw, h.hasSamples, hs⟩

/-- What is gathered when nothing is waited for are the samples of the task. -/
theorem outcome_of_completes (h : Inv e ids g) (hw : g.waiting = []) :
    (e.taskSamples ids).outcome = .ok g.gathered := by
  have hkeys : g.gathered.keys = ids.eraseDups := by
    rw [← h.keys, hw]
    exact (List.append_nil _).symm
  have hall : e.HasSamples ids := fun id hid =>
    h.hasSamples id (hkeys ▸ List.mem_eraseDups.mpr hid)
  refine LimitedEngine.taskSamples_eq_ok_iff.mpr ⟨hall, ?_⟩
  refine Assoc.eq_of_keys_eq (hkeys.trans (LimitedEngine.keys_available hall).symm) ?_
  intro p hp q hq hk
  have hq := (LimitedEngine.mem_available hall hq).2
  rw [← hk, h.gathered p hp] at hq
  exact Except.ok.inj hq

end Inv

/-- The invariant survives every step. -/
theorem Step.inv (hstep : Step e ids g next) (h : Inv e ids g) : Inv e ids next := by
  cases hstep with
  | begins hp =>
      refine { h with calls := ?_ }
      rw [← h.calls, hp]
      simp only [Multiset.cons_add, Multiset.add_cons]
  | ends hr _ _ =>
      refine { h with calls := ?_ }
      rw [← h.calls, hr]
      simp only [Multiset.cons_add, Multiset.add_cons]
  | gathers _ hw _ hs => exact h.gathers hw hs
  | fails _ hw _ hs =>
      refine { h with dropped := ?_, outcome := ?_ }
      · exact fun hno => absurd rfl (hno _)
      · rintro o ho
        rw [h.outcome_of_fails hw hs]
        exact (Option.some.inj ho).symm
  | drops ho _ _ hp =>
      refine { h with calls := ?_, dropped := ?_ }
      · rw [← h.calls, hp]
        simp only [Multiset.cons_add, Multiset.add_cons]
      · exact fun hno => absurd ho (hno _)
  | completes hn hw =>
      refine { h with dropped := ?_, outcome := ?_ }
      · intro _
        exact h.dropped (by simp [hn])
      · rintro o ho
        rw [h.outcome_of_completes hw]
        exact (Option.some.inj ho).symm

/-- The gathering can get from its start to a state. -/
def Reaches (e : LimitedEngine) (ids : List String) (g : Gathering) : Prop :=
  Relation.ReflTransGen (Step e ids) (start ids) g

theorem Reaches.inv (h : Reaches e ids g) : Inv e ids g := by
  induction h with
  | refl => exact inv_start e ids
  | tail _ hstep ih => exact hstep.inv ih

/-- With a time limit a call that has begun can end. -/
theorem Inv.exists_ends (h : Inv e ids g) (hl : e.limit.isPositive = true) {i : Nat}
    (hi : i ∈ g.running) : ∃ next, Step e ids g next := by
  obtain ⟨rest, hrest⟩ := Multiset.exists_cons_of_mem hi
  have hlt : i < ids.length := by
    rw [← Multiset.mem_range, ← h.calls]
    simp [hi]
  exact ⟨_, .ends hrest (List.getElem?_eq_getElem hlt)
    (TimeLimit.guard_outcome_ne_unanswered hl _ _)⟩

theorem exists_begins {i : Nat} (hi : i ∈ g.pending) : ∃ next, Step e ids g next := by
  obtain ⟨rest, hrest⟩ := Multiset.exists_cons_of_mem hi
  exact ⟨_, .begins hrest⟩

/-- With a time limit something can happen until the gathering is finished. -/
theorem Inv.progress (h : Inv e ids g) (hl : e.limit.isPositive = true) :
    g.IsFinished ∨ ∃ next, Step e ids g next := by
  by_cases hp : g.pending = 0
  · by_cases hr : g.running = 0
    · cases ho : g.outcome with
      | some o => exact Or.inl ⟨by simp [ho], hp, hr⟩
      | none =>
          right
          cases hw : g.waiting with
          | nil => exact ⟨_, .completes ho hw⟩
          | cons p rest =>
              -- every call has ended, also the one that is waited for
              have hcall := h.waiting p (hw ▸ List.mem_cons_self)
              have hended : p.2 ∈ g.ended := by
                have hd := h.dropped (by simp [ho])
                have hm := h.calls
                rw [hp, hr, hd, Multiset.zero_add, Multiset.zero_add, Multiset.add_zero] at hm
                rw [hm, Multiset.mem_range]
                exact (List.getElem?_eq_some_iff.mp hcall).1
              cases hs : (e.sample p.1).outcome with
              | ok fields => exact ⟨_, .gathers ho hw hended hs⟩
              | error err => exact ⟨_, .fails ho hw hended hs⟩
    · obtain ⟨i, hi⟩ := Multiset.exists_mem_of_ne_zero hr
      exact Or.inr (h.exists_ends hl hi)
  · obtain ⟨i, hi⟩ := Multiset.exists_mem_of_ne_zero hp
    exact Or.inr (exists_begins hi)

/-- What is left to happen. -/
def left (g : Gathering) : Nat :=
  2 * g.pending.card + g.running.card + g.waiting.length + (if g.outcome = none then 1 else 0)

theorem Step.left_lt (hstep : Step e ids g next) : next.left < g.left := by
  cases hstep with
  | begins hp => simp [left, hp]; omega
  | ends hr _ _ => simp [left, hr]
  | gathers ho hw _ _ => simp [left, hw]
  | fails ho _ _ _ => simp [left, ho]
  | drops _ _ _ hp => simp [left, hp]
  | completes ho _ => simp [left, ho]

/-- Where all containers have samples, each is asked once for every time that it is listed. -/
theorem Inv.ended_eq_range (h : Inv e ids g) (hg : g.IsFinished) (hs : e.HasSamples ids) :
    g.ended = Multiset.range ids.length := by
  obtain ⟨-, hp, hr⟩ := hg
  have hd : g.dropped = 0 := h.dropped fun err herr => by
    have ho := h.outcome _ herr
    rw [LimitedEngine.taskSamples_eq_ok_iff.mpr ⟨hs, rfl⟩] at ho
    cases ho
  have hm := h.calls
  rwa [hp, hr, hd, Multiset.zero_add, Multiset.zero_add, Multiset.add_zero] at hm

end Gathering

namespace LimitedEngine

/-- With a time limit, the samples of a task are there if each of its containers has one, each under the
identifier of its container, and else the error is that of the first container that has none. However the
calls are interleaved, this is what gathering the samples ends in, and it ends. -/
theorem taskSamples_all_or_first_error (e : LimitedEngine) (hl : e.limit.isPositive = true)
    (ids : List String) :
    ((∃ samples, (e.taskSamples ids).outcome = .ok samples) ↔
      ∀ id ∈ ids, ∃ fields, (e.sample id).outcome = .ok fields) ∧
    (∀ samples, (e.taskSamples ids).outcome = .ok samples →
      samples.keys = ids.eraseDups ∧
      (∀ id ∈ ids, ∃ fields, (e.sample id).outcome = .ok fields ∧ samples.get? id = some fields) ∧
      (e.taskSamples ids).statsAsked = ids) ∧
    (∀ before id after err, ids = before ++ id :: after →
      (∀ id' ∈ before, ∃ fields, (e.sample id').outcome = .ok fields) →
      (e.sample id).outcome = .error err → (e.taskSamples ids).outcome = .error err) ∧
    (∀ g, Gathering.Reaches e ids g →
      (∀ o, g.outcome = some o → o = (e.taskSamples ids).outcome) ∧
      (g.IsFinished ∨ ∃ next, Gathering.Step e ids g next) ∧
      (g.IsFinished → (∃ samples, (e.taskSamples ids).outcome = .ok samples) →
        g.ended = Multiset.range ids.length)) ∧
    WellFounded fun next g => Gathering.Step e ids g next := by
  refine ⟨⟨?_, fun h => ⟨_, taskSamples_eq_ok_iff.mpr ⟨h, rfl⟩⟩⟩, ?_, ?_, fun g hg => ⟨?_, ?_, ?_⟩, ?_⟩
  · rintro ⟨samples, hs⟩
    exact (taskSamples_eq_ok_iff.mp hs).1
  · intro samples hs
    obtain ⟨hall, rfl⟩ := taskSamples_eq_ok_iff.mp hs
    refine ⟨keys_available hall, fun id hid => ?_, statsAsked_taskSamples hall⟩
    obtain ⟨fields, hf⟩ := hall id hid
    exact ⟨fields, hf, get?_available hall hid hf⟩
  · intro before id after err hids hbefore herr
    exact taskSamples_eq_error_iff.mpr
      ⟨id, firstFailing?_eq_some_iff.mpr ⟨before, after, hids, hbefore, herr⟩⟩
  · exact hg.inv.outcome
  · exact hg.inv.progress hl
  · rintro hfin ⟨samples, hs⟩
    exact hg.inv.ended_eq_range hfin (taskSamples_eq_ok_iff.mp hs).1
  · exact Subrelation.wf (fun hstep => hstep.left_lt) (measure Gathering.left).wf

/-- An engine that samples one container, fails for another and is silent about all others. -/
def fickle : LimitedEngine where
  engine := ⟨.value (.list []), fun id =>
    if id = "a" then .value (.map []) else if id = "b" then .failure ⟨.engine, "gone"⟩ else .silence⟩
  limit := .initial

theorem taskSamples_all_or_first_error_example :
    fickle.limit.isPositive = true ∧
      (fickle.taskSamples ["a", "c", "b", "a"]).outcome = .error (.tooLate "stats for c" .initial) := by
  have hl : fickle.limit.isPositive = true := rfl
  obtain ⟨-, -, hfirst, -⟩ := taskSamples_all_or_first_error fickle hl ["a", "c", "b", "a"]
  refine ⟨hl, hfirst ["a"] "c" ["b", "a"] _ rfl ?_ rfl⟩
  exact List.forall_mem_singleton.mpr ⟨[], rfl⟩

end LimitedEngine

end TaskEndpoints
