import TaskEndpoints.Engine.Query
import TaskEndpoints.Proofs.Assoc
import TaskEndpoints.Proofs.Container.Entries
import TaskEndpoints.Proofs.Journal
import TaskEndpoints.Proofs.Traversal

/-!
# Queries that succeed

A call that succeeds is not touched by its time limit. The list of the engine gives a snapshot if each
entry describes a container. The samples of a task are there if those of all its containers are, each
under the identifier of its container, in order of first occurrence.
-/

namespace TaskEndpoints

/-- The time limit leaves a call that succeeds as it is. -/
theorem TimeLimit.guard_of_ok {α : Type} (limit : TimeLimit) (description : String)
    {call : Run EngineError α} {a : α} (h : call.outcome = .ok a) :
    limit.guard description call = call := by
  rw [guard, h]

theorem TimeLimit.guard_eq_ok_iff {α : Type} {limit : TimeLimit} {description : String}
    {call : Run EngineError α} {a : α} :
    (limit.guard description call).outcome = .ok a ↔ call.outcome = .ok a := by
  cases h : call.outcome with
  | ok b => rw [guard_of_ok limit description h, h]
  | error e =>
      refine iff_of_false (fun hg => ?_) fun he => by cases he
      rw [guard, h] at hg
      simp only at hg
      split at hg
      · cases hg
      · rw [h] at hg
        cases hg

/-- With a time limit every call is answered at some time. -/
theorem TimeLimit.guard_outcome_ne_unanswered {α : Type} {limit : TimeLimit}
    (hl : limit.isPositive = true) (description : String) (call : Run EngineError α) :
    (limit.guard description call).outcome ≠ .error .unanswered := by
  cases h : call.outcome with
  | ok a => simp [guard_of_ok limit description h, h]
  | error err =>
      rw [guard, h]
      simp only [hl, Bool.true_and]
      split
      · simp
      · rename_i hd
        rw [h]
        rintro he
        obtain rfl := Except.error.inj he
        exact hd rfl

namespace Engine

/-- A list of entries gives the containers that they describe. -/
theorem containers_eq_ok_iff {e : Engine} {entries : List Value}
    (h : e.list = .value (.list entries)) {snapshot : List Container} :
    e.containers.outcome = .ok snapshot ↔ entries.mapM Container.ofEntry = .ok snapshot := by
  have he : Entry.elements (.list entries) = .ok entries := by
    cases entries with
    | nil => rfl
    | cons v rest => rfl
  have hc : e.containers.outcome =
      entries.mapM fun entry => (Container.ofEntry entry).mapError EngineError.entry := by
    rw [containers, h]
    show ((Entry.elements (.list entries)).mapError EngineError.entry >>= _) = _
    rw [he]
    rfl
  rw [hc, mapM_eq_ok_iff, mapM_eq_ok_iff]
  simp only [mapError_eq_ok_iff]

end Engine

namespace LimitedEngine

variable {e : LimitedEngine} {ids : List String} {id : String}

theorem containers_eq_ok_iff {entries : List Value} (h : e.engine.list = .value (.list entries))
    {snapshot : List Container} :
    e.containers.outcome = .ok snapshot ↔ entries.mapM Container.ofEntry = .ok snapshot :=
  TimeLimit.guard_eq_ok_iff.trans (Engine.containers_eq_ok_iff h)

/-- Listing the containers asks for no sample. -/
theorem statsAsked_containers (e : LimitedEngine) : e.containers.statsAsked = [] := by
  rw [containers, TimeLimit.guard]
  split
  · rfl
  · split
    · rfl
    · rfl

/-- Sampling a container asks for its sample, whatever comes of it. -/
theorem statsAsked_sample (e : LimitedEngine) (id : String) : (e.sample id).statsAsked = [id] := by
  have ht : (e.engine.takeSample id).statsAsked = [id] := rfl
  rw [sample, TimeLimit.guard]
  split
  · exact ht
  · split
    · rw [Run.statsAsked, List.filterMap_append]
      exact (congrArg (· ++ []) ht).trans (List.append_nil _)
    · exact ht

/-- The engine has a sample of each container. -/
def HasSamples (e : LimitedEngine) (ids : List String) : Prop :=
  ∀ id ∈ ids, ∃ fields, (e.sample id).outcome = .ok fields

theorem firstFailing?_eq_none_iff : e.firstFailing? ids = none ↔ e.HasSamples ids := by
  rw [firstFailing?, List.findSome?_eq_none_iff]
  refine forall₂_congr fun id _ => ?_
  cases (e.sample id).outcome with
  | error err => simp
  | ok fields => simp

theorem firstFailing?_eq_some_iff {err : EngineError} :
    e.firstFailing? ids = some (id, err) ↔ ∃ before after, ids = before ++ id :: after ∧
      e.HasSamples before ∧ (e.sample id).outcome = .error err := by
  rw [firstFailing?, List.findSome?_eq_some_iff]
  constructor
  · rintro ⟨before, found, after, hids, hfound, hbefore⟩
    have hsamples := firstFailing?_eq_none_iff.mp (List.findSome?_eq_none_iff.mpr hbefore)
    cases herr : (e.sample found).outcome with
    | ok fields => rw [herr] at hfound; cases hfound
    | error err =>
        rw [herr] at hfound
        obtain ⟨rfl, rfl⟩ := Prod.mk.inj (Option.some.inj hfound)
        exact ⟨before, after, hids, hsamples, herr⟩
  · rintro ⟨before, after, hids, hbefore, herr⟩
    refine ⟨before, id, after, hids, by rw [herr], ?_⟩
    exact List.findSome?_eq_none_iff.mp (firstFailing?_eq_none_iff.mpr hbefore)

/-- Which container fails first is seen from the first occurrences. -/
theorem firstFailing?_eraseDups (e : LimitedEngine) (ids : List String) :
    e.firstFailing? ids.eraseDups = e.firstFailing? ids :=
  findSome?_eraseDups _ ids

/-- The samples of a task are there exactly if each container has one. -/
theorem taskSamples_eq_ok_iff {samples : Assoc String Fields} :
    (e.taskSamples ids).outcome = .ok samples ↔ e.HasSamples ids ∧ samples = e.available ids := by
  rw [← firstFailing?_eq_none_iff, taskSamples]
  cases e.firstFailing? ids with
  | none => simp [eq_comm]
  | some failing => simp

/-- There are no samples exactly if a container has none, and the error is that of the first one. -/
theorem taskSamples_eq_error_iff {err : EngineError} :
    (e.taskSamples ids).outcome = .error err ↔ ∃ id, e.firstFailing? ids = some (id, err) := by
  rw [taskSamples]
  cases e.firstFailing? ids with
  | none => simp
  | some failing => simp [Prod.ext_iff, eq_comm]

/-- Where all containers have samples, every one is asked for its own. -/
theorem statsAsked_taskSamples (h : e.HasSamples ids) : (e.taskSamples ids).statsAsked = ids := by
  rw [taskSamples, firstFailing?_eq_none_iff.mpr h, Run.statsAsked, askingEvents, List.filterMap_flatMap]
  refine (List.flatMap_congr fun id _ => statsAsked_sample e id).trans ?_
  exact List.flatMap_singleton' ids

/-- The samples are built from one pair for each container. -/
theorem exists_pairs_available (h : e.HasSamples ids) :
    ∃ pairs, e.available ids = Assoc.ofPairs pairs ∧ pairs.map (·.1) = ids ∧
      ∀ p ∈ pairs, (e.sample p.1).outcome = .ok p.2 := by
  refine ⟨_, rfl, ?_, ?_⟩
  · induction ids with
    | nil => rfl
    | cons id rest ih =>
        obtain ⟨⟨fields, hf⟩, hrest⟩ := List.forall_mem_cons.mp h
        rw [List.filterMap_cons, hf]
        exact congrArg (id :: ·) (ih hrest)
  · intro p hp
    obtain ⟨id, -, hp⟩ := List.mem_filterMap.mp hp
    split at hp
    · obtain rfl := Option.some.inj hp
      assumption
    · cases hp

/-- The samples come in order of first occurrence. -/
theorem keys_available (h : e.HasSamples ids) :
    (e.available ids).keys = ids.eraseDups := by
  obtain ⟨pairs, hpairs, hids, -⟩ := exists_pairs_available h
  rw [hpairs, Assoc.keys_ofPairs, hids]

/-- Every sample stands under the identifier of its container. -/
theorem get?_available (h : e.HasSamples ids)
    (hid : id ∈ ids) {fields : Fields} (hf : (e.sample id).outcome = .ok fields) :
    (e.available ids).get? id = some fields := by
  obtain ⟨pairs, hpairs, hids, hsamples⟩ := exists_pairs_available h
  rw [hpairs]
  refine Assoc.get?_insertAll_of_forall (fun p hp hk => ?_) (Or.inl (hids ▸ hid))
  have hp := hsamples p hp
  rw [hk, hf] at hp
  exact (Except.ok.inj hp).symm

/-- What is there is a sample of a container. -/
theorem mem_available (h : e.HasSamples ids)
    {p : String × Fields} (hp : p ∈ e.available ids) :
    p.1 ∈ ids ∧ (e.sample p.1).outcome = .ok p.2 := by
  obtain ⟨pairs, hpairs, hids, hsamples⟩ := exists_pairs_available h
  rw [hpairs] at hp
  have hp := (Assoc.mem_of_mem_insertAll hp).resolve_left List.not_mem_nil
  exact ⟨hids ▸ List.mem_map_of_mem hp, hsamples p hp⟩

/-- An engine with containers of which only identifiers and names are told. The sample of a container
names it. -/
def listing (containers : List (String × String)) : LimitedEngine where
  engine := ⟨.value (.list (containers.map fun c => Entry.named c.1 c.2)),
    fun id => .value (.map [(.text "id", .text id)])⟩
  limit := .initial

theorem sample_listing (containers : List (String × String)) (id : String) :
    ((listing containers).sample id).outcome = .ok [(.text "id", .text id)] :=
  TimeLimit.guard_eq_ok_iff.mpr rfl

end LimitedEngine

end TaskEndpoints
