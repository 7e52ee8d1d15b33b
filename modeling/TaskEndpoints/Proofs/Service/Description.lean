import TaskEndpoints.Proofs.Engine.Queries
import TaskEndpoints.Proofs.Metadata
import TaskEndpoints.Service.Description

/-!
# What metadata requests come to

With a list of containers at hand, a request about a container succeeds if its caller is found and can be
described or sampled, and a request about a task if all containers of the task can.
-/

namespace TaskEndpoints

/-- The containers of the task of a caller, who may be unknown. -/
def LocalTask.containersFor (q : CallerQuery) (snapshot : List Container) : List Container :=
  (membersFor (q.found? snapshot) snapshot).map (·.1)

theorem LocalTask.containersFor_subset (q : CallerQuery) (snapshot : List Container) :
    containersFor q snapshot ⊆ snapshot := by
  intro c hc
  obtain ⟨x, hx, rfl⟩ := List.mem_map.mp hc
  exact List.fst_mem_of_mem_zipIdx ((membersFor_sublist _ _).subset hx)

/-- Where the caller is unknown, all containers make up the task. -/
theorem LocalTask.containersFor_of_error {q : CallerQuery} {snapshot : List Container}
    {e : CallerNotFound} (h : (q.find snapshot).outcome = .error e) :
    containersFor q snapshot = snapshot := by
  rw [containersFor, (CallerQuery.find_eq_error_iff.mp h).1, membersFor]
  exact List.zipIdx_map_fst 0 snapshot

/-- The search for a caller asks for no sample. -/
theorem CallerQuery.statsAsked_find (q : CallerQuery) (snapshot : List Container) :
    (q.find snapshot).statsAsked = [] := by
  have hnetworks : (byOwnNetworks snapshot q.address q.ownId (q.afterAddress snapshot) :
      Run CallerNotFound _).statsAsked = [] := by
    rw [byOwnNetworks]
    split
    · rfl
    · rfl
  have hidentify : (q.identify snapshot).statsAsked = [] := by
    rw [identify]
    split
    · rfl
    · rw [Run.statsAsked_bind_of_ok (q.byOwnNetworks_outcome snapshot), hnetworks]
      split
      · rfl
      · rfl
  rw [find]
  cases h : (q.identify snapshot).outcome with
  | error e => rw [Run.statsAsked_bind_of_error h, hidentify]
  | ok found =>
      rw [Run.statsAsked_bind_of_ok h, hidentify]
      rfl

/-- The samples of a task as entries of one object. -/
theorem object_samples (samples : Assoc String Fields) :
    Value.object (samples.map fun (id, fields) => (id, .map fields)) =
      .map (samples.map fun e => (.text e.1, .map e.2)) :=
  congrArg Value.map List.map_map

/-- A sample is found under the identifier of its container. -/
theorem field?_samples (samples : Assoc String Fields) (id : String) :
    (Value.object (samples.map fun (id, fields) => (id, .map fields))).field? id =
      (samples.get? id).map .map := by
  rw [object_samples]
  exact Assoc.get?_map (fun _ _ h => Value.text.inj h) Value.map samples id

namespace Description

variable {d : Description} {engine : LimitedEngine} {snapshot : List Container} {q : CallerQuery}
  {v : Value}

theorem snapshot_outcome (h : engine.containers.outcome = .ok snapshot) :
    (Description.snapshot engine).outcome = .ok snapshot := by
  rw [Description.snapshot, Run.mapError, h]
  rfl

theorem task_outcome (h : engine.containers.outcome = .ok snapshot) :
    (task q engine).outcome = .ok (LocalTask.containersFor q snapshot) := by
  rw [task, Run.bind_outcome, snapshot_outcome h]
  show (LocalTask.members q snapshot >>= fun members => pure (members.map (·.1)) :
    Run DescriptionError (List Container)).outcome = _
  rw [Run.bind_outcome, LocalTask.members_outcome]
  rfl

theorem caller_eq_ok_iff (h : engine.containers.outcome = .ok snapshot) {c : Container} :
    (caller q engine).outcome = .ok c ↔
      ∃ found, (q.find snapshot).outcome = .ok found ∧ found.1 = c := by
  rw [caller, Run.bind_outcome, snapshot_outcome h]
  show ((q.find snapshot).mapError DescriptionError.caller >>= fun found => pure found.1 :
    Run DescriptionError Container).outcome = .ok c ↔ _
  simp only [Run.bind_eq_ok_iff, Run.mapError, mapError_eq_ok_iff, Run.pure_outcome, Except.ok.injEq]

theorem caller_outcome_of_error (h : engine.containers.outcome = .ok snapshot) {e : CallerNotFound}
    (he : (q.find snapshot).outcome = .error e) :
    (caller q engine).outcome = .error (.caller e) := by
  rw [caller, Run.bind_outcome, snapshot_outcome h]
  show ((q.find snapshot).mapError DescriptionError.caller >>= fun found => pure found.1 :
    Run DescriptionError Container).outcome = _
  rw [Run.bind_outcome, Run.mapError, he]
  rfl

/-- The search for the caller of a request asks for no sample. -/
theorem statsAsked_caller (q : CallerQuery) (engine : LimitedEngine) :
    (caller q engine).statsAsked = [] := by
  have hs : (Description.snapshot engine).statsAsked = [] := engine.statsAsked_containers
  rw [caller]
  cases h : (Description.snapshot engine).outcome with
  | error e => rw [Run.statsAsked_bind_of_error h, hs]
  | ok snapshot =>
      rw [Run.statsAsked_bind_of_ok h, hs]
      have hf : ((q.find snapshot).mapError DescriptionError.caller).statsAsked = [] :=
        q.statsAsked_find snapshot
      cases hq : ((q.find snapshot).mapError DescriptionError.caller).outcome with
      | error e => rw [Run.statsAsked_bind_of_error hq, hf]; rfl
      | ok found =>
          rw [Run.statsAsked_bind_of_ok hq, hf]
          rfl

theorem taskMetadata_eq_ok_iff (h : engine.containers.outcome = .ok snapshot) :
    (d.value engine .taskMetadata q).outcome = .ok v ↔
      LocalTask.metadata d.taskSettings d.taskFields d.containerFields
        (LocalTask.containersFor q snapshot) = .ok v := by
  rw [value, Run.bind_outcome, task_outcome h]
  exact mapError_eq_ok_iff

theorem taskStats_eq_ok_iff (h : engine.containers.outcome = .ok snapshot) :
    (d.value engine .taskStats q).outcome = .ok v ↔
      engine.HasSamples ((LocalTask.containersFor q snapshot).map (·.id)) ∧
      v = .object ((engine.available ((LocalTask.containersFor q snapshot).map (·.id))).map
        fun (id, fields) => (id, .map fields)) := by
  rw [value, Run.bind_outcome, task_outcome h]
  show ((engine.taskSamples ((LocalTask.containersFor q snapshot).map (·.id))).mapError
      DescriptionError.engine >>= fun samples =>
        pure (.object (samples.map fun (id, fields) => (id, .map fields))) :
      Run DescriptionError Value).outcome = .ok v ↔ _
  simp only [Run.bind_eq_ok_iff, Run.mapError, mapError_eq_ok_iff,
    LimitedEngine.taskSamples_eq_ok_iff, Run.pure_outcome, Except.ok.injEq]
  constructor
  · rintro ⟨samples, ⟨hall, rfl⟩, rfl⟩
    exact ⟨hall, rfl⟩
  · rintro ⟨hall, rfl⟩
    exact ⟨_, ⟨hall, rfl⟩, rfl⟩

theorem containerMetadata_eq_ok_iff (h : engine.containers.outcome = .ok snapshot) :
    (d.value engine .containerMetadata q).outcome = .ok v ↔
      ∃ found, (q.find snapshot).outcome = .ok found ∧ found.1.metadata d.containerFields = .ok v := by
  rw [value, Run.bind_eq_ok_iff]
  simp only [caller_eq_ok_iff h, Run.ofExcept, mapError_eq_ok_iff]
  constructor
  · rintro ⟨c, ⟨found, hf, rfl⟩, hv⟩
    exact ⟨found, hf, hv⟩
  · rintro ⟨found, hf, hv⟩
    exact ⟨found.1, ⟨found, hf, rfl⟩, hv⟩

theorem containerStats_eq_ok_iff (h : engine.containers.outcome = .ok snapshot) :
    (d.value engine .containerStats q).outcome = .ok v ↔
      ∃ found fields, (q.find snapshot).outcome = .ok found ∧
        (engine.sample found.1.id).outcome = .ok fields ∧ v = .map fields := by
  rw [value, Run.bind_eq_ok_iff]
  simp only [caller_eq_ok_iff h, Run.bind_eq_ok_iff, Run.mapError, mapError_eq_ok_iff,
    Run.pure_outcome, Except.ok.injEq]
  constructor
  · rintro ⟨c, ⟨found, hf, rfl⟩, fields, hs, rfl⟩
    exact ⟨found, fields, hf, hs, rfl⟩
  · rintro ⟨found, fields, hf, hs, rfl⟩
    exact ⟨found.1, ⟨found, hf, rfl⟩, fields, hs, rfl⟩

/-- A request about a container fails if its caller is not found. -/
theorem value_outcome_of_error (h : engine.containers.outcome = .ok snapshot) {e : CallerNotFound}
    (he : (q.find snapshot).outcome = .error e) {kind : MetadataKind}
    (hk : kind = .containerMetadata ∨ kind = .containerStats) :
    (d.value engine kind q).outcome = .error (.caller e) := by
  have hc := caller_outcome_of_error h he
  rcases hk with rfl | rfl
  · rw [value, Run.bind_outcome, hc]
    rfl
  · rw [value, Run.bind_outcome, hc]
    rfl

/-- A request for the sample of a container asks for the sample of its caller and for no other. -/
theorem statsAsked_containerStats (h : engine.containers.outcome = .ok snapshot) {found : Listed}
    (hf : (q.find snapshot).outcome = .ok found) :
    (d.value engine .containerStats q).statsAsked = [found.1.id] := by
  have hs : ((engine.sample found.1.id).mapError DescriptionError.engine).statsAsked =
      [found.1.id] := engine.statsAsked_sample found.1.id
  rw [value, Run.statsAsked_bind_of_ok ((caller_eq_ok_iff h).mpr ⟨found, hf, rfl⟩),
    statsAsked_caller, List.nil_append]
  cases hr : ((engine.sample found.1.id).mapError DescriptionError.engine).outcome with
  | error e => rw [Run.statsAsked_bind_of_error hr, hs]
  | ok fields =>
      rw [Run.statsAsked_bind_of_ok hr, hs]
      rfl

theorem respond_outcome (kind : MetadataKind) (identifier address : String) :
    (d.respond engine kind identifier address).outcome =
      (d.value engine kind (d.query identifier address)).outcome := by
  rw [respond, Run.bind_outcome]
  rfl

theorem statsAsked_respond (kind : MetadataKind) (identifier address : String) :
    (d.respond engine kind identifier address).statsAsked =
      (d.value engine kind (d.query identifier address)).statsAsked := by
  rw [respond, Run.statsAsked_bind_of_ok (Run.log_outcome _ _ _)]
  rfl

end Description

end TaskEndpoints
