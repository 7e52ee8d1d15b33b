import TaskEndpoints.Proofs.Json.Documents
import TaskEndpoints.Proofs.Service.Agreement
import TaskEndpoints.Proofs.Service.Answers

/-!
# Answers that are JSON documents

The body of an answer with a value is a document of the JSON standard exactly if the value holds no double
without digits. Such doubles come from metadata files and samples, which are read by rules that know the
words `NaN`, `Infinity` and `-Infinity`; valid settings and what is told by well-typed entries of containers
hold none.
-/

namespace TaskEndpoints

open Http Json.Standard

/-- That a value is finite is inherited, and no key stands in the way. -/
theorem Value.inherited_isFinite : Value.Inherited Value.IsFinite fun _ => True where
  anyText h := by
    obtain ⟨s, rfl⟩ | ⟨points, rfl⟩ := h
    · exact nofun
    · exact nofun
  int _ := nofun
  list_iff := isFinite_list_iff
  map_iff := isFinite_map_iff.trans (by simp only [true_and])
  key _ := trivial

/-- The fields of a finite value are finite. -/
theorem Value.IsFinite.field? {v field : Value} {name : String} (hv : v.IsFinite)
    (h : v.field? name = some field) : field.IsFinite := by
  cases v with
  | map fields => exact (inherited_isFinite.map_iff.mp hv _ (Assoc.mem_of_get?_eq_some h)).2
  | _ => cases h

namespace LimitedEngine

/-- What the engine tells about containers is finite. -/
def RelaysFinite (e : LimitedEngine) : Prop :=
  ∀ snapshot, e.containers.outcome = .ok snapshot → ∀ c ∈ snapshot, c.Relays Value.IsFinite

/-- The samples are finite. -/
def SamplesFinite (e : LimitedEngine) : Prop :=
  ∀ id fields, (e.sample id).outcome = .ok fields → (Value.map fields).IsFinite

/-- Well-typed entries are finite. -/
theorem relaysFinite_of_wellTyped {e : LimitedEngine} {entries : List Value}
    (h : e.engine.list = .value (.list entries)) (ht : ∀ entry ∈ entries, Entry.WellTyped entry) :
    e.RelaysFinite := by
  intro snapshot hs c hc
  obtain ⟨entry, hm, hentry⟩ := exists_mem_of_mapM_eq_ok ((containers_eq_ok_iff h).mp hs) hc
  obtain ⟨c', hc', hr⟩ := Container.exists_relays Value.inherited_isFinite (ht entry hm)
  rwa [Except.ok.inj (hentry.symm.trans hc')]

end LimitedEngine

/-- The sources of an answer of some kind are finite: the metadata files and what the engine tells about
containers, or the samples. -/
def Registry.TellsFinite (r : Registry) (e : LimitedEngine) : MetadataKind → Prop
  | .taskMetadata => r.settings.Valid ∧ (Value.map r.taskFields).IsFinite ∧
      (Value.map r.containerFields).IsFinite ∧ e.RelaysFinite
  | .containerMetadata => (Value.map r.containerFields).IsFinite ∧ e.RelaysFinite
  | .taskStats | .containerStats => e.SamplesFinite

namespace Description

variable {r : Registry} {engine : LimitedEngine} {q : CallerQuery} {own? : Option String} {v : Value}

/-- A value can be told only with a list of containers at hand. -/
theorem exists_snapshot {d : Description} {kind : MetadataKind}
    (h : (d.value engine kind q).outcome = .ok v) :
    ∃ snapshot, engine.containers.outcome = .ok snapshot := by
  cases hs : engine.containers.outcome with
  | ok snapshot => exact ⟨snapshot, rfl⟩
  | error e =>
      have hsnapshot : (snapshot engine).outcome = .error (.engine e) := by
        rw [snapshot, Run.mapError, hs]
        rfl
      have htask : (task q engine).outcome = .error (.engine e) := by
        rw [task, Run.bind_outcome, hsnapshot]
        rfl
      have hcaller : (caller q engine).outcome = .error (.engine e) := by
        rw [caller, Run.bind_outcome, hsnapshot]
        rfl
      cases kind with
      | taskMetadata | taskStats =>
          rw [value, Run.bind_outcome, htask] at h
          cases h
      | containerMetadata | containerStats =>
          rw [value, Run.bind_outcome, hcaller] at h
          cases h

/-- From finite sources only finite values are told. -/
theorem isFinite_value {kind : MetadataKind} (hr : r.TellsFinite engine kind)
    (h : ((ofRegistry r own?).value engine kind q).outcome = .ok v) : v.IsFinite := by
  obtain ⟨snapshot, hs⟩ := exists_snapshot h
  cases kind with
  | taskMetadata =>
      obtain ⟨hvalid, htask, hcontainer, hrelays⟩ := hr
      have hsettings := r.settings.presentable_task hvalid
      exact LocalTask.inherits_metadata Value.inherited_isFinite
        (r.settings.inherits_task Value.inherited_isFinite hvalid) hsettings.taskTags
        hsettings.instanceTags htask hcontainer
        (fun c hc => hrelays snapshot hs c (LocalTask.containersFor_subset q snapshot hc))
        ((taskMetadata_eq_ok_iff hs).mp h)
  | taskStats =>
      obtain ⟨hall, rfl⟩ := (taskStats_eq_ok_iff hs).mp h
      rw [object_samples]
      refine Value.inherited_isFinite.map_iff.mpr fun e he => ⟨trivial, ?_⟩
      obtain ⟨p, hp, rfl⟩ := List.mem_map.mp he
      exact hr p.1 p.2 (LimitedEngine.mem_available hall hp).2
  | containerMetadata =>
      obtain ⟨hcontainer, hrelays⟩ := hr
      obtain ⟨found, hf, hv⟩ := (containerMetadata_eq_ok_iff hs).mp h
      exact Container.inherits_metadata Value.inherited_isFinite
        (hrelays snapshot hs found.1 (CallerQuery.mem_of_find hf)) hcontainer hv
  | containerStats =>
      obtain ⟨found, fields, -, hfields, rfl⟩ := (containerStats_eq_ok_iff hs).mp h
      exact hr found.1.id fields hfields

end Description

namespace Service

variable {s : Service} {w : Surroundings} {request : Request} {endpoint : Endpoint} {text : String}

/-- The body of an answer with metadata or samples is a document of the JSON standard exactly if the value
that it tells holds no double without digits. So it is if the sources of the answer hold none. -/
theorem body_isDocument_iff {r : Registry} {own? : Option String} {offersCredentials : Bool}
    {kind : MetadataKind} {identifier : String}
    (h : (ofRegistry r own? offersCredentials).Reaches request (.metadata kind) identifier)
    (hm : request.method ≠ "HEAD") {answer : Answer}
    (ha : ((ofRegistry r own? offersCredentials).answer w request : Run Empty Answer).outcome = .ok answer)
    (hs : answer.status = 200) :
    answer.contentType = some Answer.jsonType ∧
    (∃ v text, ((Description.ofRegistry r own?).respond w.engine kind identifier
        request.address).outcome = .ok v ∧ Json.write v = .ok text ∧ answer.body = text ++ "\n" ∧
      (IsDocument answer.body.toList ↔ v.IsFinite)) ∧
    (r.TellsFinite w.engine kind → IsDocument answer.body.toList) := by
  obtain ⟨v, text, hv, hw, rfl⟩ := exists_value_of_status h ha hs
  rw [if_neg hm]
  have hrespond : ((Description.ofRegistry r own?).respond w.engine kind identifier
      request.address).outcome = .ok v := mapError_eq_ok_iff.mp hv
  have hiff : IsDocument (text ++ "\n").toList ↔ v.IsFinite := isDocument_iff hw
  refine ⟨rfl, ⟨v, text, hrespond, hw, rfl, hiff⟩, fun hr => hiff.mpr ?_⟩
  rw [Description.respond_outcome] at hrespond
  exact Description.isFinite_value hr hrespond

/-- A request for the metadata of the task of a container. -/
def taskRequest : Request := ⟨"GET", MetadataKind.taskMetadata.target "a1b2", "10.0.0.1"⟩

theorem reaches_taskRequest (s : Service) : s.Reaches taskRequest (.metadata .taskMetadata) "a1b2" :=
  (s.asks_target .taskMetadata (by decide) (by decide) "10.0.0.1").reaches

/-- Surroundings with one container. -/
def oneContainer : Surroundings := .ofEngine (.listing [("a1b2", "/web")])

theorem body_isDocument_iff_example :
    ∃ answer, ((ofRegistry Registry.initial none false).answer oneContainer taskRequest :
        Run Empty Answer).outcome = .ok answer ∧
      answer.status = 200 ∧ IsDocument answer.body.toList := by
  obtain ⟨answer, ha, hs⟩ : ∃ answer, ((ofRegistry Registry.initial none false).answer oneContainer
      taskRequest : Run Empty Answer).outcome = .ok answer ∧ answer.status = 200 := ⟨_, by rfl, by rfl⟩
  have hrelays : oneContainer.engine.RelaysFinite :=
    LimitedEngine.relaysFinite_of_wellTyped rfl fun entry he => by
      obtain ⟨c, -, rfl⟩ := List.mem_map.mp he
      exact Entry.wellTyped_named c.1 c.2
  have hfinite : Registry.initial.TellsFinite oneContainer.engine .taskMetadata :=
    ⟨fun k => k.accepts_default, Value.inherited_isFinite.nil, Value.inherited_isFinite.nil, hrelays⟩
  obtain ⟨-, -, hdocument⟩ :=
    body_isDocument_iff (reaches_taskRequest _) (by decide) ha hs
  exact ⟨answer, ha, hs, hdocument hfinite⟩

/-- A file with a word for a double without digits as the value of a field. -/
def wordFiles : FileTree := ⟨[(["x"], .file [0x7b, 0x22, 0x78, 0x22, 0x3a, 0x4e, 0x61, 0x4e, 0x7d])]⟩

/-- What is loaded with that file as the metadata file of the task. -/
def wordLoaded : Registry × Run LoadError Unit :=
  Registry.initial.load wordFiles [("ECS_LOCAL_TASK_METADATA", "x")]

/-- A metadata file with a word for a double without digits is loaded, and then the metadata of the task is
answered with a body that is called JSON and is no document of the standard. -/
theorem body_of_loaded_word :
    wordLoaded.2.outcome = .ok () ∧
      ∃ answer, ((ofRegistry wordLoaded.1 none false).answer oneContainer taskRequest :
          Run Empty Answer).outcome = .ok answer ∧
        answer.status = 200 ∧ answer.contentType = some Answer.jsonType ∧
        ¬IsDocument answer.body.toList := by
  obtain ⟨answer, ha, hs, ht⟩ : ∃ answer, ((ofRegistry wordLoaded.1 none false).answer oneContainer
      taskRequest : Run Empty Answer).outcome = .ok answer ∧ answer.status = 200 ∧
      answer.contentType = some Answer.jsonType := ⟨_, by rfl, by rfl, by rfl⟩
  refine ⟨by rfl, answer, ha, hs, ht, fun hd => ?_⟩
  obtain ⟨v, text, hv, hw, rfl⟩ := exists_value_of_status (reaches_taskRequest _) ha hs
  have hfinite : v.IsFinite := (isDocument_iff hw).mp hd
  have hword : ((ofRegistry wordLoaded.1 none false).view oneContainer taskRequest.address
      (.metadata .taskMetadata) "a1b2").outcome.toOption.bind (·.field? "x") =
        some (.float (0 / 0)) := by decide
  rw [hv] at hword
  exact hfinite.field? hword (.float (by decide))

end Service

end TaskEndpoints
