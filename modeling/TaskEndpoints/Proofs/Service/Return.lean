import TaskEndpoints.Proofs.Caller.Identifiers
import TaskEndpoints.Proofs.Service.Agreement

/-!
# From published identifiers back to their containers

A task publishes the identifiers of its containers. Each of them, put into a path, leads back to what was
published about its container, and to its sample, whoever asks.

## Implementation notes

The search for the caller ends at the identifier, before addresses and networks are looked at. So neither
the address of the second request nor the container in which the service runs has an influence.
-/

namespace TaskEndpoints

open Http

namespace Service

variable {s : Service} {w : Surroundings} {snapshot : List Container} {c : Container}

/-- A request with the identifier of a container is about this container. -/
theorem exists_find_query (hs : SelfIdentifying snapshot) (hc : c ∈ snapshot) (address : String) :
    ∃ position, ((s.description.query c.id address).find snapshot).outcome = .ok (c, position) :=
  hs.exists_find hc address s.description.ownId

/-- A container is described to whoever asks with its identifier. -/
theorem delivers_metadata_of_id (hw : w.engine.containers.outcome = .ok snapshot)
    (hs : SelfIdentifying snapshot) (hc : c ∈ snapshot) {v : Value}
    (hv : c.metadata s.description.containerFields = .ok v) (hj : Json.Writable v)
    (address : String) :
    s.Delivers w ⟨"GET", MetadataKind.containerMetadata.target c.id, address⟩ .containerMetadata c.id
      v := by
  obtain ⟨position, hf⟩ := exists_find_query (s := s) hs hc address
  exact delivers_iff.mpr ⟨s.asks_target _ (hs.id_ne_empty hc) (hs.plain c hc) address,
    (Description.containerMetadata_eq_ok_iff hw).mpr ⟨(c, position), hf, hv⟩, hj⟩

/-- A container is sampled for whoever asks with its identifier. -/
theorem delivers_stats_of_id (hw : w.engine.containers.outcome = .ok snapshot)
    (hs : SelfIdentifying snapshot) (hc : c ∈ snapshot) {fields : Fields}
    (hv : (w.engine.sample c.id).outcome = .ok fields) (hj : Json.Writable (.map fields))
    (address : String) :
    s.Delivers w ⟨"GET", MetadataKind.containerStats.target c.id, address⟩ .containerStats c.id
      (.map fields) := by
  obtain ⟨position, hf⟩ := exists_find_query (s := s) hs hc address
  exact delivers_iff.mpr ⟨s.asks_target _ (hs.id_ne_empty hc) (hs.plain c hc) address,
    (Description.containerStats_eq_ok_iff hw).mpr ⟨(c, position), fields, hf, hv, rfl⟩, hj⟩

/-- What the samples of a task hold about one of its containers. -/
theorem exists_sample_of_taskStats (hw : w.engine.containers.outcome = .ok snapshot)
    {request : Request} {identifier : String} {stats : Value}
    (hd : s.Delivers w request .taskStats identifier stats)
    (hc : c ∈ LocalTask.containersFor (s.description.query identifier request.address) snapshot) :
    ∃ fields, (w.engine.sample c.id).outcome = .ok fields ∧
      stats.field? c.id = some (.map fields) ∧ Json.Writable (.map fields) := by
  obtain ⟨-, hv, hj⟩ := delivers_iff.mp hd
  obtain ⟨hall, rfl⟩ := (Description.taskStats_eq_ok_iff hw).mp hv
  have hid : c.id ∈ (LocalTask.containersFor
      (s.description.query identifier request.address) snapshot).map (·.id) := List.mem_map_of_mem hc
  obtain ⟨fields, hf⟩ := hall c.id hid
  have hfield := field?_samples (w.engine.available ((LocalTask.containersFor
    (s.description.query identifier request.address) snapshot).map (·.id))) c.id
  rw [LimitedEngine.get?_available hall hid hf] at hfield
  exact ⟨fields, hf, hfield, Value.writable_of_field? hj hfield⟩

/-- If a request for the metadata of a task is answered with the status 200, every container in it is
published with an identifier that leads back to the same object and, if the samples of the task were
published as well, to the sample that these hold about it. -/
theorem published_ids_lead_back (w w' : Surroundings)
    (hcontainer : Lacks "DockerId" s.description.containerFields)
    (htask : Lacks "Containers" s.description.taskFields)
    (hw : w.engine.containers.outcome = .ok snapshot)
    (hw' : w'.engine.containers.outcome = .ok snapshot) (hs : SelfIdentifying snapshot)
    {request : Request} {identifier : String} (ha : s.Asks request .taskMetadata identifier)
    {answer : Answer} (hanswer : (s.answer w request : Run Empty Answer).outcome = .ok answer)
    (hstatus : answer.status = 200) :
    ∃ task listed, s.Delivers w request .taskMetadata identifier task ∧
      task.field? "Containers" = some (.list listed) ∧
      ∀ v ∈ listed, ∃ id fields, v = .map fields ∧ v.field? "DockerId" = some (.text id) ∧
        ∀ address,
          s.Delivers w' ⟨"GET", MetadataKind.containerMetadata.target id, address⟩
            .containerMetadata id v ∧
          ∀ (statsRequest : Request) (stats : Value), statsRequest.address = request.address →
            s.Delivers w statsRequest .taskStats identifier stats →
            (w'.engine.sample id).outcome = (w.engine.sample id).outcome →
            ∃ sample, stats.field? id = some sample ∧
              s.Delivers w' ⟨"GET", MetadataKind.containerStats.target id, address⟩
                .containerStats id sample := by
  obtain ⟨task, hd⟩ := exists_delivers_of_status ha hanswer hstatus
  obtain ⟨-, hv, hj⟩ := delivers_iff.mp hd
  rw [Description.taskMetadata_eq_ok_iff hw] at hv
  obtain ⟨listed, hlisted, hfield⟩ := LocalTask.metadata_containers hv htask
  refine ⟨task, listed, hd, hfield, fun v hmem => ?_⟩
  obtain ⟨c, hc, hcv⟩ := exists_mem_of_mapM_eq_ok hlisted hmem
  have hcs : c ∈ snapshot := LocalTask.containersFor_subset _ _ hc
  obtain ⟨fields, hfields⟩ := Container.exists_fields_of_metadata hcv
  refine ⟨c.id, fields, hfields, Container.metadata_id hcv hcontainer, fun address => ⟨?_, ?_⟩⟩
  · have hjv : Json.Writable v :=
      Json.writable_list_iff.mp (Value.writable_of_field? hj hfield) v hmem
    exact delivers_metadata_of_id hw' hs hcs hcv hjv address
  · intro statsRequest stats haddress hstats hsame
    rw [← haddress] at hc
    obtain ⟨sample, hsample, hentry, hjs⟩ := exists_sample_of_taskStats hw hstats hc
    exact ⟨.map sample, hentry,
      delivers_stats_of_id hw' hs hcs (hsame.trans hsample) hjs address⟩

/-- A caller that is not known is told of two containers, and one of them is asked for by its identifier
from another address. -/
theorem published_ids_lead_back_example :
    let s := ofRegistry Registry.initial none true
    let w := Surroundings.ofEngine (.listing [("a1b2", "/web"), ("c3d4", "/db")])
    ∃ v sample, v.field? "DockerId" = some (.text "c3d4") ∧
      s.Delivers w ⟨"GET", MetadataKind.containerMetadata.target "c3d4", "10.0.0.9"⟩
        .containerMetadata "c3d4" v ∧
      s.Delivers w ⟨"GET", MetadataKind.containerStats.target "c3d4", "10.0.0.9"⟩
        .containerStats "c3d4" sample := by
  intro s w
  have hs : s.description.Presentable := Registry.presentable_initial.description none
  obtain ⟨snapshot, hsnapshot, hw⟩ :=
    (LimitedEngine.lists_listing [("a1b2", "/web"), ("c3d4", "/db")]).exists_shows
  obtain rfl := Except.ok.inj ((Container.mapM_ofEntry_named _).symm.trans hsnapshot)
  have hself : SelfIdentifying
      ([("a1b2", "/web"), ("c3d4", "/db")].map fun c => Container.named c.1 c.2) :=
    { distinct := by decide
      length := ⟨4, by decide, by decide⟩
      plain := by decide
      unnamed := by decide }
  have ha (kind : MetadataKind) : s.Asks ⟨"GET", kind.target "e5", "10.0.0.1"⟩ kind "e5" :=
    s.asks_target kind (by decide) (by decide) "10.0.0.1"
  obtain ⟨task, listed, htask, hlisted, hids⟩ :=
    exists_delivers_taskMetadata (w := w) hs hw (ha .taskMetadata)
  obtain ⟨fields, hstats, -⟩ := exists_delivers_taskStats (w := w) hw (ha .taskStats)
  obtain ⟨text, -, hanswer⟩ := htask.answer
  obtain ⟨task', listed', htask', hlisted', hback⟩ := published_ids_lead_back w w hs.id
    hs.containers hw.containers hw.containers hself (ha .taskMetadata) hanswer rfl
  obtain rfl : task = task' := Except.ok.inj (htask.value.symm.trans htask'.value)
  obtain rfl : listed = listed' := Value.list.inj (Option.some.inj (hlisted.symm.trans hlisted'))
  have hmem : some (Value.text "c3d4") ∈ listed.map (·.field? "DockerId") := by
    rw [hids]
    decide
  obtain ⟨v, hv, hid⟩ := List.mem_map.mp hmem
  obtain ⟨id, -, -, hid', hfollow⟩ := hback v hv
  obtain rfl : "c3d4" = id := Value.text.inj (Option.some.inj (hid.symm.trans hid'))
  obtain ⟨hmetadata, hsample⟩ := hfollow "10.0.0.9"
  obtain ⟨sample, -, hsample⟩ :=
    hsample ⟨"GET", MetadataKind.taskStats.target "e5", "10.0.0.1"⟩ _ rfl hstats rfl
  exact ⟨v, sample, hid, hmetadata, hsample⟩

end Service

end TaskEndpoints
