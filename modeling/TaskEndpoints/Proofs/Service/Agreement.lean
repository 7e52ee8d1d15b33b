import TaskEndpoints.Proofs.Service.Requests
import TaskEndpoints.Proofs.Settings.Published

/-!
# The four kinds of metadata requests agree

Metadata and samples of a container are those of one caller, or both are refused alike. Metadata and
samples of a task are those of the same containers, whether or not the caller is known.

## Implementation notes

What is assumed of the engine and of the settings is what makes every description succeed. So each
request is answered, and the statement is about answers and not only about those that come.
-/

namespace TaskEndpoints

open Http

/-- The engine gives a snapshot of containers all of which can be described and sampled. -/
structure LimitedEngine.Shows (e : LimitedEngine) (snapshot : List Container) : Prop where
  containers : e.containers.outcome = .ok snapshot
  printable : ∀ c ∈ snapshot, c.Printable
  dated : ∀ c ∈ snapshot, c.Dated
  sampled : ∀ c ∈ snapshot, ∃ fields, (e.sample c.id).outcome = .ok fields ∧
    Json.Writable (.map fields)

/-- The engine lists well-typed entries of containers that were created in the years 1 to 9999, and has
a sample of each. -/
structure LimitedEngine.Lists (e : LimitedEngine) (entries : List Value) : Prop where
  list : e.engine.list = .value (.list entries)
  typed : ∀ entry ∈ entries, Entry.WellTyped entry
  dated : ∀ entry ∈ entries, ∀ c, Container.ofEntry entry = .ok c → c.Dated
  /-- A sample is an object with a JSON text. -/
  sampled : ∀ entry ∈ entries, ∀ c, Container.ofEntry entry = .ok c →
    ∃ fields, (e.sample c.id).outcome = .ok fields ∧ Json.Writable (.map fields)

/-- Everything in a description can be published, and fields of one's own replace neither the identifiers
of containers nor the list of them. -/
structure Description.Presentable (d : Description) : Prop where
  settings : LocalTask.Presentable d.taskSettings
  taskFields : Json.Writable (.map d.taskFields)
  containerFields : Json.Writable (.map d.containerFields)
  containers : Lacks "Containers" d.taskFields
  id : Lacks "DockerId" d.containerFields

/-- The settings are valid, the fields from the metadata files have JSON texts, and they replace neither
the identifiers of containers nor the list of them. -/
structure Registry.Presentable (r : Registry) : Prop where
  settings : r.settings.Valid
  taskFields : Json.Writable (.map r.taskFields)
  containerFields : Json.Writable (.map r.containerFields)
  containers : Lacks "Containers" r.taskFields
  id : Lacks "DockerId" r.containerFields

theorem Registry.Presentable.description {r : Registry} (h : r.Presentable) (own? : Option String) :
    (Description.ofRegistry r own?).Presentable where
  settings := r.settings.presentable_task h.settings
  taskFields := h.taskFields
  containerFields := h.containerFields
  containers := h.containers
  id := h.id

theorem Registry.presentable_initial : Registry.initial.Presentable where
  settings k := k.accepts_default
  taskFields := Json.inherited_writable.nil
  containerFields := Json.inherited_writable.nil
  containers := List.not_mem_nil
  id := List.not_mem_nil

/-- Entries that are well typed are shown as containers. -/
theorem LimitedEngine.Lists.exists_shows {e : LimitedEngine} {entries : List Value}
    (h : e.Lists entries) :
    ∃ snapshot, entries.mapM Container.ofEntry = .ok snapshot ∧ e.Shows snapshot := by
  obtain ⟨snapshot, hs, hp⟩ := exists_mapM_of_forall fun entry he =>
    Container.exists_ofEntry (h.typed entry he)
  refine ⟨snapshot, hs, (containers_eq_ok_iff h.list).mpr hs, hp, fun c hc => ?_, fun c hc => ?_⟩
  · obtain ⟨entry, he, hce⟩ := exists_mem_of_mapM_eq_ok hs hc
    exact h.dated entry he c hce
  · obtain ⟨entry, he, hce⟩ := exists_mem_of_mapM_eq_ok hs hc
    exact h.sampled entry he c hce

theorem LimitedEngine.lists_listing (containers : List (String × String)) :
    (listing containers).Lists (containers.map fun c => Entry.named c.1 c.2) where
  list := rfl
  typed entry he := by
    obtain ⟨c, -, rfl⟩ := List.mem_map.mp he
    exact Entry.wellTyped_named c.1 c.2
  dated entry he c hc := by
    obtain ⟨named, -, rfl⟩ := List.mem_map.mp he
    obtain rfl := Except.ok.inj ((Container.ofEntry_named named.1 named.2).symm.trans hc)
    exact (by decide : (-62135596800 : Int) ≤ 0 ∧ (0 : Int) ≤ 253402300799)
  sampled entry _ c _ :=
    ⟨_, sample_listing containers c.id, Json.writable_map_iff.mpr (List.forall_mem_singleton.mpr
      ⟨Json.writableKey_text _, Json.writable_text _⟩)⟩

/-- Surroundings with an engine and without a cloud. -/
def Surroundings.ofEngine (e : LimitedEngine) : Surroundings where
  engine := e
  cloud := ⟨none, fun _ => .error ⟨.cloudRefusal, "no cloud"⟩⟩
  now := ⟨⟨2024, 1, 1⟩, 0, 0, 0, 0, some 0⟩

theorem CallerQuery.mem_of_find {q : CallerQuery} {snapshot : List Container} {found : Listed}
    (h : (q.find snapshot).outcome = .ok found) : found.1 ∈ snapshot :=
  List.fst_mem_of_mem_zipIdx (mem_zipIdx_of_found? (find_eq_ok_iff.mp h))

namespace Service

variable {s : Service} {w : Surroundings} {snapshot : List Container} {request : Request}
  {identifier : String}

/-- The published identifier is the one of the caller. -/
theorem delivers_containerMetadata_iff (hs : s.description.Presentable) (hw : w.engine.Shows snapshot)
    (ha : s.Asks request .containerMetadata identifier) (id : String) :
    (∃ v, s.Delivers w request .containerMetadata identifier v ∧
      v.field? "DockerId" = some (.text id)) ↔
    ∃ found, ((s.description.query identifier request.address).find snapshot).outcome = .ok found ∧
      found.1.id = id := by
  simp only [delivers_iff, Description.containerMetadata_eq_ok_iff hw.containers]
  constructor
  · rintro ⟨v, ⟨-, ⟨found, hf, hv⟩, -⟩, hid⟩
    rw [Container.metadata_id hv hs.id] at hid
    exact ⟨found, hf, Value.text.inj (Option.some.inj hid)⟩
  · rintro ⟨found, hf, rfl⟩
    have hmem := CallerQuery.mem_of_find hf
    obtain ⟨v, hv, hj⟩ := Container.exists_metadata (hw.printable _ hmem) (hw.dated _ hmem)
      hs.containerFields
    exact ⟨v, ⟨ha, ⟨found, hf, hv⟩, hj⟩, Container.metadata_id hv hs.id⟩

/-- The sample that is asked for and delivered is the one of the caller. -/
theorem delivers_containerStats_iff (hw : w.engine.Shows snapshot)
    (ha : s.Asks request .containerStats identifier) (id : String) :
    ((s.answer w request : Run Empty Answer).statsAsked = [id] ∧
      ∃ fields, (w.engine.sample id).outcome = .ok fields ∧
        s.Delivers w request .containerStats identifier (.map fields)) ↔
    ∃ found, ((s.description.query identifier request.address).find snapshot).outcome = .ok found ∧
      found.1.id = id := by
  rw [statsAsked_of_asks ha]
  simp only [delivers_iff, Description.containerStats_eq_ok_iff hw.containers]
  constructor
  · rintro ⟨hasked, fields, -, -, ⟨found, -, hf, -, -⟩, -⟩
    rw [Description.statsAsked_containerStats hw.containers hf] at hasked
    exact ⟨found, hf, List.singleton_inj.mp hasked⟩
  · rintro ⟨found, hf, rfl⟩
    obtain ⟨fields, hsample, hj⟩ := hw.sampled _ (CallerQuery.mem_of_find hf)
    exact ⟨Description.statsAsked_containerStats hw.containers hf, fields, hsample, ha,
      ⟨found, fields, hf, hsample, rfl⟩, hj⟩

/-- A request about a container whose caller is not found is refused with the number of candidates. -/
theorem answer_of_callerNotFound (hw : w.engine.Shows snapshot) {kind : MetadataKind}
    (hk : kind = .containerMetadata ∨ kind = .containerStats) (ha : s.Asks request kind identifier)
    {e : CallerNotFound}
    (he : ((s.description.query identifier request.address).find snapshot).outcome = .error e) :
    (s.answer w request : Run Empty Answer).outcome = .ok (.plain 500 ("Internal Server Error: " ++
      ("Failed to find the container which the request came from. Narrowed down search to "
        ++ toString e.remaining ++ " containers"))) := by
  have hanswer := answer_of_failed (ε := Empty) ha
    (Description.value_outcome_of_error hw.containers he hk)
  exact hanswer

/-- The metadata of a task lists the containers of the task. -/
theorem exists_delivers_taskMetadata (hs : s.description.Presentable) (hw : w.engine.Shows snapshot)
    (ha : s.Asks request .taskMetadata identifier) :
    ∃ task listed, s.Delivers w request .taskMetadata identifier task ∧
      task.field? "Containers" = some (.list listed) ∧
      listed.map (·.field? "DockerId") = ((LocalTask.containersFor
        (s.description.query identifier request.address) snapshot).map (·.id)).map
          fun id => some (.text id) := by
  have hsub := LocalTask.containersFor_subset (s.description.query identifier request.address) snapshot
  obtain ⟨task, ht, hj⟩ := LocalTask.exists_metadata hs.settings hs.taskFields hs.containerFields
    fun c hc => ⟨hw.printable c (hsub hc), hw.dated c (hsub hc)⟩
  obtain ⟨listed, hl, hfield⟩ := LocalTask.metadata_containers ht hs.containers
  refine ⟨task, listed, delivers_iff.mpr
    ⟨ha, (Description.taskMetadata_eq_ok_iff hw.containers).mpr ht, hj⟩, hfield, ?_⟩
  rw [LocalTask.ids_of_described hl hs.id, List.map_map]
  rfl

/-- The samples of a task stand under the identifiers of its containers. -/
theorem exists_delivers_taskStats (hw : w.engine.Shows snapshot)
    (ha : s.Asks request .taskStats identifier) :
    ∃ fields, s.Delivers w request .taskStats identifier (.map fields) ∧
      fields.map (·.1) = (((LocalTask.containersFor
        (s.description.query identifier request.address) snapshot).map (·.id)).eraseDups).map
          Value.text := by
  have hids : w.engine.HasSamples ((LocalTask.containersFor
      (s.description.query identifier request.address) snapshot).map (·.id)) := by
    intro id hid
    obtain ⟨c, hc, rfl⟩ := List.mem_map.mp hid
    exact (hw.sampled c (LocalTask.containersFor_subset _ _ hc)).imp fun _ h => h.1
  refine ⟨_, delivers_iff.mpr ⟨ha, (Description.taskStats_eq_ok_iff hw.containers).mpr
    ⟨hids, (object_samples _).symm⟩, ?_⟩, ?_⟩
  · rw [Json.writable_map_iff]
    intro e he
    obtain ⟨p, hp, rfl⟩ := List.mem_map.mp he
    obtain ⟨hm, hsample⟩ := LimitedEngine.mem_available hids hp
    obtain ⟨c, hc, hid⟩ := List.mem_map.mp hm
    obtain ⟨fields, hf, hj⟩ := hw.sampled c (LocalTask.containersFor_subset _ _ hc)
    rw [hid, hsample] at hf
    obtain rfl := Except.ok.inj hf
    exact ⟨Json.writableKey_text _, hj⟩
  · rw [← LimitedEngine.keys_available hids, List.map_map, Assoc.keys, List.map_map]
    rfl

/-- For every snapshot each of the four requests with an identifier from an address is answered. Metadata
of a container come with the identifier of the caller, and just for this identifier a sample is asked for
and delivered. Without a caller both are refused with the number of candidates, while the task is made up
of all containers. The samples of the task stand under the identifiers of the containers that its metadata
list, each in the place where it comes first. -/
theorem metadata_kinds_agree {r : Registry} (hr : r.Presentable) (own? : Option String)
    (offersCredentials : Bool) {entries : List Value} (hw : w.engine.Lists entries)
    {requests : MetadataKind → Request} {address : String}
    (ha : ∀ kind, (ofRegistry r own? offersCredentials).Asks (requests kind) kind identifier)
    (haddress : ∀ kind, (requests kind).address = address) :
    let s := ofRegistry r own? offersCredentials
    let q := s.description.query identifier address
    ∃ snapshot, entries.mapM Container.ofEntry = .ok snapshot ∧
      (∀ id,
        ((∃ v, s.Delivers w (requests .containerMetadata) .containerMetadata identifier v ∧
            v.field? "DockerId" = some (.text id)) ↔
          ∃ found, (q.find snapshot).outcome = .ok found ∧ found.1.id = id) ∧
        ((s.answer w (requests .containerStats) : Run Empty Answer).statsAsked = [id] ∧
            (∃ fields, (w.engine.sample id).outcome = .ok fields ∧
              s.Delivers w (requests .containerStats) .containerStats identifier (.map fields)) ↔
          ∃ found, (q.find snapshot).outcome = .ok found ∧ found.1.id = id)) ∧
      (∀ e, (q.find snapshot).outcome = .error e → e.remaining = (q.afterNetworks snapshot).length ∧
        ∀ kind, kind = .containerMetadata ∨ kind = .containerStats →
          (s.answer w (requests kind) : Run Empty Answer).outcome = .ok (.plain 500
            ("Internal Server Error: " ++
              ("Failed to find the container which the request came from. Narrowed down search to "
                ++ toString e.remaining ++ " containers")))) ∧
      ∃ task listed fields ids,
        s.Delivers w (requests .taskMetadata) .taskMetadata identifier task ∧
        task.field? "Containers" = some (.list listed) ∧
        listed.map (·.field? "DockerId") = ids.map (fun id => some (.text id)) ∧
        s.Delivers w (requests .taskStats) .taskStats identifier (.map fields) ∧
        fields.map (·.1) = ids.eraseDups.map Value.text ∧
        ∀ e, (q.find snapshot).outcome = .error e → ids = snapshot.map (·.id) := by
  intro s q
  have hs : s.description.Presentable := hr.description own?
  have hq (kind : MetadataKind) : s.description.query identifier (requests kind).address = q := by
    rw [haddress]
  obtain ⟨snapshot, hsnapshot, hw⟩ := hw.exists_shows
  refine ⟨snapshot, hsnapshot, fun id => ⟨?_, ?_⟩, fun e he => ⟨?_, fun kind hk => ?_⟩, ?_⟩
  · rw [← hq .containerMetadata]
    exact delivers_containerMetadata_iff hs hw (ha _) id
  · rw [← hq .containerStats]
    exact delivers_containerStats_iff hw (ha _) id
  · exact congrArg CallerNotFound.remaining (CallerQuery.find_eq_error_iff.mp he).2
  · exact answer_of_callerNotFound hw hk (ha kind) (by rwa [hq])
  · obtain ⟨task, listed, htask, hlisted, hids⟩ := exists_delivers_taskMetadata hs hw (ha .taskMetadata)
    obtain ⟨fields, hstats, hkeys⟩ := exists_delivers_taskStats hw (ha .taskStats)
    rw [hq] at hids hkeys
    exact ⟨task, listed, fields, _, htask, hlisted, hids, hstats, hkeys, fun e he =>
      congrArg (List.map (·.id)) (LocalTask.containersFor_of_error he)⟩

/-- Of two containers without an address each is found by its identifier, and no other text decides
between them. -/
theorem metadata_kinds_agree_example :
    let s := ofRegistry Registry.initial none true
    let w := Surroundings.ofEngine (.listing [("a1b2", "/web"), ("c3d4", "/db")])
    let request (identifier : String) (kind : MetadataKind) : Request :=
      ⟨"GET", kind.target identifier, "10.0.0.9"⟩
    (∃ v, s.Delivers w (request "c3" .containerMetadata) .containerMetadata "c3" v ∧
        v.field? "DockerId" = some (.text "c3d4")) ∧
      (s.answer w (request "c3" .containerStats) : Run Empty Answer).statsAsked = ["c3d4"] ∧
      (s.answer w (request "e5" .containerStats) : Run Empty Answer).outcome = .ok (.plain 500
        ("Internal Server Error: " ++
          ("Failed to find the container which the request came from. Narrowed down search to "
            ++ toString 2 ++ " containers"))) := by
  intro s w request
  have ha (identifier : String) (hne : identifier ≠ "") (hs : '/' ∉ identifier.toList)
      (kind : MetadataKind) : s.Asks (request identifier kind) kind identifier :=
    s.asks_target kind hne hs "10.0.0.9"
  have hw := LimitedEngine.lists_listing [("a1b2", "/web"), ("c3d4", "/db")]
  have hlist := Container.mapM_ofEntry_named [("a1b2", "/web"), ("c3d4", "/db")]
  obtain ⟨snapshot, hsnapshot, hfound, -⟩ := metadata_kinds_agree (w := w)
    Registry.presentable_initial none true hw
    (ha "c3" (by decide) (by decide)) fun _ => rfl
  obtain ⟨snapshot', hsnapshot', -, hrefused, -⟩ := metadata_kinds_agree (w := w)
    Registry.presentable_initial none true hw
    (ha "e5" (by decide) (by decide)) fun _ => rfl
  obtain rfl := Except.ok.inj (hlist.symm.trans hsnapshot)
  obtain rfl := Except.ok.inj (hlist.symm.trans hsnapshot')
  have hcaller : ((s.description.query "c3" "10.0.0.9").find
      [Container.named "a1b2" "/web", Container.named "c3d4" "/db"]).outcome =
      .ok (Container.named "c3d4" "/db", 1) := by
    rw [CallerQuery.find_eq_ok_iff]
    decide
  have hnone : ((s.description.query "e5" "10.0.0.9").find
      [Container.named "a1b2" "/web", Container.named "c3d4" "/db"]).outcome =
      .error ⟨2, "e5", "10.0.0.9"⟩ := by
    rw [CallerQuery.find_eq_error_iff]
    decide
  obtain ⟨hmetadata, hstats⟩ := hfound "c3d4"
  exact ⟨hmetadata.mpr ⟨_, hcaller, rfl⟩, (hstats.mpr ⟨_, hcaller, rfl⟩).1,
    (hrefused _ hnone).2 .containerStats (Or.inr rfl)⟩

end Service

end TaskEndpoints
