import TaskEndpoints.Proofs.Container.Contents
import TaskEndpoints.Proofs.Metadata.Tables

/-!
# From entries to the description of a task

The description of a task shows every part of every entry that the engine lists, once and in the order of the
entry, and nothing else. Fields of one's own are written over what is generated, key by key: those of
containers over each of them, and those of the task over the whole. The main statement says this for all
well-typed entries whose times of creation can be published.

## Implementation notes

What is shown of an entry is a relation between the entry and the shown object, so that it says nothing of the
container between the two.
-/

namespace TaskEndpoints

open Value Metadata

namespace Entry

/-- What is shown of a port: the port outside only if there is one. -/
def ShowsPort (port shown : Value) : Prop :=
  ∃ outer fields, (fieldOf (entriesOf port) "PublicPort").orElse (.int 0) = .int outer ∧
    shown = .map fields ∧
    Displays (portTable ((fieldOf (entriesOf port) "PrivatePort").orElse (.int 0))
      ((fieldOf (entriesOf port) "Type").orElse (.text "tcp")) outer) fields

/-- What is shown of a network: each of its two addresses only if it is not empty. -/
def ShowsNetwork (network : Value × Value) (shown : Value) : Prop :=
  ∃ fields, shown = .map fields ∧
    Displays (networkTable network.1 (relayed (entriesOf network.2) "IPAddress")
      (relayed (entriesOf network.2) "GlobalIPv6Address")) fields

/-- What is shown of a mounted volume. -/
def ShowsMount (mount shown : Value) : Prop :=
  ∃ fields, shown = .map fields ∧
    Displays (mountTable (relayed (entriesOf mount) "Name") (relayed (entriesOf mount) "Source")
      (relayed (entriesOf mount) "Destination")) fields

/-- What is generated for an entry: an object in which its ports, its networks with settings and its volumes are
listed one by one, in the order of the entry, and all of its labels. -/
def Generates (entry generated : Fields) : Prop :=
  ∃ name seconds created ports networks volumes,
    IsCalled (itemsOf (fieldOf entry "Names")) name ∧
    (fieldOf entry "Created").orElse (.int 0) = .int seconds ∧ unixTimeText seconds = .ok created ∧
    List.Forall₂ ShowsPort (itemsOf (fieldOf entry "Ports")) ports ∧
    List.Forall₂ ShowsNetwork (connections entry) networks ∧
    List.Forall₂ ShowsMount (itemsOf (fieldOf entry "Mounts")) volumes ∧
    Displays (containerTable ((fieldOf entry "Id").orElse (relayed entry "ID")) (.text name)
      (relayed entry "Image") (relayed entry "ImageID") (.text created) ports
      (entriesOf (fieldOf entry "Labels")) networks volumes) generated

/-- What is shown of an entry: what is generated for it, with fields of one's own written over it. -/
def Shows (overrides : Fields) (v shown : Value) : Prop :=
  ∃ entry generated fields, v = .map entry ∧ shown = .map fields ∧ Generates entry generated ∧
    Assoc.Overlays generated overrides fields

/-- The time of creation can be published. -/
def IsDated (v : Value) : Prop :=
  ∀ seconds, (fieldOf (entriesOf v) "Created").orElse (.int 0) = .int seconds →
    -62135596800 ≤ seconds ∧ seconds ≤ 253402300799

variable {entry overrides : Fields} {v : Value} {c : Container}

theorem showsPort_metadata {p : Port} (ht : IsPort v) (h : port v = .ok p) : ShowsPort v p.metadata := by
  obtain ⟨hinner, houter, hprotocol⟩ := of_port ht h
  obtain ⟨fields, hfields, hd⟩ := p.displays_metadata
  refine ⟨p.outer, fields, houter, hfields, ?_⟩
  rw [hinner, hprotocol]
  exact hd

theorem showsNetwork_metadata {e : Value × Value} {n : String × Attachment} (h : Connects e n) :
    ShowsNetwork e (n.2.metadata n.1) := by
  obtain ⟨hname, hattachment⟩ := h
  obtain ⟨haddress, haddress6⟩ := of_attachment hattachment
  obtain ⟨fields, hfields, hd⟩ := n.2.displays_metadata n.1 haddress6.symm
  refine ⟨fields, hfields, ?_⟩
  rw [hname, haddress, haddress6]
  exact hd

theorem showsMount_metadata {m : Mount} (h : mount v = .ok m) : ShowsMount v m.metadata := by
  obtain ⟨hname, hsource, hdestination⟩ := of_mount h
  obtain ⟨fields, hfields, hd⟩ := m.displays_metadata
  refine ⟨fields, hfields, ?_⟩
  rw [hname, hsource, hdestination]
  exact hd

/-- The generated fields of a container are those that are generated for its entry. -/
theorem generates_fields (ht : DescribesContainer entry) (hc : Container.ofEntry (.map entry) = .ok c)
    {created : String} (hcreated : unixTimeText c.created = .ok created) :
    Generates entry (c.fixedFields created ++ c.optionalFields) := by
  obtain ⟨-, ⟨portItems, hportItems, hports⟩, ⟨mountItems, hmountItems, hmounts⟩, hid,
    ⟨nameItems, hnameItems, hnames⟩, hlabels, hseconds, himage, himageId⟩ :=
    Container.ofEntry_eq_ok_iff.mp hc
  obtain ⟨hitems, hforms⟩ := elements_of_list ht.ports
  obtain rfl := Except.ok.inj (hitems.symm.trans hportItems)
  obtain rfl := Except.ok.inj ((elements_of_list ht.mounts).1.symm.trans hmountItems)
  obtain rfl := Except.ok.inj ((elements_of_list ht.names).1.symm.trans hnameItems)
  have hlabels := Except.ok.inj ((labels_eq_entriesOf ht.labels).symm.trans hlabels)
  refine ⟨c.displayName, c.created, created, c.ports.map Port.metadata,
    c.attachments.map fun n => n.2.metadata n.1, c.mounts.map Mount.metadata,
    isCalled_displayName hnames, orElse_of_integer ht.created hseconds, hcreated, ?ports, ?networks,
    ?volumes, ?fields⟩
  case ports =>
    rw [List.forall₂_map_right_iff]
    exact forall₂_of_mapM_eq_ok (fun item hm => showsPort_metadata (hforms item hm)) hports
  case networks =>
    rw [List.forall₂_map_right_iff]
    exact (connects_of_ofEntry hc).imp fun _ _ h => showsNetwork_metadata h
  case volumes =>
    rw [List.forall₂_map_right_iff]
    exact forall₂_of_mapM_eq_ok (fun item _ => showsMount_metadata) hmounts
  case fields =>
    rw [eq_of_text_eq_ok hid, himage, himageId, hlabels]
    exact c.displays_fields created

/-- A well-typed entry describes a container, whose description shows the entry. -/
theorem exists_shown (ht : WellTyped v) (hd : IsDated v) (ho : (Assoc.keys overrides).Nodup) :
    ∃ c, Container.ofEntry v = .ok c ∧
      ∃ shown, c.metadata overrides = .ok shown ∧ Shows overrides v shown := by
  obtain ⟨c, hc, -⟩ := Container.exists_ofEntry ht
  obtain ⟨entry, rfl, ht⟩ := ht
  have hseconds := (Container.ofEntry_eq_ok_iff.mp hc).2.2.2.2.2.2.1
  obtain ⟨created, hcreated⟩ :=
    unixTimeText_isOk_iff.mpr (hd c.created (orElse_of_integer ht.created hseconds))
  exact ⟨c, hc, _, Container.metadata_eq_ok_iff.mpr ⟨created, hcreated, rfl⟩, entry, _, _, rfl, rfl,
    generates_fields ht hc hcreated, Assoc.overlays_insertAll _ ho⟩

end Entry

namespace LocalTask

variable {entries : List Value} {settings tags instanceTags overrides containerOverrides : Fields}

theorem exists_described (he : ∀ v ∈ entries, Entry.WellTyped v ∧ Entry.IsDated v)
    (hco : (Assoc.keys containerOverrides).Nodup) :
    ∃ containers described, entries.mapM Container.ofEntry = .ok containers ∧
      containers.mapM (·.metadata containerOverrides) = .ok described ∧
      List.Forall₂ (Entry.Shows containerOverrides) entries described := by
  induction entries with
  | nil => exact ⟨[], [], rfl, rfl, .nil⟩
  | cons v rest ih =>
      obtain ⟨⟨ht, hd⟩, hrest⟩ := List.forall_mem_cons.mp he
      obtain ⟨c, hc, shown, hshown, hshows⟩ := Entry.exists_shown ht hd hco
      obtain ⟨containers, described, hcontainers, hdescribed, hall⟩ := ih hrest
      exact ⟨c :: containers, shown :: described,
        mapM_of_forall₂ (.cons hc (forall₂_of_mapM hcontainers)),
        mapM_of_forall₂ (.cons hshown (forall₂_of_mapM hdescribed)), .cons hshows hall⟩

/-- Every list of well-typed entries that were created at times which can be published has a description of its
task. What is generated for the task shows its settings, its tags if it has any, and one object for each
entry, in the order of the list, with the fields of one's own for containers written over each of
them. The description is what is generated, with the fields of one's own for the task written over it. -/
theorem description_shows_all_entries (he : ∀ v ∈ entries, Entry.WellTyped v ∧ Entry.IsDated v)
    (ht : HasTags (fieldOf settings "task_tags") tags)
    (hi : HasTags (fieldOf settings "container_instance_tags") instanceTags)
    (ho : (Assoc.keys overrides).Nodup) (hco : (Assoc.keys containerOverrides).Nodup) :
    ∃ containers described generated description,
      entries.mapM Container.ofEntry = .ok containers ∧
      fields settings containerOverrides containers = .ok generated ∧
      metadata settings overrides containerOverrides containers = .ok (.map description) ∧
      List.Forall₂ (Entry.Shows containerOverrides) entries described ∧
      Displays (taskTable (describe settings "cluster") (describe settings "task_arn")
        (describe settings "family") (describe settings "revision") described tags instanceTags)
        generated ∧
      Assoc.Overlays generated overrides description := by
  obtain ⟨containers, described, hcontainers, hdescribed, hshows⟩ := exists_described he hco
  have hgenerated := fields_eq_ok_iff_given.mpr ⟨described, tags, instanceTags, hdescribed, ht, hi, rfl⟩
  exact ⟨containers, described, _, _, hcontainers, hgenerated,
    metadata_eq_ok_iff.mpr ⟨_, hgenerated, rfl⟩, hshows, displays_taskTable ..,
    Assoc.overlays_insertAll _ ho⟩

/-- A container with a port that is open outside and one that is not, a volume, a label and two networks of which
one has no settings, and a container of which almost nothing is told. Fields of one's own name what is
generated, what is left out and what is new. -/
theorem description_shows_all_entries_example :
    let ports := Value.list [.object [("PrivatePort", .int 80), ("PublicPort", .int 8000)],
      .object [("PrivatePort", .int 53), ("Type", .text "udp")]]
    let mounts := Value.list [.object [("Name", .text "data"), ("Destination", .text "/data")]]
    let networks := Value.object [("front", .object [("IPAddress", .text "10.0.0.2")]), ("none", .null)]
    let web := Value.object [("Id", .text "a1"), ("Names", .list [.text "/web"]), ("Ports", ports),
      ("Mounts", mounts), ("Labels", .object [("tier", .text "web")]),
      ("NetworkSettings", .object [("Networks", networks)]), ("Created", .int 1552368275)]
    let bare := Entry.named "b2" "bare"
    let settings : Fields := [(.text "cluster", .text "local"),
      (.text "task_tags", .object [("team", .text "ops")]), (.text "container_instance_tags", .map [])]
    let overrides : Fields := [(.text "Zone", .text "a"), (.text "Family", .text "custom"),
      (.text "ContainerInstanceTags", .object [("az", .text "local")])]
    let containerOverrides : Fields := [(.text "Limits", .int 2), (.text "Image", .text "custom")]
    ∃ containers first second description, [web, bare].mapM Container.ofEntry = .ok containers ∧
      metadata settings overrides containerOverrides containers = .ok (.map description) ∧
      Assoc.get? description (.text "Containers") = some (.list [first, second]) ∧
      Entry.Shows containerOverrides web first ∧ Entry.Shows containerOverrides bare second ∧
      Assoc.get? description (.text "Family") = some (.text "custom") ∧
      Assoc.get? description (.text "Cluster") = some (.text "local") ∧
      Assoc.keys description = ["Cluster", "TaskARN", "Family", "Revision", "DesiredStatus",
        "KnownStatus", "Containers", "TaskTags", "Zone", "ContainerInstanceTags"].map .text := by
  intro ports mounts networks web bare settings overrides containerOverrides
  have hports : IsListOf Entry.IsPort ports := by
    refine ⟨_, rfl, List.forall_mem_cons.mpr ⟨?_, List.forall_mem_singleton.mpr ?_⟩⟩
    · exact ⟨_, rfl, Or.inr ⟨80, rfl⟩, Or.inr ⟨8000, rfl⟩, Or.inl rfl, Or.inl rfl⟩
    · exact ⟨_, rfl, Or.inr ⟨53, rfl⟩, Or.inl rfl, Or.inr (Or.inl ⟨"udp", rfl⟩), Or.inl rfl⟩
  have hmounts : IsListOf Entry.IsMount mounts := by
    refine ⟨_, rfl, List.forall_mem_singleton.mpr ?_⟩
    exact ⟨_, rfl, Or.inr (Or.inl ⟨"data", rfl⟩), Or.inl rfl, Or.inr (Or.inl ⟨"/data", rfl⟩)⟩
  have hnetworks : IsMapOf IsSearchable (IsNullOr Entry.IsAttachment) networks := by
    refine ⟨_, rfl, List.forall_mem_cons.mpr ⟨⟨⟨"front", rfl⟩, Or.inr ?_⟩,
      List.forall_mem_singleton.mpr ⟨⟨"none", rfl⟩, Or.inl rfl⟩⟩⟩
    exact ⟨_, rfl, Or.inr ⟨"10.0.0.2", rfl⟩, Or.inl rfl, Or.inl rfl⟩
  have hlabels : IsMapOf IsAnyText IsAnyText (.object [("tier", .text "web")]) :=
    ⟨_, rfl, List.forall_mem_singleton.mpr ⟨Or.inl ⟨"tier", rfl⟩, Or.inl ⟨"web", rfl⟩⟩⟩
  have hweb : Entry.WellTyped web := ⟨_, rfl,
    { id := Or.inr ⟨"a1", rfl⟩
      otherId := Or.inl rfl
      names := Or.inr ⟨_, rfl, List.forall_mem_singleton.mpr ⟨"/web", rfl⟩⟩
      labels := Or.inr hlabels
      networks := Or.inr ⟨_, rfl, Or.inr hnetworks⟩
      image := Or.inl rfl
      imageId := Or.inl rfl
      created := Or.inr ⟨1552368275, rfl⟩
      ports := Or.inr hports
      mounts := Or.inr hmounts }⟩
  have hdated (v : Value) (hv : v = web ∨ v = bare) : Entry.IsDated v := by
    intro seconds hs
    rcases hv with rfl | rfl
    · obtain rfl : (1552368275 : Int) = seconds := Value.int.inj hs
      decide
    · obtain rfl : (0 : Int) = seconds := Value.int.inj hs
      decide
  have hentries : ∀ v ∈ [web, bare], Entry.WellTyped v ∧ Entry.IsDated v :=
    List.forall_mem_cons.mpr ⟨⟨hweb, hdated web (Or.inl rfl)⟩,
      List.forall_mem_singleton.mpr ⟨Entry.wellTyped_named "b2" "bare", hdated bare (Or.inr rfl)⟩⟩
  have ht : HasTags (fieldOf settings "task_tags") [(.text "team", .text "ops")] := hasTags_map_iff.mpr rfl
  have hi : HasTags (fieldOf settings "container_instance_tags") [] := hasTags_map_iff.mpr rfl
  have ho : (Assoc.keys overrides).Nodup := by decide
  have hco : (Assoc.keys containerOverrides).Nodup := by decide
  obtain ⟨containers, described, generated, description, hcontainers, -, hdescription, hshows,
    hdisplays, hoverlays⟩ := description_shows_all_entries hentries ht hi ho hco
  obtain ⟨first, _, hfirst, hrest, rfl⟩ := List.forall₂_cons_left_iff.mp hshows
  obtain ⟨second, _, hsecond, hnil, rfl⟩ := List.forall₂_cons_left_iff.mp hrest
  obtain rfl := List.forall₂_nil_left_iff.mp hnil
  have hgenerated : Assoc.keys generated = ["Cluster", "TaskARN", "Family", "Revision",
      "DesiredStatus", "KnownStatus", "Containers", "TaskTags"].map .text :=
    hdisplays.keys
  refine ⟨containers, first, second, description, hcontainers, hdescription, ?_, hfirst, hsecond,
    ?_, ?_, ?_⟩
  · exact (hoverlays.value _).trans
      (hdisplays.values ("Containers", some (.list [first, second])) (by simp [taskTable]))
  · exact hoverlays.value _
  · exact (hoverlays.value _).trans
      (hdisplays.values ("Cluster", some (.text "local")) List.mem_cons_self)
  · rw [hoverlays.keys, hgenerated]
    decide

end LocalTask

end TaskEndpoints
