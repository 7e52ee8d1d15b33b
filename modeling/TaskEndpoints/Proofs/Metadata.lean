import TaskEndpoints.Metadata
import TaskEndpoints.Proofs.Caller.Basic
import TaskEndpoints.Proofs.Calendar.Years
import TaskEndpoints.Proofs.Container.Entries

/-!
# What is published about containers and tasks

A container can be described if its creation time can be published, and a task if this holds of its
containers. Fields of one's own hide no generated field that they do not name: the identifier of a
container and the list of containers of a task are found where they were generated.
-/

namespace TaskEndpoints

/-- A field of a value; what is no map has none. -/
def Value.field? (v : Value) (name : String) : Option Value :=
  match v with
  | .map fields => Assoc.get? fields (.text name)
  | _ => none

theorem Value.writable_of_field? {v field : Value} {name : String} (hv : Json.Writable v)
    (h : v.field? name = some field) : Json.Writable field := by
  cases v with
  | map fields => exact (Json.writable_map_iff.mp hv _ (Assoc.mem_of_get?_eq_some h)).2
  | _ => cases h

/-- No field has the name. -/
def Lacks (name : String) (fields : Fields) : Prop := Value.text name ∉ fields.map (·.1)

/-- The time of creation can be published. -/
def Container.Dated (c : Container) : Prop :=
  -62135596800 ≤ c.created ∧ c.created ≤ 253402300799

section Inherited

variable {P K : Value → Prop} (hP : Value.Inherited P K) {name : String} {v : Value}
  {entries pairs : Fields}

include hP

namespace Value.Inherited

theorem cons (h : P v) (hf : P (.map entries)) : P (.map (Metadata.item name v :: entries)) := by
  rw [hP.map_iff] at *
  exact List.forall_mem_cons.mpr ⟨⟨hP.key (Or.inl ⟨name, rfl⟩), h⟩, hf⟩

theorem append (h : P (.map entries)) (h' : P (.map pairs)) : P (.map (entries ++ pairs)) := by
  rw [hP.map_iff] at *
  exact List.forall_mem_append.mpr ⟨h, h'⟩

/-- A map keeps the property if other maps with it are written into it. -/
theorem insertAll (h : P (.map entries)) (h' : P (.map pairs)) :
    P (.map (Assoc.insertAll entries pairs)) := by
  rw [hP.map_iff] at *
  intro e hm
  rcases Assoc.mem_of_mem_insertAll hm with hm | hm
  · exact h e hm
  · exact h' e hm

theorem optional (h : P v) : P (.map (Metadata.optional name v)) := by
  rw [Metadata.optional]
  split
  · exact hP.cons h hP.nil
  · exact hP.nil

theorem addressField (h : P v) : P (.map (Metadata.addressField name v)) := by
  rw [Metadata.addressField]
  split
  · exact hP.cons (hP.list_iff.mpr (List.forall_mem_singleton.mpr h)) hP.nil
  · exact hP.nil

end Value.Inherited

open Metadata

theorem Port.inherits_metadata {p : Port} (h : P p.protocol) : P p.metadata :=
  hP.append (hP.cons (hP.int _) (hP.cons h hP.nil)) (hP.optional (hP.int _))

theorem Attachment.inherits_metadata {a : Attachment} (h : P a.address6) (network : String) :
    P (a.metadata network) :=
  hP.cons (hP.text _) (hP.append (hP.addressField (hP.text _)) (hP.addressField h))

theorem Mount.inherits_metadata {m : Mount} (h : P m.name ∧ P m.source ∧ P m.destination) : P m.metadata :=
  hP.cons h.1 (hP.cons h.2.1 (hP.cons h.2.2 hP.nil))

namespace Container

variable {c : Container}

theorem inherits_fixedFields (h : c.Relays P) (created : String) : P (.map (c.fixedFields created)) :=
  hP.cons (hP.text _) <| hP.cons (hP.text _) <| hP.cons (hP.text _) <| hP.cons h.image <|
    hP.cons h.imageId <| hP.cons (hP.text _) <| hP.cons (hP.text _) <| hP.cons (hP.text _) <|
    hP.cons (hP.text _) <| hP.cons (hP.text _) hP.nil

theorem inherits_optionalFields (h : c.Relays P) : P (.map c.optionalFields) := by
  refine hP.append (hP.append (hP.append ?ports (hP.optional h.labels)) ?networks) ?mounts
  case ports =>
    refine hP.optional (hP.list_iff.mpr fun v hv => ?_)
    obtain ⟨p, hp, rfl⟩ := List.mem_map.mp hv
    exact Port.inherits_metadata hP (h.ports p hp)
  case networks =>
    refine hP.optional (hP.list_iff.mpr fun v hv => ?_)
    obtain ⟨⟨name, a⟩, ha, rfl⟩ := List.mem_map.mp hv
    obtain ⟨networks, hn, hm⟩ := mem_attachments_iff.mp ha
    exact Attachment.inherits_metadata hP (h.networks networks hn _ hm a rfl) name
  case mounts =>
    refine hP.optional (hP.list_iff.mpr fun v hv => ?_)
    obtain ⟨m, hm, rfl⟩ := List.mem_map.mp hv
    exact Mount.inherits_metadata hP (h.mounts m hm)

end Container

end Inherited

open Metadata

namespace Container

variable {c : Container} {overrides : Fields} {v : Value}

theorem exists_created_of_metadata (h : c.metadata overrides = .ok v) : ∃ created,
    unixTimeText c.created = .ok created ∧
      v = .map (Assoc.insertAll (c.fixedFields created ++ c.optionalFields) overrides) := by
  cases hc : unixTimeText c.created with
  | error e =>
      rw [metadata, hc] at h
      cases h
  | ok created =>
      rw [metadata, hc] at h
      exact ⟨created, rfl, (Except.ok.inj h).symm⟩

theorem metadata_of_created {created : String} (h : unixTimeText c.created = .ok created) :
    c.metadata overrides =
      .ok (.map (Assoc.insertAll (c.fixedFields created ++ c.optionalFields) overrides)) := by
  rw [metadata, h]

theorem metadata_eq_ok_iff : c.metadata overrides = .ok v ↔ ∃ created,
    unixTimeText c.created = .ok created ∧
      v = .map (Assoc.insertAll (c.fixedFields created ++ c.optionalFields) overrides) := by
  constructor
  · exact exists_created_of_metadata
  · rintro ⟨created, hc, rfl⟩
    exact metadata_of_created hc

/-- The metadata of a container inherits what the container and the fields of one's own have. -/
theorem inherits_metadata {P K : Value → Prop} (hP : Value.Inherited P K) (h : c.Relays P)
    (ho : P (.map overrides)) (hv : c.metadata overrides = .ok v) : P v := by
  obtain ⟨created, -, rfl⟩ := exists_created_of_metadata hv
  exact hP.insertAll
    (hP.append (inherits_fixedFields hP h created) (inherits_optionalFields hP h)) ho

/-- A container whose time of creation can be published can be described. -/
theorem exists_metadata (h : c.Printable) (hd : c.Dated) (ho : Json.Writable (.map overrides)) :
    ∃ v, c.metadata overrides = .ok v ∧ Json.Writable v := by
  obtain ⟨created, hc⟩ := unixTimeText_isOk_iff.mpr hd
  obtain ⟨v, hv⟩ : ∃ v, c.metadata overrides = .ok v := ⟨_, metadata_of_created hc⟩
  exact ⟨v, hv, inherits_metadata Json.inherited_writable (printable_iff.mp h) ho hv⟩

/-- The identifier is published unless a field of one's own takes its place. -/
theorem metadata_id (h : c.metadata overrides = .ok v) (hl : Lacks "DockerId" overrides) :
    v.field? "DockerId" = some (.text c.id) := by
  obtain ⟨created, -, rfl⟩ := exists_created_of_metadata h
  exact Assoc.get?_insertAll_of_not_mem hl _

theorem exists_fields_of_metadata (h : c.metadata overrides = .ok v) : ∃ fields, v = .map fields := by
  obtain ⟨created, -, rfl⟩ := exists_created_of_metadata h
  exact ⟨_, rfl⟩

end Container

namespace LocalTask

/-- The settings of a task can be published: they have JSON texts, and the tags are mappings. -/
structure Presentable (settings : Fields) : Prop where
  values : ∀ e ∈ settings, Json.Writable e.2
  taskTags : ∃ entries, Value.fieldOf settings "task_tags" = .map entries
  instanceTags : ∃ entries, Value.fieldOf settings "container_instance_tags" = .map entries

variable {settings overrides containerOverrides : Fields} {containers : List Container}
  {described : List Value} {v : Value}

theorem fields_eq_ok_iff {generated : Fields} :
    fields settings containerOverrides containers = .ok generated ↔
      ∃ described, containers.mapM (·.metadata containerOverrides) = .ok described ∧
      ∃ taskTags, tagField settings "TaskTags" "task_tags" = .ok taskTags ∧
      ∃ instanceTags, tagField settings "ContainerInstanceTags" "container_instance_tags" =
        .ok instanceTags ∧
      generated = [item "Cluster" (describe settings "cluster"),
        item "TaskARN" (describe settings "task_arn"), item "Family" (describe settings "family"),
        item "Revision" (describe settings "revision"), item "DesiredStatus" running,
        item "KnownStatus" running, item "Containers" (.list described)]
          ++ taskTags ++ instanceTags := by
  simp only [fields, bind_eq_ok_iff]
  simp only [pure, Except.pure, Except.ok.injEq, eq_comm]

theorem metadata_eq_ok_iff : metadata settings overrides containerOverrides containers = .ok v ↔
    ∃ generated, fields settings containerOverrides containers = .ok generated ∧
      v = .map (Assoc.insertAll generated overrides) := by
  rw [metadata, map_eq_ok_iff]
  simp only [eq_comm]

/-- The described containers are published unless a field of one's own takes their place. -/
theorem metadata_containers (h : metadata settings overrides containerOverrides containers = .ok v)
    (hl : Lacks "Containers" overrides) :
    ∃ described, containers.mapM (·.metadata containerOverrides) = .ok described ∧
      v.field? "Containers" = some (.list described) := by
  obtain ⟨generated, hg, rfl⟩ := metadata_eq_ok_iff.mp h
  obtain ⟨described, hd, taskTags, -, instanceTags, -, rfl⟩ := fields_eq_ok_iff.mp hg
  exact ⟨described, hd, Assoc.get?_insertAll_of_not_mem hl _⟩

/-- The published identifiers are those of the containers, in order. -/
theorem ids_of_described (h : containers.mapM (·.metadata containerOverrides) = .ok described)
    (hl : Lacks "DockerId" containerOverrides) :
    described.map (·.field? "DockerId") = containers.map fun c => some (.text c.id) := by
  induction forall₂_of_mapM h with
  | nil => rfl
  | cons hc hcs ih =>
      rw [List.map_cons, List.map_cons, Container.metadata_id hc hl, ih (mapM_of_forall₂ hcs)]

theorem tagField_of_map (name : String) {key : String}
    (ht : ∃ entries, Value.fieldOf settings key = .map entries) :
    tagField settings name key = .ok (optional name (Value.fieldOf settings key)) := by
  obtain ⟨entries, he⟩ := ht
  simp only [tagField, he, Metadata.optional, Value.toEntries_map]
  split
  · rfl
  · rfl

section Inherited

variable {P K : Value → Prop} (hP : Value.Inherited P K) (hs : ∀ e ∈ settings, P e.2)

include hP hs

theorem inherits_describe (key : String) : P (describe settings key) := by
  rw [describe]
  cases hv : Assoc.get? settings (.text key) with
  | none => exact hP.text ""
  | some v => exact hs _ (Assoc.mem_of_get?_eq_some hv)

omit hP in
theorem inherits_tags {key : String} (ht : ∃ entries, Value.fieldOf settings key = .map entries) :
    P (Value.fieldOf settings key) := by
  obtain ⟨entries, he⟩ := ht
  rw [Value.fieldOf] at he ⊢
  cases hv : Assoc.get? settings (.text key) with
  | none =>
      rw [hv] at he
      cases he
  | some v => exact hs _ (Assoc.mem_of_get?_eq_some hv)

/-- The metadata of a task inherits what its settings, its described containers and the fields of one's own
have. -/
theorem inherits_metadata (ht : ∃ entries, Value.fieldOf settings "task_tags" = .map entries)
    (hi : ∃ entries, Value.fieldOf settings "container_instance_tags" = .map entries)
    (ho : P (.map overrides)) (hco : P (.map containerOverrides))
    (hc : ∀ c ∈ containers, c.Relays P)
    (hv : metadata settings overrides containerOverrides containers = .ok v) : P v := by
  obtain ⟨generated, hg, rfl⟩ := metadata_eq_ok_iff.mp hv
  obtain ⟨described, hd, taskTags, htags, instanceTags, hitags, rfl⟩ := fields_eq_ok_iff.mp hg
  obtain rfl := Except.ok.inj ((tagField_of_map "TaskTags" ht).symm.trans htags)
  obtain rfl := Except.ok.inj ((tagField_of_map "ContainerInstanceTags" hi).symm.trans hitags)
  have hdescribed : P (.list described) := hP.list_iff.mpr fun v hv => by
    obtain ⟨c, hm, hcv⟩ := exists_mem_of_mapM_eq_ok hd hv
    exact Container.inherits_metadata hP (hc c hm) hco hcv
  have hr : P running := hP.text _
  have hvalue := inherits_describe hP hs
  refine hP.insertAll (hP.append (hP.append ?_ (hP.optional (inherits_tags hs ht)))
    (hP.optional (inherits_tags hs hi))) ho
  exact hP.cons (hvalue _) <| hP.cons (hvalue _) <| hP.cons (hvalue _) <| hP.cons (hvalue _) <|
    hP.cons hr <| hP.cons hr <| hP.cons hdescribed hP.nil

end Inherited

/-- A task can be described if its settings and its containers can be. -/
theorem exists_metadata (hs : Presentable settings) (ho : Json.Writable (.map overrides))
    (hco : Json.Writable (.map containerOverrides))
    (hc : ∀ c ∈ containers, c.Printable ∧ c.Dated) :
    ∃ v, metadata settings overrides containerOverrides containers = .ok v ∧ Json.Writable v := by
  obtain ⟨described, hd, -⟩ := exists_mapM_of_forall
    (f := fun c : Container => c.metadata containerOverrides) fun c hm =>
      Container.exists_metadata (hc c hm).1 (hc c hm).2 hco
  obtain ⟨v, hv⟩ : ∃ v, metadata settings overrides containerOverrides containers = .ok v :=
    ⟨_, metadata_eq_ok_iff.mpr ⟨_, fields_eq_ok_iff.mpr
      ⟨described, hd, _, tagField_of_map "TaskTags" hs.taskTags, _,
        tagField_of_map "ContainerInstanceTags" hs.instanceTags, rfl⟩, rfl⟩⟩
  exact ⟨v, hv, inherits_metadata Json.inherited_writable hs.values hs.taskTags hs.instanceTags ho hco
    (fun c hm => Container.printable_iff.mp (hc c hm).1) hv⟩

end LocalTask

end TaskEndpoints
