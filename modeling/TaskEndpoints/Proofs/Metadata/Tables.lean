import TaskEndpoints.Proofs.Metadata

/-!
# Published objects by their fields

An object is told by a table of its fields, in which a field that is left out has no value. Each object that is
published about a container or a task has such a table: nothing but the fields of the table is in it, in their
order, and a field is there exactly if the table has a value for it.

## Implementation notes

The names in a table are distinct, so that the value of a field does not depend on the fields before it.
-/

namespace TaskEndpoints

open Metadata

namespace Metadata

/-- The fields of an object by name, in order; a field without a value is left out. -/
abbrev Table := List (String × Option Value)

/-- An object has the fields of a table that have a value, in their order, and no others. -/
structure Displays (table : Table) (fields : Fields) : Prop where
  keys : Assoc.keys fields = (table.filter fun row => row.2.isSome).map fun row => .text row.1
  values : ∀ row ∈ table, Assoc.get? fields (.text row.1) = row.2

/-- A value that is left out in one case. -/
def shownUnless (absent : Prop) [Decidable absent] (v : Value) : Option Value :=
  if absent then none else some v

/-- The table of a port. -/
def portTable (inner protocol : Value) (outer : Int) : Table := [
  ("ContainerPort", some inner), ("Protocol", some protocol),
  ("HostPort", shownUnless (outer = 0) (.int outer))]

/-- The table of a network. -/
def networkTable (mode address address6 : Value) : Table := [
  ("NetworkMode", some mode),
  ("IPv4Addresses", shownUnless (address = .text "") (.list [address])),
  ("IPv6Addresses", shownUnless (address6 = .text "") (.list [address6]))]

/-- The table of a mounted volume. -/
def mountTable (name source destination : Value) : Table := [
  ("DockerName", some name), ("Source", some source), ("Destination", some destination)]

/-- The table of a container. -/
def containerTable (id name image imageId created : Value) (ports : List Value) (labels : Fields)
    (networks volumes : List Value) : Table := [
  ("DockerId", some id), ("Name", some name), ("DockerName", some name), ("Image", some image),
  ("ImageID", some imageId), ("DesiredStatus", some (.text "RUNNING")),
  ("KnownStatus", some (.text "RUNNING")), ("CreatedAt", some created), ("StartedAt", some created),
  ("Type", some (.text "NORMAL")), ("Ports", shownUnless (ports = []) (.list ports)),
  ("Labels", shownUnless (labels = []) (.map labels)),
  ("Networks", shownUnless (networks = []) (.list networks)),
  ("Volumes", shownUnless (volumes = []) (.list volumes))]

/-- The table of a task. -/
def taskTable (cluster arn family revision : Value) (containers : List Value)
    (tags instanceTags : Fields) : Table := [
  ("Cluster", some cluster), ("TaskARN", some arn), ("Family", some family),
  ("Revision", some revision), ("DesiredStatus", some (.text "RUNNING")),
  ("KnownStatus", some (.text "RUNNING")), ("Containers", some (.list containers)),
  ("TaskTags", shownUnless (tags = []) (.map tags)),
  ("ContainerInstanceTags", shownUnless (instanceTags = []) (.map instanceTags))]

/-- The object of a table. -/
def given (table : Table) : Fields := table.filterMap fun row => row.2.map (item row.1)

variable {table : Table} {name : String} {v : Value} {absent : Prop} [Decidable absent]

theorem mem_given_iff {key : Value} : (key, v) ∈ given table ↔ ∃ row ∈ table, row.2 = some v ∧
    .text row.1 = key := by
  simp [given, item]

theorem keys_given (table : Table) :
    Assoc.keys (given table) = (table.filter fun row => row.2.isSome).map fun row => .text row.1 := by
  induction table with
  | nil => rfl
  | cons row rest ih =>
      obtain ⟨name, v?⟩ := row
      cases v? with
      | none => exact ih
      | some v => exact congrArg (Value.text name :: ·) ih

theorem nodup_keys_given (h : (table.map (·.1)).Nodup) : (Assoc.keys (given table)).Nodup := by
  have hnames : ((table.filter fun row => row.2.isSome).map (·.1)).Nodup :=
    h.sublist (List.filter_sublist.map _)
  have htexts := hnames.map fun _ _ he => Value.text.inj he
  rw [List.map_map] at htexts
  rw [keys_given]
  exact htexts

theorem displays_given (h : (table.map (·.1)).Nodup) : Displays table (given table) where
  keys := keys_given table
  values := by
    intro row hrow
    cases hv : row.2 with
    | some v =>
        rw [Assoc.get?_eq_some_iff (nodup_keys_given h)]
        exact mem_given_iff.mpr ⟨row, hrow, hv, rfl⟩
    | none =>
        rw [Assoc.get?_eq_none_iff]
        intro hm
        obtain ⟨⟨key, v⟩, hm, rfl⟩ := List.mem_map.mp hm
        obtain ⟨other, hother, hsome, hkey⟩ := mem_given_iff.mp hm
        -- another row of the same name would be this row
        obtain rfl := List.inj_on_of_nodup_map h hother hrow (Value.text.inj hkey)
        cases hv.symm.trans hsome

theorem given_append (first second : Table) : given (first ++ second) = given first ++ given second :=
  List.filterMap_append

/-- A field that is left out in one case. -/
theorem ite_eq_given (name : String) (v : Value) {shown : Bool} (h : shown = true ↔ ¬absent) :
    (if shown then [item name v] else []) = given [(name, shownUnless absent v)] := by
  rw [shownUnless]
  by_cases ha : absent
  · rw [if_neg fun hs => h.mp hs ha, if_pos ha]
    rfl
  · rw [if_pos (h.mpr ha), if_neg ha]
    rfl

theorem optional_int (name : String) (n : Int) :
    Metadata.optional name (.int n) = given [(name, shownUnless (n = 0) (.int n))] :=
  ite_eq_given name _ bne_iff_ne

theorem optional_list (name : String) (items : List Value) :
    Metadata.optional name (.list items) = given [(name, shownUnless (items = []) (.list items))] :=
  ite_eq_given name _ (by simp [Value.isTruthy])

theorem optional_map (name : String) (entries : Fields) :
    Metadata.optional name (.map entries) =
      given [(name, shownUnless (entries = []) (.map entries))] :=
  ite_eq_given name _ (by simp [Value.isTruthy])

theorem addressField_relayed (name : String) (v : Value) :
    addressField name (v.orElse (.text "")) = given [(name, shownUnless (v.orElse (.text "") = .text "")
      (.list [v.orElse (.text "")]))] :=
  ite_eq_given name _ (Entry.isTruthy_orElse_iff v)

end Metadata

/-! ### The tables of published objects -/

theorem Port.displays_metadata (p : Port) : ∃ fields, p.metadata = .map fields ∧
    Displays (portTable (.int p.inner) p.protocol p.outer) fields := by
  have hnames : ["ContainerPort", "Protocol", "HostPort"].Nodup := by decide
  refine ⟨_, rfl, ?_⟩
  rw [optional_int]
  exact displays_given hnames

/-- Addresses are texts, or the empty text stands for them. -/
theorem Attachment.displays_metadata (a : Attachment) (mode : String) {v : Value}
    (ha : a.address6 = v.orElse (.text "")) : ∃ fields, a.metadata mode = .map fields ∧
    Displays (networkTable (.text mode) (.text a.address) a.address6) fields := by
  have hnames : ["NetworkMode", "IPv4Addresses", "IPv6Addresses"].Nodup := by decide
  refine ⟨_, rfl, ?_⟩
  rw [← Value.orElse_text a.address, ha, addressField_relayed, addressField_relayed,
    ← given_append]
  exact displays_given hnames

theorem Mount.displays_metadata (m : Mount) : ∃ fields, m.metadata = .map fields ∧
    Displays (mountTable m.name m.source m.destination) fields := by
  have hnames : ["DockerName", "Source", "Destination"].Nodup := by decide
  exact ⟨_, rfl, displays_given hnames⟩

theorem Container.displays_fields (c : Container) (created : String) :
    Displays (containerTable (.text c.id) (.text c.displayName) c.image c.imageId (.text created)
      (c.ports.map Port.metadata) c.labels (c.attachments.map fun n => n.2.metadata n.1)
      (c.mounts.map Mount.metadata)) (c.fixedFields created ++ c.optionalFields) := by
  have hnames : ["DockerId", "Name", "DockerName", "Image", "ImageID", "DesiredStatus", "KnownStatus",
      "CreatedAt", "StartedAt", "Type", "Ports", "Labels", "Networks", "Volumes"].Nodup := by
    decide
  rw [optionalFields, optional_list, optional_map, optional_list, optional_list]
  simp only [← given_append]
  exact displays_given hnames

/-! ### Tags of a task -/

namespace Value

variable {tags : Fields} {v : Value}

/-- Entries that are read from a sequence are collected from one pair for each of its elements. -/
theorem exists_pairs_of_toEntries (hv : ∀ entries, v ≠ .map entries) (h : v.toEntries = .ok tags) :
    ∃ items pairs, v.elements? = some items ∧ pairs.length = items.length ∧
      tags = Assoc.ofPairs pairs := by
  rw [toEntries] at h
  · cases he : v.elements? with
    | none =>
        rw [he] at h
        cases h
    | some items =>
        rw [he] at h
        obtain ⟨pairs, hpairs, h⟩ := bind_eq_ok_iff.mp h
        refine ⟨items, pairs, rfl, ?_, (Except.ok.inj h).symm⟩
        rw [← (forall₂_of_mapM hpairs).length_eq, List.length_zipIdx]
  · exact hv

/-- What counts as true has entries, if it can be read as entries. -/
theorem ne_nil_of_toEntries (ht : v.isTruthy = true) (h : v.toEntries = .ok tags) : tags ≠ [] := by
  by_cases hv : ∀ entries, v ≠ .map entries
  · obtain ⟨items, pairs, hitems, hlength, rfl⟩ := exists_pairs_of_toEntries hv h
    have hne : items ≠ [] := by
      rintro rfl
      cases v <;> simp_all [Value.elements?, Value.isTruthy]
    intro hnil
    have hkeys := Assoc.keys_ofPairs pairs
    rw [hnil] at hkeys
    cases pairs with
    | nil => exact hne (List.length_eq_zero_iff.mp hlength.symm)
    | cons p rest =>
        rw [List.map_cons, List.eraseDups_cons] at hkeys
        cases hkeys
  · obtain ⟨entries, rfl⟩ : ∃ entries, v = .map entries := by
      simpa only [not_forall, not_not] using hv
    obtain rfl := Except.ok.inj h
    simpa [Value.isTruthy] using ht

end Value

namespace LocalTask

/-- The tags of a setting: none if its value counts as false, and else its entries. -/
def HasTags (v : Value) (tags : Fields) : Prop :=
  v.isTruthy = false ∧ tags = [] ∨ v.isTruthy = true ∧ v.toEntries = .ok tags

variable {settings tags instanceTags : Fields}

theorem hasTags_map_iff {entries : Fields} : HasTags (.map entries) tags ↔ tags = entries := by
  constructor
  · rintro (⟨ht, rfl⟩ | ⟨-, he⟩)
    · exact (by simpa [Value.isTruthy] using ht : entries = []).symm
    · exact (Except.ok.inj he).symm
  · rintro rfl
    cases tags with
    | nil => exact Or.inl ⟨rfl, rfl⟩
    | cons e rest => exact Or.inr ⟨rfl, rfl⟩

/-- A field for tags is there exactly if the setting has any. -/
theorem tagField_eq_ok_iff {name key : String} {fields : Fields} :
    tagField settings name key = .ok fields ↔ ∃ tags, HasTags (Value.fieldOf settings key) tags ∧
      fields = given [(name, shownUnless (tags = []) (.map tags))] := by
  rw [tagField]
  cases ht : (Value.fieldOf settings key).isTruthy with
  | false => simp [HasTags, ht, given, shownUnless, eq_comm]
  | true =>
      cases he : (Value.fieldOf settings key).toEntries with
      | error e => simp [HasTags, ht, he]
      | ok entries =>
          have hne : entries ≠ [] := Value.ne_nil_of_toEntries ht he
          simp [HasTags, ht, he, given, shownUnless, hne, eq_comm]

/-- What is generated for a task is the object of its table. -/
theorem fields_eq_ok_iff_given {containerOverrides generated : Fields} {containers : List Container} :
    fields settings containerOverrides containers = .ok generated ↔ ∃ described tags instanceTags,
      containers.mapM (·.metadata containerOverrides) = .ok described ∧
      HasTags (Value.fieldOf settings "task_tags") tags ∧
      HasTags (Value.fieldOf settings "container_instance_tags") instanceTags ∧
      generated = given (taskTable (describe settings "cluster") (describe settings "task_arn")
        (describe settings "family") (describe settings "revision") described tags instanceTags) := by
  rw [fields_eq_ok_iff]
  constructor
  · rintro ⟨described, hd, taskTags, ht, instanceTags, hi, rfl⟩
    obtain ⟨tags, htags, rfl⟩ := tagField_eq_ok_iff.mp ht
    obtain ⟨instanceTags, hinstanceTags, rfl⟩ := tagField_eq_ok_iff.mp hi
    refine ⟨described, tags, instanceTags, hd, htags, hinstanceTags, ?_⟩
    rw [List.append_assoc, ← given_append]
    rfl
  · rintro ⟨described, tags, instanceTags, hd, ht, hi, rfl⟩
    refine ⟨described, hd, _, tagField_eq_ok_iff.mpr ⟨tags, ht, rfl⟩, _,
      tagField_eq_ok_iff.mpr ⟨instanceTags, hi, rfl⟩, ?_⟩
    rw [List.append_assoc, ← given_append]
    rfl

theorem displays_taskTable (cluster arn family revision : Value) (containers : List Value)
    (tags instanceTags : Fields) :
    Displays (taskTable cluster arn family revision containers tags instanceTags)
      (given (taskTable cluster arn family revision containers tags instanceTags)) := by
  have hnames : ["Cluster", "TaskARN", "Family", "Revision", "DesiredStatus", "KnownStatus",
      "Containers", "TaskTags", "ContainerInstanceTags"].Nodup := by
    decide
  exact displays_given hnames

end LocalTask

end TaskEndpoints
