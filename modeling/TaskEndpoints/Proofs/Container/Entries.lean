import TaskEndpoints.Container.Entry
import TaskEndpoints.Proofs.Json.Writing
import TaskEndpoints.Proofs.Traversal

/-!
# Well-typed entries

An entry of the engine is well typed if each of its fields is missing, null or of the type that the
engine documents for it. Such an entry always describes a container, and what the container passes on has
every property that texts and integers have and that lists and maps inherit, such as a JSON text.

## Implementation notes

Texts by which callers are found hold no unpaired surrogate; texts that are only passed on may.
-/

namespace TaskEndpoints

namespace Value

/-- A text by which callers can be found. -/
def IsSearchable (v : Value) : Prop := ∃ s, v = .text s

/-- Any text. -/
def IsAnyText (v : Value) : Prop := v.IsSearchable ∨ ∃ points, v = .surrogateText points

/-- A property that texts and integers have, and that lists and maps have exactly if what they hold has it.
Of a key another property may be asked. -/
structure Inherited (P K : Value → Prop) : Prop where
  anyText : ∀ {v : Value}, v.IsAnyText → P v
  int : ∀ n, P (.int n)
  list_iff : ∀ {items}, P (.list items) ↔ ∀ v ∈ items, P v
  map_iff : ∀ {entries}, P (.map entries) ↔ ∀ e ∈ entries, K e.1 ∧ P e.2
  key : ∀ {v : Value}, v.IsAnyText → K v

theorem Inherited.text {P K : Value → Prop} (hP : Inherited P K) (s : String) : P (.text s) :=
  hP.anyText (Or.inl ⟨s, rfl⟩)

theorem Inherited.nil {P K : Value → Prop} (hP : Inherited P K) : P (.map []) :=
  hP.map_iff.mpr fun e he => by cases he

/-- An integer, and no truth value. -/
def IsInteger (v : Value) : Prop := ∃ n, v = .int n

/-- A list with items of a form. -/
def IsListOf (form : Value → Prop) (v : Value) : Prop :=
  ∃ items, v = .list items ∧ ∀ item ∈ items, form item

/-- A map with keys of one form and values of another. -/
def IsMapOf (key form : Value → Prop) (v : Value) : Prop :=
  ∃ entries, v = .map entries ∧ ∀ e ∈ entries, key e.1 ∧ form e.2

/-- A map whose fields are as described. -/
def IsObject (description : Fields → Prop) (v : Value) : Prop :=
  ∃ entries, v = .map entries ∧ description entries

/-- Null, or a value of a form. -/
def IsNullOr (form : Value → Prop) (v : Value) : Prop := v = .null ∨ form v

end Value

/-- That a value has a JSON text is inherited. -/
theorem Json.inherited_writable : Value.Inherited Json.Writable Json.WritableKey where
  anyText h := by
    obtain ⟨s, rfl⟩ | ⟨points, rfl⟩ := h
    · exact Json.writable_text s
    · exact Json.writable_surrogateText points
  int := Json.writable_int
  list_iff := Json.writable_list_iff
  map_iff := Json.writable_map_iff
  key h := by
    obtain ⟨s, rfl⟩ | ⟨points, rfl⟩ := h
    · exact ⟨_, rfl⟩
    · exact ⟨_, rfl⟩

open Value

namespace Entry

/-- A field is missing, null or of a form. -/
def Offers (name : String) (form : Value → Prop) (entry : Fields) : Prop :=
  IsNullOr form (fieldOf entry name)

/-- The settings of a network. -/
def IsAttachment : Value → Prop := IsObject fun entry =>
  Offers "IPAddress" IsSearchable entry ∧ Offers "Aliases" (IsListOf IsSearchable) entry ∧
    Offers "GlobalIPv6Address" IsAnyText entry

/-- The networks of a container, some of which may have no settings. -/
def IsNetworkSettings : Value → Prop := IsObject <|
  Offers "Networks" (IsMapOf IsSearchable (IsNullOr IsAttachment))

/-- A port of a container. -/
def IsPort : Value → Prop := IsObject fun entry =>
  Offers "PrivatePort" IsInteger entry ∧ Offers "PublicPort" IsInteger entry ∧
    Offers "Type" IsAnyText entry ∧ Offers "IP" IsAnyText entry

/-- A mounted volume. -/
def IsMount : Value → Prop := IsObject fun entry =>
  Offers "Name" IsAnyText entry ∧ Offers "Source" IsAnyText entry ∧
    Offers "Destination" IsAnyText entry

/-- The fields of a container. -/
structure DescribesContainer (entry : Fields) : Prop where
  id : Offers "Id" IsSearchable entry
  otherId : Offers "ID" IsSearchable entry
  names : Offers "Names" (IsListOf IsSearchable) entry
  labels : Offers "Labels" (IsMapOf IsAnyText IsAnyText) entry
  networks : Offers "NetworkSettings" IsNetworkSettings entry
  image : Offers "Image" IsAnyText entry
  imageId : Offers "ImageID" IsAnyText entry
  created : Offers "Created" IsInteger entry
  ports : Offers "Ports" (IsListOf IsPort) entry
  mounts : Offers "Mounts" (IsListOf IsMount) entry

/-- The form of the entries of the engine. -/
def WellTyped : Value → Prop := IsObject DescribesContainer

end Entry

/-- What a container passes on has a JSON text. -/
structure Container.Printable (c : Container) : Prop where
  labels : Json.Writable (.map c.labels)
  image : Json.Writable c.image
  imageId : Json.Writable c.imageId
  networks : ∀ networks ∈ c.networks, ∀ n ∈ networks, ∀ a ∈ n.2, Json.Writable a.address6
  ports : ∀ p ∈ c.ports, Json.Writable p.protocol
  mounts : ∀ m ∈ c.mounts, Json.Writable m.name ∧ Json.Writable m.source ∧
    Json.Writable m.destination

/-- What a container passes on has a property. -/
structure Container.Relays (P : Value → Prop) (c : Container) : Prop where
  labels : P (.map c.labels)
  image : P c.image
  imageId : P c.imageId
  networks : ∀ networks ∈ c.networks, ∀ n ∈ networks, ∀ a ∈ n.2, P a.address6
  ports : ∀ p ∈ c.ports, P p.protocol
  mounts : ∀ m ∈ c.mounts, P m.name ∧ P m.source ∧ P m.destination

theorem Container.printable_iff {c : Container} : c.Printable ↔ c.Relays Json.Writable :=
  ⟨fun h => ⟨h.labels, h.image, h.imageId, h.networks, h.ports, h.mounts⟩,
    fun h => ⟨h.labels, h.image, h.imageId, h.networks, h.ports, h.mounts⟩⟩

namespace Entry

variable {entry : Fields} {name : String} {form : Value → Prop} {v : Value}

/-- A value that is left out gives way to the fallback. -/
theorem orElse_cases (v fallback : Value) :
    v.orElse fallback = v ∨ v.orElse fallback = fallback := by
  rw [orElse]
  split
  · exact Or.inl rfl
  · exact Or.inr rfl

/-- With the empty text as a fallback, nothing else counts as false. -/
theorem isTruthy_orElse_iff (v : Value) :
    (v.orElse (.text "")).isTruthy = true ↔ v.orElse (.text "") ≠ .text "" := by
  rw [orElse]
  split
  · rename_i h
    refine iff_of_true h fun he => ?_
    rw [he] at h
    cases h
  · exact iff_of_false (fun h => by cases h) fun h => h rfl

theorem orElse_of_offers (h : Offers name form entry) {fallback : Value} (hf : form fallback) :
    form ((fieldOf entry name).orElse fallback) := by
  rcases h with h | h
  · rw [h]
    exact hf
  · rcases orElse_cases (fieldOf entry name) fallback with he | he
    · rwa [he]
    · rwa [he]

theorem exists_text (h : v.IsSearchable) (access : String) : ∃ s, text access v = .ok s := by
  obtain ⟨s, rfl⟩ := h
  exact ⟨s, rfl⟩

theorem exists_integer (h : Offers name IsInteger entry) : ∃ n, integer entry name = .ok n := by
  obtain ⟨n, hn⟩ : ((fieldOf entry name).orElse (.int 0)).IsInteger := orElse_of_offers h ⟨0, rfl⟩
  exact ⟨n, by rw [integer, hn]; rfl⟩

/-- The elements of a list that may be left out. -/
theorem exists_elements (h : IsNullOr (IsListOf form) v) :
    ∃ items, elements v = .ok items ∧ ∀ item ∈ items, form item := by
  rw [elements]
  split
  · rcases h with rfl | ⟨items, rfl, hi⟩
    · cases ‹Value.null.isTruthy = true›
    · exact ⟨items, rfl, hi⟩
  · exact ⟨[], rfl, fun item hi => by cases hi⟩

theorem exists_texts (h : IsNullOr (IsListOf IsSearchable) v) (access : String) :
    ∃ items texts, elements v = .ok items ∧ items.mapM (text access) = .ok texts := by
  obtain ⟨items, hi, hform⟩ := exists_elements h
  obtain ⟨texts, ht, -⟩ := exists_mapM_of_forall (P := fun _ => True) (f := text access)
    fun item hm => (exists_text (hform item hm) access).imp fun s hs => ⟨hs, trivial⟩
  exact ⟨items, texts, hi, ht⟩

section Inherited

variable {P K : Value → Prop} (hP : Inherited P K)

include hP

theorem inherits_relayed (h : Offers name IsAnyText entry) : P (relayed entry name) :=
  hP.anyText (orElse_of_offers h (Or.inl ⟨"", rfl⟩))

theorem exists_attachment (h : IsAttachment v) : ∃ a, attachment v = .ok a ∧ P a.address6 := by
  obtain ⟨entry, rfl, haddress, haliases, haddress6⟩ := h
  obtain ⟨items, aliases, hi, ha⟩ := exists_texts haliases "strip"
  obtain ⟨address, hs⟩ := exists_text (orElse_of_offers haddress ⟨"", rfl⟩) "strip"
  refine ⟨⟨address, aliases, relayed entry "GlobalIPv6Address"⟩, ?_, inherits_relayed hP haddress6⟩
  rw [attachment, fields]
  simp only [bind, Except.bind, hi]
  rw [relayed, hs, ha]
  rfl

theorem exists_network {e : Value × Value} (hk : e.1.IsSearchable) (hv : IsNullOr IsAttachment e.2) :
    ∃ n, network e = .ok n ∧ ∀ a ∈ n.2, P a.address6 := by
  obtain ⟨key, v⟩ := e
  obtain ⟨s, rfl⟩ := hk
  rcases hv with rfl | hv
  · exact ⟨(s, none), rfl, fun a ha => by cases ha⟩
  · obtain ⟨a, ha, hw⟩ := exists_attachment hP hv
    refine ⟨(s, some a), ?_, fun a' ha' => Option.mem_some_iff.mp ha' ▸ hw⟩
    obtain ⟨entry, rfl, -⟩ := hv
    simp only [network]
    rw [ha]
    rfl

omit hP in
/-- The settings of the network, which have no fields where they are left out. -/
theorem networks_of_settings {inner : Fields}
    (h : fieldOf entry "NetworkSettings" = .null ∧ inner = [] ∨
      fieldOf entry "NetworkSettings" = .map inner) :
    networks entry = match fieldOf inner "Networks" with
      | .null => .ok none
      | .map entries => (entries.mapM network).map some
      | other => .error (.lacks other.longTypeWord "items") := by
  have hmap (x : Except EntryError (List (String × Option Attachment))) :
      (do return some (← x)) = x.map some := by
    cases x <;> rfl
  rw [networks]
  rcases h with ⟨h, rfl⟩ | h
  · rw [h]
    rfl
  · rw [h]
    cases inner with
    | nil => rfl
    | cons e rest =>
        show (match fieldOf (e :: rest) "Networks" with
          | .null => return none
          | .map entries => do return some (← entries.mapM network)
          | other => throw (.lacks other.longTypeWord "items") :
            Except EntryError (Option (List (String × Option Attachment)))) = _
        simp only [hmap]
        rfl

theorem exists_networks (h : Offers "NetworkSettings" IsNetworkSettings entry) :
    ∃ found, networks entry = .ok found ∧
      ∀ networks ∈ found, ∀ n ∈ networks, ∀ a ∈ n.2, P a.address6 := by
  obtain ⟨inner, hi, hn⟩ : ∃ inner, (fieldOf entry "NetworkSettings" = .null ∧ inner = [] ∨
      fieldOf entry "NetworkSettings" = .map inner) ∧
      Offers "Networks" (IsMapOf IsSearchable (IsNullOr IsAttachment)) inner := by
    rcases h with h | ⟨inner, h, hn⟩
    · exact ⟨[], Or.inl ⟨h, rfl⟩, Or.inl rfl⟩
    · exact ⟨inner, Or.inr h, hn⟩
  rw [networks_of_settings hi]
  rcases hn with hn | ⟨entries, hn, he⟩
  · rw [hn]
    exact ⟨none, rfl, fun networks h => by cases h⟩
  · obtain ⟨found, hf, hw⟩ := exists_mapM_of_forall (f := network) fun e hm =>
      exists_network hP (he e hm).1 (he e hm).2
    rw [hn]
    simp only [hf]
    exact ⟨some found, rfl, fun networks h => Option.mem_some_iff.mp h ▸ hw⟩

theorem exists_port (h : IsPort v) : ∃ p, port v = .ok p ∧ P p.protocol := by
  obtain ⟨entry, rfl, hinner, houter, htype, -⟩ := h
  obtain ⟨inner, hi⟩ := exists_integer hinner
  obtain ⟨outer, ho⟩ := exists_integer houter
  refine ⟨⟨inner, outer, (fieldOf entry "Type").orElse (.text "tcp"), relayed entry "IP"⟩, ?_,
    hP.anyText (orElse_of_offers htype (Or.inl ⟨"tcp", rfl⟩))⟩
  simp only [port, fields, bind, Except.bind, hi, ho]
  rfl

theorem exists_mount (h : IsMount v) :
    ∃ m, mount v = .ok m ∧ P m.name ∧ P m.source ∧ P m.destination := by
  obtain ⟨entry, rfl, hname, hsource, hdestination⟩ := h
  exact ⟨⟨relayed entry "Name", relayed entry "Source", relayed entry "Destination"⟩, rfl,
    inherits_relayed hP hname, inherits_relayed hP hsource, inherits_relayed hP hdestination⟩

theorem exists_labels (h : Offers "Labels" (IsMapOf IsAnyText IsAnyText) entry) :
    ∃ found, labels entry = .ok found ∧ P (.map found) := by
  rw [labels]
  rcases h with h | ⟨entries, h, he⟩
  · rw [h]
    exact ⟨[], rfl, hP.nil⟩
  · rw [h]
    split
    · exact ⟨entries, rfl, hP.map_iff.mpr fun e hm => ⟨hP.key (he e hm).1, hP.anyText (he e hm).2⟩⟩
    · exact ⟨[], rfl, hP.nil⟩

end Inherited

theorem exists_identifier (h : Offers "Id" IsSearchable entry) (h' : Offers "ID" IsSearchable entry) :
    ∃ id, identifier entry = .ok id :=
  exists_text (orElse_of_offers h (orElse_of_offers h' ⟨"", rfl⟩)) "startswith"

end Entry

/-- An entry describes a container whose parts are read from its fields, one by one. -/
theorem Container.ofEntry_eq_ok_iff {entry : Fields} {c : Container} :
    ofEntry (.map entry) = .ok c ↔ Entry.networks entry = .ok c.networks ∧
      (∃ items, Entry.elements (fieldOf entry "Ports") = .ok items ∧
        items.mapM Entry.port = .ok c.ports) ∧
      (∃ items, Entry.elements (fieldOf entry "Mounts") = .ok items ∧
        items.mapM Entry.mount = .ok c.mounts) ∧
      Entry.identifier entry = .ok c.id ∧
      (∃ items, Entry.elements (fieldOf entry "Names") = .ok items ∧
        items.mapM (Entry.text "strip") = .ok c.names) ∧
      Entry.labels entry = .ok c.labels ∧ Entry.integer entry "Created" = .ok c.created ∧
      Entry.relayed entry "Image" = c.image ∧ Entry.relayed entry "ImageID" = c.imageId := by
  obtain ⟨id, names, labels, networks, image, imageId, created, ports, mounts⟩ := c
  rw [ofEntry, Entry.fields]
  simp only [bind_eq_ok_iff, pure, Except.pure, Except.ok.injEq, mk.injEq]
  constructor
  · rintro ⟨entry', rfl, networks', hnetworks, items, hitems, ports', hports, items', hitems', mounts',
      hmounts, id', hid, items'', hitems'', names', hnames, labels', hlabels, created', hcreated, rfl,
      rfl, rfl, rfl, himage, himageId, rfl, rfl, rfl⟩
    exact ⟨hnetworks, ⟨items, hitems, hports⟩, ⟨items', hitems', hmounts⟩, hid,
      ⟨items'', hitems'', hnames⟩, hlabels, hcreated, himage, himageId⟩
  · rintro ⟨hnetworks, ⟨items, hitems, hports⟩, ⟨items', hitems', hmounts⟩, hid,
      ⟨items'', hitems'', hnames⟩, hlabels, hcreated, himage, himageId⟩
    exact ⟨entry, rfl, networks, hnetworks, items, hitems, ports, hports, items', hitems', mounts,
      hmounts, id, hid, items'', hitems'', names, hnames, labels, hlabels, created, hcreated, rfl, rfl,
      rfl, rfl, himage, himageId, rfl, rfl, rfl⟩

/-- A well-typed entry describes a container, and what the container passes on has every property that is
inherited from texts. -/
theorem Container.exists_relays {P K : Value → Prop} (hP : Inherited P K) {v : Value}
    (h : Entry.WellTyped v) : ∃ c, Container.ofEntry v = .ok c ∧ c.Relays P := by
  obtain ⟨entry, rfl, h⟩ := h
  obtain ⟨networks, hnetworks, hwnetworks⟩ := Entry.exists_networks hP h.networks
  obtain ⟨portItems, hportItems, hports⟩ := Entry.exists_elements h.ports
  obtain ⟨ports, hports, hwports⟩ := exists_mapM_of_forall fun v hv =>
    Entry.exists_port hP (hports v hv)
  obtain ⟨mountItems, hmountItems, hmounts⟩ := Entry.exists_elements h.mounts
  obtain ⟨mounts, hmounts, hwmounts⟩ := exists_mapM_of_forall fun v hv =>
    Entry.exists_mount hP (hmounts v hv)
  obtain ⟨id, hid⟩ := Entry.exists_identifier h.id h.otherId
  obtain ⟨nameItems, names, hnameItems, hnames⟩ := Entry.exists_texts h.names "strip"
  obtain ⟨labels, hlabels, hwlabels⟩ := Entry.exists_labels hP h.labels
  obtain ⟨created, hcreated⟩ := Entry.exists_integer h.created
  refine ⟨{ id, names, labels, networks, image := Entry.relayed entry "Image",
            imageId := Entry.relayed entry "ImageID", created, ports, mounts }, ?_, ?_⟩
  · simp only [ofEntry, Entry.fields, bind, Except.bind, hnetworks, hportItems, hports, hmountItems,
      hmounts, hid, hnameItems, hnames, hlabels, hcreated]
    rfl
  · exact ⟨hwlabels, Entry.inherits_relayed hP h.image, Entry.inherits_relayed hP h.imageId,
      hwnetworks, hwports, hwmounts⟩

/-- A well-typed entry describes a container. -/
theorem Container.exists_ofEntry {v : Value} (h : Entry.WellTyped v) :
    ∃ c, Container.ofEntry v = .ok c ∧ c.Printable := by
  obtain ⟨c, hc, hr⟩ := exists_relays Json.inherited_writable h
  exact ⟨c, hc, printable_iff.mpr hr⟩

/-- The entry of a container of which only the identifier and a name are told. -/
def Entry.named (id name : String) : Value :=
  .map [(.text "Id", .text id), (.text "Names", .list [.text name])]

/-- A container of which only the identifier and a name are known. -/
def Container.named (id name : String) : Container where
  id := id
  names := [name]
  labels := []
  networks := none
  image := .text ""
  imageId := .text ""
  created := 0
  ports := []
  mounts := []

theorem Entry.wellTyped_named (id name : String) : WellTyped (named id name) :=
  ⟨_, rfl,
    { id := Or.inr ⟨id, rfl⟩
      otherId := Or.inl rfl
      names := Or.inr ⟨_, rfl, List.forall_mem_singleton.mpr ⟨name, rfl⟩⟩
      labels := Or.inl rfl
      networks := Or.inl rfl
      image := Or.inl rfl
      imageId := Or.inl rfl
      created := Or.inl rfl
      ports := Or.inl rfl
      mounts := Or.inl rfl }⟩

/-- The empty text as a fallback changes no text. -/
theorem Value.orElse_text (s : String) : (Value.text s).orElse (.text "") = .text s := by
  rw [orElse]
  split
  · rfl
  · rename_i h
    have hs : s = "" := by simpa [isTruthy] using h
    rw [hs]

theorem Container.ofEntry_named (id name : String) :
    ofEntry (Entry.named id name) = .ok (named id name) := by
  have hid : Entry.identifier [(.text "Id", .text id), (.text "Names", .list [.text name])] =
      .ok id := by
    show Entry.text "startswith" ((Value.text id).orElse (.text "")) = _
    rw [Value.orElse_text]
    rfl
  rw [ofEntry, Entry.named]
  simp only [Entry.fields, bind, Except.bind, hid]
  rfl

theorem Container.mapM_ofEntry_named (containers : List (String × String)) :
    (containers.map fun c => Entry.named c.1 c.2).mapM ofEntry =
      .ok (containers.map fun c => named c.1 c.2) := by
  rw [mapM_eq_ok_iff, List.forall₂_map_left_iff, List.forall₂_map_right_iff]
  exact List.forall₂_same.mpr fun c _ => ofEntry_named c.1 c.2

end TaskEndpoints
