import TaskEndpoints.Proofs.Container.Entries

/-!
# Fields that are left out of entries

A field may be left out of an entry in three ways: it is absent, it is null, or it is the empty value of
its type. Entries that differ only in the way in which fields are left out, and in fields that are not
read, describe the same container. Networks are the exception: an empty map of networks tells more than
no map of networks.

## Implementation notes

An edit is stated as a relation between the entry before and after it, so that any number of edits is one
edit. It says of each field that is read what may become of it, and nothing of all other fields.
-/

namespace TaskEndpoints

open Value

namespace Entry

/-- The ways in which a field with the given empty value is left out. -/
def leftOut (empty : Value) : List (Option Value) := [none, some .null, some empty]

/-- The ways in which nothing is told about networks. -/
def untold : List (Option Value) := [none, some .null]

/-- A field is left out of both objects, or both have it, with values that correspond. -/
def Keeps (ways : List (Option Value)) (R : Value → Value → Prop) (name : String)
    (entry edited : Fields) : Prop :=
  Assoc.get? entry (.text name) ∈ ways ∧ Assoc.get? edited (.text name) ∈ ways ∨
    ∃ v w, Assoc.get? entry (.text name) = some v ∧ Assoc.get? edited (.text name) = some w ∧ R v w

/-- A field is left out of both objects, or it is the same in both. -/
abbrev KeepsValue (empty : Value) : String → Fields → Fields → Prop := Keeps (leftOut empty) Eq

/-- Both values are objects, with fields that correspond. -/
def BothObjects (R : Fields → Fields → Prop) (v w : Value) : Prop :=
  ∃ entry edited, v = .map entry ∧ w = .map edited ∧ R entry edited

/-- Both values are lists, with items that correspond one by one. -/
def BothLists (R : Value → Value → Prop) (v w : Value) : Prop :=
  ∃ items edited, v = .list items ∧ w = .list edited ∧ List.Forall₂ R items edited

/-- The settings of a network before and after an edit. -/
structure EditedAttachment (entry edited : Fields) : Prop where
  address : KeepsValue (.text "") "IPAddress" entry edited
  aliases : KeepsValue (.list []) "Aliases" entry edited
  address6 : KeepsValue (.text "") "GlobalIPv6Address" entry edited

/-- A network before and after an edit, which changes neither its name nor whether it has settings. -/
def EditedNetwork (e e' : Value × Value) : Prop :=
  e.1 = e'.1 ∧ (e.2 = .null ∧ e'.2 = .null ∨ BothObjects EditedAttachment e.2 e'.2)

/-- The networks of a container before and after an edit, which neither adds nor removes any. -/
def EditedNetworks (v w : Value) : Prop :=
  ∃ entries edited, v = .map entries ∧ w = .map edited ∧ List.Forall₂ EditedNetwork entries edited

/-- The fields of the network settings, of which there are none where the settings are left out. -/
def HasSettings (entry inner : Fields) : Prop :=
  Assoc.get? entry (.text "NetworkSettings") ∈ leftOut (.map []) ∧ inner = [] ∨
    Assoc.get? entry (.text "NetworkSettings") = some (.map inner)

/-- A port before and after an edit. -/
structure EditedPort (entry edited : Fields) : Prop where
  inner : KeepsValue (.int 0) "PrivatePort" entry edited
  outer : KeepsValue (.int 0) "PublicPort" entry edited
  protocol : KeepsValue (.text "") "Type" entry edited
  address : KeepsValue (.text "") "IP" entry edited

/-- A mounted volume before and after an edit. -/
structure EditedMount (entry edited : Fields) : Prop where
  name : KeepsValue (.text "") "Name" entry edited
  source : KeepsValue (.text "") "Source" entry edited
  destination : KeepsValue (.text "") "Destination" entry edited

/-- The fields of a container before and after an edit. -/
structure EditedContainer (entry edited : Fields) : Prop where
  id : KeepsValue (.text "") "Id" entry edited
  otherId : KeepsValue (.text "") "ID" entry edited
  names : KeepsValue (.list []) "Names" entry edited
  labels : KeepsValue (.map []) "Labels" entry edited
  networks : ∃ inner inner', HasSettings entry inner ∧ HasSettings edited inner' ∧
    Keeps untold EditedNetworks "Networks" inner inner'
  image : KeepsValue (.text "") "Image" entry edited
  imageId : KeepsValue (.text "") "ImageID" entry edited
  created : KeepsValue (.int 0) "Created" entry edited
  ports : Keeps (leftOut (.list [])) (BothLists (BothObjects EditedPort)) "Ports" entry edited
  mounts : Keeps (leftOut (.list [])) (BothLists (BothObjects EditedMount)) "Mounts" entry edited

/-- An entry before and after an edit. -/
def Edited : Value → Value → Prop := BothObjects EditedContainer

variable {entry edited inner inner' : Fields} {name : String} {empty v w : Value}
  {R : Value → Value → Prop}

theorem mem_leftOut_iff {v? : Option Value} :
    v? ∈ leftOut empty ↔ v? = none ∨ v? = some .null ∨ v? = some empty := by
  simp [leftOut]

theorem mem_untold_iff {v? : Option Value} : v? ∈ untold ↔ v? = none ∨ v? = some .null := by
  simp [untold]

/-- A field that is left out counts as false. -/
theorem isTruthy_of_leftOut (he : empty.isTruthy = false)
    (h : Assoc.get? entry (.text name) ∈ leftOut empty) : (fieldOf entry name).isTruthy = false := by
  rw [fieldOf]
  rcases mem_leftOut_iff.mp h with h | h | h
  · rw [h]
    rfl
  · rw [h]
    rfl
  · rw [h]
    exact he

theorem fieldOf_of_untold (h : Assoc.get? entry (.text name) ∈ untold) :
    fieldOf entry name = .null := by
  rw [fieldOf]
  rcases mem_untold_iff.mp h with h | h
  · rw [h]
    rfl
  · rw [h]
    rfl

theorem fieldOf_of_get? (h : Assoc.get? entry (.text name) = some v) : fieldOf entry name = v := by
  rw [fieldOf, h]
  rfl

/-- A field that is kept is the same, or counts as false before and after the edit. -/
theorem KeepsValue.cases (he : empty.isTruthy = false) (h : KeepsValue empty name entry edited) :
    fieldOf entry name = fieldOf edited name ∨
      (fieldOf entry name).isTruthy = false ∧ (fieldOf edited name).isTruthy = false := by
  rcases h with ⟨h, h'⟩ | ⟨v, w, h, h', rfl⟩
  · exact Or.inr ⟨isTruthy_of_leftOut he h, isTruthy_of_leftOut he h'⟩
  · exact Or.inl ((fieldOf_of_get? h).trans (fieldOf_of_get? h').symm)

theorem KeepsValue.orElse_eq (he : empty.isTruthy = false) (h : KeepsValue empty name entry edited)
    (fallback : Value) :
    (fieldOf entry name).orElse fallback = (fieldOf edited name).orElse fallback := by
  rcases h.cases he with h | ⟨h, h'⟩
  · rw [h]
  · rw [orElse, orElse, h, h']
    rfl

theorem KeepsValue.relayed_eq (h : KeepsValue (.text "") name entry edited) :
    relayed entry name = relayed edited name :=
  h.orElse_eq rfl (.text "")

theorem KeepsValue.integer_eq (h : KeepsValue (.int 0) name entry edited) :
    integer entry name = integer edited name := by
  rw [integer, integer, h.orElse_eq rfl]

theorem KeepsValue.elements_eq (h : KeepsValue (.list []) name entry edited) :
    elements (fieldOf entry name) = elements (fieldOf edited name) := by
  rcases h.cases rfl with h | ⟨h, h'⟩
  · rw [h]
  · rw [elements, elements, h, h']
    rfl

theorem KeepsValue.labels_eq (h : KeepsValue (.map []) "Labels" entry edited) :
    labels entry = labels edited := by
  rw [labels, labels]
  rcases h.cases rfl with h | ⟨h, h'⟩
  · rw [h]
  · rw [h, h']
    rfl

theorem elements_list (items : List Value) : elements (.list items) = .ok items := by
  cases items with
  | nil => rfl
  | cons item rest => rfl

/-- Lists that are kept have items that correspond; a list that is left out has none. -/
theorem exists_elements_of_keeps (h : Keeps (leftOut (.list [])) (BothLists R) name entry edited) :
    ∃ items items', elements (fieldOf entry name) = .ok items ∧
      elements (fieldOf edited name) = .ok items' ∧ List.Forall₂ R items items' := by
  rcases h with ⟨h, h'⟩ | ⟨v, w, h, h', items, items', rfl, rfl, hitems⟩
  · refine ⟨[], [], ?_, ?_, .nil⟩
    · rw [elements, isTruthy_of_leftOut rfl h]
      rfl
    · rw [elements, isTruthy_of_leftOut rfl h']
      rfl
  · refine ⟨items, items', ?_, ?_, hitems⟩
    · rw [fieldOf_of_get? h, elements_list]
    · rw [fieldOf_of_get? h', elements_list]

theorem attachment_eq_of_edited (h : BothObjects EditedAttachment v w) :
    attachment v = attachment w := by
  obtain ⟨entry, edited, rfl, rfl, h⟩ := h
  rw [attachment, attachment, fields, fields]
  simp only [bind, Except.bind, h.aliases.elements_eq, h.address.relayed_eq, h.address6.relayed_eq]

theorem network_eq_of_edited {e e' : Value × Value} (h : EditedNetwork e e') :
    network e = network e' := by
  obtain ⟨name, v⟩ := e
  obtain ⟨name', w⟩ := e'
  obtain ⟨hname, hsettings⟩ := h
  obtain rfl : name = name' := hname
  rcases hsettings with ⟨rfl, rfl⟩ | hsettings
  · rfl
  · have ha := attachment_eq_of_edited hsettings
    obtain ⟨entry, edited, rfl, rfl, -⟩ := hsettings
    simp only [network, ha]

theorem settings_of_hasSettings (h : HasSettings entry inner) :
    fieldOf entry "NetworkSettings" = .null ∧ inner = [] ∨
      fieldOf entry "NetworkSettings" = .map inner := by
  rcases h with ⟨h, rfl⟩ | h
  · rcases mem_leftOut_iff.mp h with h | h | h
    · exact Or.inl ⟨by rw [fieldOf, h]; rfl, rfl⟩
    · exact Or.inl ⟨fieldOf_of_get? h, rfl⟩
    · exact Or.inr (fieldOf_of_get? h)
  · exact Or.inr (fieldOf_of_get? h)

theorem networks_eq_of_edited (hs : HasSettings entry inner) (hs' : HasSettings edited inner')
    (h : Keeps untold EditedNetworks "Networks" inner inner') : networks entry = networks edited := by
  rw [networks_of_settings (settings_of_hasSettings hs),
    networks_of_settings (settings_of_hasSettings hs')]
  rcases h with ⟨h, h'⟩ | ⟨v, w, h, h', entries, edited, rfl, rfl, hentries⟩
  · rw [fieldOf_of_untold h, fieldOf_of_untold h']
  · rw [fieldOf_of_get? h, fieldOf_of_get? h']
    simp only
    rw [mapM_congr_of_forall₂ (hentries.imp fun _ _ => network_eq_of_edited)]

/-- An empty map of networks is told apart from no map of networks. -/
theorem networks_told (hs : HasSettings entry inner)
    {found : Option (List (String × Option Attachment))} (hf : networks entry = .ok found) :
    (found = none ↔ Assoc.get? inner (.text "Networks") ∈ untold) ∧
      (found = some [] ↔ Assoc.get? inner (.text "Networks") = some (.map [])) := by
  rw [networks_of_settings (settings_of_hasSettings hs), fieldOf] at hf
  rw [mem_untold_iff]
  cases hget : Assoc.get? inner (.text "Networks") with
  | none =>
      rw [hget] at hf
      cases hf
      simp
  | some v =>
      rw [hget] at hf
      cases v with
      | null =>
          cases hf
          simp
      | map entries =>
          obtain ⟨networks, hm, rfl⟩ := map_eq_ok_iff.mp hf
          have hnil : networks = [] ↔ entries = [] := by
            have hpairs := forall₂_of_mapM hm
            cases hpairs with
            | nil => simp
            | cons => simp
          simpa using hnil
      | _ => cases hf

theorem port_eq_of_edited (h : BothObjects EditedPort v w) : port v = port w := by
  obtain ⟨entry, edited, rfl, rfl, h⟩ := h
  rw [port, port, fields, fields]
  simp only [bind, Except.bind, h.inner.integer_eq, h.outer.integer_eq, h.protocol.orElse_eq rfl,
    h.address.relayed_eq]

theorem mount_eq_of_edited (h : BothObjects EditedMount v w) : mount v = mount w := by
  obtain ⟨entry, edited, rfl, rfl, h⟩ := h
  rw [mount, mount, fields, fields]
  simp only [bind, Except.bind, h.name.relayed_eq, h.source.relayed_eq, h.destination.relayed_eq]

theorem identifier_eq_of_edited (h : EditedContainer entry edited) :
    identifier entry = identifier edited := by
  rw [identifier, identifier, h.otherId.relayed_eq, h.id.orElse_eq rfl]

end Entry

/-- An edit does not change which container is described. -/
theorem Container.ofEntry_eq_of_edited {v w : Value} (h : Entry.Edited v w) :
    ofEntry v = ofEntry w := by
  obtain ⟨entry, edited, rfl, rfl, h⟩ := h
  obtain ⟨inner, inner', hinner, hinner', hnetworks⟩ := h.networks
  obtain ⟨ports, ports', hports, hports', hsame⟩ := Entry.exists_elements_of_keeps h.ports
  obtain ⟨mounts, mounts', hmounts, hmounts', hsame'⟩ := Entry.exists_elements_of_keeps h.mounts
  have hp := mapM_congr_of_forall₂ (hsame.imp fun _ _ => Entry.port_eq_of_edited)
  have hm := mapM_congr_of_forall₂ (hsame'.imp fun _ _ => Entry.mount_eq_of_edited)
  rw [ofEntry, ofEntry, Entry.fields, Entry.fields]
  simp only [bind, Except.bind, Entry.networks_eq_of_edited hinner hinner' hnetworks, hports, hports',
    hp, hmounts, hmounts', hm, Entry.identifier_eq_of_edited h, h.names.elements_eq,
    h.labels.labels_eq, h.created.integer_eq, h.image.relayed_eq, h.imageId.relayed_eq]

end TaskEndpoints
