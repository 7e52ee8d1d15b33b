import TaskEndpoints.Proofs.Container.Equality
import TaskEndpoints.Proofs.Container.Omissions

/-!
# The order of keys in entries

The labels and the networks of an entry are maps, and the order of their keys carries no meaning. An
entry with other orders describes an equal container, in which the networks stand in the order of the
entry.

## Implementation notes

Two orders are stated as a relation between entries, which says that all other fields are the same. A
label has one value because no key comes twice in a map; this is asked of the labels only, because
networks are never looked up by name.
-/

namespace TaskEndpoints

open Value

namespace Entry

/-- The same value, or a map with the same entries in another order. -/
def Permuted (v w : Value) : Prop :=
  v = w ∨ ∃ entries reordered, v = .map entries ∧ w = .map reordered ∧ entries.Perm reordered

/-- The same network settings, in which the networks may stand in another order. -/
def ReorderedSettings (v w : Value) : Prop :=
  v = w ∨ BothObjects (fun inner inner' =>
    (∀ name, name ≠ "Networks" → fieldOf inner name = fieldOf inner' name) ∧
      Permuted (fieldOf inner "Networks") (fieldOf inner' "Networks")) v w

/-- The same fields of a container, in which labels and networks may stand in another order. -/
structure ReorderedFields (entry reordered : Fields) : Prop where
  others : ∀ name, name ≠ "Labels" → name ≠ "NetworkSettings" →
    fieldOf entry name = fieldOf reordered name
  labels : Permuted (fieldOf entry "Labels") (fieldOf reordered "Labels")
  networks : ReorderedSettings (fieldOf entry "NetworkSettings") (fieldOf reordered "NetworkSettings")

/-- The same entry, in which labels and networks may stand in another order. -/
def Reordered : Value → Value → Prop := BothObjects ReorderedFields

/-- No label of an entry comes twice. -/
def HasDistinctLabels (v : Value) : Prop :=
  ∀ entry labels, v = .map entry → fieldOf entry "Labels" = .map labels → (Assoc.keys labels).Nodup

variable {entry reordered : Fields} {v : Value} {c : Container} {found : List (Value × Value)}
  {networks? : Option (List (String × Option Attachment))}

theorem labels_of_map (h : fieldOf entry "Labels" = .map found) : labels entry = .ok found := by
  rw [labels, h]
  cases found with
  | nil => rfl
  | cons e rest => rfl

theorem exists_labels_of_reordered (h : Permuted (fieldOf entry "Labels") (fieldOf reordered "Labels"))
    (hl : labels entry = .ok found) : ∃ found', labels reordered = .ok found' ∧ found.Perm found' := by
  rcases h with h | ⟨entries, other, hv, hw, hp⟩
  · refine ⟨found, ?_, .refl found⟩
    rw [← hl, labels, labels, h]
  · obtain rfl := Except.ok.inj ((labels_of_map hv).symm.trans hl)
    exact ⟨other, labels_of_map hw, hp⟩

/-- The labels that are read are those of the entry, if it has any. -/
theorem keys_nodup_of_labels (hd : HasDistinctLabels (.map entry))
    (ht : Offers "Labels" (IsMapOf IsAnyText IsAnyText) entry) (hl : labels entry = .ok found) :
    (Assoc.keys found).Nodup := by
  rcases ht with h | ⟨entries, h, -⟩
  · rw [labels, h] at hl
    obtain rfl := Except.ok.inj hl
    exact List.nodup_nil
  · obtain rfl := Except.ok.inj ((labels_of_map h).symm.trans hl)
    exact hd entry _ rfl h

theorem exists_networks_of_perm {entries other : Fields} (hp : entries.Perm other)
    (h : (entries.mapM network).map some = .ok networks?) :
    ∃ networks?', (other.mapM network).map some = .ok networks?' ∧
      Option.Rel List.Perm networks? networks?' := by
  obtain ⟨found, hm, rfl⟩ := map_eq_ok_iff.mp h
  obtain ⟨found', hm', hperm⟩ := exists_mapM_of_perm hp hm
  exact ⟨some found', map_eq_ok_iff.mpr ⟨found', hm', rfl⟩, .some hperm⟩

theorem exists_networks_of_reordered
    (h : ReorderedSettings (fieldOf entry "NetworkSettings") (fieldOf reordered "NetworkSettings"))
    (hn : networks entry = .ok networks?) :
    ∃ networks?', networks reordered = .ok networks?' ∧ Option.Rel List.Perm networks? networks?' := by
  have hrefl : Option.Rel List.Perm networks? networks? := by
    cases networks? with
    | none => exact .none
    | some found => exact .some (.refl found)
  rcases h with h | ⟨inner, inner', hv, hw, -, h⟩
  · refine ⟨networks?, ?_, hrefl⟩
    rw [← hn, networks, networks, h]
  · rw [networks_of_settings (Or.inr hv)] at hn
    rw [networks_of_settings (Or.inr hw)]
    rcases h with h | ⟨entries, other, hentries, hother, hp⟩
    · rw [← h]
      exact ⟨networks?, hn, hrefl⟩
    · rw [hentries] at hn
      rw [hother]
      exact exists_networks_of_perm hp hn

/-- The entries of a map; other values have none. -/
def entriesOf (v : Value) : Fields :=
  match v with
  | .map entries => entries
  | _ => []

/-- The networks of an entry that have settings, in the order of the entry. -/
def connections (entry : Fields) : Fields :=
  (entriesOf (fieldOf (entriesOf (fieldOf entry "NetworkSettings")) "Networks")).filter
    fun e => e.2 ≠ .null

/-- The names of the networks in an entry that have settings, in the order of the entry. -/
def connectedNames (v : Value) : List Value :=
  let networks := entriesOf (fieldOf (entriesOf (fieldOf (entriesOf v) "NetworkSettings")) "Networks")
  (networks.filter fun e => e.2 ≠ .null).map (·.1)

theorem eq_of_text_eq_ok {access name : String} (h : text access v = .ok name) : v = .text name := by
  cases v with
  | text s => rw [Except.ok.inj h]
  | _ => cases h

/-- A network keeps its name, and it has no settings exactly if the entry tells none. -/
theorem network_cases {e : Value × Value} {n : String × Option Attachment} (h : network e = .ok n) :
    e.1 = .text n.1 ∧ (e.2 = .null ∧ n.2 = none ∨
      e.2 ≠ .null ∧ ∃ a, n.2 = some a ∧ attachment e.2 = .ok a) := by
  rw [network] at h
  split at h
  · rename_i hnull
    obtain ⟨settings, hsettings, h⟩ := bind_eq_ok_iff.mp h
    obtain ⟨name, hname, h⟩ := bind_eq_ok_iff.mp h
    obtain rfl := Except.ok.inj h
    exact ⟨eq_of_text_eq_ok hname, Or.inl ⟨hnull, (Except.ok.inj hsettings).symm⟩⟩
  · rename_i hnull
    obtain ⟨settings, hsettings, h⟩ := bind_eq_ok_iff.mp h
    obtain ⟨name, hname, h⟩ := bind_eq_ok_iff.mp h
    obtain rfl := Except.ok.inj h
    obtain ⟨a, ha, rfl⟩ := map_eq_ok_iff.mp hsettings
    exact ⟨eq_of_text_eq_ok hname, Or.inr ⟨hnull, a, rfl, ha⟩⟩

/-- A network of an entry, which has settings, and what a container has of it. -/
def Connects (e : Value × Value) (n : String × Attachment) : Prop :=
  e.1 = .text n.1 ∧ attachment e.2 = .ok n.2

/-- Networks without settings are left out on both sides. -/
theorem connects_of_mapM {entries : Fields} {networks : List (String × Option Attachment)}
    (h : entries.mapM network = .ok networks) :
    List.Forall₂ Connects (entries.filter fun e => e.2 ≠ .null)
      (networks.filterMap fun n => n.2.map fun a => (n.1, a)) := by
  induction forall₂_of_mapM h with
  | nil => exact .nil
  | @cons e n rest found he hrest ih =>
      have ih := ih (mapM_of_forall₂ hrest)
      obtain ⟨hname, ⟨hnull, hnone⟩ | ⟨hnull, a, hsome, ha⟩⟩ := network_cases he
      · rw [List.filterMap_cons, hnone, List.filter_cons_of_neg (by simpa using hnull)]
        exact ih
      · rw [List.filterMap_cons, hsome, List.filter_cons_of_pos (by simpa using hnull)]
        exact .cons ⟨hname, ha⟩ ih

/-- Network settings that are no map count as false, or the entry describes no container. -/
theorem networks_of_eq_ok (h : networks entry = .ok networks?) :
    (match fieldOf (entriesOf (fieldOf entry "NetworkSettings")) "Networks" with
      | .null => .ok none
      | .map entries => (entries.mapM network).map some
      | other => .error (.lacks other.longTypeWord "items") : Except EntryError _) =
      .ok networks? := by
  cases hs : fieldOf entry "NetworkSettings" with
  | map inner =>
      rw [networks_of_settings (Or.inr hs)] at h
      exact h
  | _ =>
      rw [networks, hs] at h
      split at h
      · cases h
      · exact h

/-- The attachments of a container are the networks with settings, in the order of the entry. -/
theorem connects_of_ofEntry (hc : Container.ofEntry (.map entry) = .ok c) :
    List.Forall₂ Connects (connections entry) c.attachments := by
  have hn := networks_of_eq_ok (Container.ofEntry_eq_ok_iff.mp hc).1
  rw [connections]
  split at hn
  · rename_i hnull
    rw [hnull, Container.attachments_of_none (Except.ok.inj hn).symm]
    exact .nil
  · rename_i entries hentries
    obtain ⟨networks, hm, hn⟩ := map_eq_ok_iff.mp hn
    rw [hentries, Container.attachments, ← hn]
    exact connects_of_mapM hm
  · cases hn

theorem connectedNames_eq (hc : Container.ofEntry v = .ok c) :
    connectedNames v = c.attachments.map fun n => .text n.1 := by
  obtain ⟨entry, rfl⟩ : ∃ entry, v = .map entry := by
    cases v with
    | map entry => exact ⟨entry, rfl⟩
    | _ => cases hc
  show (connections entry).map (·.1) = _
  rw [← List.forall₂_eq_eq_eq, List.forall₂_map_left_iff, List.forall₂_map_right_iff]
  exact (connects_of_ofEntry hc).imp fun _ _ h => h.1

end Entry

/-- The order of keys does not change which container is described, up to equality. -/
theorem Container.exists_same_of_reordered {v w : Value} (h : Entry.Reordered v w) {c : Container}
    (hc : ofEntry v = .ok c) : ∃ c', ofEntry w = .ok c' ∧ c.Same c' := by
  obtain ⟨entry, reordered, rfl, rfl, h⟩ := h
  obtain ⟨hnetworks, hports, hmounts, hid, hnames, hlabels, hcreated, himage, himageId⟩ :=
    ofEntry_eq_ok_iff.mp hc
  obtain ⟨labels, hlabels', hl⟩ := Entry.exists_labels_of_reordered h.labels hlabels
  obtain ⟨networks, hnetworks', hn⟩ := Entry.exists_networks_of_reordered h.networks hnetworks
  refine ⟨{ c with labels := labels, networks := networks }, ofEntry_eq_ok_iff.mpr ?_,
    same_iff.mpr ⟨rfl, hl, hn⟩⟩
  refine ⟨hnetworks', ?_, ?_, ?_, ?_, hlabels', ?_, ?_, ?_⟩
  · rwa [← h.others "Ports" (by decide) (by decide)]
  · rwa [← h.others "Mounts" (by decide) (by decide)]
  · rwa [Entry.identifier, Entry.relayed, ← h.others "Id" (by decide) (by decide),
      ← h.others "ID" (by decide) (by decide)]
  · rwa [← h.others "Names" (by decide) (by decide)]
  · rwa [Entry.integer, ← h.others "Created" (by decide) (by decide)]
  · rwa [Entry.relayed, ← h.others "Image" (by decide) (by decide)]
  · rwa [Entry.relayed, ← h.others "ImageID" (by decide) (by decide)]

/-- The labels of the containers are those of the entries, none of which comes twice. -/
theorem Container.keys_nodup_of_ofEntry {v : Value} (hv : Entry.WellTyped v)
    (hd : Entry.HasDistinctLabels v) {c : Container} (hc : ofEntry v = .ok c) :
    (Assoc.keys c.labels).Nodup := by
  obtain ⟨entry, rfl, hentry⟩ := hv
  have hl : Entry.labels entry = .ok c.labels := (ofEntry_eq_ok_iff.mp hc).2.2.2.2.2.1
  exact Entry.keys_nodup_of_labels hd hentry.labels hl

end TaskEndpoints
