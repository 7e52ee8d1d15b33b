import TaskEndpoints.Proofs.Caller.EqualSnapshots
import TaskEndpoints.Proofs.Container.KeyOrder
import TaskEndpoints.Proofs.Metadata.Tables

/-!
# Descriptions of entries with other orders of keys

Equal containers have the same description, except that the labels and the networks in it stand in the
orders of the entries. Together with the search for callers this is the main statement: entries in
which labels and networks are in another order are answered alike.
-/

namespace TaskEndpoints

open Value

namespace Metadata

/-- Two items of a description are the same, or they are labels or networks in two orders. -/
def ReorderedItem (e e' : Value × Value) : Prop :=
  e.1 = e'.1 ∧ (e.2 = e'.2 ∨ e.1 = .text "Labels" ∧ Entry.Permuted e.2 e'.2 ∨
    e.1 = .text "Networks" ∧
      ∃ items reordered, e.2 = .list items ∧ e'.2 = .list reordered ∧ items.Perm reordered)

/-- Two descriptions with the same items, of which labels and networks may be in two orders. -/
def Reordered : Value → Value → Prop := Entry.BothObjects (List.Forall₂ ReorderedItem)

theorem ReorderedItem.refl (e : Value × Value) : ReorderedItem e e := ⟨rfl, Or.inl rfl⟩

variable {name : String} {v w : Value}

theorem optional_related (h : ReorderedItem (item name v) (item name w))
    (ht : v.isTruthy = w.isTruthy) :
    List.Forall₂ ReorderedItem (optional name v) (optional name w) := by
  rw [optional, optional, ← ht]
  split
  · exact .cons h .nil
  · exact .nil

/-- The modes of the networks in a description, in order. -/
def networkModes (description : Value) : List Value :=
  (((description.field? "Networks").bind elements?).getD []).map fun network =>
    (network.field? "NetworkMode").getD .null

end Metadata

open Metadata

namespace Container

variable {a b c : Container} {overrides : Fields} {description : Value}

/-- The attachments are published, if there are any, unless a field of one's own takes their place. -/
theorem metadata_networks (h : c.metadata overrides = .ok description)
    (hl : Lacks "Networks" overrides) :
    description.field? "Networks" = if c.attachments.isEmpty then none
      else some (.list (c.attachments.map fun n => n.2.metadata n.1)) := by
  obtain ⟨created, -, rfl⟩ := metadata_eq_ok_iff.mp h
  have hdisplays := c.displays_fields created
  refine (Assoc.get?_insertAll_of_not_mem hl _).trans ?_
  cases hc : c.attachments with
  | nil =>
      rw [hc] at hdisplays
      exact hdisplays.values ("Networks", none) (by simp [containerTable, shownUnless])
  | cons n rest =>
      rw [hc] at hdisplays
      exact hdisplays.values ("Networks", some _) (by simp [containerTable, shownUnless])

/-- The networks in a description are the attachments of the container. -/
theorem networkModes_of_metadata (h : c.metadata overrides = .ok description)
    (hl : Lacks "Networks" overrides) :
    networkModes description = c.attachments.map fun n => .text n.1 := by
  rw [networkModes, metadata_networks h hl]
  cases c.attachments with
  | nil => rfl
  | cons n rest =>
      show ((n :: rest).map fun n => n.2.metadata n.1).map _ = _
      rw [List.map_map]
      rfl

theorem Same.attachments_perm (h : a.Same b) : a.attachments.Perm b.attachments := by
  have hnetworks := h.networks_rel
  rw [attachments, attachments]
  generalize a.networks = xs at hnetworks
  generalize b.networks = ys at hnetworks
  cases hnetworks with
  | none => exact .refl _
  | some hp => exact hp.filterMap _

/-- Both containers have a description, which is the same up to the order of labels and networks, or both
have none for the same reason. -/
def DescribedAlike (overrides : Fields) (a b : Container) : Prop :=
  (∃ e, a.metadata overrides = .error e ∧ b.metadata overrides = .error e) ∨
    ∃ v w, a.metadata overrides = .ok v ∧ b.metadata overrides = .ok w ∧ Metadata.Reordered v w

theorem Same.optionalFields_related (h : a.Same b) :
    List.Forall₂ ReorderedItem a.optionalFields b.optionalFields := by
  have hports : a.ports = b.ports := h.eq_of_digest ports fun _ => rfl
  have hmounts : a.mounts = b.mounts := h.eq_of_digest mounts fun _ => rfl
  have hnetworks (describe : String × Attachment → Value) :
      (a.attachments.map describe).Perm (b.attachments.map describe) :=
    h.attachments_perm.map describe
  rw [optionalFields, optionalFields, hports, hmounts]
  refine List.rel_append (List.rel_append (List.rel_append ?ports ?labels) ?networks) ?mounts
  case ports => exact List.forall₂_same.mpr fun e _ => ReorderedItem.refl e
  case labels =>
    refine optional_related ⟨rfl, Or.inr (Or.inl ⟨rfl, Or.inr ⟨_, _, rfl, rfl, h.2.1⟩⟩)⟩ ?_
    rw [isTruthy, isTruthy, h.2.1.isEmpty_eq]
  case networks =>
    refine optional_related ⟨rfl, Or.inr (Or.inr ⟨rfl, _, _, rfl, rfl, hnetworks _⟩)⟩ ?_
    rw [isTruthy, isTruthy, (hnetworks _).isEmpty_eq]
  case mounts => exact List.forall₂_same.mpr fun e _ => ReorderedItem.refl e

/-- Equal containers have the same description, up to the order of labels and networks. -/
theorem Same.describedAlike (h : a.Same b) (overrides : Fields) : DescribedAlike overrides a b := by
  have hcreated : a.created = b.created := h.eq_of_digest Container.created fun _ => rfl
  have hfixed (created : String) : a.fixedFields created = b.fixedFields created :=
    h.eq_of_digest (fun c => c.fixedFields created) fun _ => rfl
  rw [DescribedAlike, metadata, metadata, ← hcreated]
  cases unixTimeText a.created with
  | error e => exact Or.inl ⟨_, rfl, rfl⟩
  | ok created =>
      refine Or.inr ⟨_, _, rfl, rfl, _, _, rfl, rfl, ?_⟩
      refine Assoc.insertAll_related (fun h => h.1) ReorderedItem.refl ?_ overrides
      rw [hfixed]
      exact List.rel_append (List.forall₂_same.mpr fun e _ => ReorderedItem.refl e) h.optionalFields_related

end Container

namespace Entry

variable {vs ws : List Value} {cs cs' : List Container}

theorem exists_equalSnapshots (hv : ∀ v ∈ vs, WellTyped v ∧ HasDistinctLabels v)
    (h : List.Forall₂ Reordered vs ws) :
    ∃ cs cs', vs.mapM Container.ofEntry = .ok cs ∧ ws.mapM Container.ofEntry = .ok cs' ∧
      EqualSnapshots cs cs' := by
  induction h with
  | nil => exact ⟨[], [], rfl, rfl, .nil⟩
  | cons hvw hrest ih =>
      obtain ⟨⟨ht, hd⟩, hv⟩ := List.forall_mem_cons.mp hv
      obtain ⟨c, hc, -⟩ := Container.exists_ofEntry ht
      obtain ⟨c', hc', hs⟩ := Container.exists_same_of_reordered hvw hc
      obtain ⟨cs, cs', hcs, hcs', hsame⟩ := ih hv
      refine ⟨c :: cs, c' :: cs', ?_, ?_, .cons ⟨hs, Container.keys_nodup_of_ofEntry ht hd hc⟩ hsame⟩
      · exact mapM_of_forall₂ (.cons hc (forall₂_of_mapM hcs))
      · exact mapM_of_forall₂ (.cons hc' (forall₂_of_mapM hcs'))

/-- In every description of a container, the networks have the order of its entry. -/
theorem networkModes_of_mapM {overrides : Fields} (hl : Lacks "Networks" overrides)
    (h : vs.mapM Container.ofEntry = .ok cs) :
    List.Forall₂ (fun v c => ∀ description, c.metadata overrides = .ok description →
      networkModes description = connectedNames v) vs cs := by
  refine (forall₂_of_mapM h).imp fun v c hc description hd => ?_
  rw [Container.networkModes_of_metadata hd hl, connectedNames_eq hc]

/-- The order of the keys of labels and networks carries no meaning. Entries that differ only in it
describe equal containers, which are the same in a set, where equality is an equivalence that compares
what the keys are mapped to and that the hash codes respect. Every request has its caller and its task at
the same positions in both lists, or fails alike. The descriptions are the same, except that labels and
networks are in the order of the entries. -/
theorem key_order_without_influence {ε : Type} (hv : ∀ v ∈ vs, WellTyped v ∧ HasDistinctLabels v)
    (h : List.Forall₂ Reordered vs ws) :
    Equivalence Container.Same ∧
    (∀ (code : Container → Nat) (a b : Container), a.Same b → a.hashCode code = b.hashCode code) ∧
    (∀ a b : Container, a.HasDistinctKeys → b.HasDistinctKeys →
      (a.Same b ↔ a.digest = b.digest ∧
        (∀ key, Assoc.get? a.labels key = Assoc.get? b.labels key) ∧
        Option.Rel (fun xs ys => ∀ name, Assoc.get? xs name = Assoc.get? ys name)
          a.networks b.networks)) ∧
    ∃ cs cs', vs.mapM Container.ofEntry = .ok cs ∧ ws.mapM Container.ofEntry = .ok cs' ∧
      List.Forall₂ Container.Same cs cs' ∧
      (∀ code, Container.toSet code (cs ++ cs') = Container.toSet code cs) ∧
      (∀ q : CallerQuery,
        (q.find cs').outcome.map (·.2) = (q.find cs).outcome.map (·.2) ∧
        ∃ task task', (LocalTask.members q cs : Run ε (List Listed)).outcome = .ok task ∧
          (LocalTask.members q cs' : Run ε (List Listed)).outcome = .ok task' ∧
          task'.map (·.2) = task.map (·.2)) ∧
      ∀ overrides, List.Forall₂ (Container.DescribedAlike overrides) cs cs' ∧
        (Lacks "Networks" overrides →
          List.Forall₂ (fun v c => ∀ description, c.metadata overrides = .ok description →
            networkModes description = connectedNames v) vs cs ∧
          List.Forall₂ (fun w c => ∀ description, c.metadata overrides = .ok description →
            networkModes description = connectedNames w) ws cs') := by
  obtain ⟨cs, cs', hcs, hcs', hequal⟩ := exists_equalSnapshots hv h
  have hsame : List.Forall₂ Container.Same cs cs' := hequal.imp fun _ _ h => h.1
  refine ⟨Container.same_equivalence, fun code a b => Container.hashCode_eq_of_same code,
    fun a b => Container.same_iff_get?, cs, cs', hcs, hcs', hsame, ?set, ?callers, ?descriptions⟩
  case set =>
    intro code
    apply Container.toSet_append_of_same
    intro c' hc'
    obtain ⟨c, hc, hcc'⟩ := exists_related_of_mem hsame hc'
    exact ⟨c, hc, hcc'⟩
  case callers =>
    intro q
    refine ⟨hequal.find_place q, _, _, LocalTask.members_outcome q cs, LocalTask.members_outcome q cs',
      hequal.members_places q⟩
  case descriptions =>
    intro overrides
    refine ⟨hsame.imp fun _ _ h => h.describedAlike overrides, fun hl => ?_⟩
    exact ⟨networkModes_of_mapM hl hcs, networkModes_of_mapM hl hcs'⟩

/-- An entry with two labels and three networks, one of them without settings, and the same entry with both
in other orders. -/
theorem key_order_without_influence_example :
    let front := (Value.text "front", Value.object [("IPAddress", .text "10.0.0.2")])
    let back := (Value.text "back", Value.object [("IPAddress", .text "10.0.1.2")])
    let none := (Value.text "none", Value.null)
    let entry (labels networks : Fields) : Value := .object [("Id", .text "a1"), ("Labels", .map labels),
      ("NetworkSettings", .object [("Networks", .map networks)])]
    let tier := (Value.text "tier", Value.text "web")
    let owner := (Value.text "owner", Value.text "ops")
    let v := entry [tier, owner] [front, none, back]
    let w := entry [owner, tier] [back, front, none]
    (WellTyped v ∧ HasDistinctLabels v) ∧ Reordered v w ∧
      connectedNames v = [.text "front", .text "back"] ∧
      connectedNames w = [.text "back", .text "front"] ∧
      ∃ cs cs', [v].mapM Container.ofEntry = .ok cs ∧ [w].mapM Container.ofEntry = .ok cs' ∧
        List.Forall₂ Container.Same cs cs' := by
  intro front back none entry tier owner v w
  have htext {s : String} : IsAnyText (.text s) := Or.inl ⟨s, rfl⟩
  have hattachment {address : String} :
      IsNullOr IsAttachment (Value.object [("IPAddress", .text address)]) :=
    Or.inr ⟨_, rfl, Or.inr ⟨address, rfl⟩, Or.inl rfl, Or.inl rfl⟩
  have hlabels : ∀ e ∈ [tier, owner], IsAnyText e.1 ∧ IsAnyText e.2 :=
    List.forall_mem_cons.mpr ⟨⟨htext, htext⟩, List.forall_mem_singleton.mpr ⟨htext, htext⟩⟩
  have hnetworks : ∀ e ∈ [front, none, back], IsSearchable e.1 ∧ IsNullOr IsAttachment e.2 :=
    List.forall_mem_cons.mpr ⟨⟨⟨_, rfl⟩, hattachment⟩, List.forall_mem_cons.mpr
      ⟨⟨⟨_, rfl⟩, Or.inl rfl⟩, List.forall_mem_singleton.mpr ⟨⟨_, rfl⟩, hattachment⟩⟩⟩
  have hv : WellTyped v ∧ HasDistinctLabels v := by
    constructor
    · refine ⟨_, rfl, ?_⟩
      exact
        { id := Or.inr ⟨_, rfl⟩
          otherId := Or.inl rfl
          names := Or.inl rfl
          labels := Or.inr ⟨_, rfl, hlabels⟩
          networks := Or.inr ⟨_, rfl, Or.inr ⟨_, rfl, hnetworks⟩⟩
          image := Or.inl rfl
          imageId := Or.inl rfl
          created := Or.inl rfl
          ports := Or.inl rfl
          mounts := Or.inl rfl }
    · intro fields labels hfields hl
      obtain rfl := Value.map.inj hfields
      obtain rfl := Value.map.inj hl
      decide
  have h : Reordered v w := by
    refine ⟨_, _, rfl, rfl, ?_, ?_, ?_⟩
    · intro name hlabels hnetworks
      have hlabels : Value.text "Labels" ≠ .text name := fun he => hlabels (Value.text.inj he).symm
      have hnetworks : Value.text "NetworkSettings" ≠ .text name := fun he =>
        hnetworks (Value.text.inj he).symm
      simp only [fieldOf, Assoc.get?, List.map_cons, if_neg hlabels, if_neg hnetworks]
    · exact Or.inr ⟨_, _, rfl, rfl, .swap owner tier []⟩
    · refine Or.inr ⟨_, _, rfl, rfl, ?_, ?_⟩
      · intro name hname
        have hname : Value.text "Networks" ≠ .text name := fun he => hname (Value.text.inj he).symm
        simp only [fieldOf, Assoc.get?, List.map_cons, if_neg hname]
      · exact Or.inr ⟨_, _, rfl, rfl, by decide⟩
  obtain ⟨-, -, -, cs, cs', hcs, hcs', hsame, -⟩ :=
    key_order_without_influence (ε := Unit) (List.forall_mem_singleton.mpr hv) (.cons h .nil)
  exact ⟨hv, h, by decide, by decide, cs, cs', hcs, hcs', hsame⟩

end Entry

end TaskEndpoints
