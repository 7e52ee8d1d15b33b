import TaskEndpoints.Container.Basic
import TaskEndpoints.Proofs.Assoc

/-!
# Equal containers

Containers are equal if they agree in all parts, where labels and networks are compared as mappings. The
main facts are that this is an equivalence, that it is the comparison of what each key is mapped to, and
that a set of containers does not grow by a container that equals one in it.

## Implementation notes

A hash code is any number that is computed from the digest. A set looks for a container only among those
with its hash code, so it would keep equal containers apart if their codes differed.
-/

namespace TaskEndpoints

namespace Container

variable {a b c : Container}

theorem same_iff : a.Same b ↔ a.digest = b.digest ∧ a.labels.Perm b.labels ∧
    Option.Rel List.Perm a.networks b.networks := by
  constructor
  · intro h
    exact ⟨h.1, h.2.1, h.networks_rel⟩
  · rintro ⟨hdigest, hlabels, hnetworks⟩
    refine ⟨hdigest, hlabels, ?_⟩
    generalize a.networks = xs at hnetworks
    generalize b.networks = ys at hnetworks
    cases hnetworks with
    | none => trivial
    | some h => exact h

/-- Equal containers agree in what is read from neither labels nor networks. -/
theorem Same.eq_of_digest {α : Type} (h : a.Same b) (read : Container → α)
    (hread : ∀ c, read c.digest = read c) : read a = read b := by
  calc
    read a = read a.digest := (hread a).symm
    _ = read b.digest := by rw [h.1]
    _ = read b := hread b

theorem Same.isSome_networks_eq (h : a.Same b) : a.networks.isSome = b.networks.isSome := by
  have hnetworks := h.networks_rel
  generalize a.networks = xs at hnetworks
  generalize b.networks = ys at hnetworks
  cases hnetworks with
  | none => rfl
  | some => rfl

theorem Same.symm (h : a.Same b) : b.Same a := by
  obtain ⟨hdigest, hlabels, hnetworks⟩ := same_iff.mp h
  refine same_iff.mpr ⟨hdigest.symm, hlabels.symm, ?_⟩
  generalize a.networks = xs at hnetworks
  generalize b.networks = ys at hnetworks
  cases hnetworks with
  | none => exact .none
  | some h => exact .some h.symm

theorem Same.trans (h : a.Same b) (h' : b.Same c) : a.Same c := by
  obtain ⟨hdigest, hlabels, hnetworks⟩ := same_iff.mp h
  obtain ⟨hdigest', hlabels', hnetworks'⟩ := same_iff.mp h'
  refine same_iff.mpr ⟨hdigest.trans hdigest', hlabels.trans hlabels', ?_⟩
  generalize a.networks = xs at hnetworks
  generalize b.networks = ys at hnetworks hnetworks'
  generalize c.networks = zs at hnetworks'
  cases hnetworks with
  | none =>
      cases hnetworks'
      exact .none
  | some h =>
      cases hnetworks' with
      | some h' => exact .some (h.trans h')

theorem same_equivalence : Equivalence Same := ⟨Same.refl, Same.symm, Same.trans⟩

/-- No label and no network is there twice. -/
structure HasDistinctKeys (c : Container) : Prop where
  labels : (Assoc.keys c.labels).Nodup
  networks : ∀ networks ∈ c.networks, (Assoc.keys networks).Nodup

/-- Mappings are equal if they map each key to the same. -/
theorem same_iff_get? (ha : a.HasDistinctKeys) (hb : b.HasDistinctKeys) :
    a.Same b ↔ a.digest = b.digest ∧
      (∀ key, Assoc.get? a.labels key = Assoc.get? b.labels key) ∧
      Option.Rel (fun xs ys => ∀ name, Assoc.get? xs name = Assoc.get? ys name)
        a.networks b.networks := by
  have hnetworks : Option.Rel List.Perm a.networks b.networks ↔
      Option.Rel (fun xs ys => ∀ name, Assoc.get? xs name = Assoc.get? ys name)
        a.networks b.networks := by
    have hxs := ha.networks
    have hys := hb.networks
    generalize a.networks = xs at hxs
    generalize b.networks = ys at hys
    constructor
    · intro h
      cases h with
      | none => exact .none
      | some h => exact .some ((Assoc.perm_iff_get? (hxs _ rfl) (hys _ rfl)).mp h)
    · intro h
      cases h with
      | none => exact .none
      | some h => exact .some ((Assoc.perm_iff_get? (hxs _ rfl) (hys _ rfl)).mpr h)
  rw [same_iff, Assoc.perm_iff_get? ha.labels hb.labels, hnetworks]

/-- The hash code of a container, by a code for digests. -/
def hashCode (code : Container → Nat) (c : Container) : Nat := code c.digest

theorem hashCode_eq_of_same (code : Container → Nat) (h : a.Same b) :
    a.hashCode code = b.hashCode code :=
  congrArg code h.1

/-- Put a container into a set, unless one with its hash code equals it. -/
def addTo (code : Container → Nat) (set : List Container) (c : Container) : List Container :=
  if set.any fun known => known.hashCode code = c.hashCode code ∧ known.Same c then set
  else set ++ [c]

/-- The set of some containers. -/
def toSet (code : Container → Nat) (cs : List Container) : List Container :=
  cs.foldl (addTo code) []

variable {code : Container → Nat} {set cs more : List Container}

theorem addTo_of_same (ha : a ∈ set) (h : a.Same c) : addTo code set c = set := by
  apply if_pos
  rw [List.any_eq_true]
  exact ⟨a, ha, decide_eq_true ⟨hashCode_eq_of_same code h, h⟩⟩

theorem subset_foldl_addTo : set ⊆ cs.foldl (addTo code) set := by
  induction cs generalizing set with
  | nil => exact List.Subset.refl set
  | cons c rest ih =>
      have hadd : set ⊆ addTo code set c := by
        rw [addTo]
        split
        · exact List.Subset.refl set
        · exact List.subset_append_left set [c]
      exact List.Subset.trans hadd ih

/-- A set holds an equal of everything that was put into it. -/
theorem exists_same_of_mem (hc : c ∈ cs) : ∃ known ∈ cs.foldl (addTo code) set, known.Same c := by
  induction cs generalizing set with
  | nil => cases hc
  | cons first rest ih =>
      rcases List.mem_cons.mp hc with rfl | hc
      · have hadd : ∃ known ∈ addTo code set c, known.Same c := by
          rw [addTo]
          split
          · rename_i hany
            obtain ⟨known, hk, hs⟩ := List.any_eq_true.mp hany
            exact ⟨known, hk, (of_decide_eq_true hs).2⟩
          · exact ⟨c, List.mem_append_right set List.mem_cons_self, Same.refl c⟩
        obtain ⟨known, hk, hs⟩ := hadd
        have hrest : addTo code set c ⊆ rest.foldl (addTo code) (addTo code set c) :=
          subset_foldl_addTo
        exact ⟨known, hrest hk, hs⟩
      · exact ih hc

/-- A set stays as it is if equals of what is in it are added. -/
theorem toSet_append_of_same (h : ∀ c ∈ more, ∃ a ∈ cs, a.Same c) :
    toSet code (cs ++ more) = toSet code cs := by
  rw [toSet, List.foldl_append, ← toSet]
  induction more with
  | nil => rfl
  | cons c rest ih =>
      obtain ⟨a, ha, hac⟩ := h c List.mem_cons_self
      obtain ⟨known, hk, hka⟩ : ∃ known ∈ toSet code cs, known.Same a := exists_same_of_mem ha
      rw [List.foldl_cons, addTo_of_same hk (hka.trans hac)]
      exact ih fun c' hc' => h c' (List.mem_cons_of_mem c hc')

/-- Equal containers are in the same project, because a label has one value. -/
theorem Same.project_eq (h : a.Same b) (ha : (Assoc.keys a.labels).Nodup) :
    a.project = b.project := by
  rw [project, project, Value.fieldOf, Value.fieldOf, Assoc.get?_perm ha h.2.1]

end Container

end TaskEndpoints
