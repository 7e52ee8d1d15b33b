import TaskEndpoints.Proofs.Caller.Basic
import TaskEndpoints.Proofs.Container.Equality

/-!
# Snapshots of equal containers

Two snapshots that list equal containers in the same order have their callers at the same positions and
make up the same tasks, or fail with the same number of candidates left. Every test of the search looks
at networks one by one, so that it does not tell equal containers apart.
-/

namespace TaskEndpoints

namespace Container

variable {a b own own' : Container} {identifier address word : String}

theorem answersTo_of_same (h : a.Same b) : a.answersTo identifier = b.answersTo identifier := by
  rw [answersTo, answersTo, h.id_eq, h.names_eq]

theorem hasAddress_of_same (h : a.Same b) : a.hasAddress address = b.hasAddress address := by
  rw [Bool.eq_iff_iff, hasAddress_iff, hasAddress_iff]
  exact hasAttachment_congr h.networks_rel

theorem knownAs_of_same (h : own.Same own') : own.KnownAs word ↔ own'.KnownAs word :=
  hasAttachment_congr h.networks_rel

theorem reachedThrough_of_same (ho : own.Same own') (h : a.Same b) :
    a.reachedThrough own.networkNames address = b.reachedThrough own'.networkNames address := by
  rw [Bool.eq_iff_iff, reachedThrough_iff, reachedThrough_iff]
  have hown : own.Reaches address a ↔ own'.Reaches address a := by
    simp only [Reaches, knownAs_of_same ho]
  exact hown.trans (hasAttachment_congr h.networks_rel)

end Container

/-- Candidates at one position, of which the containers are equal and have each label once. -/
structure EqualListed (x y : Listed) : Prop where
  place : x.2 = y.2
  same : x.1.Same y.1
  labels : (Assoc.keys x.1.labels).Nodup

/-- Snapshots of equal containers, each of them with each label once. -/
def EqualSnapshots : List Container → List Container → Prop :=
  List.Forall₂ fun a b => a.Same b ∧ (Assoc.keys a.labels).Nodup

namespace EqualSnapshots

variable {snapshot snapshot' : List Container} (h : EqualSnapshots snapshot snapshot')

include h

theorem zipIdx (start : Nat) :
    List.Forall₂ EqualListed (snapshot.zipIdx start) (snapshot'.zipIdx start) := by
  induction h generalizing start with
  | nil => exact .nil
  | cons hab hrest ih => exact .cons ⟨rfl, hab.1, hab.2⟩ (ih (start + 1))

theorem own? (ownId : String) :
    Option.Rel Container.Same (Container.own? snapshot ownId) (Container.own? snapshot' ownId) := by
  rw [Container.own?, Container.own?]
  split
  · exact .none
  · apply find?_related _ (h.imp fun _ _ => And.left)
    intro a b hab
    rw [hab.id_eq]

variable (q : CallerQuery)

theorem afterIdentifier :
    List.Forall₂ EqualListed (q.afterIdentifier snapshot) (q.afterIdentifier snapshot') := by
  rw [CallerQuery.afterIdentifier, CallerQuery.afterIdentifier]
  split
  · exact h.zipIdx 0
  · exact keepMatching_related (fun _ _ hxy => Container.answersTo_of_same hxy.same) (h.zipIdx 0)

theorem afterAddress :
    List.Forall₂ EqualListed (q.afterAddress snapshot) (q.afterAddress snapshot') := by
  rw [CallerQuery.afterAddress, CallerQuery.afterAddress]
  split
  · exact h.afterIdentifier q
  · exact keepMatching_related (fun _ _ hxy => Container.hasAddress_of_same hxy.same)
      (h.afterIdentifier q)

theorem afterNetworks :
    List.Forall₂ EqualListed (q.afterNetworks snapshot) (q.afterNetworks snapshot') := by
  have hown : Option.Rel Container.Same
      ((Container.own? snapshot q.ownId).filter (·.networks.isSome))
      ((Container.own? snapshot' q.ownId).filter (·.networks.isSome)) :=
    optionFilter_related (fun _ _ hab => hab.isSome_networks_eq) (h.own? q.ownId)
  rw [CallerQuery.afterNetworks, CallerQuery.afterNetworks]
  generalize (Container.own? snapshot q.ownId).filter (·.networks.isSome) = x at hown
  generalize (Container.own? snapshot' q.ownId).filter (·.networks.isSome) = y at hown
  cases hown with
  | none => exact h.afterAddress q
  | some hab =>
      exact filter_related (fun _ _ hxy => Container.reachedThrough_of_same hab hxy.same)
        (h.afterAddress q)

/-- The callers are at one position, or there is none. -/
theorem found? : Option.Rel EqualListed (q.found? snapshot) (q.found? snapshot') := by
  rw [CallerQuery.found?, CallerQuery.found?]
  apply or_related
  · split
    · exact .none
    · exact only?_related (h.afterIdentifier q)
  · apply or_related
    · split
      · exact .none
      · exact only?_related (h.afterAddress q)
    · exact only?_related (h.afterNetworks q)

theorem find_place : (q.find snapshot').outcome.map (·.2) = (q.find snapshot).outcome.map (·.2) := by
  have hfound := h.found? q
  have hlength := (h.afterNetworks q).length_eq
  rw [CallerQuery.find_outcome, CallerQuery.find_outcome]
  generalize q.found? snapshot = x at hfound
  generalize q.found? snapshot' = y at hfound
  cases hfound with
  | none => simp only [hlength]
  | some hxy => exact congrArg Except.ok hxy.place.symm

theorem members_places : ((LocalTask.membersFor (q.found? snapshot') snapshot').map (·.2)) =
    (LocalTask.membersFor (q.found? snapshot) snapshot).map (·.2) := by
  have hplaces {xs ys : List Listed} (hxs : List.Forall₂ EqualListed xs ys) :
      ys.map (·.2) = xs.map (·.2) := by
    induction hxs with
    | nil => rfl
    | cons hxy hrest ih => rw [List.map_cons, List.map_cons, ih, hxy.place]
  have hproject {x y : Listed} (hxy : EqualListed x y) : x.1.project = y.1.project :=
    hxy.same.project_eq hxy.labels
  have hfound := h.found? q
  generalize q.found? snapshot = x at hfound
  generalize q.found? snapshot' = y at hfound
  cases hfound with
  | none => exact hplaces (h.zipIdx 0)
  | some hcaller =>
      simp only [LocalTask.membersFor, hproject hcaller]
      split
      · apply hplaces
        apply keepMatching_related _ (h.zipIdx 0)
        intro x y hxy
        rw [hproject hxy]
      · exact hplaces (h.zipIdx 0)

end EqualSnapshots

end TaskEndpoints
