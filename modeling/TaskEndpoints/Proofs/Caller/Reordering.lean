import Mathlib.Data.List.FinRange
import Mathlib.Data.List.Find
import TaskEndpoints.Proofs.Caller.Basic

/-!
# The order in which containers are listed

The engine lists containers in no particular order. The main statement says that the search finds the
same caller in every order, or fails in every order with the same number of candidates, and that the
task is made up of the same containers.

## Implementation notes

An order is a permutation of positions. The candidates of a reordered snapshot, taken back to the
positions that they come from, are those of the snapshot, in another order; each step preserves this.
The own container is the first of those with its identifier, so the order tells which one it is where
there are several.
-/

namespace TaskEndpoints

/-- A snapshot in another order: at each position the container from the position that `σ` tells. -/
def reorder (snapshot : List Container) (σ : Equiv.Perm (Fin snapshot.length)) : List Container :=
  List.ofFn fun p => snapshot.get (σ p)

/-- A candidate of a reordered snapshot at the position that it comes from. -/
def takenBack {n : Nat} (σ : Equiv.Perm (Fin n)) (x : Listed) : Listed :=
  (x.1, if h : x.2 < n then σ ⟨x.2, h⟩ else x.2)

section Reorder

variable (snapshot : List Container) (σ : Equiv.Perm (Fin snapshot.length))

theorem reorder_perm : (reorder snapshot σ).Perm snapshot := by
  have h := σ.ofFn_comp_perm snapshot.get
  rw [List.ofFn_get] at h
  exact h

theorem map_takenBack_zipIdx : (reorder snapshot σ).zipIdx.map (takenBack σ) =
    List.ofFn ((fun p => (snapshot.get p, p.val)) ∘ σ) := by
  apply List.ext_getElem
  · simp [reorder]
  · intro p hp _
    have hlt : p < snapshot.length := by simpa [reorder] using hp
    simp [takenBack, reorder, hlt]

theorem zipIdx_perm_takenBack :
    snapshot.zipIdx.Perm ((reorder snapshot σ).zipIdx.map (takenBack σ)) := by
  have hz : snapshot.zipIdx = List.ofFn fun p : Fin snapshot.length => (snapshot.get p, p.val) := by
    apply List.ext_getElem
    · simp
    · intro p _ _
      simp
  rw [map_takenBack_zipIdx, hz]
  exact (σ.ofFn_comp_perm _).symm

end Reorder

namespace CallerQuery

/-- At most one container has the own identifier, if there is one. -/
def OneOwn (q : CallerQuery) (snapshot : List Container) : Prop :=
  q.ownId = "" ∨ ∀ a ∈ snapshot, ∀ b ∈ snapshot,
    q.ownId.toList <+: a.id.toList → q.ownId.toList <+: b.id.toList → a = b

variable {q : CallerQuery} {snapshot : List Container} (σ : Equiv.Perm (Fin snapshot.length))

/-- Where at most one container has the own identifier, the order does not tell which one it is. -/
theorem own?_reorder (hown : q.OneOwn snapshot) :
    Container.own? (reorder snapshot σ) q.ownId = Container.own? snapshot q.ownId := by
  rw [Container.own?_eq_find?, Container.own?_eq_find?]
  refine (List.find?_eq_find?_of_perm (reorder_perm snapshot σ).symm ?_).symm
  rintro a ⟨ha, hpa⟩ b ⟨hb, hpb⟩
  obtain ⟨hne, hpa⟩ := of_decide_eq_true hpa
  obtain ⟨-, hpb⟩ := of_decide_eq_true hpb
  exact hown.elim (fun h => absurd h hne) fun h => h a ha b hb hpa hpb

theorem afterIdentifier_reorder : (q.afterIdentifier snapshot).Perm
    ((q.afterIdentifier (reorder snapshot σ)).map (takenBack σ)) := by
  simp only [afterIdentifier, byIdentifier]
  split
  · exact zipIdx_perm_takenBack snapshot σ
  · exact keepMatching_perm_map (fun _ => rfl) (zipIdx_perm_takenBack snapshot σ)

theorem afterAddress_reorder : (q.afterAddress snapshot).Perm
    ((q.afterAddress (reorder snapshot σ)).map (takenBack σ)) := by
  simp only [afterAddress, byAddress]
  split
  · exact afterIdentifier_reorder σ
  · exact keepMatching_perm_map (fun _ => rfl) (afterIdentifier_reorder σ)

theorem afterNetworks_reorder (hown : q.OneOwn snapshot) :
    (q.afterNetworks snapshot).Perm
      ((q.afterNetworks (reorder snapshot σ)).map (takenBack σ)) := by
  rw [afterNetworks, afterNetworks, own?_reorder σ hown]
  split
  · exact afterAddress_reorder σ
  · exact filter_perm_map (fun _ => rfl) (afterAddress_reorder σ)

theorem found?_reorder (hown : q.OneOwn snapshot) :
    q.found? snapshot = (q.found? (reorder snapshot σ)).map (takenBack σ) :=
  found?_map (takenBack σ) (only?_perm_map (afterIdentifier_reorder σ))
    (only?_perm_map (afterAddress_reorder σ)) (only?_perm_map (afterNetworks_reorder σ hown))

/-- The task of the same caller holds the same containers in every order. -/
theorem membersFor_reorder (caller? : Option Listed) :
    (LocalTask.membersFor (caller?.map (takenBack σ)) snapshot).Perm
      ((LocalTask.membersFor caller? (reorder snapshot σ)).map (takenBack σ)) := by
  have hz := zipIdx_perm_takenBack snapshot σ
  cases caller? with
  | none => exact hz
  | some caller =>
      simp only [LocalTask.membersFor, Option.map_some, takenBack]
      split
      · exact keepMatching_perm_map (fun _ => rfl) hz
      · exact hz

/-- In every order of listing the same container is found, or as many candidates are left, and the task
is the same; its containers follow the order of listing. The order may matter only to which container is
the own one, if several have its identifier. -/
theorem order_without_influence {ε : Type} (q : CallerQuery) (snapshot : List Container)
    (σ : Equiv.Perm (Fin snapshot.length))
    (hown : q.ownId = "" ∨ ∀ a ∈ snapshot, ∀ b ∈ snapshot,
      q.ownId.toList <+: a.id.toList → q.ownId.toList <+: b.id.toList → a = b) :
    (q.find (reorder snapshot σ)).outcome.map (takenBack σ) = (q.find snapshot).outcome ∧
      ∃ task task', (LocalTask.members q snapshot : Run ε (List Listed)).outcome = .ok task ∧
        (LocalTask.members q (reorder snapshot σ) : Run ε (List Listed)).outcome = .ok task' ∧
        (task'.map (takenBack σ)).Perm task ∧ task'.Sublist (reorder snapshot σ).zipIdx := by
  have hf := found?_reorder σ hown
  constructor
  · have hlen := (afterNetworks_reorder σ hown).length_eq
    rw [List.length_map] at hlen
    rw [find_outcome, find_outcome, hf, hlen]
    cases q.found? (reorder snapshot σ) with
    | none => rfl
    | some caller => rfl
  · refine ⟨_, _, LocalTask.members_outcome q _, LocalTask.members_outcome q _, ?_,
      LocalTask.membersFor_sublist _ _⟩
    rw [hf]
    exact (membersFor_reorder σ _).symm

/-- Two containers of one project are listed in the other order; the caller is told by the network that
it shares with the own container. -/
theorem order_without_influence_example :
    let q : CallerQuery := ⟨"", "10.0.0.2", "local"⟩
    let own := Container.inNetwork "local1" "front" "10.0.0.9" "tools"
    let web := Container.inNetwork "web1" "front" "10.0.0.2" "shop"
    let db := Container.inNetwork "db1" "back" "10.0.0.2" "shop"
    (q.find [web, own, db]).outcome = .ok (web, 0) ∧
      (q.find [db, own, web]).outcome.map (takenBack (Equiv.swap (0 : Fin 3) 2)) =
        .ok (web, 0) := by
  intro q own web db
  have hc : (q.find [web, own, db]).outcome = .ok (web, 0) := by
    rw [find_eq_ok_iff]
    decide
  have h := order_without_influence (ε := Unit) q [web, own, db] (Equiv.swap (0 : Fin 3) 2)
    (Or.inr (by decide))
  refine ⟨hc, Eq.trans ?_ (h.1.trans hc)⟩
  rfl

end CallerQuery

end TaskEndpoints
