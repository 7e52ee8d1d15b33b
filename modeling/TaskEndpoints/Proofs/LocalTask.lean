import TaskEndpoints.Proofs.Caller.Basic
import TaskEndpoints.Proofs.Container.Entries

/-!
# Tasks as parts of a snapshot

The task of a caller in a project is made up of the containers of that project, so that the caller is
in it. The main statement says this for every request, and that the tasks of two callers in projects
are the same or have no position in common.

## Implementation notes

A project that no container is in would stand for all containers. This case never arises, because the
project is the one of the caller and the caller is in the snapshot.
-/

namespace TaskEndpoints

/-- The project of a container is no project only as the empty text. -/
theorem Container.project_isTruthy_iff (c : Container) :
    c.project.isTruthy = true ↔ c.project ≠ .text "" :=
  Entry.isTruthy_orElse_iff _

namespace LocalTask

variable {snapshot : List Container} {caller? : Option Listed} {caller other : Listed}

theorem membersFor_of_no_project (h : ∀ caller ∈ caller?, caller.1.project = .text "") :
    membersFor caller? snapshot = snapshot.zipIdx := by
  cases caller? with
  | none => rfl
  | some caller =>
      refine if_neg fun ht => ?_
      exact (Container.project_isTruthy_iff caller.1).mp ht (h caller rfl)

theorem membersFor_ne_nil (h : snapshot ≠ []) : membersFor caller? snapshot ≠ [] := by
  have hz : snapshot.zipIdx ≠ [] := fun he => h (List.zipIdx_eq_nil_iff.mp he)
  cases caller? with
  | none => exact hz
  | some caller =>
      rw [membersFor]
      split
      · exact fun he => hz ((keepMatching_eq_nil_iff _ _).mp he)
      · exact hz

theorem mem_membersFor_of_project (h : caller ∈ snapshot.zipIdx)
    (hp : caller.1.project ≠ .text "") {x : Listed} :
    x ∈ membersFor (some caller) snapshot ↔
      x ∈ snapshot.zipIdx ∧ x.1.project = caller.1.project := by
  rw [membersFor_of_project h ((Container.project_isTruthy_iff caller.1).mpr hp), List.mem_filter,
    decide_eq_true_iff]

/-- What is at a position in two tasks is in the projects of both callers. -/
theorem membersFor_disjoint (h : caller ∈ snapshot.zipIdx) (h' : other ∈ snapshot.zipIdx)
    (hp : caller.1.project ≠ .text "") (hp' : other.1.project ≠ .text "")
    (hne : caller.1.project ≠ other.1.project) {x y : Listed}
    (hx : x ∈ membersFor (some caller) snapshot) (hy : y ∈ membersFor (some other) snapshot) :
    x.2 ≠ y.2 := by
  obtain ⟨hx, hxp⟩ := (mem_membersFor_of_project h hp).mp hx
  obtain ⟨hy, hyp⟩ := (mem_membersFor_of_project h' hp').mp hy
  intro he
  have hxy : x.1 = y.1 := by
    have hx := List.mem_zipIdx_iff_getElem?.mp hx
    rw [he, List.mem_zipIdx_iff_getElem?.mp hy] at hx
    exact (Option.some.inj hx).symm
  exact hne (hxp.symm.trans ((congrArg Container.project hxy).trans hyp))

/-- The task is always made up, keeps the order of listing, and lacks containers only if there are none.
For a caller in a project it is that project, with the caller in it; else it is the whole snapshot. Two
callers in projects have the same task or tasks without a common position, as their projects tell. -/
theorem members_partition {ε : Type} (q : CallerQuery) (snapshot : List Container) :
    ∃ task, (members q snapshot : Run ε (List Listed)).outcome = .ok task ∧
      task.Sublist snapshot.zipIdx ∧ (snapshot ≠ [] → task ≠ []) ∧
      (∀ caller, (q.find snapshot).outcome = .ok caller → caller.1.project ≠ .text "" →
        task = (snapshot.zipIdx.filter fun x => x.1.project = caller.1.project) ∧ caller ∈ task ∧
        (snapshot.zipIdx.any fun x => x.1.project = caller.1.project) = true) ∧
      ((∀ caller, (q.find snapshot).outcome = .ok caller → caller.1.project = .text "") →
        task = snapshot.zipIdx) ∧
      ∀ (q' : CallerQuery) (caller caller' : Listed),
        (q.find snapshot).outcome = .ok caller → (q'.find snapshot).outcome = .ok caller' →
        caller.1.project ≠ .text "" → caller'.1.project ≠ .text "" →
        ∃ task', (members q' snapshot : Run ε (List Listed)).outcome = .ok task' ∧
          (caller.1.project = caller'.1.project → task' = task) ∧
          (caller.1.project ≠ caller'.1.project → ∀ x ∈ task, ∀ y ∈ task', x.2 ≠ y.2) := by
  refine ⟨_, members_outcome q snapshot, membersFor_sublist _ _, membersFor_ne_nil, ?_, ?_, ?_⟩
  · intro caller hc hp
    rw [CallerQuery.find_eq_ok_iff] at hc
    have hmem := CallerQuery.mem_zipIdx_of_found? hc
    rw [hc]
    refine ⟨membersFor_of_project hmem ((Container.project_isTruthy_iff _).mpr hp), ?_, ?_⟩
    · exact (mem_membersFor_of_project hmem hp).mpr ⟨hmem, rfl⟩
    · exact List.any_eq_true.mpr ⟨caller, hmem, decide_eq_true rfl⟩
  · intro h
    exact membersFor_of_no_project fun caller hc => h caller (CallerQuery.find_eq_ok_iff.mpr hc)
  · intro q' caller caller' hc hc' hp hp'
    rw [CallerQuery.find_eq_ok_iff] at hc hc'
    have hmem := CallerQuery.mem_zipIdx_of_found? hc
    have hmem' := CallerQuery.mem_zipIdx_of_found? hc'
    refine ⟨_, members_outcome q' snapshot, ?_, ?_⟩
    · intro he
      rw [hc, hc', membersFor_of_project hmem ((Container.project_isTruthy_iff _).mpr hp),
        membersFor_of_project hmem' ((Container.project_isTruthy_iff _).mpr hp'), he]
    · intro hne x hx y hy
      rw [hc] at hx
      rw [hc'] at hy
      exact membersFor_disjoint hmem hmem' hp hp' hne hx hy

/-- Two callers that are found in different ways, in two projects of one snapshot. -/
theorem members_partition_example :
    let web := Container.inNetwork "web1" "front" "10.0.0.2" "shop"
    let db := Container.inNetwork "db1" "back" "10.0.0.3" "shop"
    let job := Container.inNetwork "job1" "front" "10.0.0.4" "mail"
    ∃ task task',
      (members ⟨"db", "", ""⟩ [web, job, db] : Run Unit (List Listed)).outcome = .ok task ∧
      (members ⟨"", "10.0.0.4", ""⟩ [web, job, db] : Run Unit (List Listed)).outcome = .ok task' ∧
      (db, 2) ∈ task ∧ ∀ x ∈ task, ∀ y ∈ task', x.2 ≠ y.2 := by
  intro web db job
  have hdb : (CallerQuery.find ⟨"db", "", ""⟩ [web, job, db]).outcome = .ok (db, 2) := by
    rw [CallerQuery.find_eq_ok_iff]
    decide
  have hjob : (CallerQuery.find ⟨"", "10.0.0.4", ""⟩ [web, job, db]).outcome = .ok (job, 1) := by
    rw [CallerQuery.find_eq_ok_iff]
    decide
  obtain ⟨task, ht, -, -, hproject, -, hpair⟩ :=
    members_partition (ε := Unit) ⟨"db", "", ""⟩ [web, job, db]
  obtain ⟨task', ht', -, hdisjoint⟩ :=
    hpair ⟨"", "10.0.0.4", ""⟩ (db, 2) (job, 1) hdb hjob (by decide) (by decide)
  exact ⟨task, task', ht, ht', (hproject (db, 2) hdb (by decide)).2.1,
    hdisjoint (by decide)⟩

end LocalTask

end TaskEndpoints
