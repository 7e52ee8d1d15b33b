import TaskEndpoints.Proofs.Caller.Basic

/-!
# Bystanders

A bystander is a container that does not answer to the identifier of a request, does not have its
address and is not the own container. The main statement says that a bystander changes neither the
caller that is found nor, if it is in another project, the task of that caller.

## Implementation notes

A step that keeps all candidates keeps the bystander as well. The invariant `Accompanied` says that this
happens only beside two or more others, so that no step decides with it or without it. For a snapshot
of one container the statement fails: alone, this container is found by the identifier of any request.
-/

namespace TaskEndpoints

section Accompanied

variable {α β : Type}

/-- The second candidates, carried over, are the first ones, except that the first ones may hold one
more if the second ones are two or more. -/
def Accompanied (f : α → β) (b : β) (xs : List β) (ys : List α) : Prop :=
  xs.Perm (ys.map f) ∨ xs.Perm (b :: ys.map f) ∧ 2 ≤ ys.length

variable {f : α → β} {b : β} {xs : List β} {ys : List α} {test : α → Bool} {test' : β → Bool}

theorem only?_of_accompanied (h : Accompanied f b xs ys) : only? xs = (only? ys).map f := by
  rcases h with h | ⟨h, hy⟩
  · exact only?_perm_map h
  · have hx : 2 ≤ xs.length := by
      rw [h.length_eq, List.length_cons, List.length_map]
      omega
    rw [only?_of_two_le hx, only?_of_two_le hy, Option.map_none]

theorem accompanied_filter (hf : ∀ x, test' (f x) = test x) (hb : test' b = false)
    (h : Accompanied f b xs ys) : Accompanied f b (xs.filter test') (ys.filter test) := by
  left
  rcases h with h | ⟨h, -⟩
  · exact filter_perm_map hf h
  · have hd : (b :: ys.map f).filter test' = (ys.map f).filter test' :=
      List.filter_cons_of_neg (Bool.eq_false_iff.mp hb)
    have h' := h.filter test'
    rw [hd] at h'
    exact h'.trans (filter_perm_map hf (List.Perm.refl _))

/-- A step either drops the bystander or leaves both lists as they are. -/
theorem accompanied_keepMatching (hf : ∀ x, test' (f x) = test x) (hb : test' b = false)
    (h : Accompanied f b xs ys) :
    Accompanied f b (keepMatching test' xs) (keepMatching test ys) := by
  rcases h with h | ⟨h, hy⟩
  · exact Or.inl (keepMatching_perm_map hf h)
  · rcases keepMatching_cases test ys with ⟨⟨y, hmem, ht⟩, hk⟩ | ⟨hn, hk⟩
    · have hx : f y ∈ xs := h.mem_iff.mpr (List.mem_cons_of_mem b (List.mem_map_of_mem hmem))
      rw [hk, keepMatching_of_mem hx ((hf y).trans ht)]
      exact accompanied_filter hf hb (Or.inr ⟨h, hy⟩)
    · have hx : ∀ x ∈ xs, test' x = false := by
        intro x hx
        rcases List.mem_cons.mp (h.mem_iff.mp hx) with rfl | hx
        · exact hb
        · obtain ⟨y, hmem, rfl⟩ := List.mem_map.mp hx
          exact (hf y).trans (hn y hmem)
      rw [hk, keepMatching_of_forall hx]
      exact Or.inr ⟨h, hy⟩

end Accompanied

/-- A candidate as it is listed when one more container stands at a position. -/
def shiftFrom (k : Nat) (x : Listed) : Listed := (x.1, if x.2 < k then x.2 else x.2 + 1)

section Listing

variable (before after : List Container) (b : Container)

theorem map_shiftFrom_zipIdx :
    before.zipIdx.map (shiftFrom before.length) = before.zipIdx := by
  refine Eq.trans (List.map_congr_left ?_) (List.map_id before.zipIdx)
  intro x hx
  have hlt : x.2 < before.length := List.snd_lt_of_mem_zipIdx hx
  exact Prod.ext rfl (if_pos hlt)

theorem map_shiftFrom_zipIdx_from (k : Nat) :
    (after.zipIdx k).map (shiftFrom k) = after.zipIdx (k + 1) := by
  rw [Nat.add_comm, ← List.map_snd_add_zipIdx_eq_zipIdx]
  apply List.map_congr_left
  intro x hx
  have hle : ¬x.2 < k := Nat.not_lt.mpr (List.le_snd_of_mem_zipIdx hx)
  exact Prod.ext rfl (if_neg hle)

/-- With a container in its midst a snapshot lists the others in their order, moved beyond it. -/
theorem zipIdx_insert : ∃ xs ys, (before ++ b :: after).zipIdx = xs ++ (b, before.length) :: ys ∧
    (before ++ after).zipIdx.map (shiftFrom before.length) = xs ++ ys := by
  refine ⟨before.zipIdx, after.zipIdx (before.length + 1), ?_, ?_⟩
  · rw [List.zipIdx_append, List.zipIdx_cons, Nat.zero_add]
  · rw [List.zipIdx_append, List.map_append, Nat.zero_add, map_shiftFrom_zipIdx,
      map_shiftFrom_zipIdx_from]

theorem accompanied_zipIdx (hlen : 2 ≤ (before ++ after).length) :
    Accompanied (shiftFrom before.length) (b, before.length) (before ++ b :: after).zipIdx
      (before ++ after).zipIdx := by
  obtain ⟨xs, ys, hb, ha⟩ := zipIdx_insert before after b
  refine Or.inr ⟨?_, ?_⟩
  · rw [hb, ha]
    exact List.perm_middle
  · rw [List.length_zipIdx]
    exact hlen

/-- Filtering lists the same containers, whether or not one is present that fails the test. -/
theorem filter_zipIdx_insert (test : Container → Bool) (hb : test b = false) :
    (before ++ b :: after).zipIdx.filter (fun x => test x.1) =
      ((before ++ after).zipIdx.filter fun x => test x.1).map (shiftFrom before.length) := by
  obtain ⟨xs, ys, hxy, ha⟩ := zipIdx_insert before after b
  have hm : (((before ++ after).zipIdx.map (shiftFrom before.length)).filter fun x => test x.1) =
      ((before ++ after).zipIdx.filter fun x => test x.1).map (shiftFrom before.length) :=
    List.filter_map
  have hc : ((b, before.length) :: ys).filter (fun x => test x.1) = ys.filter fun x => test x.1 :=
    List.filter_cons_of_neg (Bool.eq_false_iff.mp hb)
  rw [← hm, ha, hxy, List.filter_append, List.filter_append, hc]

end Listing

namespace CallerQuery

/-- A container that no test of the search tells apart as the caller or as the own container. -/
structure Bystander (q : CallerQuery) (b : Container) : Prop where
  identifier : q.identifier = "" ∨ ¬b.Answers q.identifier
  address : ¬b.Addressed q.address
  own : q.ownId = "" ∨ ¬q.ownId.toList <+: b.id.toList

variable {q : CallerQuery} {before after : List Container} {b : Container}

theorem own?_insert (hb : q.Bystander b) :
    Container.own? (before ++ b :: after) q.ownId = Container.own? (before ++ after) q.ownId := by
  have hn : ¬(q.ownId ≠ "" ∧ q.ownId.toList <+: b.id.toList) := fun ⟨hne, hp⟩ =>
    hb.own.elim hne fun hnp => hnp hp
  rw [Container.own?_eq_find?, Container.own?_eq_find?, List.find?_append, List.find?_append,
    List.find?_cons_of_neg (by simpa using hn)]

theorem accompanied_afterIdentifier (hlen : 2 ≤ (before ++ after).length) (hb : q.Bystander b) :
    Accompanied (shiftFrom before.length) (b, before.length)
      (q.afterIdentifier (before ++ b :: after)) (q.afterIdentifier (before ++ after)) := by
  have hz := accompanied_zipIdx before after b hlen
  simp only [afterIdentifier, byIdentifier]
  split
  · exact hz
  · rename_i hne
    apply accompanied_keepMatching (fun x => rfl) _ hz
    have hna : ¬b.Answers q.identifier :=
      hb.identifier.resolve_left fun h => hne (String.isEmpty_iff.mpr h)
    rw [← Container.answersTo_iff] at hna
    exact Bool.eq_false_iff.mpr hna

theorem accompanied_afterAddress (hlen : 2 ≤ (before ++ after).length) (hb : q.Bystander b) :
    Accompanied (shiftFrom before.length) (b, before.length)
      (q.afterAddress (before ++ b :: after)) (q.afterAddress (before ++ after)) := by
  have hi := accompanied_afterIdentifier hlen hb
  simp only [afterAddress, byAddress]
  split
  · exact hi
  · apply accompanied_keepMatching (fun x => rfl) _ hi
    have haddr : ¬b.Addressed q.address := hb.address
    rw [← Container.hasAddress_iff] at haddr
    exact Bool.eq_false_iff.mpr haddr

/-- Who is reached through the networks of another container has the address in one of them. -/
theorem accompanied_afterNetworks (hlen : 2 ≤ (before ++ after).length) (hb : q.Bystander b) :
    Accompanied (shiftFrom before.length) (b, before.length)
      (q.afterNetworks (before ++ b :: after)) (q.afterNetworks (before ++ after)) := by
  have ha := accompanied_afterAddress hlen hb
  rw [afterNetworks, afterNetworks, own?_insert hb]
  split
  · exact ha
  · rename_i own _
    apply accompanied_filter (fun x => rfl) _ ha
    have hr : ¬own.Reaches q.address b := fun h =>
      hb.address (Container.addressed_of_reaches h)
    rw [← Container.reachedThrough_iff] at hr
    exact Bool.eq_false_iff.mpr hr

theorem found?_insert (hlen : 2 ≤ (before ++ after).length) (hb : q.Bystander b) :
    q.found? (before ++ b :: after) =
      (q.found? (before ++ after)).map (shiftFrom before.length) :=
  found?_map (shiftFrom before.length)
    (only?_of_accompanied (accompanied_afterIdentifier hlen hb))
    (only?_of_accompanied (accompanied_afterAddress hlen hb))
    (only?_of_accompanied (accompanied_afterNetworks hlen hb))

/-- The task of a caller in a project leaves out a bystander of another project. -/
theorem membersFor_insert {caller : Listed} (hc : caller ∈ (before ++ after).zipIdx)
    (hp : caller.1.project.isTruthy = true) (hb : b.project ≠ caller.1.project) :
    LocalTask.membersFor (some (shiftFrom before.length caller)) (before ++ b :: after) =
      (LocalTask.membersFor (some caller) (before ++ after)).map (shiftFrom before.length) := by
  have hc' : shiftFrom before.length caller ∈ (before ++ b :: after).zipIdx := by
    obtain ⟨xs, ys, hxy, ha⟩ := zipIdx_insert before after b
    have hmem : shiftFrom before.length caller ∈ xs ++ ys := ha ▸ List.mem_map_of_mem hc
    rw [hxy]
    rcases List.mem_append.mp hmem with hx | hy
    · exact List.mem_append_left _ hx
    · exact List.mem_append_right _ (List.mem_cons_of_mem _ hy)
  rw [LocalTask.membersFor_of_project hc hp, LocalTask.membersFor_of_project hc' hp]
  exact filter_zipIdx_insert before after b (fun c => c.project = caller.1.project)
    (decide_eq_false hb)

/-- A bystander beside two or more containers is without influence: the same caller is found, or again
none, and the task of a caller in another project is the same. -/
theorem bystander_without_influence {ε : Type} (q : CallerQuery) (before after : List Container)
    (b : Container) (hlen : 2 ≤ (before ++ after).length)
    (hid : q.identifier = "" ∨ ¬b.Answers q.identifier) (haddr : ¬b.Addressed q.address)
    (hown : q.ownId = "" ∨ ¬q.ownId.toList <+: b.id.toList) :
    (q.find (before ++ b :: after)).outcome.toOption =
        (q.find (before ++ after)).outcome.toOption.map (shiftFrom before.length) ∧
      ∀ caller p, (q.find (before ++ after)).outcome = .ok (caller, p) →
        caller.project.isTruthy = true → b.project ≠ caller.project →
        ∃ task, (LocalTask.members q (before ++ after) : Run ε (List Listed)).outcome = .ok task ∧
          (LocalTask.members q (before ++ b :: after) : Run ε (List Listed)).outcome =
            .ok (task.map (shiftFrom before.length)) := by
  have hf := found?_insert hlen ⟨hid, haddr, hown⟩
  constructor
  · rw [find_toOption, find_toOption, hf]
  · intro caller p hc hp hb
    rw [find_eq_ok_iff] at hc
    refine ⟨_, LocalTask.members_outcome q _, ?_⟩
    rw [LocalTask.members_outcome, hf, hc, Option.map_some,
      membersFor_insert (mem_zipIdx_of_found? hc) hp hb]

/-- Beside a single container a bystander has influence. -/
example :
    let q : CallerQuery := ⟨"absent", "", "local"⟩
    let web := Container.inNetwork "web1" "front" "10.0.0.2" "shop"
    let job := Container.inNetwork "job1" "front" "10.0.0.3" "mail"
    q.found? [web] = some (web, 0) ∧ q.found? [web, job] = none := by
  decide

/-- Nobody answers to the identifier, so the bystander is still among the candidates when the address
decides; it stands between the caller and the other container of the caller's project. -/
theorem bystander_without_influence_example :
    let q : CallerQuery := ⟨"absent", "10.0.0.2", "local"⟩
    let web := Container.inNetwork "web1" "front" "10.0.0.2" "shop"
    let job := Container.inNetwork "job1" "front" "10.0.0.3" "mail"
    let db := Container.inNetwork "db1" "back" "10.0.1.2" "shop"
    (q.find [web, job, db]).outcome.toOption = some (web, 0) ∧
      ∃ task, (LocalTask.members q [web, db] : Run Unit (List Listed)).outcome = .ok task ∧
        (LocalTask.members q [web, job, db] : Run Unit (List Listed)).outcome =
          .ok (task.map (shiftFrom 1)) := by
  intro q web job db
  have hc : (q.find [web, db]).outcome = .ok (web, 0) := by
    rw [find_eq_ok_iff]
    decide
  obtain ⟨hf, ht⟩ := bystander_without_influence (ε := Unit) q [web] [db] job (by decide)
    (by decide) (by decide) (by decide)
  constructor
  · refine hf.trans ?_
    rw [show [web] ++ [db] = [web, db] from rfl, hc]
    rfl
  · exact ht web 0 hc (by decide) (by decide)

end CallerQuery

end TaskEndpoints
