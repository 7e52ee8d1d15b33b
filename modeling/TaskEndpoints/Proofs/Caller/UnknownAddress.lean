import TaskEndpoints.Proofs.Caller.Places

/-!
# Requests from an unknown address

The address of a request may be unknown, and so may the addresses of a container in its networks; both are
then empty texts. The second step of the search is not taken for an unknown address, but the last step
compares it with those of the containers. The main statement says when a caller is found that the
request does not identify: exactly if its identifier tells nothing and just one container has no address
in a network of the own container.

## Implementation notes

With two containers or more, the set of all positions is never a single position. So a step that keeps all
of them decides nothing.
-/

namespace TaskEndpoints

theorem range_ne_singleton {n : Nat} (h : 2 ≤ n) (p : Nat) : Finset.range n ≠ {p} := by
  intro he
  have hc := congrArg Finset.card he
  rw [Finset.card_range, Finset.card_singleton] at hc
  omega

theorem placesWhere_subset_range (snapshot : List Container) (P : Container → Prop)
    [DecidablePred P] : placesWhere snapshot P ⊆ Finset.range snapshot.length :=
  Finset.filter_subset _ _

theorem placesWhere_nonempty_iff {snapshot : List Container} {P : Container → Prop}
    [DecidablePred P] : (placesWhere snapshot P).Nonempty ↔ ∃ c ∈ snapshot, P c := by
  constructor
  · rintro ⟨p, hp⟩
    obtain ⟨c, hc, hP⟩ := mem_placesWhere_iff.mp hp
    exact ⟨c, List.mem_of_getElem? hc, hP⟩
  · rintro ⟨c, hc, hP⟩
    obtain ⟨p, hp⟩ := List.mem_iff_getElem?.mp hc
    exact ⟨p, mem_placesWhere_iff.mpr ⟨c, hp, hP⟩⟩

namespace CallerQuery

/-- The identifier tells nothing: there is none, or no container answers to it. -/
def Unanswered (q : CallerQuery) (snapshot : List Container) : Prop :=
  q.identifier = "" ∨ ∀ c ∈ snapshot, ¬c.Answers q.identifier

/-- The own container has networks, and the container at a position is the only one that is reached
through them with the address of the request. -/
def ReachesOnly (q : CallerQuery) (snapshot : List Container) (p : Nat) : Prop :=
  ∃ own, (snapshot.find? fun c => q.ownId ≠ "" ∧ q.ownId.toList <+: c.id.toList) = some own ∧
    own.networks ≠ none ∧ placesWhere snapshot (own.Reaches q.address) = {p}

variable {q : CallerQuery} {snapshot : List Container} {c : Container} {p : Nat}

theorem identified_of_unanswered (h : q.Unanswered snapshot) :
    q.identified snapshot = Finset.range snapshot.length := by
  rw [identified]
  apply if_neg
  rintro ⟨hne, hex⟩
  obtain ⟨c, hc, ha⟩ := placesWhere_nonempty_iff.mp hex
  exact h.elim hne fun hno => hno c hc ha

/-- What is left of an identifier that some container answers to, answers to it. -/
theorem answers_of_mem_identified (h : ¬q.Unanswered snapshot) (hp : p ∈ q.identified snapshot)
    (hc : snapshot[p]? = some c) : q.identifier ≠ "" ∧ c.Answers q.identifier := by
  obtain ⟨hne, hno⟩ := not_or.mp h
  have hex : (placesWhere snapshot (Container.Answers q.identifier)).Nonempty := by
    rw [placesWhere_nonempty_iff]
    push Not at hno
    exact hno
  rw [identified, if_pos ⟨hne, hex⟩] at hp
  obtain ⟨c', hc', ha⟩ := mem_placesWhere_iff.mp hp
  obtain rfl : c = c' := Option.some.inj (hc.symm.trans hc')
  exact ⟨hne, ha⟩

theorem located_of_unknown_address (ha : q.address = "") :
    q.located snapshot = q.identified snapshot :=
  if_neg fun h => h.1 ha

theorem find?_of_unknown_own (h : q.ownId = "") :
    (snapshot.find? fun c => q.ownId ≠ "" ∧ q.ownId.toList <+: c.id.toList) = none :=
  List.find?_eq_none.mpr fun c _ => by simp [h]

theorem reachable_of_unknown_own (h : q.ownId = "") :
    q.reachable snapshot = q.located snapshot := by
  rw [reachable, find?_of_unknown_own h]

theorem reachable_subset_located (q : CallerQuery) (snapshot : List Container) :
    q.reachable snapshot ⊆ q.located snapshot := by
  rw [reachable]
  split
  · exact Finset.Subset.refl _
  · split
    · exact Finset.Subset.refl _
    · exact Finset.inter_subset_left

/-- Where a request points to is left after the first step. -/
theorem mem_identified_of_pointsTo (h : q.PointsTo snapshot p) : p ∈ q.identified snapshot := by
  rcases h with ⟨-, h⟩ | ⟨-, h⟩ | ⟨h, -⟩
  · exact h ▸ Finset.mem_singleton_self p
  · exact q.located_subset_identified snapshot (h ▸ Finset.mem_singleton_self p)
  · apply q.located_subset_identified snapshot
    exact q.reachable_subset_located snapshot (h ▸ Finset.mem_singleton_self p)

/-- If the first two steps leave all positions, the last one leaves those that are reached. -/
theorem reachable_eq_singleton_iff (hl : 2 ≤ snapshot.length)
    (h : q.located snapshot = Finset.range snapshot.length) :
    q.reachable snapshot = {p} ↔ q.ReachesOnly snapshot p := by
  rw [reachable, ReachesOnly, h]
  cases snapshot.find? fun c => decide (q.ownId ≠ "" ∧ q.ownId.toList <+: c.id.toList) with
  | none =>
      refine iff_of_false (range_ne_singleton hl p) ?_
      rintro ⟨own, ho, -⟩
      cases ho
  | some own =>
      have hr : Finset.range snapshot.length ∩ placesWhere snapshot (own.Reaches q.address) =
          placesWhere snapshot (own.Reaches q.address) :=
        Finset.inter_eq_right.mpr (placesWhere_subset_range _ _)
      dsimp only
      by_cases hn : own.networks = none
      · rw [if_pos hn]
        refine iff_of_false (range_ne_singleton hl p) ?_
        rintro ⟨own', ho, hne, -⟩
        cases ho
        exact hne hn
      · rw [if_neg hn, hr]
        constructor
        · intro hp
          exact ⟨own, rfl, hn, hp⟩
        · rintro ⟨own', ho, -, hp⟩
          cases ho
          exact hp

/-- If neither the identifier nor the address tells anything, only the networks decide. -/
theorem pointsTo_iff_of_unanswered (hl : 2 ≤ snapshot.length) (ha : q.address = "")
    (h : q.Unanswered snapshot) : q.PointsTo snapshot p ↔ q.ReachesOnly snapshot p := by
  have hi := identified_of_unanswered h
  have hloc := (located_of_unknown_address ha).trans hi
  rw [PointsTo, hloc, hi, reachable_eq_singleton_iff hl hloc]
  constructor
  · rintro (⟨-, hr⟩ | ⟨-, hr⟩ | ⟨hr, -⟩)
    · exact absurd hr (range_ne_singleton hl p)
    · exact absurd hr (range_ne_singleton hl p)
    · exact hr
  · intro hr
    refine Or.inr (Or.inr ⟨hr, fun p' => ⟨?_, ?_⟩⟩)
    · exact fun h => range_ne_singleton hl p' h.2
    · exact fun h => range_ne_singleton hl p' h.2

/-- Among two containers or more, a request from an unknown address leads to a container that it does not
identify exactly if its identifier tells nothing and the container is the only one without an address
in a network of the own container. A request of which nothing is known leads to no container. -/
theorem find_from_unknown_address (snapshot : List Container) (hl : 2 ≤ snapshot.length)
    (identifier ownId : String) :
    (∀ c p, (find ⟨identifier, "", ownId⟩ snapshot).outcome = .ok (c, p) ∧
        ¬(identifier ≠ "" ∧ c.Answers identifier) ↔
      snapshot[p]? = some c ∧ Unanswered ⟨identifier, "", ownId⟩ snapshot ∧
        ReachesOnly ⟨identifier, "", ownId⟩ snapshot p) ∧
    (find ⟨"", "", ""⟩ snapshot).outcome = .error ⟨snapshot.length, "", ""⟩ := by
  constructor
  · intro c p
    rw [find_eq_ok_iff, found?_eq_some_iff_pointsTo]
    constructor
    · rintro ⟨⟨hc, hp⟩, hnot⟩
      have hu : Unanswered ⟨identifier, "", ownId⟩ snapshot := by
        apply Classical.byContradiction
        intro hu
        exact hnot (answers_of_mem_identified hu (mem_identified_of_pointsTo hp) hc)
      exact ⟨hc, hu, (pointsTo_iff_of_unanswered hl rfl hu).mp hp⟩
    · rintro ⟨hc, hu, hr⟩
      refine ⟨⟨hc, (pointsTo_iff_of_unanswered hl rfl hu).mpr hr⟩, ?_⟩
      rintro ⟨hne, hanswers⟩
      exact hu.elim hne fun hno => hno c (List.mem_of_getElem? hc) hanswers
  · have hu : Unanswered ⟨"", "", ""⟩ snapshot := Or.inl rfl
    have hno : ∀ p, ¬PointsTo ⟨"", "", ""⟩ snapshot p := by
      intro p hp
      obtain ⟨own, ho, -⟩ := (pointsTo_iff_of_unanswered hl rfl hu).mp hp
      rw [find?_of_unknown_own rfl] at ho
      cases ho
    rw [find_eq_error_iff, found?_eq_none_iff_pointsTo, length_afterNetworks]
    refine ⟨hno, ?_⟩
    rw [reachable_of_unknown_own rfl, located_of_unknown_address rfl, identified_of_unanswered hu,
      Finset.card_range]

/-- Two containers answer to no identifier, and one of them has no address in the network of the own
container; it is found. -/
theorem find_from_unknown_address_example :
    let own := Container.inNetwork "aa" "net" "10.0.0.1" ""
    let silent := Container.inNetwork "bb" "net" "" ""
    (find ⟨"zz", "", "aa"⟩ [own, silent]).outcome = .ok (silent, 1) ∧
      (find ⟨"", "", ""⟩ [own, silent]).outcome = .error ⟨2, "", ""⟩ := by
  intro own silent
  obtain ⟨hiff, hnone⟩ := find_from_unknown_address [own, silent] (by decide) "zz" "aa"
  refine ⟨((hiff silent 1).mpr ⟨rfl, Or.inr ?_, own, ?_, ?_, ?_⟩).1, hnone⟩
  · decide
  · exact List.find?_cons_of_pos (by decide)
  · exact Option.some_ne_none _
  · decide

/-- A caller is found although nothing is known of the request. -/
theorem silent_container_found :
    (find ⟨"", "", "aa"⟩ [Container.inNetwork "aa" "net" "10.0.0.1" "",
        Container.inNetwork "bb" "net" "" ""]).outcome =
      .ok (Container.inNetwork "bb" "net" "" "", 1) := by
  rfl

end CallerQuery

end TaskEndpoints
