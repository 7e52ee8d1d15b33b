import Mathlib.Data.Finset.Card
import Mathlib.Data.List.Sigma
import TaskEndpoints.Proofs.Caller.Basic

/-!
# The caller by sets of positions

The search is described without lists: each step narrows a set of positions in the snapshot, and the
caller stands at the only position of the set in which a step ends. The main statement says that the
search finds exactly this caller, and that otherwise it reports the size of the last set.

## Implementation notes

Sets of positions rather than of containers count a container twice that is listed twice.
-/

namespace TaskEndpoints

/-- The positions of the containers with a property. -/
def placesWhere (snapshot : List Container) (P : Container → Prop) [DecidablePred P] : Finset Nat :=
  {p ∈ Finset.range snapshot.length | ∃ c ∈ snapshot[p]?, P c}

namespace CallerQuery

variable (q : CallerQuery) (snapshot : List Container)

/-- The positions after the identifier of the request is looked for: those that answer to it, or all
positions if there is no identifier or none answers. -/
def identified : Finset Nat :=
  let answering := placesWhere snapshot (Container.Answers q.identifier)
  if q.identifier ≠ "" ∧ answering.Nonempty then answering else Finset.range snapshot.length

/-- The positions after the address of the request is looked for. -/
def located : Finset Nat :=
  let addressed := q.identified snapshot ∩ placesWhere snapshot (Container.Addressed q.address)
  if q.address ≠ "" ∧ addressed.Nonempty then addressed else q.identified snapshot

/-- The positions that the request could have come from through the networks of the own container. -/
def reachable : Finset Nat :=
  match snapshot.find? fun c => q.ownId ≠ "" ∧ q.ownId.toList <+: c.id.toList with
  | none => q.located snapshot
  | some own =>
    if own.networks = none then q.located snapshot
    else q.located snapshot ∩ placesWhere snapshot (own.Reaches q.address)

/-- The caller stands at a position: the only one after the first or the second step, if that step is
taken, or the only one after the last step if neither of the two has ended in one position. -/
def PointsTo (p : Nat) : Prop :=
  (q.identifier ≠ "" ∧ q.identified snapshot = {p}) ∨
    (q.address ≠ "" ∧ q.located snapshot = {p}) ∨
    q.reachable snapshot = {p} ∧
      ∀ p', ¬(q.identifier ≠ "" ∧ q.identified snapshot = {p'}) ∧
        ¬(q.address ≠ "" ∧ q.located snapshot = {p'})

end CallerQuery

/-- The positions of candidates. -/
def places (cs : List Listed) : Finset Nat := (cs.map Prod.snd).toFinset

section Places

variable {snapshot : List Container} {cs : List Listed} {p : Nat}

theorem mem_placesWhere_iff {P : Container → Prop} [DecidablePred P] :
    p ∈ placesWhere snapshot P ↔ ∃ c, snapshot[p]? = some c ∧ P c := by
  rw [placesWhere, Finset.mem_filter, Finset.mem_range]
  constructor
  · rintro ⟨-, c, hc, hp⟩
    exact ⟨c, hc, hp⟩
  · rintro ⟨c, hc, hp⟩
    exact ⟨(List.getElem?_eq_some_iff.mp hc).1, c, hc, hp⟩

theorem mem_places_iff : p ∈ places cs ↔ ∃ c, (c, p) ∈ cs := by
  rw [places, List.mem_toFinset, List.mem_map]
  constructor
  · rintro ⟨x, hx, rfl⟩
    exact ⟨x.1, hx⟩
  · rintro ⟨c, hc⟩
    exact ⟨(c, p), hc, rfl⟩

theorem places_zipIdx : places snapshot.zipIdx = Finset.range snapshot.length := by
  ext p
  rw [mem_places_iff, Finset.mem_range]
  constructor
  · rintro ⟨c, hc⟩
    exact (List.getElem?_eq_some_iff.mp (List.mk_mem_zipIdx_iff_getElem?.mp hc)).1
  · intro hp
    exact ⟨snapshot[p], List.mk_mem_zipIdx_iff_getElem?.mpr (List.getElem?_eq_getElem hp)⟩

/-- Candidates stand at distinct positions, so that they and their positions are as many. -/
theorem card_places (hs : cs.Sublist snapshot.zipIdx) : (places cs).card = cs.length := by
  have hn : (cs.map Prod.snd).Nodup := (hs.map Prod.snd).nodup (List.nodup_zipIdx_map_snd snapshot)
  rw [places, List.toFinset_card_of_nodup hn, List.length_map]

theorem eq_singleton_iff_places {c : Container} (hs : cs.Sublist snapshot.zipIdx) :
    cs = [(c, p)] ↔ snapshot[p]? = some c ∧ places cs = {p} := by
  constructor
  · rintro rfl
    exact ⟨List.mk_mem_zipIdx_iff_getElem?.mp (hs.subset (List.mem_singleton_self _)), rfl⟩
  · rintro ⟨hc, hp⟩
    obtain ⟨x, rfl⟩ : ∃ x, cs = [x] := by
      rw [← List.length_eq_one_iff, ← card_places hs, hp, Finset.card_singleton]
    have hx : snapshot[x.2]? = some x.1 :=
      List.mem_zipIdx_iff_getElem?.mp (hs.subset (List.mem_singleton_self x))
    have hxp : x.2 = p := Finset.singleton_injective hp
    rw [hxp, hc] at hx
    exact congrArg (fun y => [y]) (Prod.ext (Option.some.inj hx).symm hxp)

theorem places_filter {test : Container → Bool} {P : Container → Prop} [DecidablePred P]
    (ht : ∀ c, test c = true ↔ P c) (hs : cs.Sublist snapshot.zipIdx) :
    places (cs.filter fun x => test x.1) = places cs ∩ placesWhere snapshot P := by
  ext p
  rw [Finset.mem_inter, mem_places_iff, mem_places_iff, mem_placesWhere_iff]
  constructor
  · rintro ⟨c, hc⟩
    obtain ⟨hc, hp⟩ := List.mem_filter.mp hc
    exact ⟨⟨c, hc⟩, c, List.mk_mem_zipIdx_iff_getElem?.mp (hs.subset hc), (ht c).mp hp⟩
  · rintro ⟨⟨c, hc⟩, c', hc', hp⟩
    have hcc : snapshot[p]? = some c := List.mk_mem_zipIdx_iff_getElem?.mp (hs.subset hc)
    obtain rfl : c = c' := Option.some.inj (hcc.symm.trans hc')
    exact ⟨c, List.mem_filter.mpr ⟨hc, (ht c).mpr hp⟩⟩

theorem places_nonempty_iff : (places cs).Nonempty ↔ ∃ x, x ∈ cs := by
  constructor
  · rintro ⟨p, hp⟩
    obtain ⟨c, hc⟩ := mem_places_iff.mp hp
    exact ⟨(c, p), hc⟩
  · rintro ⟨x, hx⟩
    exact ⟨x.2, mem_places_iff.mpr ⟨x.1, hx⟩⟩

/-- A step that looks for a word narrows the positions if there is a word and one of them passes. -/
theorem places_step (word : String) {test : Container → Bool} {P : Container → Prop}
    [DecidablePred P] (ht : ∀ c, test c = true ↔ P c) (hs : cs.Sublist snapshot.zipIdx) :
    places (if word.isEmpty then cs else keepMatching (fun x => test x.1) cs) =
      if word ≠ "" ∧ (places cs ∩ placesWhere snapshot P).Nonempty
      then places cs ∩ placesWhere snapshot P else places cs := by
  have hf := places_filter ht hs
  by_cases hw : word = ""
  · rw [if_pos (String.isEmpty_iff.mpr hw), if_neg (fun h => h.1 hw)]
  · rw [if_neg (fun h => hw (String.isEmpty_iff.mp h))]
    rcases keepMatching_cases (fun x : Listed => test x.1) cs with ⟨⟨x, hx, hp⟩, hk⟩ | ⟨hn, hk⟩
    · have hne : (places (cs.filter fun x => test x.1)).Nonempty :=
        places_nonempty_iff.mpr ⟨x, List.mem_filter.mpr ⟨hx, hp⟩⟩
      rw [hk, hf, if_pos ⟨hw, hf ▸ hne⟩]
    · rw [hk, if_neg]
      rintro ⟨-, hne⟩
      obtain ⟨x, hx⟩ := places_nonempty_iff.mp (hf ▸ hne)
      obtain ⟨hx, hp⟩ := List.mem_filter.mp hx
      rw [hn x hx] at hp
      exact Bool.false_ne_true hp

theorem exists_getElem?_of_places_eq (hs : cs.Sublist snapshot.zipIdx) (hp : places cs = {p}) :
    ∃ c, snapshot[p]? = some c := by
  have hmem : p ∈ places cs := hp ▸ Finset.mem_singleton_self p
  obtain ⟨c, hc⟩ := mem_places_iff.mp hmem
  exact ⟨c, List.mk_mem_zipIdx_iff_getElem?.mp (hs.subset hc)⟩

theorem only?_eq_some_iff_places {c : Container} (hs : cs.Sublist snapshot.zipIdx) :
    only? cs = some (c, p) ↔ snapshot[p]? = some c ∧ places cs = {p} := by
  rw [only?_eq_some_iff]
  exact eq_singleton_iff_places hs

theorem only?_eq_none_iff_places (hs : cs.Sublist snapshot.zipIdx) :
    only? cs = none ↔ ∀ p, places cs ≠ {p} := by
  constructor
  · intro h p hp
    obtain ⟨c, hc⟩ := exists_getElem?_of_places_eq hs hp
    rw [(only?_eq_some_iff_places hs).mpr ⟨hc, hp⟩] at h
    cases h
  · intro h
    cases ho : only? cs with
    | none => rfl
    | some x => exact absurd ((only?_eq_some_iff_places hs).mp ho).2 (h x.2)

end Places

namespace CallerQuery

variable {q : CallerQuery} {snapshot : List Container}

theorem places_afterIdentifier : places (q.afterIdentifier snapshot) = q.identified snapshot := by
  have hr : Finset.range snapshot.length ∩ placesWhere snapshot (Container.Answers q.identifier) =
      placesWhere snapshot (Container.Answers q.identifier) :=
    Finset.inter_eq_right.mpr (Finset.filter_subset _ _)
  have h := places_step q.identifier (Container.answersTo_iff q.identifier)
    (List.Sublist.refl snapshot.zipIdx)
  rw [places_zipIdx, hr] at h
  exact h

theorem places_afterAddress : places (q.afterAddress snapshot) = q.located snapshot := by
  have h := places_step q.address (Container.hasAddress_iff q.address)
    (q.afterIdentifier_sublist snapshot)
  rw [places_afterIdentifier] at h
  exact h

theorem places_afterNetworks : places (q.afterNetworks snapshot) = q.reachable snapshot := by
  rw [afterNetworks, reachable, Container.own?_eq_find?]
  cases snapshot.find? fun c => decide (q.ownId ≠ "" ∧ q.ownId.toList <+: c.id.toList) with
  | none => exact places_afterAddress
  | some own =>
      cases hn : own.networks with
      | none =>
          rw [Option.filter_some_neg (by simp [hn])]
          exact places_afterAddress.trans (if_pos hn).symm
      | some networks =>
          rw [Option.filter_some_pos (by simp [hn])]
          have hne : own.networks ≠ none := by simp [hn]
          refine Eq.trans ?_ (if_neg hne).symm
          rw [← places_afterAddress]
          exact places_filter (own.reachedThrough_iff q.address) (q.afterAddress_sublist snapshot)

theorem located_subset_identified (q : CallerQuery) (snapshot : List Container) :
    q.located snapshot ⊆ q.identified snapshot := by
  intro p hp
  rw [← places_afterAddress] at hp
  rw [← places_afterIdentifier]
  obtain ⟨c, hc⟩ := mem_places_iff.mp hp
  exact mem_places_iff.mpr ⟨c, (q.afterAddress_sublist_afterIdentifier snapshot).subset hc⟩

/-- A step that is taken only for a word decides for the only position, if there is a word. -/
theorem early_eq_some_iff {cs : List Listed} (hs : cs.Sublist snapshot.zipIdx) (word : String)
    {c : Container} {p : Nat} : (if word = "" then none else only? cs) = some (c, p) ↔
      snapshot[p]? = some c ∧ word ≠ "" ∧ places cs = {p} := by
  by_cases hw : word = ""
  · simp [hw]
  · rw [if_neg hw, only?_eq_some_iff_places hs]
    simp [hw]

theorem early_eq_none_iff {cs : List Listed} (hs : cs.Sublist snapshot.zipIdx) (word : String) :
    (if word = "" then none else only? cs) = none ↔ ∀ p, ¬(word ≠ "" ∧ places cs = {p}) := by
  by_cases hw : word = ""
  · simp [hw]
  · rw [if_neg hw, only?_eq_none_iff_places hs]
    simp [hw]

theorem exists_getElem?_of_pointsTo {p : Nat} (h : q.PointsTo snapshot p) :
    ∃ c, snapshot[p]? = some c := by
  rcases h with ⟨-, h⟩ | ⟨-, h⟩ | ⟨h, -⟩
  · exact exists_getElem?_of_places_eq (q.afterIdentifier_sublist snapshot)
      (places_afterIdentifier.trans h)
  · exact exists_getElem?_of_places_eq (q.afterAddress_sublist snapshot)
      (places_afterAddress.trans h)
  · exact exists_getElem?_of_places_eq (q.afterNetworks_sublist snapshot)
      (places_afterNetworks.trans h)

/-- The step that decides first is the one that the sets of positions tell. -/
theorem found?_eq_some_iff_pointsTo {c : Container} {p : Nat} :
    q.found? snapshot = some (c, p) ↔ snapshot[p]? = some c ∧ q.PointsTo snapshot p := by
  have hs₁ := q.afterIdentifier_sublist snapshot
  have hs₂ := q.afterAddress_sublist snapshot
  have hs₃ := q.afterNetworks_sublist snapshot
  rw [found?, PointsTo, Option.or_eq_some_iff, Option.or_eq_some_iff, early_eq_some_iff hs₁,
    early_eq_some_iff hs₂, early_eq_none_iff hs₁, early_eq_none_iff hs₂, only?_eq_some_iff_places hs₃,
    places_afterIdentifier, places_afterAddress, places_afterNetworks, forall_and]
  constructor
  · rintro (⟨hc, h⟩ | ⟨hn₁, ⟨hc, h⟩ | ⟨hn₂, hc, h⟩⟩)
    · exact ⟨hc, Or.inl h⟩
    · exact ⟨hc, Or.inr (Or.inl h)⟩
    · exact ⟨hc, Or.inr (Or.inr ⟨h, hn₁, hn₂⟩)⟩
  · rintro ⟨hc, h | h | ⟨h, hn₁, hn₂⟩⟩
    · exact Or.inl ⟨hc, h⟩
    · -- The first step may have decided already; then it was for the same position.
      by_cases hn₁ : ∀ p', ¬(q.identifier ≠ "" ∧ q.identified snapshot = {p'})
      · exact Or.inr ⟨hn₁, Or.inl ⟨hc, h⟩⟩
      · push Not at hn₁
        obtain ⟨p', hi, hp'⟩ := hn₁
        have hsub := q.located_subset_identified snapshot
        rw [hp', h.2] at hsub
        obtain rfl : p = p' := Finset.mem_singleton.mp (hsub (Finset.mem_singleton_self p))
        exact Or.inl ⟨hc, hi, hp'⟩
    · exact Or.inr ⟨hn₁, Or.inr ⟨hn₂, hc, h⟩⟩

theorem found?_eq_none_iff_pointsTo :
    q.found? snapshot = none ↔ ∀ p, ¬q.PointsTo snapshot p := by
  constructor
  · intro h p hp
    obtain ⟨c, hc⟩ := exists_getElem?_of_pointsTo hp
    rw [found?_eq_some_iff_pointsTo.mpr ⟨hc, hp⟩] at h
    cases h
  · intro h
    cases hf : q.found? snapshot with
    | none => rfl
    | some x => exact absurd (found?_eq_some_iff_pointsTo.mp hf).2 (h x.2)

theorem length_afterNetworks :
    (q.afterNetworks snapshot).length = (q.reachable snapshot).card := by
  rw [← places_afterNetworks]
  exact (card_places (q.afterNetworks_sublist snapshot)).symm

/-- The search returns the container at a position if and only if the sets of positions point to it. If
they point to none, it fails and reports how many positions are left. -/
theorem find_outcome_iff_pointsTo (q : CallerQuery) (snapshot : List Container) :
    (∀ c p, (q.find snapshot).outcome = .ok (c, p) ↔
      snapshot[p]? = some c ∧ q.PointsTo snapshot p) ∧
    ∀ e, (q.find snapshot).outcome = .error e ↔ (∀ p, ¬q.PointsTo snapshot p) ∧
      e = ⟨(q.reachable snapshot).card, q.identifier, q.address⟩ := by
  constructor
  · intro c p
    rw [find_eq_ok_iff, found?_eq_some_iff_pointsTo]
  · intro e
    rw [find_eq_error_iff, found?_eq_none_iff_pointsTo, length_afterNetworks]

end CallerQuery

end TaskEndpoints
