import TaskEndpoints.Proofs.Caller.Basic

/-!
# No choice among equal candidates

Two containers at different positions that pass the same tests are kept together or dropped together
by every step, so neither of them is ever the only candidate. The main statement says that the search
then returns neither of them and no container that equals one of them.
-/

namespace TaskEndpoints

namespace CallerQuery

/-- Two containers give the same answers to the tests of the search. -/
def Alike (q : CallerQuery) (snapshot : List Container) (a b : Container) : Prop :=
  (a.Answers q.identifier ↔ b.Answers q.identifier) ∧
    (a.Addressed q.address ↔ b.Addressed q.address) ∧
    ∀ own, Container.own? snapshot q.ownId = some own →
      (own.Reaches q.address a ↔ own.Reaches q.address b)

variable {q : CallerQuery} {snapshot : List Container} {a b : Container} {i j : Nat}

theorem Alike.symm (h : q.Alike snapshot a b) : q.Alike snapshot b a :=
  ⟨h.1.symm, h.2.1.symm, fun own ho => (h.2.2 own ho).symm⟩

/-- Containers with the same identifier, names and networks are alike for every request. -/
theorem alike_of_eq (hid : a.id = b.id) (hnames : a.names = b.names)
    (hnet : Option.Rel List.Perm a.networks b.networks) : q.Alike snapshot a b := by
  refine ⟨?_, Container.hasAttachment_congr hnet, fun own _ => Container.hasAttachment_congr hnet⟩
  rw [Container.Answers, Container.Answers, hid, hnames]

theorem alike_of_same (h : a.Same b) : q.Alike snapshot a b :=
  alike_of_eq h.id_eq h.names_eq h.networks_rel

theorem mem_afterIdentifier_congr (h : q.Alike snapshot a b) (hi : snapshot[i]? = some a)
    (hj : snapshot[j]? = some b) :
    (a, i) ∈ q.afterIdentifier snapshot ↔ (b, j) ∈ q.afterIdentifier snapshot := by
  have hz : (a, i) ∈ snapshot.zipIdx ↔ (b, j) ∈ snapshot.zipIdx :=
    iff_of_true (List.mk_mem_zipIdx_iff_getElem?.mpr hi) (List.mk_mem_zipIdx_iff_getElem?.mpr hj)
  rw [afterIdentifier]
  split
  · exact hz
  · apply mem_keepMatching_congr _ hz
    rw [Bool.eq_iff_iff, Container.answersTo_iff, Container.answersTo_iff]
    exact h.1

theorem mem_afterAddress_congr (h : q.Alike snapshot a b) (hi : snapshot[i]? = some a)
    (hj : snapshot[j]? = some b) :
    (a, i) ∈ q.afterAddress snapshot ↔ (b, j) ∈ q.afterAddress snapshot := by
  have hid := mem_afterIdentifier_congr h hi hj
  rw [afterAddress]
  split
  · exact hid
  · apply mem_keepMatching_congr _ hid
    rw [Bool.eq_iff_iff, Container.hasAddress_iff, Container.hasAddress_iff]
    exact h.2.1

theorem mem_afterNetworks_congr (h : q.Alike snapshot a b) (hi : snapshot[i]? = some a)
    (hj : snapshot[j]? = some b) :
    (a, i) ∈ q.afterNetworks snapshot ↔ (b, j) ∈ q.afterNetworks snapshot := by
  have ha := mem_afterAddress_congr h hi hj
  rw [afterNetworks]
  split
  · exact ha
  · rename_i own ho
    have hown : Container.own? snapshot q.ownId = some own := (Option.filter_eq_some_iff.mp ho).1
    rw [List.mem_filter, List.mem_filter, ha, Container.reachedThrough_iff,
      Container.reachedThrough_iff, h.2.2 own hown]

/-- Neither of two that come together is the only one. -/
theorem ne_of_mem_singleton_congr {α : Type} {x y z : α} (hxy : x ≠ y)
    (h : x ∈ [z] ↔ y ∈ [z]) : z ≠ x := by
  rintro rfl
  exact hxy (List.mem_singleton.mp (h.mp (List.mem_singleton_self z))).symm

theorem found?_ne_of_alike (hij : i ≠ j) (hi : snapshot[i]? = some a) (hj : snapshot[j]? = some b)
    (h : q.Alike snapshot a b) {caller : Listed} (hc : q.found? snapshot = some caller) :
    caller ≠ (a, i) := by
  have hne : (a, i) ≠ (b, j) := fun he => hij (congrArg Prod.snd he)
  rcases found?_eq_some_cases hc with hs | hs | hs
  · exact ne_of_mem_singleton_congr hne (hs ▸ mem_afterIdentifier_congr h hi hj)
  · exact ne_of_mem_singleton_congr hne (hs ▸ mem_afterAddress_congr h hi hj)
  · exact ne_of_mem_singleton_congr hne (hs ▸ mem_afterNetworks_congr h hi hj)

/-- Of two containers at different positions that answer alike, in particular of two that are listed with
the same identifier, names and networks, the search returns neither, nor a container equal to one. -/
theorem equal_candidates_never_found (q : CallerQuery) (snapshot : List Container) {i j : Nat}
    {a b : Container} (hij : i ≠ j) (hi : snapshot[i]? = some a) (hj : snapshot[j]? = some b)
    (h : q.Alike snapshot a b ∨
      a.id = b.id ∧ a.names = b.names ∧ Option.Rel List.Perm a.networks b.networks)
    {c : Container} {p : Nat} (hc : (q.find snapshot).outcome = .ok (c, p)) :
    p ≠ i ∧ p ≠ j ∧ ¬c.Same a ∧ ¬c.Same b := by
  have hab : q.Alike snapshot a b := h.elim id fun ⟨hid, hnames, hnet⟩ =>
    alike_of_eq hid hnames hnet
  rw [find_eq_ok_iff] at hc
  have hp : snapshot[p]? = some c := List.mk_mem_zipIdx_iff_getElem?.mp (mem_zipIdx_of_found? hc)
  have hpi : p ≠ i := by
    rintro rfl
    obtain rfl : c = a := Option.some.inj (hp.symm.trans hi)
    exact found?_ne_of_alike hij hi hj hab hc rfl
  have hpj : p ≠ j := by
    rintro rfl
    obtain rfl : c = b := Option.some.inj (hp.symm.trans hj)
    exact found?_ne_of_alike hij.symm hj hi hab.symm hc rfl
  -- A container that equals one of the two would itself be one of two that are alike.
  refine ⟨hpi, hpj, fun hs => ?_, fun hs => ?_⟩
  · exact found?_ne_of_alike hpi hp hi (alike_of_same hs) hc rfl
  · exact found?_ne_of_alike hpj hp hj (alike_of_same hs) hc rfl

/-- The second and third container answer alike, and the first is found by its address. -/
theorem equal_candidates_never_found_example :
    let web := Container.inNetwork "shop1" "front" "10.0.0.2" "shop"
    let twin := Container.inNetwork "shop2" "front" "10.0.0.3" "shop"
    let other := Container.inNetwork "shop3" "back" "10.0.1.3" "shop"
    let q : CallerQuery := ⟨"shop", "10.0.0.2", "local"⟩
    (q.find [web, twin, other]).outcome = .ok (web, 0) ∧
      0 ≠ 1 ∧ 0 ≠ 2 ∧ ¬web.Same twin ∧ ¬web.Same other := by
  intro web twin other q
  have hc : (q.find [web, twin, other]).outcome = .ok (web, 0) := by
    rw [find_eq_ok_iff]
    decide
  have hown : Container.own? [web, twin, other] q.ownId = none := by decide
  have hab : q.Alike [web, twin, other] twin other := by
    refine ⟨by decide, by decide, fun own ho => ?_⟩
    rw [hown] at ho
    cases ho
  exact ⟨hc, equal_candidates_never_found q [web, twin, other] (by decide : 1 ≠ 2) rfl rfl
    (Or.inl hab) hc⟩

end CallerQuery

end TaskEndpoints
