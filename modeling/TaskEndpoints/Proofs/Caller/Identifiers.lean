import Mathlib.Data.List.Sigma
import TaskEndpoints.Proofs.Caller.Basic

/-!
# Containers that are found by their identifiers

Identifiers of one length are found as wholes only: one is the start of another only if both are the
same. So a container is the caller of every request that names its identifier, wherever the request comes
from, as long as no other container bears this identifier in a name.
-/

namespace TaskEndpoints

/-- Every container is told from the others by its identifier alone, and the identifiers fit into paths. -/
structure SelfIdentifying (snapshot : List Container) : Prop where
  distinct : (snapshot.map (·.id)).Nodup
  length : ∃ n, 0 < n ∧ ∀ c ∈ snapshot, c.id.length = n
  plain : ∀ c ∈ snapshot, '/' ∉ c.id.toList
  /-- No name contains the identifier of another container. -/
  unnamed : ∀ c ∈ snapshot, ∀ other ∈ snapshot, other ≠ c →
    ∀ name ∈ other.names, ¬c.id.toList <:+: name.toList

namespace SelfIdentifying

variable {snapshot : List Container} {c : Container}

theorem id_ne_empty (h : SelfIdentifying snapshot) (hc : c ∈ snapshot) : c.id ≠ "" := by
  obtain ⟨n, hn, hl⟩ := h.length
  intro he
  have hlen := hl c hc
  rw [he] at hlen
  exact Nat.ne_of_lt hn hlen

/-- Only the container itself answers to its identifier. -/
theorem eq_of_answers (h : SelfIdentifying snapshot) (hc : c ∈ snapshot) {other : Container}
    (ho : other ∈ snapshot) (ha : other.Answers c.id) : other = c := by
  obtain ⟨n, -, hl⟩ := h.length
  rcases ha with hp | ⟨name, hname, hin⟩
  · have hid : c.id = other.id := by
      apply String.toList_inj.mp
      apply hp.eq_of_length
      rw [String.length_toList, String.length_toList, hl c hc, hl other ho]
    exact (List.inj_on_of_nodup_map h.distinct hc ho hid).symm
  · by_contra hne
    exact h.unnamed c hc other ho hne name hname hin

/-- The identifier leaves one candidate. -/
theorem exists_afterIdentifier (h : SelfIdentifying snapshot) (hc : c ∈ snapshot)
    (address ownId : String) :
    ∃ position, CallerQuery.afterIdentifier ⟨c.id, address, ownId⟩ snapshot = [(c, position)] := by
  obtain ⟨position, hp⟩ := List.mem_iff_getElem?.mp hc
  have hmem : (c, position) ∈ snapshot.zipIdx := List.mk_mem_zipIdx_iff_getElem?.mpr hp
  have hself : c.answersTo c.id = true :=
    (Container.answersTo_iff _ _).mpr (Or.inl (List.prefix_refl _))
  have hnodup : snapshot.zipIdx.Nodup := List.Nodup.of_map _ (List.nodup_zipIdx_map_snd snapshot)
  refine ⟨position, ?_⟩
  rw [CallerQuery.afterIdentifier, if_neg (by simpa using h.id_ne_empty hc), CallerQuery.byIdentifier,
    keepMatching_of_mem hmem hself]
  apply List.perm_singleton.mp
  refine (List.perm_ext_iff_of_nodup (hnodup.filter _) (List.nodup_singleton _)).mpr fun x => ?_
  rw [List.mem_filter, List.mem_singleton]
  constructor
  · rintro ⟨hx, ha⟩
    have hxc : x.1 = c :=
      h.eq_of_answers hc (List.fst_mem_of_mem_zipIdx hx) ((Container.answersTo_iff _ _).mp ha)
    have hxp := List.mem_zipIdx_iff_getElem?.mp hx
    have hlt := (List.getElem?_eq_some_iff.mp hxp).1
    have hposition : x.2 = position :=
      (List.getElem?_inj hlt (.of_map _ h.distinct)).mp (by rw [hxp, hp, hxc])
    exact Prod.ext hxc hposition
  · rintro rfl
    exact ⟨hmem, hself⟩

/-- A container is the caller of every request with its identifier. -/
theorem exists_find (h : SelfIdentifying snapshot) (hc : c ∈ snapshot) (address ownId : String) :
    ∃ position, (CallerQuery.find ⟨c.id, address, ownId⟩ snapshot).outcome = .ok (c, position) := by
  obtain ⟨position, hp⟩ := h.exists_afterIdentifier hc address ownId
  refine ⟨position, CallerQuery.find_eq_ok_iff.mpr ?_⟩
  rw [CallerQuery.found?, if_neg (h.id_ne_empty hc), hp]
  rfl

end SelfIdentifying

end TaskEndpoints
