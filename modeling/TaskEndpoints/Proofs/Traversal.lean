import Mathlib.Data.List.Forall2
import Mathlib.Data.List.Perm.Basic

/-!
# Steps over lists

A step that may fail is taken for all elements of a list, one after another. It succeeds exactly if it
does so for each of them. A search for the first result looks at each element once.
-/

namespace TaskEndpoints

variable {ε ε' α β : Type} {f : α → Except ε β} {xs : List α} {ys : List β}

theorem forall₂_of_mapM (h : xs.mapM f = .ok ys) : List.Forall₂ (fun x y => f x = .ok y) xs ys := by
  induction xs generalizing ys with
  | nil =>
      obtain rfl := Except.ok.inj h
      exact .nil
  | cons x xs ih =>
      rw [List.mapM_cons] at h
      cases hx : f x with
      | error e =>
          rw [hx] at h
          cases h
      | ok y =>
          cases hxs : xs.mapM f with
          | error e =>
              rw [hx, hxs] at h
              cases h
          | ok more =>
              rw [hx, hxs] at h
              obtain rfl := Except.ok.inj h
              exact .cons hx (ih hxs)

theorem mapM_of_forall₂ (h : List.Forall₂ (fun x y => f x = .ok y) xs ys) : xs.mapM f = .ok ys := by
  induction h with
  | nil => rfl
  | cons hx _ ih =>
      rw [List.mapM_cons, hx, ih]
      rfl

theorem mapM_eq_ok_iff : xs.mapM f = .ok ys ↔ List.Forall₂ (fun x y => f x = .ok y) xs ys :=
  ⟨forall₂_of_mapM, mapM_of_forall₂⟩

/-- What the step keeps for each element, it keeps for the list. -/
theorem forall₂_of_mapM_eq_ok {R : α → β → Prop} (hR : ∀ x ∈ xs, ∀ {y}, f x = .ok y → R x y)
    (h : xs.mapM f = .ok ys) : List.Forall₂ R xs ys :=
  ((List.forall₂_and_left _ _).mpr ⟨hR, forall₂_of_mapM h⟩).imp fun _ _ hy => hy.1 hy.2

/-- A step that succeeds for every element, with a result of some kind, has such results. -/
theorem exists_mapM_of_forall {P : β → Prop} (h : ∀ x ∈ xs, ∃ y, f x = .ok y ∧ P y) :
    ∃ ys, xs.mapM f = .ok ys ∧ ∀ y ∈ ys, P y := by
  induction xs with
  | nil => exact ⟨[], rfl, fun y hy => by cases hy⟩
  | cons x rest ih =>
      obtain ⟨y, hy, hp⟩ := h x List.mem_cons_self
      obtain ⟨ys, hys, hps⟩ := ih fun x' hx => h x' (List.mem_cons_of_mem x hx)
      exact ⟨y :: ys, mapM_of_forall₂ (.cons hy (forall₂_of_mapM hys)),
        List.forall_mem_cons.mpr ⟨hp, hps⟩⟩

theorem mapM_isOk_iff : (∃ ys, xs.mapM f = .ok ys) ↔ ∀ x ∈ xs, ∃ y, f x = .ok y := by
  constructor
  · rintro ⟨ys, hys⟩
    induction forall₂_of_mapM hys with
    | nil => exact fun x hx => by cases hx
    | cons hx hxs ih => exact List.forall_mem_cons.mpr ⟨⟨_, hx⟩, ih (mapM_of_forall₂ hxs)⟩
  · intro h
    obtain ⟨ys, hys, -⟩ := exists_mapM_of_forall (P := fun _ => True) fun x hx =>
      (h x hx).imp fun y hy => ⟨hy, trivial⟩
    exact ⟨ys, hys⟩

/-- Elements with the same results have the same results together. -/
theorem mapM_congr_of_forall₂ {zs : List α} (h : List.Forall₂ (fun x z => f x = f z) xs zs) :
    xs.mapM f = zs.mapM f := by
  induction h with
  | nil => rfl
  | cons hx hxs ih => rw [List.mapM_cons, List.mapM_cons, hx, ih]

/-- Elements in another order have their results in another order. -/
theorem exists_mapM_of_perm {zs : List α} (hp : xs.Perm zs) (h : xs.mapM f = .ok ys) :
    ∃ ws, zs.mapM f = .ok ws ∧ ys.Perm ws := by
  obtain ⟨ws, hws, hperm⟩ := List.perm_comp_forall₂ hp.symm (forall₂_of_mapM h)
  exact ⟨ws, mapM_of_forall₂ hws, hperm.symm⟩

theorem exists_related_of_mem {R : α → β → Prop} (h : List.Forall₂ R xs ys) {y : β} (hy : y ∈ ys) :
    ∃ x ∈ xs, R x y := by
  induction h with
  | nil => cases hy
  | cons hx hxs ih =>
      rcases List.mem_cons.mp hy with rfl | hy
      · exact ⟨_, List.mem_cons_self, hx⟩
      · obtain ⟨x, hx, hr⟩ := ih hy
        exact ⟨x, List.mem_cons_of_mem _ hx, hr⟩

/-- Every result comes from an element. -/
theorem exists_mem_of_mapM_eq_ok (h : xs.mapM f = .ok ys) {y : β} (hy : y ∈ ys) :
    ∃ x ∈ xs, f x = .ok y :=
  exists_related_of_mem (forall₂_of_mapM h) hy

/-- Every element has its result among the results. -/
theorem exists_result_of_mapM_eq_ok (h : xs.mapM f = .ok ys) {x : α} (hx : x ∈ xs) :
    ∃ y ∈ ys, f x = .ok y :=
  exists_related_of_mem (List.Forall₂.flip (forall₂_of_mapM h)) hx

/-- Where the step puts its errors differently, so does the whole. -/
theorem mapM_mapError {g : ε → ε'} :
    xs.mapM (fun x => (f x).mapError g) = (xs.mapM f).mapError g := by
  induction xs with
  | nil => rfl
  | cons x rest ih =>
      rw [List.mapM_cons, List.mapM_cons, ih]
      cases f x with
      | error e => rfl
      | ok y =>
          cases rest.mapM f with
          | error e => rfl
          | ok ys => rfl

/-- The first result is found without the elements that come again. -/
theorem findSome?_eraseDups {α β : Type} [DecidableEq α] (f : α → Option β) (xs : List α) :
    xs.eraseDups.findSome? f = xs.findSome? f := by
  induction hn : xs.length using Nat.strongRecOn generalizing xs with
  | ind n ih =>
      cases xs with
      | nil => rfl
      | cons x rest =>
          rw [List.eraseDups_cons, List.findSome?_cons, List.findSome?_cons]
          cases hx : f x with
          | some y => rfl
          | none =>
              have hlen : (rest.filter fun y => !y == x).length < n := by
                have hle := List.length_filter_le (fun y => !y == x) rest
                rw [← hn, List.length_cons]
                omega
              -- what is left out gives nothing, as `x` does
              have hrest : ∀ y ∈ rest, (if (!y == x) = true then f y else none) = f y := by
                intro y _
                split
                · rfl
                · rename_i hy
                  rw [show y = x by simpa using hy, hx]
              rw [ih _ hlen _ rfl, ← List.head?_filterMap, List.filterMap_filter,
                List.filterMap_congr hrest, List.head?_filterMap]

theorem bind_eq_ok_iff {x : Except ε α} {next : α → Except ε β} {b : β} :
    x >>= next = .ok b ↔ ∃ a, x = .ok a ∧ next a = .ok b := by
  cases x with
  | error e => simp [bind, Except.bind]
  | ok a => simp [bind, Except.bind]

theorem map_eq_ok_iff {x : Except ε α} {g : α → β} {b : β} :
    x.map g = .ok b ↔ ∃ a, x = .ok a ∧ g a = b := by
  cases x with
  | error e => simp [Except.map]
  | ok a => simp [Except.map]

theorem mapError_eq_ok_iff {x : Except ε α} {g : ε → ε'} {a : α} :
    x.mapError g = .ok a ↔ x = .ok a := by
  cases x with
  | error e => exact iff_of_false (fun h => by cases h) fun h => by cases h
  | ok b => exact ⟨fun h => by cases h; rfl, fun h => by cases h; rfl⟩

theorem mapError_eq_error_iff {x : Except ε α} {g : ε → ε'} {e' : ε'} :
    x.mapError g = .error e' ↔ ∃ e, x = .error e ∧ g e = e' := by
  cases x with
  | error e => simp [Except.mapError]
  | ok a => simp [Except.mapError]

end TaskEndpoints
