import Mathlib.Data.List.Forall2
import TaskEndpoints.Caller

/-!
# Narrowing lists of candidates

`keepMatching` and `only?` read the elements of a list through a test and a count. They therefore
commute with every change of the elements that the test does not see, and with every change of order.
A bystander, one more element that fails the test, is either dropped or found in a list that no step
has narrowed yet.
-/

namespace TaskEndpoints

variable {α β : Type}

theorem keepMatching_of_mem {test : α → Bool} {xs : List α} {x : α} (hx : x ∈ xs)
    (ht : test x = true) : keepMatching test xs = xs.filter test :=
  if_pos (List.any_eq_true.mpr ⟨x, hx, ht⟩)

theorem keepMatching_of_forall {test : α → Bool} {xs : List α} (h : ∀ x ∈ xs, test x = false) :
    keepMatching test xs = xs := by
  apply if_neg
  rw [List.any_eq_true]
  rintro ⟨x, hx, ht⟩
  rw [h x hx] at ht
  exact Bool.false_ne_true ht

/-- Narrowing either filters or leaves the list as it is, because nothing in it passes. -/
theorem keepMatching_cases (test : α → Bool) (xs : List α) :
    ((∃ x ∈ xs, test x = true) ∧ keepMatching test xs = xs.filter test) ∨
      (∀ x ∈ xs, test x = false) ∧ keepMatching test xs = xs := by
  by_cases h : ∃ x ∈ xs, test x = true
  · obtain ⟨x, hx, ht⟩ := h
    exact Or.inl ⟨⟨x, hx, ht⟩, keepMatching_of_mem hx ht⟩
  · have hf : ∀ x ∈ xs, test x = false := fun x hx =>
      Bool.eq_false_iff.mpr fun ht => h ⟨x, hx, ht⟩
    exact Or.inr ⟨hf, keepMatching_of_forall hf⟩

theorem keepMatching_map {f : α → β} {test : α → Bool} {test' : β → Bool}
    (h : ∀ x, test' (f x) = test x) (xs : List α) :
    keepMatching test' (xs.map f) = (keepMatching test xs).map f := by
  have hc : test' ∘ f = test := funext h
  rw [keepMatching, keepMatching]
  rw [List.any_map, hc, List.filter_map, hc]
  split <;> rfl

theorem keepMatching_perm (test : α → Bool) {xs ys : List α} (h : xs.Perm ys) :
    (keepMatching test xs).Perm (keepMatching test ys) := by
  rw [keepMatching, keepMatching]
  rw [h.any_eq]
  split
  · exact h.filter test
  · exact h

/-- Candidates that are carried over, in any order, are narrowed alike by filtering. -/
theorem filter_perm_map {f : α → β} {test : α → Bool} {test' : β → Bool}
    (hf : ∀ x, test' (f x) = test x) {xs : List β} {ys : List α} (h : xs.Perm (ys.map f)) :
    (xs.filter test').Perm ((ys.filter test).map f) := by
  have hm : (ys.map f).filter test' = (ys.filter test).map f := by
    rw [List.filter_map, show test' ∘ f = test from funext hf]
  exact hm ▸ h.filter test'

theorem keepMatching_perm_map {f : α → β} {test : α → Bool} {test' : β → Bool}
    (hf : ∀ x, test' (f x) = test x) {xs : List β} {ys : List α} (h : xs.Perm (ys.map f)) :
    (keepMatching test' xs).Perm ((keepMatching test ys).map f) :=
  keepMatching_map hf ys ▸ keepMatching_perm test' h

/-- Two elements with the same answer to the test are kept together or dropped together. -/
theorem mem_keepMatching_congr {test : α → Bool} {xs : List α} {x y : α} (ht : test x = test y)
    (h : x ∈ xs ↔ y ∈ xs) : x ∈ keepMatching test xs ↔ y ∈ keepMatching test xs := by
  rcases keepMatching_cases test xs with ⟨-, hk⟩ | ⟨-, hk⟩
  · rw [hk, List.mem_filter, List.mem_filter, h, ht]
  · rw [hk]
    exact h

section Related

variable {R : α → β → Prop} {test : α → Bool} {test' : β → Bool} {xs : List α} {ys : List β}

theorem filter_related (ht : ∀ x y, R x y → test x = test' y) (h : List.Forall₂ R xs ys) :
    List.Forall₂ R (xs.filter test) (ys.filter test') :=
  List.rel_filter (fun x y hxy => Bool.eq_iff_iff.mp (ht x y hxy)) h

/-- Lists of related elements are narrowed alike by tests that agree. -/
theorem keepMatching_related (ht : ∀ x y, R x y → test x = test' y) (h : List.Forall₂ R xs ys) :
    List.Forall₂ R (keepMatching test xs) (keepMatching test' ys) := by
  have hany : xs.any test = ys.any test' := by
    induction h with
    | nil => rfl
    | cons hxy hrest ih => rw [List.any_cons, List.any_cons, ht _ _ hxy, ih]
  rw [keepMatching, keepMatching, hany]
  split
  · exact filter_related ht h
  · exact h

theorem find?_related (ht : ∀ x y, R x y → test x = test' y) (h : List.Forall₂ R xs ys) :
    Option.Rel R (xs.find? test) (ys.find? test') := by
  induction h with
  | nil => exact .none
  | cons hxy hrest ih =>
      rw [List.find?_cons, List.find?_cons, ht _ _ hxy]
      split
      · exact .some hxy
      · exact ih

theorem optionFilter_related (ht : ∀ x y, R x y → test x = test' y) {x : Option α} {y : Option β}
    (h : Option.Rel R x y) : Option.Rel R (x.filter test) (y.filter test') := by
  cases h with
  | none => exact .none
  | some hxy =>
      rw [Option.filter_some, Option.filter_some, ht _ _ hxy]
      split
      · exact .some hxy
      · exact .none

theorem only?_related (h : List.Forall₂ R xs ys) : Option.Rel R (only? xs) (only? ys) := by
  cases h with
  | nil => exact .none
  | cons hxy hrest =>
      cases hrest with
      | nil => exact .some hxy
      | cons => exact .none

theorem or_related {x x' : Option α} {y y' : Option β} (h : Option.Rel R x y)
    (h' : Option.Rel R x' y') : Option.Rel R (x.or x') (y.or y') := by
  cases h with
  | none => exact h'
  | some hxy => exact .some hxy

end Related

theorem only?_map (f : α → β) (xs : List α) : only? (xs.map f) = (only? xs).map f := by
  rcases xs with _ | ⟨x, _ | ⟨y, rest⟩⟩ <;> rfl

theorem only?_perm {xs ys : List α} (h : xs.Perm ys) : only? xs = only? ys := by
  apply Option.ext
  intro x
  rw [only?_eq_some_iff, only?_eq_some_iff]
  constructor
  · rintro rfl
    exact h.singleton_eq.symm
  · rintro rfl
    exact h.eq_singleton

theorem only?_perm_map {f : α → β} {xs : List β} {ys : List α} (h : xs.Perm (ys.map f)) :
    only? xs = (only? ys).map f :=
  (only?_perm h).trans (only?_map f ys)

theorem only?_of_two_le {xs : List α} (h : 2 ≤ xs.length) : only? xs = none := by
  rcases xs with _ | ⟨x, _ | ⟨y, rest⟩⟩
  · simp at h
  · simp at h
  · rfl

end TaskEndpoints
