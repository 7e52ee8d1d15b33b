import TaskEndpoints.Credentials.Vending
import TaskEndpoints.Proofs.Text.Runs
import TaskEndpoints.Proofs.Text.Split

/-!
# Resource names of roles

The name of a role is what follows the last slash of its resource name. A resource name that is given in a
path may be followed by slashes, which do not belong to it. The main statements say that what is left without
these slashes holds the name of a role exactly if it holds a slash, and that this name is never empty.

## Implementation notes

Both relations are stated by putting the texts together again, so that they say nothing of how a text is
taken apart.
-/

namespace TaskEndpoints

/-- The second text is what the first one is without the slashes at its end. -/
structure TrimsSlashes (tail arn : String) : Prop where
  slashes : ∃ n, tail.toList = arn.toList ++ List.replicate n '/'
  last : arn.toList.getLast? ≠ some '/'

/-- The name of a role follows the last slash of a resource name. -/
structure NamesRole (arn role : String) : Prop where
  arn_eq : ∃ before : String, arn = before ++ "/" ++ role
  oneSegment : '/' ∉ role.toList

variable {tail arn role : String}

/-! ### Slashes at the end -/

theorem trimsSlashes_trimArn (tail : String) : TrimsSlashes tail (Vending.trimArn tail) where
  slashes := by
    refine ⟨((tail.toList.reverse.takeWhile (· == '/')).reverse).length, ?_⟩
    have hrun : ∀ c ∈ (tail.toList.reverse.takeWhile (· == '/')).reverse, c = '/' := by
      intro c hc
      have htest := List.mem_takeWhile_imp (List.mem_reverse.mp hc)
      exact beq_iff_eq.mp htest
    rw [← List.eq_replicate_of_mem hrun, Vending.trimArn, String.toList_ofList,
      Text.dropEndWhile_append]
  last := by
    intro h
    rw [Vending.trimArn, String.toList_ofList] at h
    exact absurd (Text.getLast?_dropEndWhile _ _ _ h) (by decide)

/-- A text has one form without the slashes at its end. -/
theorem TrimsSlashes.trimArn_eq (h : TrimsSlashes tail arn) : Vending.trimArn tail = arn := by
  obtain ⟨n, hn⟩ := h.slashes
  have hrun : ∀ c ∈ List.replicate n '/', (c == '/') = true := by
    intro c hc
    exact beq_iff_eq.mpr (List.eq_of_mem_replicate hc)
  have hlast : ∀ c ∈ arn.toList.getLast?, (c == '/') = false := by
    intro c hc
    exact beq_false_of_ne fun he => h.last (he ▸ hc)
  rw [Vending.trimArn, hn, Text.dropEndWhile_run hrun hlast, String.ofList_toList]

theorem TrimsSlashes.unique {other : String} (h : TrimsSlashes tail arn) (h' : TrimsSlashes tail other) :
    arn = other :=
  h.trimArn_eq.symm.trans h'.trimArn_eq

/-- Further slashes at the end change nothing. -/
theorem TrimsSlashes.append_slashes (h : TrimsSlashes tail arn) (n : Nat) :
    TrimsSlashes (tail ++ String.ofList (List.replicate n '/')) arn where
  slashes := by
    obtain ⟨m, hm⟩ := h.slashes
    refine ⟨m + n, ?_⟩
    rw [String.toList_append, String.toList_ofList, hm, List.append_assoc,
      List.replicate_append_replicate]
  last := h.last

/-! ### What follows the last slash -/

theorem exists_namesRole (h : '/' ∈ arn.toList) : ∃ role, NamesRole arn role := by
  -- the last slash is the first one of the reversed text
  obtain ⟨after, before, hsplit, hnot⟩ := List.eq_append_cons_of_mem (List.mem_reverse.mpr h)
  refine ⟨String.ofList after.reverse, ⟨String.ofList before.reverse, ?_⟩, ?_⟩
  · apply String.toList_inj.mp
    have harn := congrArg List.reverse hsplit
    rw [List.reverse_reverse] at harn
    rw [harn]
    simp
  · rw [String.toList_ofList, List.mem_reverse]
    exact hnot

theorem NamesRole.slash_mem (h : NamesRole arn role) : '/' ∈ arn.toList := by
  obtain ⟨before, rfl⟩ := h.arn_eq
  simp

/-- What ends in no slash names a role that is not empty. -/
theorem NamesRole.ne_empty (h : NamesRole arn role) (hlast : arn.toList.getLast? ≠ some '/') :
    role ≠ "" := by
  rintro rfl
  obtain ⟨before, rfl⟩ := h.arn_eq
  apply hlast
  simp

/-- A resource name that ends in the name of a role has no slash behind it. -/
theorem NamesRole.trimsSlashes (h : NamesRole arn role) (hne : role ≠ "") : TrimsSlashes arn arn where
  slashes := ⟨0, (List.append_nil _).symm⟩
  last := by
    intro hlast
    obtain ⟨before, rfl⟩ := h.arn_eq
    rw [String.toList_append, List.getLast?_append] at hlast
    cases hrole : role.toList.getLast? with
    | none => exact hne (String.toList_eq_nil_iff.mp (List.getLast?_eq_none_iff.mp hrole))
    | some c =>
        rw [hrole] at hlast
        exact h.oneSegment (List.mem_of_getLast? (hrole.trans hlast))

theorem NamesRole.roleName?_eq (h : NamesRole arn role) (hne : role ≠ "") :
    Vending.roleName? arn = some role := by
  obtain ⟨before, harn⟩ := h.arn_eq
  have hlist : arn.toList = before.toList ++ '/' :: role.toList := by
    rw [harn]
    simp
  have hrole : role.toList.isEmpty = false := by simpa using hne
  have hpieces : (Text.splitAtEvery '/' arn.toList).reverse =
      role.toList :: (Text.splitAtEvery '/' before.toList).reverse := by
    rw [hlist, Text.splitAtEvery_append_cons, Text.splitAtEvery_of_not_mem h.oneSegment,
      List.reverse_append, List.reverse_singleton, List.singleton_append]
  rw [Vending.roleName?, hpieces]
  cases hfront : (Text.splitAtEvery '/' before.toList).reverse with
  | nil => exact absurd (List.reverse_eq_nil_iff.mp hfront) (Text.splitAtEvery_ne_nil '/' _)
  | cons piece front => simp [hrole]

/-- A resource name names one role. -/
theorem NamesRole.unique {other : String} (h : NamesRole arn role) (h' : NamesRole arn other)
    (hlast : arn.toList.getLast? ≠ some '/') : role = other :=
  Option.some.inj ((h.roleName?_eq (h.ne_empty hlast)).symm.trans (h'.roleName?_eq (h'.ne_empty hlast)))

/-- Without a slash there is no name of a role. -/
theorem roleName?_eq_none (h : '/' ∉ arn.toList) : Vending.roleName? arn = none := by
  rw [Vending.roleName?, Text.splitAtEvery_of_not_mem h]
  rfl

/-! ### Names of sessions -/

/-- The name of a session is a word of the service and the name of the role, cut to a length. -/
theorem toList_sessionName (role : String) :
    (Vending.sessionName role).toList = ("ecs-local-" ++ role).toList.take 64 := by
  rw [Vending.sessionName, Text.cut, String.toList_ofList]
  exact List.take_eq_take_iff.mpr (by simp [Text.keptBy, Vending.sessionNameLength])

end TaskEndpoints
