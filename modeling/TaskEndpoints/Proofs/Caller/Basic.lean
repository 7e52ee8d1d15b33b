import Mathlib.Data.List.Infix
import TaskEndpoints.LocalTask
import TaskEndpoints.Proofs.Candidates

/-!
# What the search for a caller comes to

Each test of the search is a relation between texts, stated here without the test. The search itself
comes to three lists of candidates, one for each step, and to the first step that decides.

## Implementation notes

`CallerQuery.found?` and `LocalTask.membersFor` leave out the journal, on which neither the caller nor
its task depends.
-/

namespace TaskEndpoints

namespace Container

/-- Some network of the container that has settings satisfies a property of its name and settings. -/
def HasAttachment (P : String → Attachment → Prop) (c : Container) : Prop :=
  ∃ networks ∈ c.networks, ∃ n ∈ networks, ∃ a ∈ n.2, P n.1 a

instance (P : String → Attachment → Prop) [∀ name a, Decidable (P name a)] (c : Container) :
    Decidable (c.HasAttachment P) :=
  inferInstanceAs (Decidable (∃ networks ∈ c.networks, ∃ n ∈ networks, ∃ a ∈ n.2, P n.1 a))

/-- The identifier starts with a text, or the text occurs in a name. -/
def Answers (identifier : String) (c : Container) : Prop :=
  identifier.toList <+: c.id.toList ∨ ∃ name ∈ c.names, identifier.toList <:+: name.toList

/-- A network gives the container an address. -/
def Addressed (address : String) (c : Container) : Prop :=
  c.HasAttachment fun _ a => a.address = address

/-- A word is the name of a network of the container or a further name of the container in it. -/
def KnownAs (word : String) (c : Container) : Prop :=
  c.HasAttachment fun name a => word = name ∨ word ∈ a.aliases

/-- One attachment has the address and a name under which a network of the other container is known. -/
def Reaches (own : Container) (address : String) (c : Container) : Prop :=
  c.HasAttachment fun name a => a.address = address ∧ ∃ word ∈ name :: a.aliases, own.KnownAs word

instance (identifier : String) : DecidablePred (Answers identifier) := fun c =>
  inferInstanceAs (Decidable (identifier.toList <+: c.id.toList ∨
    ∃ name ∈ c.names, identifier.toList <:+: name.toList))

instance (address : String) : DecidablePred (Addressed address) := fun c =>
  inferInstanceAs (Decidable (c.HasAttachment fun _ a => a.address = address))

instance (word : String) : DecidablePred (KnownAs word) := fun c =>
  inferInstanceAs (Decidable (c.HasAttachment fun name a => word = name ∨ word ∈ a.aliases))

instance (own : Container) (address : String) : DecidablePred (Reaches own address) := fun c =>
  inferInstanceAs (Decidable (c.HasAttachment fun name a =>
    a.address = address ∧ ∃ word ∈ name :: a.aliases, own.KnownAs word))

theorem mem_attachments_iff {c : Container} {name : String} {a : Attachment} :
    (name, a) ∈ c.attachments ↔ ∃ networks ∈ c.networks, (name, some a) ∈ networks := by
  rw [attachments]
  cases c.networks with
  | none => simp
  | some networks =>
      rw [Option.getD_some, List.mem_filterMap]
      constructor
      · rintro ⟨⟨name', settings⟩, hm, hs⟩
        obtain ⟨a', rfl, he⟩ := Option.map_eq_some_iff.mp hs
        obtain ⟨rfl, rfl⟩ := Prod.mk.inj he
        exact ⟨networks, rfl, hm⟩
      · rintro ⟨networks', hn, hm⟩
        obtain rfl := Option.mem_some_iff.mp hn
        exact ⟨(name, some a), hm, rfl⟩

theorem hasAttachment_iff {P : String → Attachment → Prop} {c : Container} :
    c.HasAttachment P ↔ ∃ x ∈ c.attachments, P x.1 x.2 := by
  constructor
  · rintro ⟨networks, hn, ⟨name, settings⟩, hm, a, ha, hp⟩
    obtain rfl : settings = some a := ha
    exact ⟨(name, a), mem_attachments_iff.mpr ⟨networks, hn, hm⟩, hp⟩
  · rintro ⟨⟨name, a⟩, hx, hp⟩
    obtain ⟨networks, hn, hm⟩ := mem_attachments_iff.mp hx
    exact ⟨networks, hn, (name, some a), hm, a, rfl, hp⟩

/-- The order of the networks carries no meaning. -/
theorem hasAttachment_congr {P : String → Attachment → Prop} {a b : Container}
    (h : Option.Rel List.Perm a.networks b.networks) : a.HasAttachment P ↔ b.HasAttachment P := by
  rw [HasAttachment, HasAttachment]
  generalize a.networks = xs at h
  generalize b.networks = ys at h
  cases h with
  | none => exact Iff.rfl
  | some h => simp only [Option.mem_some_iff, exists_eq_left', h.mem_iff]

theorem HasAttachment.mono {P Q : String → Attachment → Prop} {c : Container}
    (hpq : ∀ name a, P name a → Q name a) : c.HasAttachment P → c.HasAttachment Q := by
  rintro ⟨networks, hn, n, hm, a, ha, hp⟩
  exact ⟨networks, hn, n, hm, a, ha, hpq n.1 a hp⟩

/-- Who can be reached with an address has it. -/
theorem addressed_of_reaches {own c : Container} {address : String} :
    own.Reaches address c → c.Addressed address :=
  HasAttachment.mono fun _ _ h => h.1

theorem answersTo_iff (identifier : String) (c : Container) :
    c.answersTo identifier = true ↔ c.Answers identifier := by
  simp only [answersTo, Answers, Bool.or_eq_true, List.any_eq_true, Text.startsWith_iff,
    Text.contains_iff]

theorem hasAddress_iff (address : String) (c : Container) :
    c.hasAddress address = true ↔ c.Addressed address := by
  simp only [hasAddress, Addressed, hasAttachment_iff, List.any_eq_true, beq_iff_eq]

theorem mem_networkNames_iff {word : String} {own : Container} :
    word ∈ own.networkNames ↔ own.KnownAs word := by
  simp only [networkNames, KnownAs, hasAttachment_iff, List.mem_flatMap, List.mem_cons]

theorem reachedThrough_iff (own : Container) (address : String) (c : Container) :
    c.reachedThrough own.networkNames address = true ↔ own.Reaches address c := by
  simp only [reachedThrough, Reaches, hasAttachment_iff, List.any_eq_true, Bool.and_eq_true,
    List.contains_iff_mem, mem_networkNames_iff, beq_iff_eq]
  constructor
  · rintro ⟨x, hx, hw, ha⟩
    exact ⟨x, hx, ha, hw⟩
  · rintro ⟨x, hx, ha, hw⟩
    exact ⟨x, hx, hw, ha⟩

/-- The own container is the first one whose identifier starts with a text that is not empty. -/
theorem own?_eq_find? (snapshot : List Container) (ownId : String) :
    own? snapshot ownId =
      snapshot.find? fun c => ownId ≠ "" ∧ ownId.toList <+: c.id.toList := by
  rw [own?]
  by_cases h : ownId = ""
  · subst h
    exact (List.find?_eq_none.mpr fun c _ => by simp).symm
  · rw [if_neg (by simpa using h)]
    congr 1
    funext c
    rw [Bool.eq_iff_iff, Text.startsWith_iff]
    simp [h]

end Container

namespace CallerQuery

variable (q : CallerQuery) (snapshot : List Container)

/-- The candidates after the last step. -/
def afterNetworks : List Listed :=
  match (Container.own? snapshot q.ownId).filter (·.networks.isSome) with
  | none => q.afterAddress snapshot
  | some own =>
    (q.afterAddress snapshot).filter fun c => c.1.reachedThrough own.networkNames q.address

/-- The caller, if a step decides; the first two steps decide only if they are taken. -/
def found? : Option Listed :=
  (if q.identifier = "" then none else only? (q.afterIdentifier snapshot)).or
    ((if q.address = "" then none else only? (q.afterAddress snapshot)).or
      (only? (q.afterNetworks snapshot)))

theorem byOwnNetworks_outcome {ε : Type} :
    (byOwnNetworks snapshot q.address q.ownId (q.afterAddress snapshot) : Run ε _).outcome =
      .ok (q.afterNetworks snapshot) := by
  rw [byOwnNetworks, afterNetworks]
  cases (Container.own? snapshot q.ownId).filter (·.networks.isSome) with
  | none => rfl
  | some own => rfl

theorem decided?_map_fst : (q.decided? snapshot).map (·.1) =
    (if q.identifier = "" then none else only? (q.afterIdentifier snapshot)).or
      (if q.address = "" then none else only? (q.afterAddress snapshot)) := by
  have hfst (word : String) (found : Option Listed) :
      (found.map fun caller => (caller, word)).map (·.1) = found := by
    rw [Option.map_map]
    exact Option.map_id'
  rw [decided?, Option.map_or, hfst, hfst]
  simp only [String.isEmpty_iff]

theorem identify_outcome :
    (q.identify snapshot).outcome.map (·.1) = match q.found? snapshot with
      | some caller => .ok caller
      | none => .error ⟨(q.afterNetworks snapshot).length, q.identifier, q.address⟩ := by
  have hf : q.found? snapshot =
      ((q.decided? snapshot).map (·.1)).or (only? (q.afterNetworks snapshot)) := by
    rw [decided?_map_fst, Option.or_assoc]
    rfl
  rw [hf]
  rw [identify]
  cases q.decided? snapshot with
  | some found => rfl
  | none =>
      rw [Run.bind_outcome, byOwnNetworks_outcome]
      simp only [Except.bind, Option.map_none, Option.none_or]
      cases only? (q.afterNetworks snapshot) with
      | some caller => rfl
      | none => rfl

/-- The search succeeds exactly where a step decides, and otherwise counts the last candidates. -/
theorem find_outcome :
    (q.find snapshot).outcome = match q.found? snapshot with
      | some caller => .ok caller
      | none => .error ⟨(q.afterNetworks snapshot).length, q.identifier, q.address⟩ := by
  rw [← identify_outcome]
  rw [find, Run.bind_outcome]
  cases (q.identify snapshot).outcome with
  | ok found => rfl
  | error e => rfl

theorem afterIdentifier_sublist : (q.afterIdentifier snapshot).Sublist snapshot.zipIdx := by
  rw [afterIdentifier]
  split
  · exact List.Sublist.refl _
  · exact keepMatching_sublist _ _

theorem afterAddress_sublist_afterIdentifier :
    (q.afterAddress snapshot).Sublist (q.afterIdentifier snapshot) := by
  rw [afterAddress]
  split
  · exact List.Sublist.refl _
  · exact keepMatching_sublist _ _

theorem afterAddress_sublist : (q.afterAddress snapshot).Sublist snapshot.zipIdx :=
  (q.afterAddress_sublist_afterIdentifier snapshot).trans (q.afterIdentifier_sublist snapshot)

theorem afterNetworks_sublist : (q.afterNetworks snapshot).Sublist snapshot.zipIdx := by
  apply List.Sublist.trans _ (q.afterAddress_sublist snapshot)
  rw [afterNetworks]
  split
  · exact List.Sublist.refl _
  · exact List.filter_sublist

variable {q snapshot}

theorem find_eq_ok_iff {caller : Listed} :
    (q.find snapshot).outcome = .ok caller ↔ q.found? snapshot = some caller := by
  rw [find_outcome]
  cases q.found? snapshot with
  | some found => simp
  | none => simp

theorem find_eq_error_iff {e : CallerNotFound} :
    (q.find snapshot).outcome = .error e ↔ q.found? snapshot = none ∧
      e = ⟨(q.afterNetworks snapshot).length, q.identifier, q.address⟩ := by
  rw [find_outcome]
  cases q.found? snapshot with
  | some found => simp
  | none => simp [eq_comm]

theorem find_toOption : (q.find snapshot).outcome.toOption = q.found? snapshot := by
  rw [find_outcome]
  cases q.found? snapshot with
  | some found => rfl
  | none => rfl

/-- The caller is the only candidate after some step. -/
theorem found?_eq_some_cases {caller : Listed} (h : q.found? snapshot = some caller) :
    q.afterIdentifier snapshot = [caller] ∨ q.afterAddress snapshot = [caller] ∨
      q.afterNetworks snapshot = [caller] := by
  rw [found?] at h
  rcases Option.or_eq_some_iff.mp h with h | ⟨-, h⟩
  · split at h
    · cases h
    · exact Or.inl (only?_eq_some_iff.mp h)
  · rcases Option.or_eq_some_iff.mp h with h | ⟨-, h⟩
    · split at h
      · cases h
      · exact Or.inr (Or.inl (only?_eq_some_iff.mp h))
    · exact Or.inr (Or.inr (only?_eq_some_iff.mp h))

theorem mem_zipIdx_of_found? {caller : Listed} (h : q.found? snapshot = some caller) :
    caller ∈ snapshot.zipIdx := by
  have hs := List.mem_singleton_self caller
  rcases found?_eq_some_cases h with h | h | h
  · rw [← h] at hs
    exact (q.afterIdentifier_sublist snapshot).subset hs
  · rw [← h] at hs
    exact (q.afterAddress_sublist snapshot).subset hs
  · rw [← h] at hs
    exact (q.afterNetworks_sublist snapshot).subset hs

/-- Two searches whose steps decide alike find callers that correspond. -/
theorem found?_map {snapshot' : List Container} (f : Listed → Listed)
    (h₁ : only? (q.afterIdentifier snapshot') = (only? (q.afterIdentifier snapshot)).map f)
    (h₂ : only? (q.afterAddress snapshot') = (only? (q.afterAddress snapshot)).map f)
    (h₃ : only? (q.afterNetworks snapshot') = (only? (q.afterNetworks snapshot)).map f) :
    q.found? snapshot' = (q.found? snapshot).map f := by
  rw [found?, found?, h₁, h₂, h₃, Option.map_or, Option.map_or]
  congr 1
  · split <;> rfl
  · congr 1
    split <;> rfl

end CallerQuery

namespace LocalTask

/-- The containers of the task of a caller that is known, or of one that is not. -/
def membersFor (caller? : Option Listed) (snapshot : List Container) : List Listed :=
  match caller? with
  | none => snapshot.zipIdx
  | some caller =>
    if caller.1.project.isTruthy then inProject caller.1.project snapshot.zipIdx
    else snapshot.zipIdx

/-- A project that holds one of the candidates is never left for all of them. -/
theorem inProject_of_mem {caller : Listed} {cs : List Listed} (h : caller ∈ cs) :
    inProject caller.1.project cs = cs.filter fun x => x.1.project = caller.1.project :=
  keepMatching_of_mem h (decide_eq_true rfl)

theorem membersFor_of_project {caller : Listed} {snapshot : List Container}
    (h : caller ∈ snapshot.zipIdx) (hp : caller.1.project.isTruthy = true) :
    membersFor (some caller) snapshot =
      snapshot.zipIdx.filter fun x => x.1.project = caller.1.project :=
  (if_pos hp).trans (inProject_of_mem h)

theorem membersFor_sublist (caller? : Option Listed) (snapshot : List Container) :
    (membersFor caller? snapshot).Sublist snapshot.zipIdx := by
  cases caller? with
  | none => exact List.Sublist.refl _
  | some caller =>
      rw [membersFor]
      split
      · exact keepMatching_sublist _ _
      · exact List.Sublist.refl _

/-- The task is always made up, whether or not the search for the caller succeeds. -/
theorem members_outcome {ε : Type} (q : CallerQuery) (snapshot : List Container) :
    (members q snapshot : Run ε _).outcome = .ok (membersFor (q.found? snapshot) snapshot) := by
  rw [members, Run.bind_outcome, Run.attempt_outcome, CallerQuery.find_outcome]
  cases q.found? snapshot with
  | none => rfl
  | some caller =>
      simp only [Except.bind, membersFor]
      split <;> rfl

end LocalTask

/-- A container of a project in one network. -/
def Container.inNetwork (id network address project : String) : Container where
  id := id
  names := ["/" ++ id]
  labels := [(.text projectLabel, .text project)]
  networks := some [(network, some ⟨address, [], .text ""⟩), ("none", none)]
  image := .text "image"
  imageId := .text "sha256:0"
  created := 0
  ports := []
  mounts := []

end TaskEndpoints
