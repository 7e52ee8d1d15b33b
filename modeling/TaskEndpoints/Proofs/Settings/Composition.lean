import Mathlib.Data.List.Nodup
import TaskEndpoints.Proofs.Settings.MetadataFiles

/-!
# Loads one after another

A load that ends well leaves a registry that is determined by its settings before, by the environment and by
the files: this is the relation `Registry.Loads`. Two such loads come to one load of both environments in one,
and a load that is repeated changes nothing. The main statement says so, and that a variable which the second
environment lacks keeps what the first one made of it.

## Implementation notes

The metadata files are read anew by every load, under the names that the settings hold by then. So a file
that an earlier environment named goes on to count.
-/

namespace TaskEndpoints

namespace Environment

variable {env later : Environment}

/-- Two environments in one: a variable has its value in the later one, unless it is empty there. -/
def overlaid (env later : Environment) : Environment :=
  later.filter (fun e => later.read e.1 ≠ "") ++ env

theorem read_overlaid (env later : Environment) (name : String) :
    (env.overlaid later).read name =
      if later.read name = "" then env.read name else later.read name := by
  have hl : (env.overlaid later).lookup name =
      (if later.read name ≠ "" then later.lookup name else none).or (env.lookup name) := by
    rw [overlaid, List.lookup_append, lookup_filter later fun n => later.read n ≠ ""]
    simp only [decide_eq_true_eq]
  by_cases hr : later.read name = ""
  · rw [if_pos hr, read, hl, if_neg (not_not_intro hr)]
    rfl
  · rw [if_neg hr, read, hl, if_pos hr]
    rw [read] at hr ⊢
    cases hv : later.lookup name with
    | none => simp [hv] at hr
    | some value => simp

end Environment

namespace Binding

variable {b : Binding} {table : List Binding} {env later : Environment} {s s₁ s₂ : Settings}

theorem isSet_overlaid_iff : b.IsSet (env.overlaid later) ↔ b.IsSet later ∨ b.IsSet env := by
  rw [IsSet, Environment.read_overlaid, IsSet, IsSet]
  by_cases hr : later.read b.source = ""
  · simp [hr]
  · simp [hr]

/-- A variable of both environments in one has the text of the later one if it is set there. -/
theorem read_overlaid_of_isSet (h : b.IsSet later) :
    (env.overlaid later).read b.source = later.read b.source := by
  rw [Environment.read_overlaid, if_neg h]

theorem read_overlaid_of_not_isSet (h : ¬b.IsSet later) :
    (env.overlaid later).read b.source = env.read b.source := by
  rw [Environment.read_overlaid, if_pos (not_not.mp h)]

/-- Variables that fail in neither environment do not fail in both in one. -/
theorem not_fails_overlaid {reason : String} (h₁ : ¬b.Fails env reason) (h₂ : ¬b.Fails later reason) :
    ¬b.Fails (env.overlaid later) reason := by
  rintro ⟨hset, hrefused⟩
  by_cases hl : b.IsSet later
  · rw [read_overlaid_of_isSet hl] at hrefused
    exact h₂ ⟨hl, hrefused⟩
  · rw [read_overlaid_of_not_isSet hl] at hrefused
    exact h₁ ⟨(isSet_overlaid_iff.mp hset).resolve_left hl, hrefused⟩

/-- Applying variables makes one thing of the settings. -/
theorem Applied.unique (h₁ : Applied table env s s₁) (h₂ : Applied table env s s₂) : s₁ = s₂ := by
  have hvalue (k : SettingKey) : s₁.value k = s₂.value k := by
    by_cases hset : ∃ b ∈ table, b.key = k ∧ b.IsSet env
    · obtain ⟨b, hb, rfl, hs⟩ := hset
      exact Except.ok.inj ((h₁.given b hb hs).symm.trans (h₂.given b hb hs))
    · have hnot : ∀ b ∈ table, b.key = k → ¬b.IsSet env := fun b hb hk hs => hset ⟨b, hb, hk, hs⟩
      rw [h₁.kept k hnot, h₂.kept k hnot]
  cases s₁
  cases s₂
  exact congrArg Settings.mk (funext hvalue)

/-- The variables of one environment after those of another. -/
theorem Applied.trans (hn : (table.map (·.key)).Nodup) (h₁ : Applied table env s s₁)
    (h₂ : Applied table later s₁ s₂) : Applied table (env.overlaid later) s s₂ where
  given b hb hs := by
    by_cases hl : b.IsSet later
    · rw [read_overlaid_of_isSet hl]
      exact h₂.given b hb hl
    · -- no other variable of the later environment is about the setting
      have hkept : s₂.value b.key = s₁.value b.key := h₂.kept b.key fun b' hb' hk =>
        (List.inj_on_of_nodup_map hn hb' hb hk) ▸ hl
      rw [read_overlaid_of_not_isSet hl, hkept]
      exact h₁.given b hb ((isSet_overlaid_iff.mp hs).resolve_left hl)
  kept k hk := by
    have hnot := fun b hb he => not_or.mp (mt isSet_overlaid_iff.mpr (hk b hb he))
    rw [h₂.kept k fun b hb he => (hnot b hb he).1, h₁.kept k fun b hb he => (hnot b hb he).2]

/-- Settings that variables were applied to are not changed by applying them again. -/
theorem Applied.again (h : Applied table env s s₁) : Applied table env s₁ s₁ where
  given := h.given
  kept _ _ := rfl

end Binding

namespace Registry

variable {r r₁ r₂ : Registry} {files : FileTree} {env later : Environment}

/-- What a load that ends well makes of a registry. -/
structure Loads (files : FileTree) (env : Environment) (r r' : Registry) : Prop where
  valid : ∀ b ∈ bindings, ∀ reason, ¬b.Fails env reason
  applied : Binding.Applied bindings env r.settings r'.settings
  task : (MetadataFile.readNamed files (r'.settings.text .taskMetadataPath)).outcome = .ok r'.taskFields
  container : (MetadataFile.readNamed files (r'.settings.text .containerMetadataPath)).outcome =
    .ok r'.containerFields

theorem not_fails_of_load_eq_ok (h : (r.load files env).2.outcome = .ok ()) :
    ∀ b ∈ bindings, ∀ reason, ¬b.Fails env reason := by
  intro b hb reason hf
  obtain ⟨before, b', after, reason', ht, hbefore, hb'⟩ :=
    Binding.exists_first_failing ⟨b, hb, reason, hf⟩
  rw [(stoppedAt_of_fails ht hbefore hb').error] at h
  cases h

theorem loads_iff :
    Loads files env r r₁ ↔ (r.load files env).2.outcome = .ok () ∧ (r.load files env).1 = r₁ := by
  constructor
  · intro h
    obtain ⟨s, happlied, hload⟩ := exists_applied_of_not_fails r files h.valid
    obtain rfl : s = r₁.settings := happlied.unique h.applied
    have hfiles : (r.withSettings r₁.settings).loadFiles files = _ :=
      loadFiles_of_ok h.task h.container
    rw [hload, hfiles]
    exact ⟨rfl, rfl⟩
  · rintro ⟨hok, rfl⟩
    have hvalid := not_fails_of_load_eq_ok hok
    obtain ⟨s, happlied, hload⟩ := exists_applied_of_not_fails r files hvalid
    rw [hload] at hok ⊢
    obtain ⟨⟨taskFields, ht⟩, containerFields, hc⟩ := loadFiles_eq_ok_iff.mp hok
    rw [loadFiles_of_ok ht hc]
    exact ⟨hvalid, happlied, ht, hc⟩

theorem Loads.trans (h₁ : Loads files env r r₁) (h₂ : Loads files later r₁ r₂) :
    Loads files (env.overlaid later) r r₂ where
  valid b hb reason := Binding.not_fails_overlaid (h₁.valid b hb reason) (h₂.valid b hb reason)
  applied := h₁.applied.trans Binding.nodup_keys_bindings h₂.applied
  task := h₂.task
  container := h₂.container

theorem Loads.again (h : Loads files env r r₁) : Loads files env r₁ r₁ :=
  { h with applied := h.applied.again }

/-- A setting whose variable the later environment lacks keeps its value. -/
theorem Loads.kept (h : Loads files later r₁ r₂) {b : Binding} (hb : b ∈ bindings)
    (hs : ¬b.IsSet later) : r₂.settings.value b.key = r₁.settings.value b.key :=
  h.applied.kept b.key fun _ hb' hk =>
    (List.inj_on_of_nodup_map Binding.nodup_keys_bindings hb' hb hk) ▸ hs

/-- Where the later environment names no file, the fields of the file that is named already stay. -/
theorem Loads.fields_kept (h₁ : Loads files env r r₁) (h₂ : Loads files later r₁ r₂) :
    (later.read "ECS_LOCAL_TASK_METADATA" = "" → r₂.taskFields = r₁.taskFields) ∧
      (later.read "ECS_LOCAL_CONTAINER_METADATA" = "" → r₂.containerFields = r₁.containerFields) := by
  constructor
  · intro hr
    have hkept : r₂.settings.value .taskMetadataPath = r₁.settings.value .taskMetadataPath :=
      h₂.kept (b := ⟨"ECS_LOCAL_TASK_METADATA", .taskMetadataPath, .text⟩) (by decide) (not_not_intro hr)
    have htask := h₂.task
    rw [Settings.text, hkept, ← Settings.text, h₁.task] at htask
    exact (Except.ok.inj htask).symm
  · intro hr
    have hkept : r₂.settings.value .containerMetadataPath = r₁.settings.value .containerMetadataPath :=
      h₂.kept (b := ⟨"ECS_LOCAL_CONTAINER_METADATA", .containerMetadataPath, .text⟩) (by decide)
        (not_not_intro hr)
    have hcontainer := h₂.container
    rw [Settings.text, hkept, ← Settings.text, h₁.container] at hcontainer
    exact (Except.ok.inj hcontainer).symm

/-- A load that ends well can be repeated and then changes nothing. If it is followed by a load of another
environment that ends well, one load of both environments in one ends well too and leaves the same registry,
and what the first environment set and the second one lacks is kept, down to the fields of the files. -/
theorem loads_compose (r : Registry) (files : FileTree) (env later : Environment)
    (h : (r.load files env).2.outcome = .ok ()) :
    let first := r.load files env
    let again := first.1.load files env
    let second := first.1.load files later
    let together := r.load files (env.overlaid later)
    (again.2.outcome = .ok () ∧ again.1 = first.1) ∧
    (second.2.outcome = .ok () →
      (together.2.outcome = .ok () ∧ together.1 = second.1) ∧
      (∀ b ∈ bindings, ¬b.IsSet later →
        second.1.settings.value b.key = first.1.settings.value b.key) ∧
      (later.read "ECS_LOCAL_TASK_METADATA" = "" → second.1.taskFields = first.1.taskFields) ∧
      (later.read "ECS_LOCAL_CONTAINER_METADATA" = "" →
        second.1.containerFields = first.1.containerFields)) := by
  intro first again second together
  have h₁ : Loads files env r first.1 := loads_iff.mpr ⟨h, rfl⟩
  refine ⟨loads_iff.mp h₁.again, fun hsecond => ?_⟩
  have h₂ : Loads files later first.1 second.1 := loads_iff.mpr ⟨hsecond, rfl⟩
  exact ⟨loads_iff.mp (h₁.trans h₂), fun b hb hs => h₂.kept hb hs, h₁.fields_kept h₂⟩

/-- A file with an object of one field. -/
def oneFieldFiles : FileTree := ⟨[(["x"], .file [0x7b, 0x22, 0x6b, 0x22, 0x3a, 0x31, 0x7d])]⟩

/-- An environment that names the file. -/
def namingFile : Environment := [("ECS_LOCAL_TASK_METADATA", "x"), ("TASK_DEFINITION_FAMILY", "web")]

/-- An environment that names no file and another family. -/
def namingFamily : Environment := [("TASK_DEFINITION_FAMILY", "api"), ("ECS_LOCAL_TASK_METADATA", "")]

theorem loads_compose_example :
    let together := initial.load oneFieldFiles (namingFile.overlaid namingFamily)
    (initial.load oneFieldFiles namingFile).2.outcome = .ok () ∧ together.2.outcome = .ok () ∧
      together.1.settings.value .family = .text "api" ∧
      together.1.taskFields = [(.text "k", .int 1)] := by
  intro together
  have hfirst : (initial.load oneFieldFiles namingFile).2.outcome = .ok () := by rfl
  have hsecond : ((initial.load oneFieldFiles namingFile).1.load oneFieldFiles namingFamily).2.outcome =
      .ok () := by rfl
  have hfields : (initial.load oneFieldFiles namingFile).1.taskFields = [(.text "k", .int 1)] := by rfl
  obtain ⟨-, hcompose⟩ := loads_compose initial oneFieldFiles namingFile namingFamily hfirst
  obtain ⟨⟨hok, hsame⟩, -, htask, -⟩ := hcompose hsecond
  refine ⟨hfirst, hok, ?_, ?_⟩
  · rw [hsame]
    decide
  · rw [hsame, htask rfl, hfields]

end Registry

end TaskEndpoints
