import TaskEndpoints.Proofs.Settings.Checks
import TaskEndpoints.Startup

/-!
# Settings over whole runs

Whoever holds a registry reads and writes it in any order, and some of the steps fail. The main statement
says that after every run each value passes its check. Fields that are written into a tag mapping that
was handed out are not checked; they spoil at most the two tag settings, and a reset mends them.

## Implementation notes

Both halves of the statement are one induction over the run, for a property of single values that holds
of everything that a check accepts.
-/

namespace TaskEndpoints

/-- A step that is taken with a registry. -/
inductive RegistryStep where
  | get (group key : String) (fallback : Value)
  | getInGroup (group key : String)
  | validate (group key : String) (v : Value)
  | dump (group : String)
  | set (group key : String) (v : Value)
  | reset (group : String)
  | load (files : FileTree) (env : Environment)
  /-- Write a field into the mapping that a setting hands out. -/
  | write (group key field : String) (v : Value)

/-- The step writes into a mapping that was handed out. -/
def RegistryStep.IsWrite : RegistryStep → Prop
  | .write .. => True
  | _ => False

/-- The setting holds tags. -/
def SettingKey.HoldsTags (k : SettingKey) : Prop := k = .containerInstanceTags ∨ k = .taskTags

instance : DecidablePred SettingKey.HoldsTags := fun k =>
  inferInstanceAs (Decidable (k = .containerInstanceTags ∨ k = .taskTags))

namespace Settings

/-- Every value has a property that may depend on the setting. -/
def Holds (P : SettingKey → Value → Prop) (s : Settings) : Prop := ∀ k, P k (s.value k)

/-- Every value passes its check, except that the tag settings hold some mapping. -/
def ValidButTags (s : Settings) : Prop :=
  s.Holds fun k v => if k.HoldsTags then ∃ entries, v = .map entries else k.spec.check.Accepts v

variable {P : SettingKey → Value → Prop} {s : Settings}

theorem Holds.update (h : s.Holds P) {k : SettingKey} {v : Value} (hv : P k v) :
    (s.update k v).Holds P := by
  intro k'
  rw [value_update]
  split
  · rename_i hk
    exact hk ▸ hv
  · exact h k'

theorem Holds.resetGroup (h : s.Holds P) (hd : ∀ k, P k k.spec.default) (group : SettingGroup) :
    (s.resetGroup group).Holds P := by
  intro k
  show P k (if k.spec.group = group then k.spec.default else s.value k)
  split
  · exact hd k
  · exact h k

end Settings

namespace Binding

/-- What a text is converted to has passed the check of its setting. -/
theorem convert_eq_ok_iff {b : Binding} {raw : String} {v : Value} :
    b.convert raw = .ok v ↔ b.conversion.apply raw = .ok v ∧ b.key.spec.check.Accepts v := by
  rw [convert, ← Registry.complaint?_eq_none_iff]
  cases b.conversion.apply raw with
  | error e => simp [bind, Except.bind]
  | ok w =>
      simp only [bind, Except.bind]
      cases hc : Registry.complaint? b.key w with
      | none =>
          constructor
          · intro h
            cases h
            exact ⟨rfl, hc⟩
          · rintro ⟨h, -⟩
            exact h
      | some reason =>
          refine iff_of_false (fun h => by cases h) ?_
          rintro ⟨h, hv⟩
          cases h
          rw [hc] at hv
          cases hv

variable {P : SettingKey → Value → Prop} {env : Environment}

theorem holds_apply (hP : ∀ (k : SettingKey) v, k.spec.check.Accepts v → P k v) {b : Binding}
    {s s' : Settings} (hs : s.Holds P) (h : b.apply env s = .ok s') : s'.Holds P := by
  simp only [apply] at h
  split at h
  · obtain rfl : s = s' := Except.ok.inj h
    exact hs
  · split at h
    · rename_i v hv
      obtain rfl : s.update b.key v = s' := Except.ok.inj h
      exact hs.update (hP b.key v (convert_eq_ok_iff.mp hv).2)
    · cases h

/-- However far the table of variables is gone through, every value that it leaves was checked. -/
theorem holds_applyAll (hP : ∀ (k : SettingKey) v, k.spec.check.Accepts v → P k v)
    (table : List Binding) {s : Settings} (hs : s.Holds P) : (applyAll env s table).1.Holds P := by
  induction table generalizing s with
  | nil => exact hs
  | cons b rest ih =>
      rw [applyAll]
      cases hb : b.apply env s with
      | ok next => exact ih (holds_apply hP hs hb)
      | error e => exact hs

end Binding

namespace Registry

/-- The registry after a step. A step that fails leaves what it has written before. -/
def after (r : Registry) : RegistryStep → Registry
  | .get .. | .getInGroup .. | .validate .. | .dump .. => r
  | .set group key v => (r.set group key v).outcome.toOption.getD r
  | .reset group => (r.reset group).outcome.toOption.getD r
  | .load files env => (r.load files env).1
  | .write group key field v => (r.writeField group key field v).outcome.toOption.getD r

/-- The registry after a sequence of steps. -/
def afterAll (r : Registry) (steps : List RegistryStep) : Registry := steps.foldl after r

/-- All that is promised of a registry. -/
structure Sound (r : Registry) : Prop where
  /-- Each group shows exactly its own settings. -/
  keys : ∀ g : SettingGroup, (r.dump g.word).outcome.map (·.map Prod.fst) =
    .ok ((SettingKey.ofGroup g).map (·.spec.name))
  valid : r.settings.Valid
  /-- Reading a setting never takes the fallback. -/
  get : ∀ (k : SettingKey) fallback,
    (r.get k.spec.group.word k.spec.name fallback).outcome = .ok (r.settings.value k) ∧
      (r.getInGroup k.spec.group.word k.spec.name).outcome = .ok (r.settings.value k)
  port : ∃ n, r.settings.value .port = .int n ∧ 1 ≤ n ∧ n ≤ 65535
  /-- Calls of an engine that the program connects to are limited. -/
  limit : ∀ (h : Host) limit, (Startup.connectEngine h r.settings).outcome = .ok limit →
    ∃ n, limit = .whole n ∧ 1 ≤ n ∧ n ≤ 120

section Reading

theorem requireGroup_eq_ok_iff {name : String} {g : SettingGroup} :
    (requireGroup name).outcome = .ok g ↔ g.word = name := by
  rw [requireGroup, ← SettingKey.ofName?_eq_some_iff]
  cases SettingGroup.ofName? name with
  | none => exact iff_of_false (fun h => by cases h) fun h => by cases h
  | some g' => exact ⟨fun h => congrArg some (Except.ok.inj h), fun h => h ▸ rfl⟩

theorem requireKey_eq_ok_iff {g : SettingGroup} {name : String} {k : SettingKey} :
    (requireKey g name).outcome = .ok k ↔ k.spec.group = g ∧ k.spec.name = name := by
  rw [requireKey, ← SettingKey.find?_eq_some_iff]
  cases SettingKey.find? g name with
  | none => exact iff_of_false (fun h => by cases h) fun h => by cases h
  | some k' => exact ⟨fun h => congrArg some (Except.ok.inj h), fun h => h ▸ rfl⟩

theorem requireSetting_eq_ok_iff {group key : String} {k : SettingKey} :
    (requireSetting group key).outcome = .ok k ↔
      k.spec.group.word = group ∧ k.spec.name = key := by
  rw [requireSetting, Run.bind_outcome]
  constructor
  · intro h
    cases hg : (requireGroup group).outcome with
    | error e =>
        rw [hg] at h
        cases h
    | ok g =>
        rw [hg] at h
        obtain ⟨rfl, hk⟩ := requireKey_eq_ok_iff.mp h
        exact ⟨requireGroup_eq_ok_iff.mp hg, hk⟩
  · rintro ⟨hg, hk⟩
    rw [requireGroup_eq_ok_iff.mpr hg]
    exact requireKey_eq_ok_iff.mpr ⟨rfl, hk⟩

theorem get_outcome (r : Registry) (k : SettingKey) (fallback : Value) :
    (r.get k.spec.group.word k.spec.name fallback).outcome = .ok (r.settings.value k) := by
  rw [get, SettingKey.ofName?_eq_some_iff.mpr rfl]
  simp only [SettingKey.find?_eq_some_iff.mpr ⟨rfl, rfl⟩]
  rfl

theorem getInGroup_outcome (r : Registry) (k : SettingKey) :
    (r.getInGroup k.spec.group.word k.spec.name).outcome = .ok (r.settings.value k) := by
  rw [getInGroup, Run.bind_outcome, requireSetting_eq_ok_iff.mpr ⟨rfl, rfl⟩]
  rfl

theorem dump_names (r : Registry) (g : SettingGroup) :
    (r.dump g.word).outcome.map (·.map Prod.fst) =
      .ok ((SettingKey.ofGroup g).map (·.spec.name)) := by
  rw [dump, Run.bind_outcome, requireGroup_eq_ok_iff.mpr rfl]
  simp only [Except.bind, Run.pure_outcome, Except.map, Settings.groupFields, List.map_map]
  rfl

theorem connectEngine_limit {h : Host} {s : Settings} {limit : TimeLimit}
    (hc : (Startup.connectEngine h s).outcome = .ok limit) :
    limit = .whole (s.integer .dockerTimeout) := by
  rw [Startup.connectEngine, Run.bind_outcome, Run.attempt_outcome] at hc
  simp only [Except.bind] at hc
  split at hc
  · exact (Except.ok.inj hc).symm
  · cases hc
  · cases hc
  · cases hc

theorem sound_of_valid {r : Registry} (h : r.settings.Valid) : r.Sound where
  keys := r.dump_names
  valid := h
  get k fallback := ⟨r.get_outcome k fallback, r.getInGroup_outcome k⟩
  port := Check.accepts_rangeCheck_iff.mp (h .port)
  limit host limit hc := by
    obtain ⟨n, hn, hlow, hhigh⟩ := Check.accepts_rangeCheck_iff.mp (h .dockerTimeout)
    refine ⟨n, ?_, hlow, hhigh⟩
    rw [connectEngine_limit hc, Settings.integer, hn]

end Reading

section Writing

variable {r r' : Registry} {group key : String} {v : Value}

/-- A write that succeeds gives one setting a value that its check accepts. -/
theorem set_eq_ok (h : (r.set group key v).outcome = .ok r') :
    ∃ k : SettingKey, k.spec.group.word = group ∧ k.spec.name = key ∧ k.spec.check.Accepts v ∧
      r' = r.withSettings (r.settings.update k v) := by
  rw [set, Run.bind_outcome] at h
  cases hk : (requireSetting group key).outcome with
  | error e =>
      rw [hk] at h
      cases h
  | ok k =>
      rw [hk] at h
      simp only [Except.bind] at h
      cases hc : complaint? k v with
      | none =>
          rw [hc] at h
          obtain ⟨hg, hn⟩ := requireSetting_eq_ok_iff.mp hk
          exact ⟨k, hg, hn, complaint?_eq_none_iff.mp hc, (Except.ok.inj h).symm⟩
      | some reason =>
          rw [hc] at h
          cases h

theorem reset_eq_ok_iff :
    (r.reset group).outcome = .ok r' ↔
      ∃ g : SettingGroup, g.word = group ∧ r' = r.withSettings (r.settings.resetGroup g) := by
  rw [reset, Run.bind_outcome]
  constructor
  · intro h
    cases hg : (requireGroup group).outcome with
    | error e =>
        rw [hg] at h
        cases h
    | ok g =>
        rw [hg] at h
        exact ⟨g, requireGroup_eq_ok_iff.mp hg, (Except.ok.inj h).symm⟩
  · rintro ⟨g, hg, rfl⟩
    rw [requireGroup_eq_ok_iff.mpr hg]
    rfl

/-- A field is only ever written into a mapping, which stays one. -/
theorem writeField_eq_ok {field : String} (h : (r.writeField group key field v).outcome = .ok r') :
    ∃ k entries, r.settings.value k = .map entries ∧
      r' = r.withSettings (r.settings.update k (.map (Assoc.insert entries (.text field) v))) := by
  rw [writeField, Run.bind_outcome] at h
  cases hk : ((writeField.requireSetting' group key).mapError WriteError.setting).outcome with
  | error e =>
      rw [hk] at h
      cases h
  | ok k =>
      rw [hk] at h
      simp only [Except.bind] at h
      split at h
      · rename_i entries he
        exact ⟨k, entries, he, (Except.ok.inj h).symm⟩
      · cases h

/-- The metadata files change no setting. -/
theorem loadFiles_settings (r : Registry) (files : FileTree) :
    (r.loadFiles files).1.settings = r.settings := by
  rw [loadFiles]
  cases (MetadataFile.readNamed files (r.settings.text .taskMetadataPath)).outcome with
  | error e => rfl
  | ok taskFields =>
      simp only
      split <;> rfl

theorem load_settings (r : Registry) (files : FileTree) (env : Environment) :
    (r.load files env).1.settings = (Binding.applyAll env r.settings bindings).1 := by
  rw [load]
  split
  · rename_i s e hs
    rw [hs]
    rfl
  · rename_i s hs
    rw [hs, loadFiles_settings]
    rfl

end Writing

section Runs

variable {P : SettingKey → Value → Prop} {r : Registry}

/-- A property that every accepted value has is kept by each step; by a write, if it is a property of all
mappings where it is one of some. -/
theorem holds_after (hP : ∀ (k : SettingKey) v, k.spec.check.Accepts v → P k v) (step : RegistryStep)
    (hw : step.IsWrite → ∀ k entries entries', P k (.map entries) → P k (.map entries'))
    (h : r.settings.Holds P) : (r.after step).settings.Holds P := by
  cases step with
  | get | getInGroup | validate | dump => exact h
  | set group key v =>
      rw [after]
      cases hs : (r.set group key v).outcome with
      | error e => exact h
      | ok r' =>
          obtain ⟨k, -, -, hv, rfl⟩ := set_eq_ok hs
          exact h.update (hP k v hv)
  | reset group =>
      rw [after]
      cases hs : (r.reset group).outcome with
      | error e => exact h
      | ok r' =>
          obtain ⟨g, -, rfl⟩ := reset_eq_ok_iff.mp hs
          exact h.resetGroup (fun k => hP k _ k.accepts_default) g
  | load files env =>
      rw [after, load_settings]
      exact Binding.holds_applyAll hP bindings h
  | write group key field v =>
      rw [after]
      cases hs : (r.writeField group key field v).outcome with
      | error e => exact h
      | ok r' =>
          obtain ⟨k, entries, he, rfl⟩ := writeField_eq_ok hs
          exact h.update (hw trivial k entries _ (he ▸ h k))

theorem holds_afterAll (hP : ∀ (k : SettingKey) v, k.spec.check.Accepts v → P k v)
    (steps : List RegistryStep)
    (hw : (∃ step ∈ steps, step.IsWrite) →
      ∀ k entries entries', P k (.map entries) → P k (.map entries'))
    (h : r.settings.Holds P) : (r.afterAll steps).settings.Holds P := by
  induction steps generalizing r with
  | nil => exact h
  | cons step rest ih =>
      refine ih (fun ⟨s, hs, hw'⟩ => hw ⟨s, List.mem_cons_of_mem step hs, hw'⟩) ?_
      exact holds_after hP step (fun hs => hw ⟨step, List.mem_cons_self, hs⟩) h

theorem holds_initial (hP : ∀ (k : SettingKey) v, k.spec.check.Accepts v → P k v) :
    initial.settings.Holds P := fun k => hP k _ k.accepts_default

theorem valid_afterAll {steps : List RegistryStep} (hw : ∀ step ∈ steps, ¬step.IsWrite) :
    (initial.afterAll steps).settings.Valid :=
  holds_afterAll (fun _ _ h => h) steps (fun ⟨step, hs, h⟩ => absurd h (hw step hs))
    (holds_initial fun _ _ h => h)

/-- What a tag setting accepts is a mapping. -/
theorem mapping_of_accepts (k : SettingKey) (v : Value) (h : k.spec.check.Accepts v) :
    if k.HoldsTags then ∃ entries, v = .map entries else k.spec.check.Accepts v := by
  split
  · rename_i hk
    have ht : Check.tagMapping.Accepts v := by rcases hk with rfl | rfl <;> exact h
    obtain ⟨entries, hv, -⟩ := Check.accepts_tagMapping_iff.mp ht
    exact ⟨entries, hv⟩
  · exact h

/-- No check but that of the tag settings accepts a mapping. -/
theorem not_accepts_map {k : SettingKey} (hk : ¬k.HoldsTags) (entries : List (Value × Value)) :
    ¬k.spec.check.Accepts (.map entries) := by
  cases k with
  | containerInstanceTags => exact absurd (Or.inl rfl) hk
  | taskTags => exact absurd (Or.inr rfl) hk
  | _ => exact fun h => by cases h

theorem validButTags_afterAll (steps : List RegistryStep) :
    (initial.afterAll steps).settings.ValidButTags := by
  refine holds_afterAll mapping_of_accepts steps (fun _ k entries entries' h => ?_)
    (holds_initial mapping_of_accepts)
  split
  · exact ⟨entries', rfl⟩
  · rename_i hk
    rw [if_neg hk] at h
    exact absurd h (not_accepts_map hk entries)

/-- Both tag settings belong to the task, so putting that group back mends them. -/
theorem valid_resetGroup_task {s : Settings} (h : s.ValidButTags) : (s.resetGroup .task).Valid := by
  intro k
  show k.spec.check.Accepts (if k.spec.group = .task then k.spec.default else s.value k)
  split
  · exact k.accepts_default
  · rename_i hg
    have hk : ¬k.HoldsTags := by
      rintro (rfl | rfl)
      · exact hg rfl
      · exact hg rfl
    have hv : if k.HoldsTags then ∃ entries, s.value k = .map entries
      else k.spec.check.Accepts (s.value k) := h k
    rwa [if_neg hk] at hv

/-- After every run of steps from a fresh registry, whichever of them fail, the registry is sound, and a
further write either changes nothing or gives the named setting its value. If the run also writes into
mappings that were handed out, the settings without tags are still valid, the tag settings are still
mappings, and a reset of the task makes the registry sound again. -/
theorem settings_valid_over_runs (steps : List RegistryStep) :
    ((∀ step ∈ steps, ¬step.IsWrite) → (initial.afterAll steps).Sound) ∧
      (∀ group key v,
        (∀ e, ((initial.afterAll steps).set group key v).outcome = .error e →
          (initial.afterAll steps).after (.set group key v) = initial.afterAll steps) ∧
        ∀ r', ((initial.afterAll steps).set group key v).outcome = .ok r' →
          (initial.afterAll steps).after (.set group key v) = r' ∧
          ∃ k : SettingKey, k.spec.group.word = group ∧ k.spec.name = key ∧
            r'.settings.value k = v ∧
            (∀ k' ≠ k, r'.settings.value k' = (initial.afterAll steps).settings.value k') ∧
            r'.taskFields = (initial.afterAll steps).taskFields ∧
            r'.containerFields = (initial.afterAll steps).containerFields) ∧
      (∀ g : SettingGroup, ((initial.afterAll steps).dump g.word).outcome.map (·.map Prod.fst) =
        .ok ((SettingKey.ofGroup g).map (·.spec.name))) ∧
      (initial.afterAll steps).settings.ValidButTags ∧
      ∃ r', ((initial.afterAll steps).reset "task").outcome = .ok r' ∧ r'.Sound := by
  refine ⟨fun hw => sound_of_valid (valid_afterAll hw), ?_, dump_names _,
    validButTags_afterAll steps, ?_⟩
  · intro group key v
    constructor
    · intro e he
      rw [after, he]
      rfl
    · intro r' hr
      obtain ⟨k, hg, hk, -, rfl⟩ := set_eq_ok hr
      refine ⟨by rw [after, hr]; rfl, k, hg, hk, if_pos rfl, fun k' hne => if_neg hne, rfl, rfl⟩
  · exact ⟨_, reset_eq_ok_iff.mpr ⟨.task, rfl, rfl⟩,
      sound_of_valid (valid_resetGroup_task (validButTags_afterAll steps))⟩

/-- A truth value is refused as a port, a load fails at its second variable, and what was set before
stays; then an unchecked field is written into the tags. -/
theorem settings_valid_over_runs_example :
    let steps : List RegistryStep := [.set "server" "port" (.bool true),
      .set "server" "port" (.int 8080),
      .load FileTree.empty [("ECS_LOCAL_DOCKER_TIMEOUT", "0"), ("ECS_LOCAL_METADATA_PORT", "81")]]
    (Registry.initial.afterAll steps).Sound ∧
      (Registry.initial.afterAll steps).settings.value .port = .int 81 ∧
      (Registry.initial.afterAll
        (steps ++ [.write "task" "task_tags" "owner" .null])).settings.ValidButTags := by
  intro steps
  have hw : ∀ step ∈ steps, ¬step.IsWrite := by simp [steps, RegistryStep.IsWrite]
  exact ⟨(settings_valid_over_runs steps).1 hw, by decide,
    (settings_valid_over_runs (steps ++ _)).2.2.2.1⟩

end Runs

end Registry

end TaskEndpoints
