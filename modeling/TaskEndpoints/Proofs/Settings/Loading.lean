import TaskEndpoints.Proofs.Settings.Runs

/-!
# What an environment makes of the settings

The variables of an environment are applied one after another, in the order of their table. The main
statement says that a load is refused exactly if some variable that is set is refused, that it names the
first such variable, and that it leaves the settings with exactly the variables before it applied.

## Implementation notes

What variables make of settings is the relation `Binding.Applied`, which tells of each setting where its
value comes from. It needs no order, because no setting has two variables.
-/

namespace TaskEndpoints

namespace Environment

variable {env env' : Environment}

/-- Reading a variable whose name occurs once finds its value, wherever it stands. -/
theorem lookup_eq_some_iff_mem (h : (env.map Prod.fst).Nodup) {name value : String} :
    env.lookup name = some value ↔ (name, value) ∈ env := by
  induction env with
  | nil => simp
  | cons e rest ih =>
      obtain ⟨hn, hrest⟩ := List.nodup_cons.mp h
      rw [List.lookup_cons, List.mem_cons]
      by_cases he : name = e.1
      · subst he
        have hnot : (e.1, value) ∉ rest := fun hm => hn (List.mem_map.mpr ⟨_, hm, rfl⟩)
        simp [hnot, Prod.ext_iff, eq_comm]
      · have hbeq : (name == e.1) = false := beq_false_of_ne he
        simp [hbeq, ih hrest, he, Prod.ext_iff]

/-- The order of the variables has no influence on what is read. -/
theorem read_perm (hn : (env.map Prod.fst).Nodup) (h : env.Perm env') (name : String) :
    env'.read name = env.read name := by
  have hn' : (env'.map Prod.fst).Nodup := (h.map Prod.fst).nodup_iff.mp hn
  have hl : env'.lookup name = env.lookup name := by
    apply Option.ext
    intro value
    rw [lookup_eq_some_iff_mem hn', lookup_eq_some_iff_mem hn, h.mem_iff]
  rw [read, hl, read]

end Environment

namespace Binding

/-- The variable is there and not empty. -/
def IsSet (b : Binding) (env : Environment) : Prop := env.read b.source ≠ ""

/-- A text is refused for a variable: it cannot be converted, or the check of the setting has a complaint
about the value that it is converted to. -/
inductive Refuses (b : Binding) (raw : String) : String → Prop
  | conversion {reason} (h : b.conversion.apply raw = .error reason) : Refuses b raw reason
  | check {v complaint} (h : b.conversion.apply raw = .ok v)
      (hc : b.key.spec.check.judge v = .ok (some complaint)) : Refuses b raw complaint.message

/-- The variable is set to a text that is refused. -/
def Fails (b : Binding) (env : Environment) (reason : String) : Prop :=
  b.IsSet env ∧ b.Refuses (env.read b.source) reason

/-- The settings that the variables of a table make: a variable that is set gives its setting the value
that its text is converted to, and a setting without such a variable keeps its value. -/
structure Applied (table : List Binding) (env : Environment) (s s' : Settings) : Prop where
  given : ∀ b ∈ table, b.IsSet env →
    b.conversion.apply (env.read b.source) = .ok (s'.value b.key)
  kept : ∀ k, (∀ b ∈ table, b.key = k → ¬b.IsSet env) → s'.value k = s.value k

variable {b : Binding} {env env' : Environment} {s s' : Settings} {raw reason : String} {v : Value}

theorem refuses_of_complaint? (h : b.conversion.apply raw = .ok v)
    (hc : Registry.complaint? b.key v = some reason) : b.Refuses raw reason := by
  obtain ⟨complaint, hj, rfl⟩ := Registry.complaint?_eq_some_iff.mp hc
  exact .check h hj

theorem convert_eq_error_iff : b.convert raw = .error reason ↔ b.Refuses raw reason := by
  rw [convert]
  constructor
  · intro h
    cases ha : b.conversion.apply raw with
    | error e =>
        rw [ha] at h
        cases h
        exact .conversion ha
    | ok v =>
        simp only [ha, bind, Except.bind] at h
        split at h
        · cases h
        · rename_i hc
          cases h
          exact refuses_of_complaint? ha hc
  · intro h
    cases h with
    | conversion ha =>
        rw [ha]
        rfl
    | check ha hj =>
        have hc := Registry.complaint?_eq_some_iff.mpr ⟨_, hj, rfl⟩
        simp only [ha, bind, Except.bind, hc]
        rfl

/-- Applying a variable fails exactly if the variable does. -/
theorem apply_eq_error_iff {e : SettingError} :
    b.apply env s = .error e ↔ ∃ reason, b.Fails env reason ∧
      e = .invalid b.key (.text (env.read b.source)) reason (some b.source) := by
  by_cases hs : env.read b.source = ""
  · refine iff_of_false (fun h => ?_) fun ⟨_, ⟨h, _⟩, _⟩ => h hs
    simp [apply, hs] at h
  · simp only [apply, String.isEmpty_iff, hs, if_false]
    cases hc : b.convert (env.read b.source) with
    | ok v =>
        refine iff_of_false (fun h => by cases h) ?_
        rintro ⟨reason, ⟨-, hr⟩, -⟩
        rw [convert_eq_error_iff.mpr hr] at hc
        cases hc
    | error reason =>
        constructor
        · intro h
          cases h
          exact ⟨reason, ⟨hs, convert_eq_error_iff.mp hc⟩, rfl⟩
        · rintro ⟨reason', ⟨-, hr⟩, rfl⟩
          rw [convert_eq_error_iff.mpr hr] at hc
          cases hc
          rfl

/-- What a variable that does not fail makes of the settings. -/
theorem apply_eq_ok (h : b.apply env s = .ok s') :
    (¬b.IsSet env ∧ s' = s) ∨ b.IsSet env ∧ ∃ v,
      b.conversion.apply (env.read b.source) = .ok v ∧ s' = s.update b.key v := by
  by_cases hs : env.read b.source = ""
  · simp only [apply, String.isEmpty_iff, hs, if_true] at h
    exact Or.inl ⟨fun hset => hset hs, (Except.ok.inj h).symm⟩
  · simp only [apply, String.isEmpty_iff, hs, if_false] at h
    cases hc : b.convert (env.read b.source) with
    | ok v =>
        rw [hc] at h
        exact Or.inr ⟨hs, v, (convert_eq_ok_iff.mp hc).1, (Except.ok.inj h).symm⟩
    | error reason =>
        rw [hc] at h
        cases h

theorem exists_apply (h : ∀ reason, ¬b.Fails env reason) (s : Settings) :
    ∃ s', b.apply env s = .ok s' := by
  cases hb : b.apply env s with
  | ok s' => exact ⟨s', rfl⟩
  | error e =>
      obtain ⟨reason, hf, -⟩ := apply_eq_error_iff.mp hb
      exact absurd hf (h reason)

/-- Variables do not fail if applying each of them to some settings works. -/
theorem not_fails_of_isOk {table : List Binding} (h : ∀ b ∈ table, (b.apply env s).isOk = true) :
    ∀ b ∈ table, ∀ reason, ¬b.Fails env reason := by
  intro b hb reason hf
  have hok := h b hb
  rw [apply_eq_error_iff.mpr ⟨reason, hf, rfl⟩] at hok
  cases hok

theorem Applied.nil (env : Environment) (s : Settings) : Applied [] env s s where
  given _ hb := by cases hb
  kept _ _ := rfl

/-- One more variable, of a setting that no later variable is about. -/
theorem Applied.cons {s₁ : Settings} {rest : List Binding} (h : b.apply env s = .ok s₁)
    (hr : Applied rest env s₁ s') (hn : ∀ b' ∈ rest, b'.key ≠ b.key) :
    Applied (b :: rest) env s s' where
  given b' hb' hs' := by
    rcases List.mem_cons.mp hb' with rfl | hb'
    · have hkept := hr.kept b'.key fun b₁ hb₁ he => absurd he (hn b₁ hb₁)
      rcases apply_eq_ok h with ⟨hs, -⟩ | ⟨-, v, hv, rfl⟩
      · exact absurd hs' hs
      · rw [hkept, Settings.value_update, if_pos rfl]
        exact hv
    · exact hr.given b' hb' hs'
  kept k hk := by
    have hrest := hr.kept k fun b' hb' => hk b' (List.mem_cons_of_mem b hb')
    rcases apply_eq_ok h with ⟨-, rfl⟩ | ⟨hs, v, -, rfl⟩
    · exact hrest
    · have hne : k ≠ b.key := fun he => hk b List.mem_cons_self he.symm hs
      rw [hrest, Settings.value_update, if_neg hne]

/-- Variables that do not fail are applied, and the rest of the table is gone through from there. -/
theorem exists_applyAll_append (before : List Binding) (hn : (before.map (·.key)).Nodup)
    (h : ∀ b ∈ before, ∀ reason, ¬b.Fails env reason) (s : Settings) :
    ∃ s', Applied before env s s' ∧
      ∀ rest, applyAll env s (before ++ rest) = applyAll env s' rest := by
  induction before generalizing s with
  | nil => exact ⟨s, .nil env s, fun rest => rfl⟩
  | cons b more ih =>
      obtain ⟨hkey, hmore⟩ := List.nodup_cons.mp hn
      obtain ⟨s₁, hb⟩ := exists_apply (h b List.mem_cons_self) s
      obtain ⟨s', ha, hrest⟩ := ih hmore (fun b' hb' => h b' (List.mem_cons_of_mem b hb')) s₁
      refine ⟨s', ha.cons hb ?_, ?_⟩
      · intro b' hb' he
        exact hkey (List.mem_map.mpr ⟨b', hb', he⟩)
      · intro rest
        rw [List.cons_append, applyAll, hb]
        exact hrest rest

/-- The first variable of a table that fails. -/
theorem exists_first_failing {table : List Binding} (h : ∃ b ∈ table, ∃ reason, b.Fails env reason) :
    ∃ before b after reason, table = before ++ b :: after ∧
      (∀ b' ∈ before, ∀ reason', ¬b'.Fails env reason') ∧ b.Fails env reason := by
  induction table with
  | nil => simp at h
  | cons b rest ih =>
      by_cases hb : ∃ reason, b.Fails env reason
      · obtain ⟨reason, hf⟩ := hb
        exact ⟨[], b, rest, reason, rfl, List.forall_mem_nil _, hf⟩
      · obtain ⟨b', hb', hf'⟩ := h
        have hrest : b' ∈ rest := (List.mem_cons.mp hb').resolve_left fun he => hb (he ▸ hf')
        obtain ⟨before, b₁, after, reason, he, hbefore, hf⟩ := ih ⟨b', hrest, hf'⟩
        refine ⟨b :: before, b₁, after, reason, congrArg (b :: ·) he, ?_, hf⟩
        intro b₂ hb₂ reason' hf₂
        rcases List.mem_cons.mp hb₂ with rfl | hb₂
        · exact hb ⟨reason', hf₂⟩
        · exact hbefore b₂ hb₂ reason' hf₂

/-- Of an environment, only the variables of the table are read. -/
theorem applyAll_congr {table : List Binding}
    (h : ∀ b ∈ table, env'.read b.source = env.read b.source) (s : Settings) :
    applyAll env' s table = applyAll env s table := by
  induction table generalizing s with
  | nil => rfl
  | cons b rest ih =>
      have hb : b.apply env' s = b.apply env s := by
        rw [apply, apply, h b List.mem_cons_self]
      rw [applyAll, applyAll, hb]
      cases b.apply env s with
      | ok next => exact ih (fun b' hb' => h b' (List.mem_cons_of_mem b hb')) next
      | error e => rfl

/-- No setting has two variables. -/
theorem nodup_keys_bindings : (bindings.map (·.key)).Nodup := by decide

end Binding

namespace Registry

variable {r : Registry} {files : FileTree} {env : Environment}

/-- A load is stopped by a variable of the table: the error names it, the variables before it are applied,
and nothing else is changed. -/
structure StoppedAt (r : Registry) (files : FileTree) (env : Environment) (before : List Binding)
    (b : Binding) (after : List Binding) (reason : String) : Prop where
  error : (r.load files env).2.outcome =
    .error (.setting (.invalid b.key (.text (env.read b.source)) reason (some b.source)))
  applied : Binding.Applied before env r.settings (r.load files env).1.settings
  kept : ∀ b' ∈ b :: after,
    (r.load files env).1.settings.value b'.key = r.settings.value b'.key
  taskFields : (r.load files env).1.taskFields = r.taskFields
  containerFields : (r.load files env).1.containerFields = r.containerFields

theorem load_of_error (files : FileTree) {s : Settings} {e : SettingError}
    (h : Binding.applyAll env r.settings bindings = (s, some e)) :
    (r.load files env).1 = r.withSettings s ∧ (r.load files env).2.outcome = .error (.setting e) := by
  rw [load, h]
  exact ⟨rfl, rfl⟩

theorem stoppedAt_of_fails {before after : List Binding} {b : Binding} {reason : String}
    (ht : bindings = before ++ b :: after)
    (hbefore : ∀ b' ∈ before, ∀ reason', ¬b'.Fails env reason') (hb : b.Fails env reason) :
    r.StoppedAt files env before b after reason := by
  have hkeys : ((before ++ b :: after).map (·.key)).Nodup := ht ▸ Binding.nodup_keys_bindings
  rw [List.map_append] at hkeys
  obtain ⟨hn, -, hdisjoint⟩ := List.nodup_append.mp hkeys
  obtain ⟨s', happlied, hrest⟩ := Binding.exists_applyAll_append before hn hbefore r.settings
  have hall : Binding.applyAll env r.settings bindings =
      (s', some (.invalid b.key (.text (env.read b.source)) reason (some b.source))) := by
    rw [ht, hrest, Binding.applyAll, Binding.apply_eq_error_iff.mpr ⟨reason, hb, rfl⟩]
  obtain ⟨hr, he⟩ := load_of_error files hall
  refine ⟨he, hr ▸ happlied, ?_, hr ▸ rfl, hr ▸ rfl⟩
  intro b' hb'
  rw [hr]
  apply happlied.kept
  intro b₁ hb₁ hk
  exact absurd hk (hdisjoint _ (List.mem_map_of_mem hb₁) _ (List.mem_map_of_mem hb'))

/-- The metadata files are read after the settings and never cause an error about a value. -/
theorem readNamed_outcome_ne_setting (files : FileTree) (name : String) (e : SettingError) :
    (MetadataFile.readNamed files name).outcome ≠ .error (.setting e) := by
  rw [MetadataFile.readNamed]
  split
  · intro h
    cases h
  · simp only
    split
    · intro h
      cases h
    · rename_i hne
      exact hne e

theorem loadFiles_outcome_ne_setting (r : Registry) (files : FileTree) (e : SettingError) :
    (r.loadFiles files).2.outcome ≠ .error (.setting e) := by
  rw [loadFiles]
  simp only
  split
  · rename_i e' he
    intro h
    cases h
    exact readNamed_outcome_ne_setting _ _ _ he
  · split
    · rename_i e' he
      intro h
      cases h
      exact readNamed_outcome_ne_setting _ _ _ he
    · intro h
      cases h

theorem exists_applied_of_not_fails (r : Registry) (files : FileTree)
    (h : ∀ b ∈ bindings, ∀ reason, ¬b.Fails env reason) :
    ∃ s', Binding.Applied bindings env r.settings s' ∧
      r.load files env = (r.withSettings s').loadFiles files := by
  obtain ⟨s', happlied, hrest⟩ :=
    Binding.exists_applyAll_append bindings Binding.nodup_keys_bindings h r.settings
  have hall := hrest []
  rw [List.append_nil, Binding.applyAll] at hall
  refine ⟨s', happlied, ?_⟩
  rw [load, hall]

theorem load_congr (r : Registry) (files : FileTree) {env' : Environment}
    (h : ∀ b ∈ bindings, env'.read b.source = env.read b.source) :
    r.load files env' = r.load files env := by
  rw [load, load, Binding.applyAll_congr h]

/-- A load fails because of a value exactly if some variable fails; it is then stopped by the first one
that does. If none fails, all variables are applied. Only the variables of the table are read, in
whatever order they stand in the environment. -/
theorem load_stopped_by_first_failing (r : Registry) (files : FileTree) (env : Environment) :
    ((∃ key raw reason source,
        (r.load files env).2.outcome = .error (.setting (.invalid key raw reason source))) ↔
      ∃ b ∈ bindings, ∃ reason, b.Fails env reason) ∧
    (∀ before b after reason, bindings = before ++ b :: after →
      (∀ b' ∈ before, ∀ reason', ¬b'.Fails env reason') → b.Fails env reason →
      r.StoppedAt files env before b after reason) ∧
    ((∀ b ∈ bindings, ∀ reason, ¬b.Fails env reason) →
      Binding.Applied bindings env r.settings (r.load files env).1.settings) ∧
    (∀ env' : Environment, (∀ b ∈ bindings, env'.read b.source = env.read b.source) →
      r.load files env' = r.load files env) ∧
    ∀ env' : Environment, (env.map Prod.fst).Nodup → env.Perm env' →
      r.load files env' = r.load files env := by
  refine ⟨⟨?_, ?_⟩, fun before b after reason => stoppedAt_of_fails, ?_,
    fun env' => load_congr r files, ?_⟩
  · rintro ⟨key, raw, reason, source, he⟩
    apply Classical.byContradiction
    intro hno
    have hpass : ∀ b ∈ bindings, ∀ reason, ¬b.Fails env reason :=
      fun b hb reason hf => hno ⟨b, hb, reason, hf⟩
    obtain ⟨s', -, hload⟩ := exists_applied_of_not_fails r files hpass
    rw [hload] at he
    exact loadFiles_outcome_ne_setting _ _ _ he
  · intro h
    obtain ⟨before, b, after, reason, ht, hbefore, hb⟩ := Binding.exists_first_failing h
    exact ⟨_, _, _, _, (stoppedAt_of_fails ht hbefore hb).error⟩
  · intro h
    obtain ⟨s', happlied, hload⟩ := exists_applied_of_not_fails r files h
    rw [hload, loadFiles_settings]
    exact happlied
  · intro env' hn hp
    exact load_congr r files fun b _ => Environment.read_perm hn hp b.source

/-- Two variables would fail, and the one that stands first in the table is named, although it stands
last in the environment; the port is set before it, and the level of the log is not set after it. -/
theorem load_stopped_by_first_failing_example :
    let env : Environment := [("ECS_LOCAL_LOG_LEVEL", "loud"), ("ECS_LOCAL_METADATA_PORT", "8080"),
      ("UNRELATED", "x"), ("TASK_DEFINITION_REVISION", "latest")]
    let loaded := initial.load FileTree.empty env
    loaded.2.outcome = .error (.setting (.invalid .revision (.text "latest")
        "'latest' is not a number" (some "TASK_DEFINITION_REVISION"))) ∧
      loaded.1.settings.value .port = .int 8080 ∧ loaded.1.settings.value .logLevel = .text "INFO" := by
  intro env loaded
  have hpass : ∀ b ∈ bindings.take 6, (b.apply env Settings.defaults).isOk = true := by
    decide
  have hrevision : env.read "TASK_DEFINITION_REVISION" = "latest" := by decide
  have hport : env.read "ECS_LOCAL_METADATA_PORT" = "8080" := by decide
  have hfails : Binding.Fails ⟨"TASK_DEFINITION_REVISION", .revision, .text⟩ env
      "'latest' is not a number" := by
    constructor
    · show env.read "TASK_DEFINITION_REVISION" ≠ ""
      rw [hrevision]
      decide
    · exact Binding.refuses_of_complaint? rfl (by decide)
  obtain ⟨herror, happlied, hkept, -, -⟩ :=
    (load_stopped_by_first_failing initial FileTree.empty env).2.1 (bindings.take 6) _
      (bindings.drop 7) _ rfl (Binding.not_fails_of_isOk hpass) hfails
  have hgiven := happlied.given ⟨"ECS_LOCAL_METADATA_PORT", .port, .integer⟩ List.mem_cons_self
    (show env.read "ECS_LOCAL_METADATA_PORT" ≠ "" by rw [hport]; decide)
  have hread : (Conversion.integer.apply "8080").toOption = some (.int 8080) := by decide
  refine ⟨hrevision ▸ herror, ?_, ?_⟩
  · simp only [hport] at hgiven
    rw [hgiven] at hread
    exact Option.some.inj hread
  · exact hkept ⟨"ECS_LOCAL_LOG_LEVEL", .logLevel, .upperCase⟩ (by decide)

end Registry

end TaskEndpoints
