import TaskEndpoints.Proofs.Metadata.Tables
import TaskEndpoints.Proofs.Service.Documents
import TaskEndpoints.Proofs.Settings.Composition
import TaskEndpoints.Proofs.Tags

/-!
# Tags from the environment

Two variables give tags. Each is refused exactly if some piece of its text is no tag, and what it gives
instead is kept as it was collected from the pieces, and published as it was kept.

## Implementation notes

Acceptance is decided in two places, since the reader of tags counts the marks and the check of the setting
refuses empty keys. `Binding.convert_tags_eq_ok_iff` joins the two; everything about loads follows from it
and from what is known of loads in general.
-/

namespace TaskEndpoints

/-- The variables for tags, each with the name under which task metadata shows what it gives. -/
def tagVariables : List (Binding × String) := [
  (⟨"CONTAINER_INSTANCE_TAGS", .containerInstanceTags, .tags⟩, "ContainerInstanceTags"),
  (⟨"TASK_TAGS", .taskTags, .tags⟩, "TaskTags")]

/-- Tags as the value of a setting. -/
def tagsValue (tags : Assoc String String) : Value :=
  .object (tags.map fun tag => (tag.1, .text tag.2))

/-- Task metadata shows a value under a name: it is given wherever the containers of a task can be
described, and has the value unless a field of one's own takes its place. -/
structure Registry.ShowsInTask (r : Registry) (name : String) (v : Value) : Prop where
  given : ∀ own? (engine : LimitedEngine) q snapshot described,
    engine.containers.outcome = .ok snapshot →
    (LocalTask.containersFor q snapshot).mapM (·.metadata r.containerFields) = .ok described →
    ∃ doc, ((Description.ofRegistry r own?).value engine .taskMetadata q).outcome = .ok doc
  shown : ∀ own? (engine : LimitedEngine) q doc,
    ((Description.ofRegistry r own?).value engine .taskMetadata q).outcome = .ok doc →
    Lacks name r.taskFields → doc.field? name = some v

section Acceptance

variable {tags : Assoc String String}

theorem tagsValue_eq (tags : Assoc String String) :
    tagsValue tags = .map (tags.map fun tag => (.text tag.1, .text tag.2)) :=
  congrArg Value.map List.map_map

theorem tagComplaint?_text_cons (key value : String) (rest : Fields) :
    tagComplaint? ((.text key, .text value) :: rest) =
      if key = "" then some (.badTagKey (.text key)) else tagComplaint? rest := by
  rw [tagComplaint?]
  by_cases hkey : key = ""
  · subst hkey
    rfl
  · have htruthy : (Value.text key).isTruthy = true := by simpa [Value.isTruthy] using hkey
    rw [htruthy, if_neg hkey]
    rfl

/-- The check of tags complains about empty keys and about nothing else. -/
theorem accepts_tagsValue_iff :
    Check.tagMapping.Accepts (tagsValue tags) ↔ ∀ key ∈ tags.keys, key ≠ "" := by
  have hcheck : Check.tagMapping.Accepts (tagsValue tags) ↔
      tagComplaint? (tags.map fun tag => (.text tag.1, .text tag.2)) = none := by
    rw [tagsValue_eq]
    exact ⟨Except.ok.inj, congrArg Except.ok⟩
  rw [hcheck]
  clear hcheck
  induction tags with
  | nil => exact iff_of_true rfl (List.forall_mem_nil _)
  | cons tag rest ih =>
      rw [List.map_cons, tagComplaint?_text_cons, Assoc.keys, List.map_cons, List.forall_mem_cons]
      by_cases hkey : tag.1 = ""
      · rw [if_pos hkey]
        exact iff_of_false (fun h => by cases h) fun h => h.1 hkey
      · rw [if_neg hkey]
        exact ih.trans (and_iff_right hkey).symm

end Acceptance

namespace LocalTask

open Metadata

/-- The names under which tags are published, each with the name of its setting. -/
def tagNames : List (String × String) :=
  [("TaskTags", "task_tags"), ("ContainerInstanceTags", "container_instance_tags")]

variable {settings overrides containerOverrides entries : Fields} {containers : List Container}
  {name key : String} {v : Value}

/-- Tags are published under their name unless a field of one's own takes their place. -/
theorem metadata_tags (hname : (name, key) ∈ tagNames)
    (hv : Value.fieldOf settings key = .map entries) (hne : entries ≠ [])
    (h : metadata settings overrides containerOverrides containers = .ok v)
    (hl : Lacks name overrides) : v.field? name = some (.map entries) := by
  obtain ⟨generated, hg, rfl⟩ := metadata_eq_ok_iff.mp h
  obtain ⟨described, tags, instanceTags, -, ht, hi, rfl⟩ := fields_eq_ok_iff_given.mp hg
  refine (Assoc.get?_insertAll_of_not_mem hl _).trans ?_
  have hdisplays := displays_taskTable (describe settings "cluster") (describe settings "task_arn")
    (describe settings "family") (describe settings "revision") described tags instanceTags
  rcases List.mem_pair.mp hname with hn | hn
  · obtain ⟨rfl, rfl⟩ := Prod.mk.inj hn
    rw [hv] at ht
    obtain rfl := hasTags_map_iff.mp ht
    exact hdisplays.values ("TaskTags", some _) (by simp [taskTable, shownUnless, hne])
  · obtain ⟨rfl, rfl⟩ := Prod.mk.inj hn
    rw [hv] at hi
    obtain rfl := hasTags_map_iff.mp hi
    exact hdisplays.values ("ContainerInstanceTags", some _) (by simp [taskTable, shownUnless, hne])

end LocalTask

namespace Binding

variable {b : Binding} {name raw : String} {v : Value}

/-- What the two variables have in common. -/
structure GivesTags (b : Binding) (name : String) : Prop where
  mem : b ∈ bindings
  conversion : b.conversion = .tags
  check : b.key.spec.check = .tagMapping
  group : b.key.spec.group = .task
  published : (name, b.key.spec.name) ∈ LocalTask.tagNames

theorem givesTags_of_mem (hb : (b, name) ∈ tagVariables) : b.GivesTags name := by
  rcases List.mem_pair.mp hb with h | h
  · obtain ⟨rfl, rfl⟩ := Prod.mk.inj h
    exact ⟨by decide, rfl, rfl, rfl, by decide⟩
  · obtain ⟨rfl, rfl⟩ := Prod.mk.inj h
    exact ⟨by decide, rfl, rfl, rfl, by decide⟩

theorem tags_apply_eq_ok_iff : Conversion.tags.apply raw = .ok v ↔
    ∃ pairs, List.Forall₂ SplitsTo (raw.toList.splitOn ',') pairs ∧
      tagsValue (Assoc.ofPairs pairs) = v := by
  rw [Conversion.apply]
  constructor
  · intro h
    split at h
    · rename_i tags hread
      obtain ⟨pairs, hpairs, rfl⟩ := readTags_eq_ok_iff.mp hread
      exact ⟨pairs, hpairs, Except.ok.inj h⟩
    · cases h
  · rintro ⟨pairs, hpairs, rfl⟩
    rw [readTags_eq_ok_iff.mpr ⟨pairs, hpairs, rfl⟩]
    rfl

/-- A text is converted if all its pieces are tags, to what collects their pairs. -/
theorem convert_tags_eq_ok_iff (hb : b.GivesTags name) : b.convert raw = .ok v ↔
    AreTags raw ∧ ∃ pairs, List.Forall₂ SplitsTo (raw.toList.splitOn ',') pairs ∧
      tagsValue (Assoc.ofPairs pairs) = v := by
  rw [convert_eq_ok_iff, hb.conversion, hb.check, tags_apply_eq_ok_iff]
  constructor
  · rintro ⟨⟨pairs, hpairs, rfl⟩, hcheck⟩
    exact ⟨(areTags_iff_of_pairs hpairs).mpr (accepts_tagsValue_iff.mp hcheck), pairs, hpairs, rfl⟩
  · rintro ⟨htags, pairs, hpairs, rfl⟩
    exact ⟨⟨pairs, hpairs, rfl⟩,
      accepts_tagsValue_iff.mpr ((areTags_iff_of_pairs hpairs).mp htags)⟩

/-- Exactly the texts are refused of which some piece is no tag. -/
theorem exists_refuses_iff (hb : b.GivesTags name) :
    (∃ reason, b.Refuses raw reason) ↔ ¬AreTags raw := by
  constructor
  · rintro ⟨reason, hrefused⟩ htags
    obtain ⟨pairs, hpairs⟩ := exists_pairs_of_areTags htags
    have hok := (convert_tags_eq_ok_iff hb).mpr ⟨htags, pairs, hpairs, rfl⟩
    rw [convert_eq_error_iff.mpr hrefused] at hok
    cases hok
  · intro hnot
    cases hc : b.convert raw with
    | ok v => exact absurd ((convert_tags_eq_ok_iff hb).mp hc).1 hnot
    | error reason => exact ⟨reason, convert_eq_error_iff.mp hc⟩

end Binding

namespace Registry

variable {b : Binding} {name : String} {r : Registry} {files : FileTree} {env : Environment}

theorem fieldOf_taskSettings {k : SettingKey} (hk : k.spec.group = .task) (own? : Option String) :
    Value.fieldOf (Description.ofRegistry r own?).taskSettings k.spec.name = r.settings.value k := by
  have hget := r.settings.get?_groupFields k
  rw [hk] at hget
  exact congrArg (·.getD .null) hget

/-- The value of a tag setting is a mapping. -/
theorem exists_entries_of_validButTags (hr : r.settings.ValidButTags) {k : SettingKey}
    (hk : k.HoldsTags) : ∃ entries, r.settings.value k = .map entries := by
  have hv : if k.HoldsTags then ∃ entries, r.settings.value k = .map entries
    else k.spec.check.Accepts (r.settings.value k) := hr k
  rwa [if_pos hk] at hv

/-- Nonempty tags in a setting are shown in task metadata. -/
theorem showsInTask_of_value (hb : b.GivesTags name) (hr : r.settings.ValidButTags) {entries : Fields}
    (hv : r.settings.value b.key = .map entries) (hne : entries ≠ []) :
    r.ShowsInTask name (.map entries) where
  given own? engine q snapshot described hs hd := by
    obtain ⟨task, htask⟩ := exists_entries_of_validButTags hr (Or.inr rfl)
    obtain ⟨instances, hinstances⟩ := exists_entries_of_validButTags hr (Or.inl rfl)
    have ht := LocalTask.tagField_of_map "TaskTags"
      ⟨task, (fieldOf_taskSettings (k := .taskTags) rfl own?).trans htask⟩
    have hi := LocalTask.tagField_of_map "ContainerInstanceTags"
      ⟨instances, (fieldOf_taskSettings (k := .containerInstanceTags) rfl own?).trans hinstances⟩
    exact ⟨_, (Description.taskMetadata_eq_ok_iff hs).mpr <| LocalTask.metadata_eq_ok_iff.mpr
      ⟨_, LocalTask.fields_eq_ok_iff.mpr ⟨described, hd, _, ht, _, hi, rfl⟩, rfl⟩⟩
  shown own? engine q doc hdoc hl := by
    obtain ⟨snapshot, hs⟩ := Description.exists_snapshot hdoc
    have hmetadata := (Description.taskMetadata_eq_ok_iff hs).mp hdoc
    exact LocalTask.metadata_tags hb.published ((fieldOf_taskSettings hb.group own?).trans hv) hne
      hmetadata hl

/-- No two variables have one name. -/
theorem eq_of_source_eq {b b' : Binding} (hb : b ∈ bindings) (hb' : b' ∈ bindings)
    (h : b.source = b'.source) : b = b' :=
  List.inj_on_of_nodup_map (f := Binding.source) (by decide) hb hb' h

theorem exists_takeWhile_append (hb : b ∈ bindings) :
    ∃ after, bindings = bindings.takeWhile (· ≠ b) ++ b :: after := by
  obtain ⟨before, after, ht, hnot⟩ := List.eq_append_cons_of_mem hb
  refine ⟨after, ?_⟩
  have hbefore : ∀ b' ∈ before, decide (b' ≠ b) = true := by
    intro b' hb'
    exact decide_eq_true fun he => hnot (he ▸ hb')
  have htake : bindings.takeWhile (· ≠ b) = before := by
    rw [ht, List.takeWhile_append_of_pos hbefore, List.takeWhile_cons_of_neg (by simp),
      List.append_nil]
  rw [htake]
  exact ht

/-- A load that fails because of a value has a variable that fails. -/
theorem exists_fails_of_outcome {e : SettingError} (h : (r.load files env).2.outcome = .error (.setting e)) :
    ∃ b ∈ bindings, ∃ reason, b.Fails env reason := by
  apply Classical.byContradiction
  intro hno
  obtain ⟨s, -, hload⟩ := exists_applied_of_not_fails r files
    fun b hb reason hf => hno ⟨b, hb, reason, hf⟩
  rw [hload] at h
  exact loadFiles_outcome_ne_setting _ _ _ h

/-- A load without such a variable ends as the reading of the two files does. -/
theorem load_ok_iff_of_not_fails (hall : ∀ b ∈ bindings, ∀ reason, ¬b.Fails env reason) :
    (r.load files env).2.outcome = .ok () ↔
      ∀ file ∈ [(r.load files env).1.settings.text .taskMetadataPath,
        (r.load files env).1.settings.text .containerMetadataPath],
        file ≠ "" → ∀ e, ¬MetadataFile.Escapes files file e := by
  obtain ⟨s, -, hload⟩ := exists_applied_of_not_fails r files hall
  rw [hload, loadFiles_settings]
  exact loadFiles_ok_iff_no_file_escapes

/-- A load that names a variable was stopped by it. -/
theorem fails_of_named (hb : b ∈ bindings) {key : SettingKey} {v : Value} {reason : String}
    (h : (r.load files env).2.outcome =
      .error (.setting (.invalid key v reason (some b.source)))) : ∃ reason, b.Fails env reason := by
  obtain ⟨before, b', after, reason', ht, hbefore, hfails⟩ :=
    Binding.exists_first_failing (exists_fails_of_outcome h)
  have hstopped : r.StoppedAt files env before b' after reason' := stoppedAt_of_fails ht hbefore hfails
  have herror := hstopped.error
  rw [h] at herror
  have hsource : b.source = b'.source := by
    injection herror with herror
    injection herror with herror
    injection herror with _ _ _ hsource
    exact Option.some.inj hsource
  have hb' : b' ∈ bindings := ht ▸ List.mem_append_right before List.mem_cons_self
  exact ⟨reason', eq_of_source_eq hb hb' hsource ▸ hfails⟩

theorem fails_iff_not_areTags (hb : b.GivesTags name) (hset : b.IsSet env) :
    (∃ reason, b.Fails env reason) ↔ ¬AreTags (env.read b.source) := by
  rw [← b.exists_refuses_iff hb]
  exact exists_congr fun reason => and_iff_right hset

/-- What a load keeps of a text of tags is what collects the pairs of its pieces. -/
theorem exists_kept_tags (hb : b.GivesTags name) (hset : b.IsSet env)
    (h : (r.load files env).2.outcome = .ok ()) :
    ∃ pairs, List.Forall₂ SplitsTo ((env.read b.source).toList.splitOn ',') pairs ∧
      (r.load files env).1.settings.value b.key = tagsValue (Assoc.ofPairs pairs) := by
  obtain ⟨s, happlied, hload⟩ := exists_applied_of_not_fails r files (not_fails_of_load_eq_ok h)
  have hgiven := happlied.given b hb.mem hset
  rw [hb.conversion] at hgiven
  obtain ⟨pairs, hpairs, hvalue⟩ := Binding.tags_apply_eq_ok_iff.mp hgiven
  refine ⟨pairs, hpairs, ?_⟩
  rw [hload, loadFiles_settings]
  exact hvalue.symm

theorem ofPairs_ne_nil_of_splitOn {text : String} {pairs : List (String × String)}
    (h : List.Forall₂ SplitsTo (text.toList.splitOn ',') pairs) : Assoc.ofPairs pairs ≠ [] := by
  intro hnil
  have hkeys := Assoc.keys_ofPairs pairs
  rw [hnil] at hkeys
  cases pairs with
  | nil =>
      have hpieces := List.forall₂_nil_right_iff.mp h
      rw [List.splitOn_eq_splitOnP] at hpieces
      exact List.splitOnP_ne_nil _ _ hpieces
  | cons tag rest => 
      rw [List.map_cons, List.eraseDups_cons] at hkeys
      cases hkeys

/-- A load refuses a text of tags exactly if some piece of it is no tag, and then names its variable unless
an earlier one fails. If no other variable fails, it ends well exactly if all pieces are tags and no
metadata file lets a failure escape. What it keeps has one entry for each key, where the key came first,
with the value that came last, and task metadata shows it as it is kept. A written list of tags is kept as
that list. -/
theorem tags_refused_exactly_and_kept (steps : List RegistryStep) (files : FileTree)
    (env : Environment) {b : Binding} {name : String} (hb : (b, name) ∈ tagVariables)
    (hset : b.IsSet env) :
    let raw := env.read b.source
    let loaded := (initial.afterAll steps).load files env
    (AreTags raw → ∀ key v reason,
      loaded.2.outcome ≠ .error (.setting (.invalid key v reason (some b.source)))) ∧
    (¬AreTags raw → (∀ b' ∈ bindings.takeWhile (· ≠ b), ∀ reason, ¬b'.Fails env reason) →
      ∃ reason, loaded.2.outcome =
        .error (.setting (.invalid b.key (.text raw) reason (some b.source)))) ∧
    ((∀ b' ∈ bindings, b' ≠ b → ∀ reason, ¬b'.Fails env reason) →
      (loaded.2.outcome = .ok () ↔ AreTags raw ∧
        ∀ file ∈ [loaded.1.settings.text .taskMetadataPath,
          loaded.1.settings.text .containerMetadataPath],
          file ≠ "" → ∀ e, ¬MetadataFile.Escapes files file e)) ∧
    (loaded.2.outcome = .ok () → ∃ pairs tags,
      List.Forall₂ SplitsTo (raw.toList.splitOn ',') pairs ∧ Assoc.Collects pairs tags ∧
        loaded.1.settings.value b.key = tagsValue tags ∧ loaded.1.ShowsInTask name (tagsValue tags)) ∧
    ∀ tags, TagList tags → raw = writeTags tags → AreTags raw ∧
      (loaded.2.outcome = .ok () → loaded.1.settings.value b.key = tagsValue tags) := by
  intro raw loaded
  have hgives := b.givesTags_of_mem hb
  have hfails : (∃ reason, b.Fails env reason) ↔ ¬AreTags raw := fails_iff_not_areTags hgives hset
  refine ⟨?accepted, ?refused, ?endsWell, ?kept, ?back⟩
  case accepted =>
    intro htags key v reason h
    exact hfails.mp (fails_of_named hgives.mem h) htags
  case refused =>
    intro hnot hearlier
    obtain ⟨reason, hf⟩ := hfails.mpr hnot
    obtain ⟨after, ht⟩ := exists_takeWhile_append hgives.mem
    exact ⟨reason, (stoppedAt_of_fails ht hearlier hf).error⟩
  case endsWell =>
    intro hothers
    constructor
    · intro h
      have hall := not_fails_of_load_eq_ok h
      refine ⟨?_, (load_ok_iff_of_not_fails hall).mp h⟩
      by_contra hnot
      obtain ⟨reason, hf⟩ := hfails.mpr hnot
      exact hall b hgives.mem reason hf
    · rintro ⟨htags, hfiles⟩
      apply (load_ok_iff_of_not_fails ?_).mpr hfiles
      intro b' hb' reason hf
      by_cases hsame : b' = b
      · exact hfails.mp ⟨reason, hsame ▸ hf⟩ htags
      · exact hothers b' hb' hsame reason hf
  case kept =>
    intro h
    obtain ⟨pairs, hpairs, hvalue⟩ := exists_kept_tags hgives hset h
    have hvalid : loaded.1.settings.ValidButTags := by
      have hrun := validButTags_afterAll (steps ++ [.load files env])
      rwa [afterAll, List.foldl_append] at hrun
    have hne := ofPairs_ne_nil_of_splitOn hpairs
    refine ⟨pairs, _, hpairs, Assoc.collects_ofPairs pairs, hvalue, ?_⟩
    rw [tagsValue_eq] at hvalue ⊢
    exact showsInTask_of_value hgives hvalid hvalue fun hnil => hne (List.map_eq_nil_iff.mp hnil)
  case back =>
    intro tags htags hraw
    refine ⟨hraw ▸ htags.areTags, fun h => ?_⟩
    obtain ⟨pairs, hpairs, hvalue⟩ := exists_kept_tags hgives hset h
    have hread : readTags (writeTags tags) = .ok (Assoc.ofPairs pairs) :=
      readTags_eq_ok_iff.mpr ⟨pairs, hraw ▸ hpairs, rfl⟩
    rw [readTags_writeTags htags] at hread
    rw [hvalue, Except.ok.inj hread]

/-- A repeated key keeps its place and takes its last value, written tags come back, a task without
containers shows both, and of two texts that are refused the one is named whose variable stands first. -/
theorem tags_refused_exactly_and_kept_example :
    let env : Environment := [("TASK_TAGS", "a=1,b=,a=2"),
      ("CONTAINER_INSTANCE_TAGS", writeTags [("team", "web"), ("stage", "x y")])]
    let bad : Environment := [("TASK_TAGS", "=1"), ("CONTAINER_INSTANCE_TAGS", "a=1,,b=2")]
    let loaded := initial.load FileTree.empty env
    loaded.2.outcome = .ok () ∧
      loaded.1.settings.value .taskTags = tagsValue [("a", "2"), ("b", "")] ∧
      loaded.1.settings.value .containerInstanceTags =
        tagsValue [("team", "web"), ("stage", "x y")] ∧
      (∃ doc, ((Description.ofRegistry loaded.1 none).value (.listing []) .taskMetadata
          ⟨"", "10.0.0.9", ""⟩).outcome = .ok doc ∧
        doc.field? "TaskTags" = some (tagsValue [("a", "2"), ("b", "")])) ∧
      ∃ reason, (initial.load FileTree.empty bad).2.outcome = .error (.setting
        (.invalid .containerInstanceTags (.text "a=1,,b=2") reason
          (some "CONTAINER_INSTANCE_TAGS"))) := by
  intro env bad loaded
  have hpass : ∀ b ∈ bindings, (b.apply env Settings.defaults).isOk = true := by decide +kernel
  have hearlier : ∀ b ∈ bindings.take 7, (b.apply bad Settings.defaults).isOk = true := by
    decide
  have hlist : TagList [("team", "web"), ("stage", "x y")] :=
    ⟨List.cons_ne_nil _ _, by decide, by decide, by decide⟩
  have htask : env.read "TASK_TAGS" = "a=1,b=,a=2" := by decide
  have hinstances : env.read "CONTAINER_INSTANCE_TAGS" =
      writeTags [("team", "web"), ("stage", "x y")] := by
    decide
  have hbad : bad.read "CONTAINER_INSTANCE_TAGS" = "a=1,,b=2" := by decide
  have hread : readTags "a=1,b=,a=2" = .ok [("a", "2"), ("b", "")] := by decide
  have hnot : ¬AreTags "a=1,,b=2" := fun h => absurd (h [] (by decide)) (by decide)
  obtain ⟨-, -, -, hkept, -⟩ := tags_refused_exactly_and_kept [] FileTree.empty env
    (b := ⟨"TASK_TAGS", .taskTags, .tags⟩) (List.mem_pair.mpr (Or.inr rfl))
    (show env.read "TASK_TAGS" ≠ "" by rw [htask]; decide)
  obtain ⟨-, -, hends, -, hback⟩ := tags_refused_exactly_and_kept [] FileTree.empty env
    (b := ⟨"CONTAINER_INSTANCE_TAGS", .containerInstanceTags, .tags⟩) List.mem_cons_self
    (show env.read "CONTAINER_INSTANCE_TAGS" ≠ "" by rw [hinstances]; decide)
  obtain ⟨-, hrefused, -⟩ := tags_refused_exactly_and_kept [] FileTree.empty bad
    (b := ⟨"CONTAINER_INSTANCE_TAGS", .containerInstanceTags, .tags⟩) List.mem_cons_self
    (show bad.read "CONTAINER_INSTANCE_TAGS" ≠ "" by rw [hbad]; decide)
  obtain ⟨htags, hwritten⟩ := hback _ hlist hinstances
  have hunnamed : ∀ file ∈ [loaded.1.settings.text .taskMetadataPath,
      loaded.1.settings.text .containerMetadataPath], file = "" := by
    decide +kernel
  have hok : loaded.2.outcome = .ok () :=
    (hends fun b hb _ => Binding.not_fails_of_isOk hpass b hb).mpr
      ⟨htags, fun file hfile hne => absurd (hunnamed file hfile) hne⟩
  obtain ⟨pairs, tags, hpairs, hcollects, hvalue, hshown⟩ := hkept hok
  have htags : tags = [("a", "2"), ("b", "")] := by
    have hsame := readTags_eq_ok_iff.mpr ⟨pairs, hpairs, hcollects.ofPairs_eq⟩
    exact Except.ok.inj (hsame.symm.trans ((congrArg readTags htask).trans hread))
  rw [htags] at hvalue hshown
  have hempty : (LimitedEngine.listing []).containers.outcome = .ok [] :=
    (LimitedEngine.containers_eq_ok_iff rfl).mpr rfl
  have hfields : loaded.1.taskFields = [] := by decide +kernel
  have hlacks : Lacks "TaskTags" loaded.1.taskFields := hfields ▸ List.not_mem_nil
  obtain ⟨doc, hdoc⟩ := hshown.given none _ ⟨"", "10.0.0.9", ""⟩ [] [] hempty rfl
  obtain ⟨reason, hreason⟩ := hrefused (hbad ▸ hnot) fun b hb =>
    Binding.not_fails_of_isOk hearlier b hb
  exact ⟨hok, hvalue, hwritten hok, ⟨doc, hdoc, hshown.shown none _ _ doc hdoc hlacks⟩, reason,
    hbad ▸ hreason⟩

end Registry

end TaskEndpoints
