import TaskEndpoints.Proofs.Metadata
import TaskEndpoints.Proofs.Settings.Checks

/-!
# Settings that can be published

Every value that passes the check of its setting has a JSON text, as it has all that it inherits from the
texts and integers in it. A group shows each of its settings under
the name of the setting. So valid settings of the task can always be published.
-/

namespace TaskEndpoints

theorem Value.isAnyText_of_isText {v : Value} (h : v.isText = true) : v.IsAnyText := by
  cases v with
  | text s => exact Or.inl ⟨s, rfl⟩
  | surrogateText points => exact Or.inr ⟨points, rfl⟩
  | _ => cases h

namespace Check

variable {v : Value}

theorem isAnyText_of_accepts_textCheck (h : SettingKey.textCheck.Accepts v) : v.IsAnyText := by
  refine Value.isAnyText_of_isText ?_
  cases v with
  | text | surrogateText => rfl
  | _ => cases h

theorem isAnyText_of_accepts_fits {pattern : Pattern} {hint : String}
    (h : (fits pattern hint).Accepts v) : v.IsAnyText :=
  Value.isAnyText_of_isText (isText_of_accepts_fits h)

theorem inherits_of_tagComplaint?_eq_none {P K : Value → Prop} (hP : Value.Inherited P K)
    {entries : Fields} (h : tagComplaint? entries = none) : P (.map entries) := by
  rw [hP.map_iff]
  induction entries with
  | nil => exact fun e he => by cases he
  | cons e rest ih =>
      rw [tagComplaint?] at h
      split at h
      · cases h
      · rename_i hk
        split at h
        · cases h
        · rename_i hv
          simp only [Bool.or_eq_true, Bool.not_eq_true', not_or, Bool.not_eq_false] at hk hv
          exact List.forall_mem_cons.mpr
            ⟨⟨hP.key (Value.isAnyText_of_isText hk.1), hP.anyText (Value.isAnyText_of_isText hv)⟩, ih h⟩

theorem isAnyText_of_accepts_oneOf (choices : List String)
    (h : (oneOf (choices.map .text)).Accepts v) : v.IsAnyText := by
  obtain ⟨choice, hc, he⟩ := exists_equal_of_accepts_oneOf h
  obtain ⟨s, -, rfl⟩ := List.mem_map.mp hc
  refine Value.isAnyText_of_isText ?_
  cases v with
  | text | surrogateText => rfl
  | _ => simp [Value.equal, Value.dyadic?, Value.sameAs] at he

end Check

/-- What passes the check of a setting has every property that is inherited from texts and integers. -/
theorem SettingKey.inherits_of_accepts {P K : Value → Prop} (hP : Value.Inherited P K) {k : SettingKey}
    {v : Value} (h : k.spec.check.Accepts v) : P v := by
  cases k with
  | port | dockerTimeout | maxFileSize | maxArchivedFiles =>
      obtain ⟨n, rfl, -⟩ := Check.accepts_rangeCheck_iff.mp h
      exact hP.int n
  | containerInstanceTags | taskTags =>
      obtain ⟨entries, rfl, ht⟩ := Check.accepts_tagMapping_iff.mp h
      exact Check.inherits_of_tagComplaint?_eq_none hP ht
  | revision | iamEndpoint | stsEndpoint =>
      exact hP.anyText (Check.isAnyText_of_accepts_fits h)
  | logLevel => exact hP.anyText (Check.isAnyText_of_accepts_oneOf (settableLevels.map Level.word) h)
  | _ => exact hP.anyText (Check.isAnyText_of_accepts_textCheck h)

namespace Settings

variable (s : Settings)

/-- A group shows each of its settings. -/
theorem get?_groupFields (k : SettingKey) :
    Assoc.get? ((s.groupFields k.spec.group).map fun e => (Value.text e.1, e.2)) (.text k.spec.name) =
      some (s.value k) := by
  have hfields : (s.groupFields k.spec.group).map (fun e => (Value.text e.1, e.2)) =
      (SettingKey.ofGroup k.spec.group).map fun k => (Value.text k.spec.name, s.value k) :=
    List.map_map
  have hmem : k ∈ SettingKey.ofGroup k.spec.group :=
    List.mem_filter.mpr ⟨k.mem_all, decide_eq_true rfl⟩
  rw [hfields]
  refine Assoc.get?_map_of_unique (fun k => Value.text k.spec.name) s.value hmem fun other ho hn => ?_
  have hgroup : other.spec.group = k.spec.group := of_decide_eq_true (List.mem_filter.mp ho).2
  have hother := SettingKey.find?_eq_some_iff.mpr ⟨hgroup, Value.text.inj hn⟩
  exact Option.some.inj (hother.symm.trans (SettingKey.find?_eq_some_iff.mpr ⟨rfl, rfl⟩))

/-- Valid settings of the task, shown as fields, have every property that is inherited from texts and
integers. -/
theorem inherits_task {P K : Value → Prop} (hP : Value.Inherited P K) (h : s.Valid) :
    ∀ e ∈ (s.groupFields .task).map fun (name, v) => (Value.text name, v), P e.2 := by
  intro e he
  obtain ⟨f, hf, rfl⟩ := List.mem_map.mp he
  obtain ⟨k, -, rfl⟩ := List.mem_map.mp hf
  exact SettingKey.inherits_of_accepts hP (h k)

/-- The settings of the task, shown as fields, can be published if they are valid. -/
theorem presentable_task (h : s.Valid) :
    LocalTask.Presentable ((s.groupFields .task).map fun (name, v) => (.text name, v)) where
  values := s.inherits_task Json.inherited_writable h
  taskTags := by
    obtain ⟨entries, he, -⟩ := Check.accepts_tagMapping_iff.mp (h .taskTags)
    exact ⟨entries, he ▸ congrArg (·.getD .null) (s.get?_groupFields .taskTags)⟩
  instanceTags := by
    obtain ⟨entries, he, -⟩ := Check.accepts_tagMapping_iff.mp (h .containerInstanceTags)
    exact ⟨entries, he ▸ congrArg (·.getD .null) (s.get?_groupFields .containerInstanceTags)⟩

end Settings

end TaskEndpoints
