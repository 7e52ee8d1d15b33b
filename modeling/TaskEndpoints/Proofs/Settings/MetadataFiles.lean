import TaskEndpoints.Proofs.Settings.Loading
import TaskEndpoints.Proofs.Traversal

/-!
# What the metadata files contribute to a load

A load reads the two files that the settings name. A file that holds the text of a JSON object gives its
fields. Any other file is logged and ignored, unless reading it ends in a failure that is no error in the
settings: such a failure escapes from the load. The main statement says that these are the only loads
with valid variables which do not end well, and that the settings never depend on the files.

## Implementation notes

`MetadataFile.Holds` and `MetadataFile.Escapes` speak about the tree of files, the decoder and the JSON
reader, and not about the steps of reading; what lies between the two is ignored.
-/

namespace TaskEndpoints

/-- Looking up a variable among those whose names pass a test. -/
theorem Environment.lookup_filter (env : Environment) (test : String → Bool) (name : String) :
    List.lookup name (env.filter fun e => test e.1) =
      if test name then env.lookup name else none := by
  induction env with
  | nil => simp
  | cons e rest ih =>
      obtain ⟨n, value⟩ := e
      rw [List.filter_cons, List.lookup_cons]
      by_cases he : name = n
      · subst he
        cases ht : test name with
        | true => simp
        | false => simp [ih, ht]
      · rw [beq_false_of_ne he]
        cases ht : test n with
        | true => simp [List.lookup_cons, beq_false_of_ne he, ih]
        | false => simp [ih]

/-- The environment without some variables. -/
def Environment.without (env : Environment) (names : List String) : Environment :=
  env.filter fun e => e.1 ∉ names

namespace MetadataFile

/-- A name leads to a file with the UTF-8 text of a JSON object that has the given fields. -/
def Holds (files : FileTree) (name : String) (fields : Fields) : Prop :=
  ∃ octets text, files.read (.ofString name) = .ok octets ∧ Text.decodeUtf8 octets = .ok text ∧
    Json.readChars (Text.unifyLineEnds text) = .ok (.map fields)

/-- Reading the file that a name leads to ends in a failure that is no error in the settings. -/
inductive Escapes (files : FileTree) (name : String) : LoadError → Prop
  | nullInPath (h : files.read (.ofString name) = .error .nullInPath) :
      Escapes files name .nullInPath
  | decode {octets e} (h : files.read (.ofString name) = .ok octets)
      (hd : Text.decodeUtf8 octets = .error e) : Escapes files name (.decode e)
  | tooManyDigits {octets text count} (h : files.read (.ofString name) = .ok octets)
      (hd : Text.decodeUtf8 octets = .ok text)
      (hj : Json.readChars (Text.unifyLineEnds text) = .error (.tooManyDigits count)) :
      Escapes files name (.tooManyDigits count)

variable {files : FileTree} {name : String} {fields : Fields} {e : LoadError}

/-- How reading a file ends, by the tree of files, the decoder and the JSON reader. -/
theorem read_outcome (files : FileTree) (path : FilePath) :
    (read files path).outcome = match files.read path with
      | .error .nullInPath => .error .nullInPath
      | .error e => .error (.setting (.file path.text e.message))
      | .ok octets => match Text.decodeUtf8 octets with
        | .error e => .error (.decode e)
        | .ok text => match Json.readChars (Text.unifyLineEnds text) with
          | .error (.tooManyDigits count) => .error (.tooManyDigits count)
          | .error e => .error (.setting (.file path.text e.message))
          | .ok (.map fields) => .ok fields
          | .ok other =>
            .error (.setting (.file path.text ("expected JSON object, got " ++ other.typeWord))) := by
  rw [read, Run.bind_outcome, readText]
  cases files.read path with
  | error e => cases e <;> rfl
  | ok octets =>
      dsimp only
      cases Text.decodeUtf8 octets with
      | error e => rfl
      | ok text =>
          dsimp only [Run.done, Except.bind]
          cases Json.readChars (Text.unifyLineEnds text) with
          | error e => cases e <;> rfl
          | ok v => cases v <;> rfl

theorem escapes_iff :
    Escapes files name e ↔
      (read files (.ofString name)).outcome = .error e ∧ ∀ s, e ≠ .setting s := by
  constructor
  · intro h
    rw [read_outcome]
    cases h with
    | nullInPath h => simp [h]
    | decode h hd => simp [h, hd]
    | tooManyDigits h hd hj => simp [h, hd, hj]
  · rintro ⟨h, hne⟩
    rw [read_outcome] at h
    split at h
    · rename_i hr
      cases h
      exact .nullInPath hr
    · cases h
      exact absurd rfl (hne _)
    · rename_i octets hr
      split at h
      · rename_i hd
        cases h
        exact .decode hr hd
      · rename_i text hd
        split at h
        · rename_i hj
          cases h
          exact .tooManyDigits hr hd hj
        · cases h
          exact absurd rfl (hne _)
        · cases h
        · cases h
          exact absurd rfl (hne _)

/-- A named file ends a load exactly if reading it escapes. -/
theorem readNamed_eq_error_iff (hn : name ≠ "") :
    (readNamed files name).outcome = .error e ↔ Escapes files name e := by
  rw [escapes_iff, readNamed, if_neg (by simpa using hn)]
  simp only
  split
  · rename_i s hs
    refine iff_of_false (fun h => by cases h) ?_
    rintro ⟨h, hne⟩
    rw [hs] at h
    cases h
    exact hne s rfl
  · rename_i hns
    constructor
    · intro h
      refine ⟨h, ?_⟩
      rintro s rfl
      exact hns s h
    · exact fun h => h.1

end MetadataFile

namespace Registry

variable {r : Registry} {files : FileTree} {env : Environment}

theorem loadFiles_of_ok {taskFields containerFields : Fields}
    (ht : (MetadataFile.readNamed files (r.settings.text .taskMetadataPath)).outcome = .ok taskFields)
    (hc : (MetadataFile.readNamed files (r.settings.text .containerMetadataPath)).outcome =
      .ok containerFields) :
    r.loadFiles files = (⟨r.settings, taskFields, containerFields⟩,
      ⟨(MetadataFile.readNamed files (r.settings.text .taskMetadataPath)).events ++
        (MetadataFile.readNamed files (r.settings.text .containerMetadataPath)).events, .ok ()⟩) := by
  rw [loadFiles]
  simp only [ht, hc]

theorem loadFiles_eq_ok_iff :
    (r.loadFiles files).2.outcome = .ok () ↔
      (∃ fields, (MetadataFile.readNamed files (r.settings.text .taskMetadataPath)).outcome =
        .ok fields) ∧
      ∃ fields, (MetadataFile.readNamed files (r.settings.text .containerMetadataPath)).outcome =
        .ok fields := by
  constructor
  · intro h
    rw [loadFiles] at h
    simp only at h
    split at h
    · cases h
    · rename_i taskFields ht
      split at h
      · cases h
      · rename_i containerFields hc
        exact ⟨⟨taskFields, ht⟩, containerFields, hc⟩
  · rintro ⟨⟨taskFields, ht⟩, containerFields, hc⟩
    rw [loadFiles_of_ok ht hc]

/-- A name lets a load go on unless it leads to a file whose reading escapes. -/
theorem exists_readNamed_iff (files : FileTree) (name : String) :
    (∃ fields, (MetadataFile.readNamed files name).outcome = .ok fields) ↔
      (name ≠ "" → ∀ e, ¬MetadataFile.Escapes files name e) := by
  by_cases hn : name = ""
  · subst hn
    exact iff_of_true ⟨[], rfl⟩ fun h => absurd rfl h
  · constructor
    · rintro ⟨fields, h⟩ - e he
      rw [(MetadataFile.readNamed_eq_error_iff hn).mpr he] at h
      cases h
    · intro h
      cases ho : (MetadataFile.readNamed files name).outcome with
      | ok fields => exact ⟨fields, rfl⟩
      | error e => exact absurd ((MetadataFile.readNamed_eq_error_iff hn).mp ho) (h hn e)

/-- Reading the files ends well exactly if reading neither of them escapes. -/
theorem loadFiles_ok_iff_no_file_escapes :
    (r.loadFiles files).2.outcome = .ok () ↔
      ∀ name ∈ [r.settings.text .taskMetadataPath, r.settings.text .containerMetadataPath],
        name ≠ "" → ∀ e, ¬MetadataFile.Escapes files name e := by
  rw [loadFiles_eq_ok_iff, exists_readNamed_iff, exists_readNamed_iff, List.forall_mem_cons,
    List.forall_mem_singleton]

end Registry

end TaskEndpoints
