import TaskEndpoints.Json.Writer
import TaskEndpoints.Proofs.Assoc
import TaskEndpoints.Proofs.Traversal

/-!
# Which values have a JSON text

Texts, numbers, truth values and null have one. A list has one if all its items do, and a map if all its
keys can be written and all its values have one.
-/

namespace TaskEndpoints.Json

/-- The code points that are written as a letter behind a backslash. -/
def escapeLetters : List (Nat × Char) :=
  [(0x22, '"'), (0x5c, '\\'), (0x0a, 'n'), (0x0d, 'r'), (0x09, 't'), (0x0c, 'f'), (0x08, 'b')]

/-- A code point is written as a letter behind a backslash, as its character, or by its UTF-16 units. -/
theorem escapePoint_cases (point : Nat) :
    (∃ letter, (point, letter) ∈ escapeLetters ∧ escapePoint point = ['\\', letter]) ∨
      (∃ c : Char, c.toNat = point ∧ (0x20 ≤ point ∧ point ≤ 0x7e) ∧ c ≠ '"' ∧ c ≠ '\\' ∧
        escapePoint point = [c]) ∨
      escapePoint point = (units16 point).flatMap unitEscape := by
  by_cases hletter : ∃ letter, (point, letter) ∈ escapeLetters
  · obtain ⟨letter, h⟩ := hletter
    have hforms : ∀ e ∈ escapeLetters, escapePoint e.1 = ['\\', e.2] := by decide
    exact Or.inl ⟨letter, h, hforms _ h⟩
  · have hne (e : Nat × Char) (he : e ∈ escapeLetters) : point ≠ e.1 := by
      rintro rfl
      exact hletter ⟨e.2, he⟩
    have hquote : point ≠ 0x22 := hne (0x22, '"') (by decide)
    have hbackslash : point ≠ 0x5c := hne (0x5c, '\\') (by decide)
    have hform : escapePoint point = if 0x20 ≤ point && point ≤ 0x7e then [Char.ofNat point]
        else (units16 point).flatMap unitEscape := by
      rw [escapePoint, if_neg hquote, if_neg hbackslash, if_neg (hne (0x0a, 'n') (by decide)),
        if_neg (hne (0x0d, 'r') (by decide)), if_neg (hne (0x09, 't') (by decide)),
        if_neg (hne (0x0c, 'f') (by decide)), if_neg (hne (0x08, 'b') (by decide))]
    rw [hform]
    split
    · rename_i hplain
      simp only [Bool.and_eq_true, decide_eq_true_eq] at hplain
      have hvisible : ∀ p < 0x7f, (Char.ofNat p).toNat = p := by decide
      have hchar : (Char.ofNat point).toNat = point := hvisible point (Nat.lt_succ_of_le hplain.2)
      refine Or.inr (Or.inl ⟨Char.ofNat point, hchar, hplain, ?_, ?_, rfl⟩)
      · intro hc
        exact hquote (hchar.symm.trans (congrArg Char.toNat hc))
      · intro hc
        exact hbackslash (hchar.symm.trans (congrArg Char.toNat hc))
    · exact Or.inr (Or.inr rfl)

/-- The value has a JSON text. -/
def Writable (v : Value) : Prop := ∃ text, write v = .ok text

/-- The value can be written as a key. -/
def WritableKey (v : Value) : Prop := ∃ cs, writeKey v = .ok cs

theorem writable_of_writeChars {v : Value} {cs : List Char} (h : writeChars v = .ok cs) : Writable v :=
  ⟨String.ofList cs, by rw [write, h]; rfl⟩

theorem writable_iff {v : Value} : Writable v ↔ ∃ cs, writeChars v = .ok cs := by
  constructor
  · rintro ⟨text, h⟩
    obtain ⟨cs, hcs, -⟩ := bind_eq_ok_iff.mp h
    exact ⟨cs, hcs⟩
  · rintro ⟨cs, h⟩
    exact writable_of_writeChars h

@[simp] theorem writable_null : Writable .null := writable_of_writeChars rfl

@[simp] theorem writable_bool (b : Bool) : Writable (.bool b) := by
  cases b with
  | true => exact writable_of_writeChars rfl
  | false => exact writable_of_writeChars rfl

@[simp] theorem writable_text (s : String) : Writable (.text s) := writable_of_writeChars rfl

@[simp] theorem writable_surrogateText (points : List Nat) : Writable (.surrogateText points) :=
  writable_of_writeChars rfl

@[simp] theorem writable_int (n : Int) : Writable (.int n) := writable_of_writeChars rfl

@[simp] theorem writableKey_text (s : String) : WritableKey (.text s) := ⟨_, rfl⟩

theorem writeItems_cons (v : Value) (rest : List Value) : writeItems (v :: rest) = do
    let item ← writeChars v
    return item :: (← writeItems rest) := rfl

theorem writeItems_eq_mapM (items : List Value) : writeItems items = items.mapM writeChars := by
  induction items with
  | nil => rfl
  | cons v rest ih => rw [writeItems_cons, List.mapM_cons, ih]

/-- The written form of an entry. -/
def writeEntry (e : Value × Value) : Except WriteError (List Char) := do
  let key ← writeKey e.1
  let item ← writeChars e.2
  return key ++ ':' :: ' ' :: item

theorem writeEntry_eq_ok_iff {e : Value × Value} {form : List Char} : writeEntry e = .ok form ↔
    ∃ key item, writeKey e.1 = .ok key ∧ writeChars e.2 = .ok item ∧ key ++ ':' :: ' ' :: item = form := by
  simp only [writeEntry, bind_eq_ok_iff, pure, Except.pure, Except.ok.injEq, exists_and_left]

theorem writeEntries_cons (e : Value × Value) (rest : Fields) : writeEntries (e :: rest) = do
    let key ← writeKey e.1
    let item ← writeChars e.2
    return (key ++ ':' :: ' ' :: item) :: (← writeEntries rest) := rfl

theorem writeEntries_eq_mapM (entries : Fields) : writeEntries entries = entries.mapM writeEntry := by
  induction entries with
  | nil => rfl
  | cons e rest ih =>
      rw [writeEntries_cons, List.mapM_cons, ih, writeEntry]
      simp only [bind_assoc, pure_bind]

theorem writeChars_list (items : List Value) : writeChars (.list items) = do
    return '[' :: joinItems (← writeItems items) ++ [']'] := rfl

theorem writeChars_map (entries : Fields) : writeChars (.map entries) = do
    return '\x7b' :: joinItems (← writeEntries entries) ++ ['\x7d'] := rfl

/-- The written form of a list. -/
theorem writeChars_list_eq_ok_iff {items : List Value} {cs : List Char} :
    writeChars (.list items) = .ok cs ↔ ∃ forms,
      items.mapM writeChars = .ok forms ∧ '[' :: (joinItems forms ++ [']']) = cs := by
  rw [writeChars_list, writeItems_eq_mapM]
  simp only [bind_eq_ok_iff, pure, Except.pure, Except.ok.injEq, List.cons_append]

/-- The written form of a map. -/
theorem writeChars_map_eq_ok_iff {entries : Fields} {cs : List Char} :
    writeChars (.map entries) = .ok cs ↔ ∃ forms,
      entries.mapM writeEntry = .ok forms ∧ '\x7b' :: (joinItems forms ++ ['\x7d']) = cs := by
  rw [writeChars_map, writeEntries_eq_mapM]
  simp only [bind_eq_ok_iff, pure, Except.pure, Except.ok.injEq, List.cons_append]

@[simp] theorem writable_list_iff {items : List Value} :
    Writable (.list items) ↔ ∀ v ∈ items, Writable v := by
  have hlist : Writable (.list items) ↔ ∃ forms, items.mapM writeChars = .ok forms := by
    simp only [writable_iff, writeChars_list_eq_ok_iff]
    exact ⟨fun ⟨_, forms, h, _⟩ => ⟨forms, h⟩, fun ⟨forms, h⟩ => ⟨_, forms, h, rfl⟩⟩
  rw [hlist, mapM_isOk_iff]
  simp only [writable_iff]

@[simp] theorem writable_map_iff {entries : Fields} :
    Writable (.map entries) ↔ ∀ e ∈ entries, WritableKey e.1 ∧ Writable e.2 := by
  have hmap : Writable (.map entries) ↔ ∃ forms, entries.mapM writeEntry = .ok forms := by
    simp only [writable_iff, writeChars_map_eq_ok_iff]
    exact ⟨fun ⟨_, forms, h, _⟩ => ⟨forms, h⟩, fun ⟨forms, h⟩ => ⟨_, forms, h, rfl⟩⟩
  have hentry (e : Value × Value) :
      (∃ form, writeEntry e = .ok form) ↔ WritableKey e.1 ∧ Writable e.2 := by
    simp only [writeEntry_eq_ok_iff, writable_iff, WritableKey]
    exact ⟨fun ⟨_, key, item, hk, hi, _⟩ => ⟨⟨key, hk⟩, item, hi⟩,
      fun ⟨⟨key, hk⟩, item, hi⟩ => ⟨_, key, item, hk, hi, rfl⟩⟩
  rw [hmap, mapM_isOk_iff]
  simp only [hentry]

end TaskEndpoints.Json
