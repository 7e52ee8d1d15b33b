import TaskEndpoints.Proofs.Json.Numbers
import TaskEndpoints.Proofs.Json.Writing

/-!
# Which values are written as JSON documents

The text of a value is a document of the JSON standard exactly if the value holds no double without digits.
Keys are no obstacle, because a key that is a double is written as a text.
-/

namespace TaskEndpoints

namespace Value

/-- A double without digits is the value, or stands somewhere among its items and field values. -/
inductive HoldsNonFinite : Value → Prop
  | float {x : Float} (h : (DoubleFields.ofFloat x).isFinite = false) : HoldsNonFinite (.float x)
  | item {items : List Value} {v : Value} (hm : v ∈ items) (hv : HoldsNonFinite v) :
      HoldsNonFinite (.list items)
  | field {entries : Fields} {e : Value × Value} (hm : e ∈ entries) (hv : HoldsNonFinite e.2) :
      HoldsNonFinite (.map entries)

/-- The value holds no double without digits. -/
def IsFinite (v : Value) : Prop := ¬v.HoldsNonFinite

/-- A property holds of all values if lists and maps inherit it from what they hold. -/
@[elab_as_elim]
theorem nested {P : Value → Prop}
    (scalar : ∀ v : Value, (∀ items, v ≠ .list items) → (∀ entries, v ≠ .map entries) → P v)
    (list : ∀ items : List Value, (∀ v ∈ items, P v) → P (.list items))
    (map : ∀ entries : Fields, (∀ e ∈ entries, P e.2) → P (.map entries)) (v : Value) : P v :=
  @Value.rec P (fun items => ∀ v ∈ items, P v) (fun entries => ∀ e ∈ entries, P e.2) (fun e => P e.2)
    (scalar _ nofun nofun) (fun _ => scalar _ nofun nofun) (fun _ => scalar _ nofun nofun)
    (fun _ => scalar _ nofun nofun) (fun _ => scalar _ nofun nofun) (fun _ => scalar _ nofun nofun)
    (fun _ => scalar _ nofun nofun) list map (fun _ => scalar _ nofun nofun)
    nofun (fun _ _ hv hvs => List.forall_mem_cons.mpr ⟨hv, hvs⟩)
    nofun (fun _ _ he hes => List.forall_mem_cons.mpr ⟨he, hes⟩) (fun _ _ _ hv => hv) v

variable {items : List Value} {entries : Fields}

theorem isFinite_list_iff : (list items).IsFinite ↔ ∀ v ∈ items, v.IsFinite :=
  ⟨fun h _ hm hv => h (.item hm hv), fun h hl => by cases hl with | item hm hv => exact h _ hm hv⟩

theorem isFinite_map_iff : (map entries).IsFinite ↔ ∀ e ∈ entries, e.2.IsFinite :=
  ⟨fun h _ hm hv => h (.field hm hv), fun h hl => by cases hl with | field hm hv => exact h _ hm hv⟩

end Value

namespace Json.Standard

/-! ### Texts -/

/-- Characters that stand for the characters of a text. -/
def IsTextBody (cs : List Char) : Prop :=
  ∃ parts : List (List Char), (∀ part ∈ parts, IsTextPart part) ∧ parts.flatten = cs

theorem IsTextPart.isTextBody {cs : List Char} (h : IsTextPart cs) : IsTextBody cs :=
  ⟨[cs], List.forall_mem_singleton.mpr h, List.flatten_singleton⟩

theorem isTextBody_flatMap {α : Type} {f : α → List Char} {xs : List α}
    (h : ∀ x ∈ xs, IsTextBody (f x)) : IsTextBody (xs.flatMap f) := by
  induction xs with
  | nil => exact ⟨[], ⟨fun _ hp => (List.not_mem_nil hp).elim, rfl⟩⟩
  | cons x rest ih =>
      obtain ⟨⟨parts, hparts, he⟩, hrest⟩ := List.forall_mem_cons.mp h
      obtain ⟨parts', hparts', he'⟩ := ih hrest
      exact ⟨parts ++ parts', List.forall_mem_append.mpr ⟨hparts, hparts'⟩, by
        rw [List.flatten_append, he, he', List.flatMap_cons]⟩

theorem IsTextBody.isText {cs : List Char} (h : IsTextBody cs) : IsText ('"' :: (cs ++ ['"'])) := by
  obtain ⟨parts, hparts, rfl⟩ := h
  exact .parts hparts

theorem isTextPart_unitEscape (unit : Nat) : IsTextPart (unitEscape unit) := by
  have hdigit : ∀ n < 16, IsHexDigit n.digitChar := by decide
  refine .unit ?_
  simp only [List.forall_mem_cons]
  exact ⟨hdigit _ (Nat.mod_lt _ (by decide)), hdigit _ (Nat.mod_lt _ (by decide)),
    hdigit _ (Nat.mod_lt _ (by decide)), hdigit _ (Nat.mod_lt _ (by decide)), fun x hx => by cases hx⟩

/-- The written form of a code point is made of escapes and of characters that need none. -/
theorem isTextBody_escapePoint (point : Nat) : IsTextBody (escapePoint point) := by
  obtain ⟨letter, h, he⟩ | ⟨c, rfl, hvisible, hquote, hbackslash, he⟩ | he := escapePoint_cases point
  · have hletters : ∀ e ∈ escapeLetters, e.2 ∈ ['"', '\\', '/', 'b', 'f', 'n', 'r', 't'] := by decide
    rw [he]
    exact (IsTextPart.letter (hletters _ h)).isTextBody
  · rw [he]
    exact (IsTextPart.plain hvisible.1 hquote hbackslash).isTextBody
  · rw [he]
    exact isTextBody_flatMap fun unit _ => (isTextPart_unitEscape unit).isTextBody

theorem isText_writePoints (points : List Nat) : IsText (writePoints points) :=
  (isTextBody_flatMap fun point _ => isTextBody_escapePoint point).isText

/-! ### Scalars and keys -/

theorem IsNumeric.isTextPart {c : Char} (h : IsNumeric c) : IsTextPart [c] := by
  refine .plain h.isPrintable.1 ?_ ?_
  · rintro rfl
    exact absurd h (by decide)
  · rintro rfl
    exact absurd h (by decide)

/-- The text of a scalar is a word, a number, or a word for a double without digits. -/
theorem scalar_cases {v : Value} {cs : List Char} (h : writeScalar? v = some cs) :
    cs ∈ words ∨ IsNumber cs ∨ v.HoldsNonFinite ∧ cs ∈ nonFiniteWords := by
  cases v with
  | null => exact Or.inl (Option.some.inj h ▸ by decide)
  | bool b => cases b <;> exact Or.inl (Option.some.inj h ▸ by decide)
  | int n => exact Or.inr (Or.inl (Option.some.inj h ▸ isNumber_intText n))
  | float x =>
      obtain rfl := Option.some.inj h
      cases hx : (DoubleFields.ofFloat x).isFinite with
      | true => exact Or.inr (Or.inl (isNumber_doubleText hx _))
      | false =>
          exact Or.inr (Or.inr ⟨.float hx, doubleText_of_not_isFinite hx⟩)
  | _ => cases h

theorem isTextPart_of_scalar {v : Value} {cs : List Char} (h : writeScalar? v = some cs) :
    ∀ c ∈ cs, IsTextPart [c] := by
  have hletters : ∀ c ∈ (words ++ nonFiniteWords).flatten, 0x20 ≤ c.toNat ∧ c ≠ '"' ∧ c ≠ '\\' :=
    List.all_iff_forall_prop.mp (by decide)
  have hword (hw : cs ∈ words ++ nonFiniteWords) : ∀ c ∈ cs, IsTextPart [c] := fun c hc =>
    have ⟨hlow, hq, hb⟩ := hletters c (List.mem_flatten_of_mem hw hc)
    .plain hlow hq hb
  rcases scalar_cases h with hw | hn | ⟨-, hw⟩
  · exact hword (List.mem_append_left _ hw)
  · exact fun c hc => (hn.isNumeric c hc).isTextPart
  · exact hword (List.mem_append_right _ hw)

/-- A key is written as a text, or as the text of a scalar in quotes. -/
theorem writeKey_cases {v : Value} {key : List Char} (h : writeKey v = .ok key) :
    (∃ points, writePoints points = key) ∨
      ∃ form, writeScalar? v = some form ∧ '"' :: (form ++ ['"']) = key := by
  rw [writeKey.eq_def] at h
  split at h
  · exact Or.inl ⟨_, Except.ok.inj h⟩
  · exact Or.inl ⟨_, Except.ok.inj h⟩
  · split at h
    · rename_i form hs
      exact Or.inr ⟨form, hs, Except.ok.inj h⟩
    · cases h

/-- A written key is a text, also for a key that is a double without digits. -/
theorem isText_of_writeKey {v : Value} {key : List Char} (h : writeKey v = .ok key) : IsText key := by
  obtain ⟨points, rfl⟩ | ⟨form, hs, rfl⟩ := writeKey_cases h
  · exact isText_writePoints points
  · have hbody : IsTextBody (form.flatMap fun c => [c]) := isTextBody_flatMap fun c hc =>
      (isTextPart_of_scalar hs c hc).isTextBody
    rw [List.flatMap_singleton'] at hbody
    exact hbody.isText

/-! ### Finite values give documents -/

theorem isBlank_space : IsBlank [' '] := List.forall_mem_singleton.mpr (by decide)

theorem isBlank_nil : IsBlank [] := fun _ hc => (List.not_mem_nil hc).elim

theorem IsBlank.space {cs : List Char} (h : IsBlank cs) : IsBlank (' ' :: cs) :=
  List.forall_mem_cons.mpr ⟨by decide, h⟩

theorem Derives.element_of_value {cs : List Char} (h : Derives .value cs) : Derives .element cs := by
  have hpadded : Derives .element ([] ++ cs ++ []) := .element isBlank_nil h isBlank_nil
  rwa [List.nil_append, List.append_nil] at hpadded

theorem Derives.space_element {cs : List Char} (h : Derives .element cs) :
    Derives .element (' ' :: cs) := by
  cases h with
  | element hb hv ha => exact .element hb.space hv ha

theorem Derives.space_member {cs : List Char} (h : Derives .member cs) :
    Derives .member (' ' :: cs) := by
  cases h with
  | member hb hn ha hv => exact .member hb.space hn ha hv

theorem Derives.space_several {p : Phrase} (hspace : ∀ {cs}, Derives p cs → Derives p (' ' :: cs))
    {cs : List Char} (h : Derives (.several p) cs) : Derives (.several p) (' ' :: cs) := by
  cases h with
  | last hl => exact .last (hspace hl)
  | next hn hr => exact .next (hspace hn) hr

/-- Written forms with separators between them derive where each of them does. -/
theorem derives_joinItems {p : Phrase} (hspace : ∀ {cs}, Derives p cs → Derives p (' ' :: cs))
    {forms : List (List Char)} (hne : forms ≠ []) (h : ∀ form ∈ forms, Derives p form) :
    Derives (.several p) (joinItems forms) := by
  induction forms with
  | nil => exact absurd rfl hne
  | cons form rest ih =>
      obtain ⟨hform, hrest⟩ := List.forall_mem_cons.mp h
      cases rest with
      | nil => exact .last hform
      | cons second others =>
          exact .next hform (Derives.space_several hspace (ih (List.cons_ne_nil _ _) hrest))

theorem derives_list {forms : List (List Char)} (h : ∀ form ∈ forms, Derives .value form) :
    Derives .value ('[' :: (joinItems forms ++ [']'])) := by
  cases forms with
  | nil => exact .emptyList isBlank_nil
  | cons form rest =>
      exact .list (derives_joinItems Derives.space_element (List.cons_ne_nil _ _) fun form hf =>
        (h form hf).element_of_value)

theorem derives_map {forms : List (List Char)} (h : ∀ form ∈ forms, Derives .member form) :
    Derives .value ('\x7b' :: (joinItems forms ++ ['\x7d'])) := by
  cases forms with
  | nil => exact .emptyMap isBlank_nil
  | cons form rest => exact .map (derives_joinItems Derives.space_member (List.cons_ne_nil _ _) h)

/-- A written name with a written value is a member. -/
theorem derives_member {key item : List Char} (hk : IsText key) (hi : Derives .value item) :
    Derives .member (key ++ ':' :: ' ' :: item) := by
  have hpadded : Derives .member ([] ++ key ++ [] ++ ':' :: ' ' :: item) :=
    .member isBlank_nil hk isBlank_nil hi.element_of_value.space_element
  rwa [List.nil_append, List.append_nil] at hpadded

theorem derives_writeScalar {v : Value} {cs : List Char} (h : writeScalar? v = some cs)
    (hv : v.IsFinite) : Derives .value cs := by
  rcases scalar_cases h with hw | hn | ⟨hn, -⟩
  · exact .word hw
  · exact .number hn
  · exact absurd hn hv

/-- What is written for a value is a text or the text of a scalar, unless it is a list or a map. -/
theorem writeChars_cases {v : Value} (hlist : ∀ items, v ≠ .list items)
    (hmap : ∀ entries, v ≠ .map entries) {cs : List Char} (h : writeChars v = .ok cs) :
    (∃ points, writePoints points = cs) ∨ writeScalar? v = some cs := by
  cases v with
  | list items => exact absurd rfl (hlist items)
  | map entries => exact absurd rfl (hmap entries)
  | text s => exact Or.inl ⟨_, Except.ok.inj h⟩
  | surrogateText points => exact Or.inl ⟨_, Except.ok.inj h⟩
  | bool b =>
      cases b with
      | true => exact Or.inr (congrArg some (Except.ok.inj h))
      | false => exact Or.inr (congrArg some (Except.ok.inj h))
  | null => exact Or.inr (congrArg some (Except.ok.inj h))
  | int n => exact Or.inr (congrArg some (Except.ok.inj h))
  | float x => exact Or.inr (congrArg some (Except.ok.inj h))
  | octets bytes => cases h
  | moment m => cases h

/-- The text of a finite value is a value of the standard. -/
theorem derives_writeChars {v : Value} (hv : v.IsFinite) {cs : List Char}
    (h : writeChars v = .ok cs) : Derives .value cs := by
  induction v using Value.nested generalizing cs with
  | scalar v hlist hmap =>
      rcases writeChars_cases hlist hmap h with ⟨points, rfl⟩ | hs
      · exact .text (isText_writePoints points)
      · exact derives_writeScalar hs hv
  | list items ih =>
      obtain ⟨forms, hforms, rfl⟩ := writeChars_list_eq_ok_iff.mp h
      rw [Value.isFinite_list_iff] at hv
      refine derives_list fun form hf => ?_
      obtain ⟨v, hm, hw⟩ := exists_mem_of_mapM_eq_ok hforms hf
      exact ih v hm (hv v hm) hw
  | map entries ih =>
      obtain ⟨forms, hforms, rfl⟩ := writeChars_map_eq_ok_iff.mp h
      rw [Value.isFinite_map_iff] at hv
      refine derives_map fun form hf => ?_
      obtain ⟨e, hm, hw⟩ := exists_mem_of_mapM_eq_ok hforms hf
      obtain ⟨key, item, hk, hi, rfl⟩ := writeEntry_eq_ok_iff.mp hw
      exact derives_member (isText_of_writeKey hk) (ih e hm (hv e hm) hi)

/-! ### Values that are not finite give no documents -/

theorem IsBalanced.joinItems {forms : List (List Char)} (h : ∀ form ∈ forms, IsBalanced form) :
    IsBalanced (joinItems forms) := by
  induction forms with
  | nil => rfl
  | cons form rest ih =>
      obtain ⟨hform, hrest⟩ := List.forall_mem_cons.mp h
      cases rest with
      | nil => exact hform
      | cons second others =>
          exact hform.append (((ih hrest).cons (by decide)).cons (by decide))

/-- What an item shows outside of texts, the items with separators between them show. -/
theorem bare_subset_joinItems {forms : List (List Char)} (h : ∀ form ∈ forms, IsBalanced form)
    {form : List Char} (hm : form ∈ forms) : bare .outside form ⊆ bare .outside (joinItems forms) := by
  induction forms with
  | nil => cases hm
  | cons first rest ih =>
      obtain ⟨hfirst, hrest⟩ := List.forall_mem_cons.mp h
      cases rest with
      | nil =>
          rw [List.mem_singleton.mp hm]
          exact List.Subset.refl _
      | cons second others =>
          have hjoin : bare .outside (joinItems (first :: second :: others)) = bare .outside first ++
              ',' :: ' ' :: bare .outside (joinItems (second :: others)) := hfirst.bare_append
          rw [hjoin]
          rcases List.mem_cons.mp hm with rfl | hm
          · exact List.subset_append_left _ _
          · exact fun c hc => List.mem_append_right _
              (List.mem_cons_of_mem _ (List.mem_cons_of_mem _ (ih hrest hm hc)))

theorem balanced_of_scalar {v : Value} {cs : List Char} (h : writeScalar? v = some cs) :
    IsBalanced cs ∧ bare .outside cs = cs :=
  balanced_of_unquoted fun c hc => by
    cases isTextPart_of_scalar h c hc with
    | plain _ hq _ => exact hq

theorem isBalanced_writeEntry {e : Value × Value}
    (hv : ∀ {item}, writeChars e.2 = .ok item → IsBalanced item) {form : List Char}
    (h : writeEntry e = .ok form) : IsBalanced form := by
  obtain ⟨key, item, hk, hi, rfl⟩ := writeEntry_eq_ok_iff.mp h
  exact (isText_of_writeKey hk).shown.1.append (((hv hi).cons (by decide)).cons (by decide))

theorem isBalanced_writeChars {v : Value} {cs : List Char} (h : writeChars v = .ok cs) :
    IsBalanced cs := by
  induction v using Value.nested generalizing cs with
  | scalar v hlist hmap =>
      rcases writeChars_cases hlist hmap h with ⟨points, rfl⟩ | hs
      · exact (isText_writePoints points).shown.1
      · exact (balanced_of_scalar hs).1
  | list items ih =>
      obtain ⟨forms, hforms, rfl⟩ := writeChars_list_eq_ok_iff.mp h
      refine IsBalanced.frame (by decide) (by decide) (.joinItems fun form hf => ?_)
      obtain ⟨v, hm, hw⟩ := exists_mem_of_mapM_eq_ok hforms hf
      exact ih v hm hw
  | map entries ih =>
      obtain ⟨forms, hforms, rfl⟩ := writeChars_map_eq_ok_iff.mp h
      refine IsBalanced.frame (by decide) (by decide) (.joinItems fun form hf => ?_)
      obtain ⟨e, hm, hw⟩ := exists_mem_of_mapM_eq_ok hforms hf
      exact isBalanced_writeEntry (ih e hm) hw

/-- The text of a value that holds a double without digits shows the beginning of its word. -/
theorem exists_stray {v : Value} (hv : v.HoldsNonFinite) {cs : List Char}
    (h : writeChars v = .ok cs) : ∃ c ∈ bare .outside cs, IsStray c := by
  induction hv generalizing cs with
  | @float x hx =>
      have hcs : (doubleText doubleWords x).toList = cs := Except.ok.inj h
      have hwords : ∀ word ∈ nonFiniteWords, 'N' ∈ bare .outside word ∨ 'I' ∈ bare .outside word := by
        decide
      rw [← hcs]
      rcases hwords _ (doubleText_of_not_isFinite hx) with hn | hi
      · exact ⟨'N', hn, Or.inl rfl⟩
      · exact ⟨'I', hi, Or.inr rfl⟩
  | item hm hv ih =>
      obtain ⟨forms, hforms, rfl⟩ := writeChars_list_eq_ok_iff.mp h
      have hbalanced : ∀ form ∈ forms, IsBalanced form := by
        intro form hf
        obtain ⟨v, -, hw⟩ := exists_mem_of_mapM_eq_ok hforms hf
        exact isBalanced_writeChars hw
      obtain ⟨form, hf, hw⟩ := exists_result_of_mapM_eq_ok hforms hm
      obtain ⟨c, hc, hs⟩ := ih hw
      exact ⟨c, (IsBalanced.joinItems hbalanced).bare_subset_frame (by decide)
        (bare_subset_joinItems hbalanced hf hc), hs⟩
  | field hm hv ih =>
      obtain ⟨forms, hforms, rfl⟩ := writeChars_map_eq_ok_iff.mp h
      have hbalanced : ∀ form ∈ forms, IsBalanced form := by
        intro form hf
        obtain ⟨e, -, hw⟩ := exists_mem_of_mapM_eq_ok hforms hf
        exact isBalanced_writeEntry isBalanced_writeChars hw
      obtain ⟨form, hf, hw⟩ := exists_result_of_mapM_eq_ok hforms hm
      obtain ⟨key, item, hk, hi, rfl⟩ := writeEntry_eq_ok_iff.mp hw
      obtain ⟨c, hc, hs⟩ := ih hi
      refine ⟨c, (IsBalanced.joinItems hbalanced).bare_subset_frame (by decide)
        (bare_subset_joinItems hbalanced hf ?_), hs⟩
      rw [(isText_of_writeKey hk).shown.1.bare_append]
      exact List.mem_append_right _ (List.mem_cons_of_mem _ (List.mem_cons_of_mem _ hc))

/-- The text of a value, with a line end behind it, is a document exactly if the value is finite. -/
theorem isDocument_iff {v : Value} {text : String} (h : write v = .ok text) :
    IsDocument (text ++ "\n").toList ↔ v.IsFinite := by
  obtain ⟨cs, hcs, htext⟩ := bind_eq_ok_iff.mp h
  obtain rfl : String.ofList cs = text := Except.ok.inj htext
  have hline : (String.ofList cs ++ "\n").toList = cs ++ ['\n'] := by
    rw [String.toList_append, String.toList_ofList]
    rfl
  rw [hline]
  constructor
  · intro hd hv
    obtain ⟨c, hc, hs⟩ := exists_stray hv hcs
    refine hd.isClean.shown c ?_ hs
    rw [(isBalanced_writeChars hcs).bare_append]
    exact List.mem_append_left _ hc
  · intro hv
    have hend : IsBlank ['\n'] := List.forall_mem_singleton.mpr (by decide)
    have hdocument : Derives .element ([] ++ cs ++ ['\n']) :=
      .element isBlank_nil (derives_writeChars hv hcs) hend
    exact hdocument

end Json.Standard

end TaskEndpoints
