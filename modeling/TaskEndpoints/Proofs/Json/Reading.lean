import TaskEndpoints.Json.Reader
import TaskEndpoints.Proofs.Traversal

/-!
# How a value is read

Reading a value by its first character, and what an object starts with.
-/

namespace TaskEndpoints.Json

variable {fuel : Nat} {c : Char} {cs rest after : List Char}

/-! ### By the first character -/

/-- The first character decides how a value is read. -/
theorem readValue_cons (fuel : Nat) (c : Char) (rest : List Char) : readValue (fuel + 1) (c :: rest) =
    if c = '"' then do
      let (points, after) ← readPoints (c :: rest) [] rest
      return (.ofPoints points, after)
    else if c = '[' then
      match skipSpace rest with
      | ']' :: after => .ok (.list [], after)
      | items => readItems fuel [] items
    else if c = '\x7b' then
      match skipSpace rest with
      | '\x7d' :: after => .ok (.map [], after)
      | fields => readFields fuel [] fields
    else match readWord? (c :: rest) with
      | some found => .ok found
      | none => readNumber (c :: rest) := rfl

theorem readValue_text (fuel : Nat) (rest : List Char) : readValue (fuel + 1) ('"' :: rest) = do
    let (points, after) ← readPoints ('"' :: rest) [] rest
    return (.ofPoints points, after) := by
  rw [readValue_cons, if_pos rfl]

theorem readValue_emptyList (h : skipSpace rest = ']' :: after) :
    readValue (fuel + 1) ('[' :: rest) = .ok (.list [], after) := by
  rw [readValue_cons]
  simp [h]

theorem readValue_list (h : (skipSpace rest).head? ≠ some ']') :
    readValue (fuel + 1) ('[' :: rest) = readItems fuel [] (skipSpace rest) := by
  rw [readValue_cons]
  simp only [reduceIte, show '[' ≠ '"' by decide]
  split
  · rename_i hs
    exact absurd (congrArg List.head? hs) h
  · rfl

theorem readValue_emptyMap (h : skipSpace rest = '\x7d' :: after) :
    readValue (fuel + 1) ('\x7b' :: rest) = .ok (.map [], after) := by
  rw [readValue_cons]
  simp [h]

theorem readValue_map (h : (skipSpace rest).head? ≠ some '\x7d') :
    readValue (fuel + 1) ('\x7b' :: rest) = readFields fuel [] (skipSpace rest) := by
  rw [readValue_cons]
  simp only [reduceIte, show '\x7b' ≠ '"' by decide, show '\x7b' ≠ '[' by decide]
  split
  · rename_i hs
    exact absurd (congrArg List.head? hs) h
  · rfl

/-- The character starts neither a text nor a list nor an object. -/
def StartsScalar (c : Char) : Prop := c ≠ '"' ∧ c ≠ '[' ∧ c ≠ '\x7b'

instance (c : Char) : Decidable (StartsScalar c) :=
  inferInstanceAs (Decidable (c ≠ '"' ∧ c ≠ '[' ∧ c ≠ '\x7b'))

/-- What a value may start with. -/
inductive FirstKind (c : Char) : Prop
  | scalar (h : StartsScalar c)
  | text (h : c = '"')
  | list (h : c = '[')
  | map (h : c = '\x7b')

theorem firstKind (c : Char) : FirstKind c := by
  by_cases hquote : c = '"'
  · exact .text hquote
  by_cases hbracket : c = '['
  · exact .list hbracket
  by_cases hbrace : c = '\x7b'
  · exact .map hbrace
  · exact .scalar ⟨hquote, hbracket, hbrace⟩

theorem readValue_of_word (hc : StartsScalar c) {found : Value × List Char}
    (hw : readWord? (c :: rest) = some found) : readValue (fuel + 1) (c :: rest) = .ok found := by
  obtain ⟨hquote, hbracket, hbrace⟩ := hc
  rw [readValue_cons]
  simp only [hquote, hbracket, hbrace, if_false, hw]

theorem readValue_of_number (hc : StartsScalar c) (hw : readWord? (c :: rest) = none) :
    readValue (fuel + 1) (c :: rest) = readNumber (c :: rest) := by
  obtain ⟨hquote, hbracket, hbrace⟩ := hc
  rw [readValue_cons]
  simp only [hquote, hbracket, hbrace, if_false, hw]

/-! ### What is read as an object -/

variable {done : List Value} {entries fields : Fields}

theorem readItems_ne_map : readItems fuel done cs ≠ .ok (.map fields, after) := by
  induction fuel generalizing done cs with
  | zero => exact nofun
  | succ fuel ih =>
      rw [readItems]
      intro h
      obtain ⟨⟨item, behind⟩, -, hnext⟩ := bind_eq_ok_iff.mp h
      dsimp only at hnext
      split at hnext
      · cases hnext
      · exact ih hnext
      · cases hnext

theorem readNumber_ne_map : readNumber cs ≠ .ok (.map fields, after) := by
  fun_cases readNumber cs
  all_goals
    intro h
    cases h

theorem readWord?_ne_map : readWord? cs ≠ some (.map fields, after) := by
  fun_cases readWord? cs
  all_goals
    intro h
    cases h

theorem exists_of_readFields {v : Value} (h : readFields fuel entries cs = .ok (v, after)) :
    ∃ rest, cs = '"' :: rest := by
  cases fuel with
  | zero => cases h
  | succ fuel =>
      rw [readFields.eq_def] at h
      dsimp only at h
      split at h
      · exact ⟨_, rfl⟩
      · cases h

theorem ofPoints_ne_map (points : List Nat) : Value.ofPoints points ≠ .map fields := by
  rw [Value.ofPoints]
  split
  · exact nofun
  · exact nofun

/-- An object opens with a brace, behind which its end or a name stands. -/
theorem exists_of_readValue_map (h : readValue fuel cs = .ok (.map fields, after)) :
    ∃ rest c more, cs = '\x7b' :: rest ∧ skipSpace rest = c :: more ∧ (c = '\x7d' ∨ c = '"') := by
  match fuel, cs with
  | 0, _ => cases h
  | _ + 1, [] => cases h
  | fuel + 1, c :: rest =>
      cases firstKind c with
      | scalar hc =>
          cases hw : readWord? (c :: rest) with
          | some found =>
              rw [readValue_of_word hc hw] at h
              exact absurd (hw.trans (congrArg some (Except.ok.inj h))) readWord?_ne_map
          | none =>
              rw [readValue_of_number hc hw] at h
              exact absurd h readNumber_ne_map
      | text hc =>
          subst hc
          rw [readValue_text] at h
          obtain ⟨⟨points, behind⟩, -, hp⟩ := bind_eq_ok_iff.mp h
          exact absurd (congrArg Prod.fst (Except.ok.inj hp)) (ofPoints_ne_map points)
      | list hc =>
          subst hc
          by_cases hs : (skipSpace rest).head? = some ']'
          · obtain ⟨more, hs⟩ := List.head?_eq_some_iff.mp hs
            rw [readValue_emptyList hs] at h
            cases h
          · rw [readValue_list hs] at h
            exact absurd h readItems_ne_map
      | map hc =>
          subst hc
          by_cases hs : (skipSpace rest).head? = some '\x7d'
          · obtain ⟨more, hs⟩ := List.head?_eq_some_iff.mp hs
            exact ⟨rest, _, more, rfl, hs, Or.inl rfl⟩
          · rw [readValue_map hs] at h
            obtain ⟨more, hmore⟩ := exists_of_readFields h
            exact ⟨rest, _, more, rfl, hmore, Or.inr rfl⟩

end TaskEndpoints.Json
