import TaskEndpoints.Settings.Environment

/-!
# What the checks of settings accept

A value is given to a setting only if its check accepts it, and the defaults are accepted as well. What
acceptance means is stated for the integers in a range and for the tag mappings.

## Implementation notes

A check of integers asks for the type before it compares, so that it never meets a value without an
order, and a truth value is refused although it counts as a number in comparisons.
-/

namespace TaskEndpoints

namespace Check

theorem judge_ofType_int (v : Value) : (ofType [.int]).judge v = .ok (match v with
    | .int _ => none
    | _ => some (.wrongType [.int] v.typeWord)) := by
  cases v <;> rfl

theorem judge_inRange (low high v : Value) : (inRange low high).judge v = do
    if ← low.atMost v then
      if ← v.atMost high then return none
    return some (.outOfRange v low high) := rfl

theorem judge_inRange_int (low high n : Int) :
    (inRange (.int low) (.int high)).judge (.int n) = .ok (if low ≤ n ∧ n ≤ high then none
      else some (.outOfRange (.int n) (.int low) (.int high))) := by
  have hle (a b : Int) : (Value.int a).atMost (.int b) = .ok (decide (a ≤ b)) :=
    congrArg Except.ok (Dyadic.le_ofInt a b)
  rw [judge_inRange, hle, hle]
  by_cases hl : low ≤ n
  · by_cases hh : n ≤ high
    · simp [hl, hh, bind, Except.bind, pure, Except.pure]
    · simp [hl, hh, bind, Except.bind, pure, Except.pure]
  · simp [hl, bind, Except.bind, pure, Except.pure]

theorem judge_allOf_pair (first second : Check) (v : Value) : (allOf [first, second]).judge v = do
    match ← first.judge v with
    | none => judgeAll [second] v
    | some complaint => return some complaint := rfl

/-- The type is asked for first, so the comparison is only reached for integers. -/
theorem judge_rangeCheck (low high : Int) (v : Value) :
    (SettingKey.rangeCheck low high).judge v = .ok (match v with
      | .int n => if low ≤ n ∧ n ≤ high then none
        else some (.outOfRange (.int n) (.int low) (.int high))
      | _ => some (.wrongType [.int] v.typeWord)) := by
  rw [SettingKey.rangeCheck, judge_allOf_pair, judge_ofType_int]
  cases v with
  | int n =>
      simp only [bind, Except.bind, judgeAll, judge_inRange_int]
      by_cases h : low ≤ n ∧ n ≤ high
      · rw [if_pos h]
      · rw [if_neg h]
        rfl
  | _ => rfl

/-- A range holds integers only, and no truth values. -/
theorem accepts_rangeCheck_iff {low high : Int} {v : Value} :
    (SettingKey.rangeCheck low high).Accepts v ↔ ∃ n, v = .int n ∧ low ≤ n ∧ n ≤ high := by
  rw [Accepts, judge_rangeCheck]
  cases v with
  | int n => simp
  | _ => simp

theorem accepts_tagMapping_iff {v : Value} :
    tagMapping.Accepts v ↔ ∃ entries, v = .map entries ∧ tagComplaint? entries = none := by
  cases v with
  | map entries =>
      constructor
      · intro h
        exact ⟨entries, rfl, Except.ok.inj h⟩
      · rintro ⟨found, he, ht⟩
        obtain rfl := Value.map.inj he
        exact congrArg Except.ok ht
  | _ =>
      refine iff_of_false nofun ?_
      rintro ⟨_, h, -⟩
      cases h

/-- What is accepted equals one of the choices. -/
theorem exists_equal_of_accepts_oneOf {choices : List Value} {v : Value} (h : (oneOf choices).Accepts v) :
    ∃ choice ∈ choices, choice.equal v = true := by
  by_cases hany : choices.any (·.equal v) = true
  · exact List.any_eq_true.mp hany
  · have hjudge : (oneOf choices).judge v = .ok (some (.notAmong v choices)) :=
      congrArg Except.ok (if_neg hany)
    cases h.symm.trans hjudge

/-- Only texts are compared with a pattern. -/
theorem isText_of_accepts_fits {pattern : Pattern} {hint : String} {v : Value}
    (h : (fits pattern hint).Accepts v) : v.isText = true := by
  by_cases htext : v.isText = true
  · exact htext
  · have hjudge : (fits pattern hint).judge v = .ok (some (.wrongType [.text] v.typeWord)) :=
      congrArg Except.ok (if_neg htext)
    cases h.symm.trans hjudge

end Check

namespace SettingKey

/-- Every default passes its own check. -/
theorem accepts_default (k : SettingKey) : k.spec.check.Accepts k.spec.default := by
  cases k <;> decide

/-- The name of a group belongs to no other. -/
theorem ofName?_eq_some_iff {name : String} {g : SettingGroup} :
    SettingGroup.ofName? name = some g ↔ g.word = name := by
  constructor
  · intro h
    rw [SettingGroup.ofName?] at h
    have hw := List.find?_some h
    exact eq_of_beq hw
  · rintro rfl
    cases g <;> decide

/-- The name of a setting belongs to no other of its group. -/
theorem find?_eq_some_iff {g : SettingGroup} {name : String} {k : SettingKey} :
    find? g name = some k ↔ k.spec.group = g ∧ k.spec.name = name := by
  constructor
  · intro h
    rw [find?] at h
    have hn := List.find?_some h
    have hmem : k ∈ ofGroup g := List.mem_of_find?_eq_some h
    exact ⟨of_decide_eq_true (List.mem_filter.mp hmem).2, eq_of_beq hn⟩
  · rintro ⟨rfl, rfl⟩
    cases k <;> decide

/-- The check of a setting can judge every value. -/
theorem exists_judge (k : SettingKey) (v : Value) :
    ∃ found?, k.spec.check.judge v = .ok found? := by
  cases k with
  | port | dockerTimeout | maxFileSize | maxArchivedFiles =>
      exact ⟨_, Check.judge_rangeCheck _ _ v⟩
  | _ => exact ⟨_, rfl⟩

end SettingKey

namespace Registry

theorem complaint?_eq_none_iff {k : SettingKey} {v : Value} :
    complaint? k v = none ↔ k.spec.check.Accepts v := by
  rw [complaint?, Check.Accepts]
  cases k.spec.check.judge v with
  | error e => simp
  | ok complaint? => cases complaint? <;> simp

theorem complaint?_eq_some_iff {k : SettingKey} {v : Value} {reason : String} :
    complaint? k v = some reason ↔
      ∃ complaint, k.spec.check.judge v = .ok (some complaint) ∧ complaint.message = reason := by
  obtain ⟨found?, h⟩ := k.exists_judge v
  rw [complaint?, h]
  cases found? with
  | none => simp
  | some complaint => simp

end Registry

end TaskEndpoints
