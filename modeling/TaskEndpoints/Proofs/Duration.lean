import TaskEndpoints.Duration
import TaskEndpoints.Proofs.Text.Runs

/-!
# The grammar of durations

Reading a duration accepts exactly the counts of seconds and the runs of parts that the grammar of
durations names, with white space around them and signs before them, and a run can be split into parts in
one way only. The main statement says this together with the number of seconds that is read, and with the
cause for which every other text is refused.

## Implementation notes

The grammar says how parts are written. Nothing in it prefers one unit to another or a longer number to a
shorter one: that a reader which does so finds the only split is what is shown here.
-/

namespace TaskEndpoints

open Text

namespace TimeUnit

variable {cs rest : List Char} {u : TimeUnit}

/-- The letters of a unit are read back where no digitless unit could follow them. -/
theorem read?_letters (u : TimeUnit) (h : ∀ c ∈ rest.head?, isDecimal c = true) :
    read? (u.letters ++ rest) = some (u, rest) := by
  cases u with
  | minute =>
      -- only here may a following `s` be taken for a part of the unit
      cases rest with
      | nil => rfl
      | cons c more =>
          have hc : c ≠ 's' := by
            rintro rfl
            exact absurd (h 's' rfl) (by decide)
          simp [letters, read?, hc]
  | _ => rfl

theorem eq_letters_of_read? (h : read? cs = some (u, rest)) : cs = u.letters ++ rest := by
  unfold read? at h
  split at h
  case h_5 => cases h
  all_goals
    obtain ⟨rfl, rfl⟩ := Prod.mk.inj (Option.some.inj h)
    rfl

theorem exists_letter (u : TimeUnit) : ∃ c more, u.letters = c :: more ∧ isDigitLike c = false ∧ c ≠ '.' := by
  cases u with
  | millisecond => exact ⟨'m', ['s'], rfl, by decide, by decide⟩
  | second => exact ⟨'s', [], rfl, by decide, by decide⟩
  | minute => exact ⟨'m', [], rfl, by decide, by decide⟩
  | hour => exact ⟨'h', [], rfl, by decide, by decide⟩

end TimeUnit

theorem isDigitLike_of_isDecimal {c : Char} (h : isDecimal c = true) : isDigitLike c = true := by
  rw [isDigitLike, h, Bool.true_or]

namespace DurationPart

variable {cs rest ds : List Char} {p : DurationPart} {ps qs : List DurationPart}

/-- Digits after a point; without digits there is no point. -/
def pointed : List Char → List Char
  | [] => []
  | d :: ds => '.' :: d :: ds

/-- How a part is written. -/
def text (p : DurationPart) : List Char := p.whole ++ (pointed p.fraction ++ p.unit.letters)

/-- The numbers of a part are decimal digits, at least one of them before the point. -/
structure IsWritten (p : DurationPart) : Prop where
  whole_ne_nil : p.whole ≠ []
  whole : ∀ c ∈ p.whole, isDecimal c = true
  fraction : ∀ c ∈ p.fraction, isDecimal c = true

/-- A text is a run of parts. -/
structure IsRun (cs : List Char) (ps : List DurationPart) : Prop where
  written : ∀ p ∈ ps, p.IsWritten
  spelled : cs = ps.flatMap text

/-- A unit ends the digits before it. -/
theorem head_letters (u : TimeUnit) (rest : List Char) :
    ∀ c ∈ (u.letters ++ rest).head?, isDecimal c = false := by
  obtain ⟨letter, more, hu, hd, -⟩ := u.exists_letter
  intro c hc
  rw [hu] at hc
  obtain rfl := Option.some.inj hc
  exact Bool.eq_false_iff.mpr fun h => Bool.eq_false_iff.mp hd (isDigitLike_of_isDecimal h)

theorem head_pointed (ds : List Char) (u : TimeUnit) (rest : List Char) :
    ∀ c ∈ (pointed ds ++ (u.letters ++ rest)).head?, isDecimal c = false := by
  cases ds with
  | nil => exact head_letters u rest
  | cons d ds =>
      intro c hc
      obtain rfl := Option.some.inj hc
      decide

theorem readFraction_pointed (h : ∀ c ∈ ds, isDecimal c = true) (u : TimeUnit) (rest : List Char) :
    readFraction (pointed ds ++ (u.letters ++ rest)) = (ds, u.letters ++ rest) := by
  cases ds with
  | nil =>
      obtain ⟨letter, more, hu, -, hpoint⟩ := u.exists_letter
      rw [pointed, List.nil_append, hu, List.cons_append, readFraction.eq_def]
      split
      · rename_i heq
        exact absurd (List.cons.inj heq).1 hpoint
      · rfl
  | cons d ds =>
      have hend := head_letters u rest
      rw [pointed, List.cons_append, readFraction, takeWhile_run h hend, dropWhile_run h hend]
      rfl

/-- A part is read back from its text where a digit follows or nothing does. -/
theorem read?_text (h : p.IsWritten) (hr : ∀ c ∈ rest.head?, isDecimal c = true) :
    read? (p.text ++ rest) = some (p, rest) := by
  have hend := head_pointed p.fraction p.unit rest
  have hwhole : p.whole.isEmpty = false := by
    rw [List.isEmpty_eq_false_iff]
    exact h.whole_ne_nil
  rw [text, List.append_assoc, List.append_assoc, read?]
  simp only [takeWhile_run h.whole hend, dropWhile_run h.whole hend,
    readFraction_pointed h.fraction, hwhole, TimeUnit.read?_letters p.unit hr]
  rfl

/-- The digits after a point and what follows them. -/
theorem readFraction_spec (cs : List Char) :
    cs = pointed (readFraction cs).1 ++ (readFraction cs).2 ∧
      ∀ c ∈ (readFraction cs).1, isDecimal c = true := by
  rw [readFraction.eq_def]
  split
  · rename_i rest
    split
    · exact ⟨rfl, List.forall_mem_nil _⟩
    · rename_i hne
      constructor
      · cases hds : rest.takeWhile isDecimal with
        | nil => exact absurd (List.isEmpty_iff.mpr hds) hne
        | cons d ds =>
            show '.' :: rest = '.' :: ((d :: ds) ++ rest.dropWhile isDecimal)
            rw [← hds, List.takeWhile_append_dropWhile]
      · intro c hc
        exact List.mem_takeWhile_imp hc
  · exact ⟨rfl, List.forall_mem_nil _⟩

/-- What is read as a part is written as one. -/
theorem text_of_read? (h : read? cs = some (p, rest)) : p.IsWritten ∧ cs = p.text ++ rest := by
  unfold read? at h
  simp only at h
  split at h
  · cases h
  · rename_i hne
    obtain ⟨⟨u, rest'⟩, hu, hp⟩ := Option.map_eq_some_iff.mp h
    obtain ⟨rfl, rfl⟩ := Prod.mk.inj hp
    obtain ⟨hfraction, hdigits⟩ := readFraction_spec (cs.dropWhile isDecimal)
    refine ⟨⟨fun he => hne (List.isEmpty_iff.mpr he), fun c hc => List.mem_takeWhile_imp hc, hdigits⟩, ?_⟩
    calc
      cs = cs.takeWhile isDecimal ++ cs.dropWhile isDecimal :=
        List.takeWhile_append_dropWhile.symm
      _ = cs.takeWhile isDecimal ++ (pointed (readFraction (cs.dropWhile isDecimal)).1 ++
            (u.letters ++ rest')) := by
        rw [← TimeUnit.eq_letters_of_read? hu, ← hfraction]
      _ = _ := by simp only [text, List.append_assoc]

/-- A run of parts is empty or begins with a digit. -/
theorem head_flatMap_text (h : ∀ p ∈ ps, p.IsWritten) :
    ∀ c ∈ (ps.flatMap text).head?, isDecimal c = true := by
  intro c hc
  cases ps with
  | nil => cases hc
  | cons p ps =>
      have hp := h p List.mem_cons_self
      cases hw : p.whole with
      | nil => exact absurd hw hp.whole_ne_nil
      | cons d ds =>
          rw [List.flatMap_cons, text, hw] at hc
          obtain rfl := Option.some.inj hc
          apply hp.whole
          rw [hw]
          exact List.mem_cons_self

theorem text_ne_nil (h : p.IsWritten) : p.text ≠ [] := by
  intro he
  exact h.whole_ne_nil (List.append_eq_nil_iff.mp he).1

/-- Reading finds the parts of a run, and nothing else is read. -/
theorem readAll?_eq_some_iff : readAll? cs = some ps ↔ IsRun cs ps := by
  constructor
  · intro h
    fun_induction readAll? cs generalizing ps with
    | case1 cs hcs =>
        obtain rfl := Option.some.inj h
        exact ⟨List.forall_mem_nil _, List.isEmpty_iff.mp hcs⟩
    | case2 => cases h
    | case3 cs hcs p rest hp hlen ih =>
        obtain ⟨more, hmore, rfl⟩ := Option.map_eq_some_iff.mp h
        obtain ⟨hwritten, rfl⟩ := text_of_read? hp
        have hrest := ih hmore
        refine ⟨List.forall_mem_cons.mpr ⟨hwritten, hrest.written⟩, ?_⟩
        rw [hrest.spelled, List.flatMap_cons]
  · rintro ⟨hwritten, rfl⟩
    induction ps with
    | nil =>
        rw [readAll?]
        rfl
    | cons p ps ih =>
        obtain ⟨hp, hps⟩ := List.forall_mem_cons.mp hwritten
        have hread := read?_text hp (head_flatMap_text hps)
        have hne : ¬(p.text ++ ps.flatMap text).isEmpty = true := by
          rw [List.isEmpty_iff]
          exact List.append_ne_nil_of_left_ne_nil (text_ne_nil hp) _
        rw [List.flatMap_cons, readAll?, if_neg hne]
        split
        · rename_i hnone
          rw [hread] at hnone
          cases hnone
        · rename_i hsome
          rw [hread] at hsome
          obtain ⟨rfl, rfl⟩ := Prod.mk.inj (Option.some.inj hsome)
          rw [ih hps]
          rfl

/-- A text is a run of parts in one way. -/
theorem IsRun.unique (h : IsRun cs ps) (h' : IsRun cs qs) : ps = qs :=
  Option.some.inj ((readAll?_eq_some_iff.mpr h).symm.trans (readAll?_eq_some_iff.mpr h'))

/-- A run with a part holds a letter. -/
theorem IsRun.exists_letter (h : IsRun cs ps) (hne : ps ≠ []) : ∃ c ∈ cs, isDigitLike c = false := by
  cases ps with
  | nil => exact absurd rfl hne
  | cons p ps =>
      obtain ⟨c, more, hu, hc, -⟩ := p.unit.exists_letter
      refine ⟨c, ?_, hc⟩
      rw [h.spelled, List.flatMap_cons, text, hu]
      simp

end DurationPart

namespace Duration

open DurationPart

variable {body magnitude : List Char}

/-- A body is a run of signs before a magnitude, which begins with no sign. -/
structure Signs (body magnitude : List Char) : Prop where
  split : ∃ signs, body = signs ++ magnitude ∧ ∀ c ∈ signs, c = '+' ∨ c = '-'
  first : ∀ c ∈ magnitude.head?, ¬(c = '+' ∨ c = '-')

/-- The seconds that a magnitude denotes: a count in decimal digits is read as the nearest double, and the
numbers of parts, times the seconds of their units, are added from left to right. -/
inductive Denotes : List Char → Float → Prop
  | count {digits : List Char} (hne : digits ≠ []) (h : ∀ c ∈ digits, isDecimal c = true) :
      Denotes digits (nearestDouble (decimalNumber digits) 0)
  | parts {cs : List Char} {ps : List DurationPart} (hne : ps ≠ []) (h : IsRun cs ps) :
      Denotes cs (ps.foldl (fun sum p => sum + p.number * p.unit.seconds) 0)

theorem signs_dropWhile (body : List Char) : Signs body (body.dropWhile isSign) where
  split := by
    refine ⟨body.takeWhile isSign, List.takeWhile_append_dropWhile.symm, ?_⟩
    intro c hc
    simpa [isSign] using List.mem_takeWhile_imp hc
  first := by
    intro c hc
    have h := head?_dropWhile isSign body c hc
    simpa [isSign] using h

theorem Signs.dropWhile_eq (h : Signs body magnitude) : body.dropWhile isSign = magnitude := by
  obtain ⟨signs, rfl, hsigns⟩ := h.split
  apply dropWhile_run
  · intro c hc
    simpa [isSign] using hsigns c hc
  · intro c hc
    simpa [isSign] using h.first c hc

/-- Characters with a digit value, at least one of them. -/
def AreDigits (magnitude : List Char) : Prop :=
  magnitude ≠ [] ∧ ∀ c ∈ magnitude, isDigitLike c = true

theorem areDigits_iff :
    AreDigits magnitude ↔ (!magnitude.isEmpty && magnitude.all isDigitLike) = true := by
  simp [AreDigits]

instance : DecidablePred AreDigits := fun _ => decidable_of_iff _ areDigits_iff.symm

/-- Why a body is no duration. Digits some of which are no decimal ones make up no count, and every other
magnitude is no run of parts. -/
def cause (text : String) (body magnitude : List Char) : DurationError :=
  if body = [] then .empty
  else if AreDigits magnitude then .notDecimal (String.ofList magnitude)
  else .malformed text

/-- Digits are no run of parts, since those have units. -/
theorem AreDigits.not_isRun (h : AreDigits magnitude) {ps : List DurationPart} (hne : ps ≠ []) :
    ¬IsRun magnitude ps := by
  intro hrun
  obtain ⟨c, hc, hd⟩ := hrun.exists_letter hne
  exact Bool.eq_false_iff.mp hd (h.2 c hc)

/-- What denotes a number of seconds is read as this number. -/
theorem readMagnitude_of_denotes {x : Float} (text : String) (h : Denotes magnitude x) :
    readMagnitude text magnitude = .ok x := by
  cases h with
  | count hne h =>
      have hdigits : AreDigits magnitude := ⟨hne, fun c hc => isDigitLike_of_isDecimal (h c hc)⟩
      rw [readMagnitude, if_pos (areDigits_iff.mp hdigits)]
      exact if_pos (List.all_eq_true.mpr h)
  | @parts ps hne h =>
      have hdigits : ¬AreDigits magnitude := fun hd => hd.not_isRun hne h
      rw [readMagnitude, if_neg (mt areDigits_iff.mpr hdigits), readAll?_eq_some_iff.mpr h]
      cases ps with
      | nil => exact absurd rfl hne
      | cons p ps => rfl

/-- A magnitude denotes one number of seconds. -/
theorem Denotes.unique {x y : Float} (h : Denotes magnitude x) (h' : Denotes magnitude y) : x = y :=
  Except.ok.inj ((readMagnitude_of_denotes "" h).symm.trans (readMagnitude_of_denotes "" h'))

theorem Denotes.ne_nil {x : Float} (h : Denotes magnitude x) : magnitude ≠ [] := by
  cases h with
  | count hne => exact hne
  | parts hne h =>
      obtain ⟨c, hc, -⟩ := h.exists_letter hne
      exact List.ne_nil_of_mem hc

/-- What denotes no number of seconds is refused. -/
theorem readMagnitude_of_not_denotes {body : List Char} (text : String) (hb : body ≠ [])
    (h : ∀ x, ¬Denotes magnitude x) :
    readMagnitude text magnitude = .error (cause text body magnitude) := by
  rw [readMagnitude, cause, if_neg hb]
  by_cases hdigits : AreDigits magnitude
  · have hdecimal : ¬magnitude.all isDecimal = true :=
      fun hd => h _ (.count hdigits.1 (List.all_eq_true.mp hd))
    rw [if_pos (areDigits_iff.mp hdigits), if_neg hdecimal, if_pos hdigits]
  · rw [if_neg (mt areDigits_iff.mpr hdigits), if_neg hdigits]
    cases hread : readAll? magnitude with
    | none => rfl
    | some ps =>
        cases ps with
        | nil => rfl
        | cons p ps => exact absurd (.parts (List.cons_ne_nil p ps) (readAll?_eq_some_iff.mp hread)) (h _)

end Duration

open Duration DurationPart

variable {text : String} {body magnitude : List Char}

theorem readDuration_of_denotes (hb : TrimsTo text.toList body) (hm : Signs body magnitude) {x : Float}
    (h : Denotes magnitude x) :
    readDuration text = .ok (if body.head? = some '-' then -x else x) := by
  have hne : ¬body.isEmpty = true := by
    rw [List.isEmpty_iff]
    rintro rfl
    exact h.ne_nil hm.dropWhile_eq.symm
  simp only [readDuration, hb.trimBlank_eq, hm.dropWhile_eq, if_neg hne, readMagnitude_of_denotes text h]
  rfl

theorem readDuration_of_not_denotes (hb : TrimsTo text.toList body) (hm : Signs body magnitude)
    (h : ∀ x, ¬Denotes magnitude x) : readDuration text = .error (cause text body magnitude) := by
  simp only [readDuration, hb.trimBlank_eq, hm.dropWhile_eq]
  by_cases hne : body = []
  · rw [if_pos (List.isEmpty_iff.mpr hne), cause, if_pos hne]
  · rw [if_neg (mt List.isEmpty_iff.mp hne), readMagnitude_of_not_denotes text hne h]
    rfl

/-- Every text has one body without white space around it, and this has one magnitude after its signs. The
text is read as a duration exactly if the magnitude is a count in decimal digits or a run of parts, which
then has one split, and what is read is the number of seconds that it denotes, with the sign that the body
begins with. All other texts are refused, each for its cause. -/
theorem readDuration_exact (text : String) :
    (∃ body magnitude, TrimsTo text.toList body ∧ Signs body magnitude) ∧
      ∀ body magnitude, TrimsTo text.toList body → Signs body magnitude →
        (∀ x, readDuration text = .ok x ↔
          ∃ y, Denotes magnitude y ∧ x = if body.head? = some '-' then -y else y) ∧
        (∀ ps qs, IsRun magnitude ps → IsRun magnitude qs → ps = qs) ∧
        ∀ e, readDuration text = .error e ↔
          (∀ y, ¬Denotes magnitude y) ∧ e = cause text body magnitude := by
  refine ⟨⟨_, _, trimsTo_trimBlank _, signs_dropWhile _⟩, ?_⟩
  intro body magnitude hb hm
  refine ⟨?_, fun ps qs h h' => h.unique h', ?_⟩
  · intro x
    constructor
    · intro hx
      apply Classical.byContradiction
      intro hno
      have hnone : ∀ y, ¬Denotes magnitude y := by
        intro y hy
        rw [readDuration_of_denotes hb hm hy] at hx
        exact hno ⟨y, hy, (Except.ok.inj hx).symm⟩
      rw [readDuration_of_not_denotes hb hm hnone] at hx
      cases hx
    · rintro ⟨y, hy, rfl⟩
      exact readDuration_of_denotes hb hm hy
  · intro e
    constructor
    · intro he
      have hnone : ∀ y, ¬Denotes magnitude y := by
        intro y hy
        rw [readDuration_of_denotes hb hm hy] at he
        cases he
      rw [readDuration_of_not_denotes hb hm hnone] at he
      exact ⟨hnone, (Except.error.inj he).symm⟩
    · rintro ⟨hnone, rfl⟩
      exact readDuration_of_not_denotes hb hm hnone

/-- An hour and some milliseconds after a minus sign, with white space around them, and digits of which one
is raised. -/
theorem readDuration_exact_example :
    let body := ['-', '+', '1', 'h', '3', '0', '.', '5', 'm', 's']
    let raised := ['1', '²']
    (TrimsTo " -+1h30.5ms\n".toList body ∧ Signs body (body.drop 2)) ∧
      readDuration " -+1h30.5ms\n" = .ok (-3600.0305) ∧
      (TrimsTo "1²".toList raised ∧ Signs raised raised) ∧
      readDuration "1²" = .error (.notDecimal "1²") := by
  intro body raised
  have hb : TrimsTo " -+1h30.5ms\n".toList body :=
    ⟨⟨[' '], ['\n'], rfl, List.all_eq_true.mp rfl, List.all_eq_true.mp rfl⟩,
      by rintro _ ⟨⟩; rfl, by rintro _ ⟨⟩; rfl⟩
  have hm : Signs body (body.drop 2) := ⟨⟨['-', '+'], rfl, by simp⟩, by rintro _ ⟨⟩; decide⟩
  have hrun : IsRun (body.drop 2)
      [⟨['1'], [], .hour⟩, ⟨['3', '0'], ['5'], .millisecond⟩] := by
    constructor
    · have hhour : IsWritten ⟨['1'], [], .hour⟩ :=
        ⟨List.cons_ne_nil _ _, List.all_eq_true.mp rfl, List.all_eq_true.mp rfl⟩
      have hmillis : IsWritten ⟨['3', '0'], ['5'], .millisecond⟩ :=
        ⟨List.cons_ne_nil _ _, List.all_eq_true.mp rfl, List.all_eq_true.mp rfl⟩
      exact List.forall_mem_cons.mpr ⟨hhour, List.forall_mem_singleton.mpr hmillis⟩
    · rfl
  have hb' : TrimsTo "1²".toList raised :=
    ⟨⟨[], [], rfl, List.forall_mem_nil _, List.forall_mem_nil _⟩,
      by rintro _ ⟨⟩; rfl, by rintro _ ⟨⟩; rfl⟩
  have hm' : Signs raised raised := ⟨⟨[], rfl, List.forall_mem_nil _⟩, by rintro _ ⟨⟩; decide⟩
  have hnone : ∀ y, ¬Denotes raised y := by
    intro y hy
    have hread := readMagnitude_of_denotes "1²" hy
    have hrefused : readMagnitude "1²" raised = .error (.notDecimal "1²") := by rfl
    rw [hrefused] at hread
    cases hread
  have hvalue := ((readDuration_exact _).2 body _ hb hm).1 (-3600.0305)
  have hcause := ((readDuration_exact _).2 raised raised hb' hm').2.2 (.notDecimal "1²")
  refine ⟨⟨hb, hm⟩, hvalue.mpr ⟨_, .parts (by decide) hrun, ?_⟩, ⟨hb', hm'⟩, hcause.mpr ⟨hnone, ?_⟩⟩
  · decide
  · decide

end TaskEndpoints
