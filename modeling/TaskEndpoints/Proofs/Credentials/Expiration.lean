import TaskEndpoints.Credentials.Expiration
import TaskEndpoints.Proofs.Calendar.Shifts
import TaskEndpoints.Proofs.Calendar.Spans
import TaskEndpoints.Proofs.Traversal

/-!
# The expiration of shared tokens

A setting that is no positive duration never stops credentials from being handed on: the tokens last as long
as the default says, and one warning tells so. A positive duration is taken as it is. The main statement says
that the tokens then expire so many microseconds later, and that there is no expiration only if the duration
is no finite number or leads beyond the calendar.

## Implementation notes

Nothing keeps a positive duration from being too long for the calendar or too short for a microsecond. Both
are told here by the moments that come so much later: there may be none, and it may be the same moment.
-/

namespace TaskEndpoints

open Rounding

variable {raw : String} {now later : Moment} {x : Float} {q : ℚ}

/-- A setting is no duration, or none that is positive. -/
def IsUnusable (raw : String) : Prop := ∀ seconds, readDuration raw = .ok seconds → seconds ≤ 0

/-! ### Seconds -/

/-- Settings without use give way to the default, and one warning quotes them. -/
theorem sharedTokenSeconds_of_unusable {ε : Type} (h : IsUnusable raw) :
    ∃ text : String, raw.toList <:+ text.toList ∧ (sharedTokenSeconds raw : Run ε Float) =
      ⟨[.logged ⟨.credentials, .warning, text⟩], .ok (Float.ofNat 750)⟩ := by
  have hquoted (words : String) : raw.toList <:+
      (words ++ (toString defaultTokenSeconds ++ " seconds: " ++ raw)).toList := by
    rw [String.toList_append, String.toList_append]
    exact (List.suffix_append _ _).trans (List.suffix_append _ _)
  cases hr : readDuration raw with
  | error e =>
      refine ⟨_, hquoted "Could not parse SHARED_TOKEN_EXPIRATION value, defaulting to ", ?_⟩
      simp only [sharedTokenSeconds, hr]
      rfl
  | ok seconds =>
      refine ⟨_, hquoted "SHARED_TOKEN_EXPIRATION value must be positive, forcing to ", ?_⟩
      simp only [sharedTokenSeconds, hr, if_pos (h seconds hr)]
      rfl

theorem sharedTokenSeconds_of_positive {ε : Type} (hr : readDuration raw = .ok x) (hx : ¬x ≤ 0) :
    (sharedTokenSeconds raw : Run ε Float) = ⟨[], .ok x⟩ := by
  simp only [sharedTokenSeconds, hr, if_neg hx]
  rfl

/-! ### Moments -/

/-- A moment that comes by a number of seconds later is found exactly if there is one. -/
theorem exists_near_shift (hnow : now.Valid) (h : IsNumber x q) :
    ∃ micros, 0 ≤ micros ∧ IsNear micros q ∧
      ∀ later, (spanMicros x >>= now.shift) = .ok later ↔ later.IsLater now micros := by
  obtain ⟨micros, hnonneg, hnear, hspan⟩ := exists_near_spanMicros h
  refine ⟨micros, hnonneg, hnear, fun later => ?_⟩
  rw [bind_eq_ok_iff]
  constructor
  · rintro ⟨found, hfound, hshift⟩
    obtain ⟨-, rfl⟩ := (hspan found).mp hfound
    exact (Moment.shift_eq_ok_iff hnow).mp hshift
  · intro hlater
    have hshift := (Moment.shift_eq_ok_iff hnow).mpr hlater
    -- spans of too many days lead beyond the calendar from any moment
    have hend := ((now.exists_shift_iff micros).mp ⟨later, hshift⟩).2
    have hstart := hnow.localMicros_nonneg
    exact ⟨micros, (hspan micros).mpr ⟨by omega, rfl⟩, hshift⟩

/-- The default is a whole number of seconds. -/
theorem shift_default (hnow : now.Valid) :
    (spanMicros (Float.ofNat 750) >>= now.shift) = .ok later ↔ later.IsLater now 750000000 := by
  have hdefault : IsNumber (Float.ofNat 750) (750 : ℕ) := isNumber_ofNat_of_lt (by norm_num)
  obtain ⟨micros, -, hnear, hshift⟩ := exists_near_shift hnow hdefault
  have hmicros : micros = 750000000 := hnear.eq_of_whole (by norm_num)
  rw [hshift, hmicros]

/-- A positive duration is used as it is. -/
theorem sharedTokenExpiration_of_positive (hr : readDuration raw = .ok x) (hx : ¬x ≤ 0) :
    sharedTokenExpiration raw now = ⟨[], spanMicros x >>= now.shift⟩ := by
  rw [sharedTokenExpiration, sharedTokenSeconds_of_positive hr hx, Run.bind_of_ok rfl]
  rfl

theorem sharedTokenExpiration_of_unusable (hnow : now.Valid) (h : IsUnusable raw)
    (hlater : later.IsLater now 750000000) : ∃ text : String, raw.toList <:+ text.toList ∧
      sharedTokenExpiration raw now = ⟨[.logged ⟨.credentials, .warning, text⟩], .ok later⟩ := by
  obtain ⟨text, hquoted, hseconds⟩ := sharedTokenSeconds_of_unusable (ε := CalendarError) h
  refine ⟨text, hquoted, ?_⟩
  rw [sharedTokenExpiration, hseconds, Run.bind_of_ok rfl, ← (shift_default hnow).mpr hlater]
  rfl

/-- Settings without use are replaced by the default, with one warning that quotes them, and shared tokens then
expire 750 seconds later. A positive duration is used without a word. What is no finite number is no span of
time, so that no expiration is found. Otherwise the tokens expire at the one moment that comes so many
microseconds later, if the calendar has it: it comes later indeed if the duration is a microsecond or more,
and the calendar has it if the duration is less than nine hundred and ninety years. -/
theorem shared_tokens_expire_after_setting (raw : String) (now : Moment) (hnow : now.Valid)
    (hyear : now.date.year ≤ 9000) :
    (IsUnusable raw → ∃ later text, raw.toList <:+ String.toList text ∧ sharedTokenExpiration raw now =
        ⟨[.logged ⟨.credentials, .warning, text⟩], .ok later⟩ ∧
      later.IsLater now 750000000 ∧ now.instant < later.instant) ∧
    ∀ seconds, readDuration raw = .ok seconds → ¬seconds ≤ 0 →
      (sharedTokenExpiration raw now).events = [] ∧
      ((Dyadic.ofFloat seconds).rational? = none →
        ∃ e, (sharedTokenExpiration raw now).outcome = .error e) ∧
      ∀ q, (Dyadic.ofFloat seconds).rational? = some q → 0 < q ∧
        (∃ micros, IsNear micros q ∧ ∀ later,
          (sharedTokenExpiration raw now).outcome = .ok later ↔ later.IsLater now micros) ∧
        (1 / 1000000 ≤ q → ∀ later, (sharedTokenExpiration raw now).outcome = .ok later →
          now.instant < later.instant) ∧
        (q ≤ 990 * 365 * 86400 → ∃ later, (sharedTokenExpiration raw now).outcome = .ok later) := by
  constructor
  · intro h
    obtain ⟨later, hlater⟩ : ∃ later : Moment, later.IsLater now 750000000 :=
      Moment.exists_isLater hnow hyear (by decide) (by decide)
    obtain ⟨text, hquoted, hrun⟩ := sharedTokenExpiration_of_unusable hnow h hlater
    exact ⟨later, text, hquoted, hrun, hlater, hlater.lt (by decide)⟩
  · intro seconds hr hpositive
    rw [sharedTokenExpiration_of_positive hr hpositive]
    refine ⟨rfl, ?_, ?_⟩
    · intro hnone
      obtain ⟨e, he⟩ := exists_spanMicros_error hnone
      refine ⟨e, ?_⟩
      show (spanMicros seconds >>= now.shift) = .error e
      rw [he]
      rfl
    · intro q hq
      obtain ⟨hnumber, hpos⟩ := isNumber_of_not_le hq hpositive
      obtain ⟨micros, hnonneg, hnear, hshift⟩ := exists_near_shift hnow hnumber
      refine ⟨hpos, ⟨micros, hnear, hshift⟩, ?_, ?_⟩
      · intro hlong later hlater
        exact ((hshift later).mp hlater).lt (hnear.pos hlong)
      · intro hshort
        have hmicros : micros ≤ 31525372800000000 := by
          rw [IsNear, abs_le] at hnear
          have hcast : (micros : ℚ) ≤ 31525372800000000 := by linarith [hnear.2]
          exact_mod_cast hcast
        obtain ⟨later, hlater⟩ := Moment.exists_isLater hnow hyear hnonneg hmicros
        exact ⟨later, (hshift later).mpr hlater⟩

/-- The start of the year 2020 in universal time. -/
def startOf2020 : Moment := ⟨⟨2020, 1, 1⟩, 0, 0, 0, 0, some 0⟩

theorem valid_startOf2020 : startOf2020.Valid where
  reading := ⟨⟨31, by decide⟩, by decide, by decide, by decide⟩
  year := by decide
  micro := by decide
  offset := by
    rintro _ ⟨⟩
    decide

/-- A negative duration and one of a quarter of an hour. -/
theorem shared_tokens_expire_after_setting_example :
    (startOf2020.Valid ∧ startOf2020.date.year ≤ 9000) ∧
    (IsUnusable "-15" ∧ ∃ text, sharedTokenExpiration "-15" startOf2020 =
      ⟨[.logged ⟨.credentials, .warning, text⟩], .ok ⟨⟨2020, 1, 1⟩, 0, 12, 30, 0, some 0⟩⟩) ∧
    readDuration "900" = .ok 900 ∧ ¬(900 : Float) ≤ 0 ∧
      sharedTokenExpiration "900" startOf2020 = ⟨[], .ok ⟨⟨2020, 1, 1⟩, 0, 15, 0, 0, some 0⟩⟩ := by
  have hyear : startOf2020.date.year ≤ 9000 := by decide
  have hnegative : IsUnusable "-15" := by
    have hread : readDuration "-15" = .ok (-15) := rfl
    intro seconds hr
    obtain rfl := Except.ok.inj (hread.symm.trans hr)
    decide
  have hread : readDuration "900" = .ok 900 := rfl
  have hpositive : ¬(900 : Float) ≤ 0 := by decide
  have hnumber : IsNumber 900 (900 : ℕ) := isNumber_ofNat_of_lt (by norm_num)
  refine ⟨⟨valid_startOf2020, hyear⟩, ⟨hnegative, ?_⟩, hread, hpositive, ?_⟩
  · have hfalls := (shared_tokens_expire_after_setting "-15" startOf2020 valid_startOf2020 hyear).1
    obtain ⟨later, text, -, hrun, hlater, -⟩ := hfalls hnegative
    have hshift : startOf2020.shift 750000000 = .ok ⟨⟨2020, 1, 1⟩, 0, 12, 30, 0, some 0⟩ := by
      decide
    obtain rfl := Except.ok.inj
      (hshift.symm.trans ((Moment.shift_eq_ok_iff valid_startOf2020).mpr hlater))
    exact ⟨text, hrun⟩
  · have hlasts := (shared_tokens_expire_after_setting "900" startOf2020 valid_startOf2020 hyear).2
    obtain ⟨hevents, -, htells⟩ := hlasts 900 hread hpositive
    obtain ⟨-, ⟨micros, hnear, hlater⟩, -, -⟩ := htells 900 hnumber.rational_eq
    have hmicros : micros = 900000000 := hnear.eq_of_whole (by norm_num)
    have hshift : startOf2020.shift 900000000 = .ok ⟨⟨2020, 1, 1⟩, 0, 15, 0, 0, some 0⟩ := by
      decide
    have houtcome := (hlater _).mpr (hmicros ▸ (Moment.shift_eq_ok_iff valid_startOf2020).mp hshift)
    generalize sharedTokenExpiration "900" startOf2020 = run at *
    cases run
    congr 1

/-- A positive duration may lead beyond the calendar, so that no expiration is found, and it may be so short
that shared tokens expire at once. -/
theorem shared_tokens_without_lifetime :
    startOf2020.Valid ∧
      sharedTokenExpiration "99999999999999999999" startOf2020 = ⟨[], .error .spanTooLarge⟩ ∧
      sharedTokenExpiration "0.0001ms" startOf2020 = ⟨[], .ok startOf2020⟩ := by
  have hlong : (sharedTokenExpiration "99999999999999999999" startOf2020).outcome =
      .error .spanTooLarge := by
    decide +kernel
  have hshort : (sharedTokenExpiration "0.0001ms" startOf2020).outcome = .ok startOf2020 := by
    decide +kernel
  have hsilent : (sharedTokenExpiration "99999999999999999999" startOf2020).events = [] ∧
      (sharedTokenExpiration "0.0001ms" startOf2020).events = [] := by
    decide +kernel
  refine ⟨valid_startOf2020, ?_, ?_⟩
  · rw [← hlong, ← hsilent.1]
  · rw [← hshort, ← hsilent.2]

end TaskEndpoints
