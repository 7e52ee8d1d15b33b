import TaskEndpoints.Calendar.Span
import TaskEndpoints.Proofs.Number.Doubles

/-!
# Spans in microseconds

A span of seconds is a double, and a moment is shifted by whole microseconds. The whole seconds of a span
count exactly, and the fraction is scaled and rounded in double precision. So a span is missed by little
more than half a microsecond, whatever its size is.
-/

namespace TaskEndpoints

open Rounding

/-- Whole microseconds miss a number of seconds by little more than a half. -/
def IsNear (micros : ℤ) (seconds : ℚ) : Prop :=
  |(micros : ℚ) - 1000000 * seconds| ≤ 501 / 1000

namespace Rounding

variable {x : Float} {q : ℚ}

theorem representable_zero : Representable 0 := ⟨0, 0, by decide, by decide, by simp⟩

theorem IsNumber.representable (h : IsNumber x q) : Representable q := by
  rw [IsNumber] at h
  generalize x.toModel.unpack = f at h
  cases h with
  | zero => exact representable_zero
  | finite h hc => exact ⟨_, _, hc.mantissa, hc.exponent, rfl⟩

theorem representable_of_lt {n : ℕ} (h : n < 2 ^ 53) : Representable n := ⟨n, 0, h, by decide, by simp⟩

theorem isNumber_ofNat_of_lt {n : ℕ} (h : n < 2 ^ 53) : IsNumber (Float.ofNat n) n := by
  apply isNumber_ofNat (representable_of_lt h)
  calc
    (n : ℚ) < ((2 ^ 53 : ℕ) : ℚ) := by exact_mod_cast h
    _ = 2 ^ (53 : ℤ) := by norm_num
    _ ≤ 2 ^ (1024 : ℤ) := zpow_le_zpow_right₀ (by norm_num) (by decide)

/-- Of a number with few bits, the integer part and the fraction have few bits too. -/
theorem representable_parts (h : Representable q) :
    ∃ n : ℕ, ⌊q⌋ = n ∧ Representable n ∧ Representable (q - n) := by
  obtain ⟨m, e, hm, he, rfl⟩ := h
  rcases Int.le_total 0 e with hnonneg | hneg
  · obtain ⟨k, rfl⟩ := Int.eq_ofNat_of_zero_le hnonneg
    have hwhole : (m : ℚ) * 2 ^ (k : ℤ) = ((m * 2 ^ k : ℕ) : ℚ) := by
      rw [zpow_natCast]
      push_cast
      rfl
    refine ⟨m * 2 ^ k, ?_, ?_, ?_⟩
    · rw [hwhole, Int.floor_natCast]
    · rw [← hwhole]
      exact ⟨m, k, hm, he, rfl⟩
    · rw [hwhole, sub_self]
      exact representable_zero
  · obtain ⟨k, hk⟩ := Int.eq_ofNat_of_zero_le (Int.neg_nonneg_of_nonpos hneg)
    obtain rfl : e = -k := by omega
    have hquotient : (m : ℚ) * 2 ^ (-k : ℤ) = (m : ℤ) / ((2 ^ k : ℕ) : ℚ) := by
      rw [zpow_neg, zpow_natCast]
      push_cast
      rfl
    refine ⟨m / 2 ^ k, ?_, ?_, ?_⟩
    · rw [hquotient, Rat.floor_intCast_div_natCast]
      rfl
    · exact representable_of_lt (lt_of_le_of_lt (Nat.div_le_self m _) hm)
    · refine ⟨m % 2 ^ k, -k, lt_of_le_of_lt (Nat.mod_le m _) hm, he, ?_⟩
      have hsplit : ((m / 2 ^ k : ℕ) : ℚ) * 2 ^ k + (m % 2 ^ k : ℕ) = m := by
        exact_mod_cast Nat.div_add_mod' m (2 ^ k)
      rw [zpow_neg, zpow_natCast]
      field_simp
      linarith

/-- The fraction of a double is exact. -/
theorem IsNumber.fractionOf (h : IsNumber x q) : IsNumber (fractionOf x) (Int.fract q) := by
  obtain ⟨n, hfloor, hn, hrest⟩ := representable_parts h.representable
  have hwhole : ((Dyadic.ofFloat x).truncate?).getD 0 = (n : ℤ) := by rw [h.truncate_eq, hfloor]; rfl
  have hle : (n : ℚ) ≤ q := by
    have hfl := Int.floor_le q
    rw [hfloor] at hfl
    exact_mod_cast hfl
  have hfract : Int.fract q = q - n := by
    rw [Int.fract, hfloor]
    rfl
  rw [TaskEndpoints.fractionOf, hwhole, hfract]
  exact h.sub (isNumber_ofNat hn (lt_of_le_of_lt hle h.lt_bound)) hle hrest

/-- The fraction of a double in microseconds is missed by at most half a unit of its last place. -/
theorem IsNumber.exists_scaled (h : IsNumber x q) :
    ∃ s, IsNumber (TaskEndpoints.fractionOf x * 1000000) s ∧ |s - Int.fract q * 1000000| ≤ 1 / 2 ^ 34 := by
  have hmillion : IsNumber (1000000 : Float) (1000000 : ℕ) := isNumber_ofNat_of_lt (by norm_num)
  have hlt : Int.fract q * (1000000 : ℕ) < 2 ^ (20 : ℤ) := by
    have hfract := Int.fract_lt_one q
    push_cast
    linarith
  obtain ⟨s, hs, hnear⟩ := h.fractionOf.exists_near_mul hmillion (by norm_num) (by norm_num) hlt
  refine ⟨s, hs, le_trans ?_ (le_trans hnear ?_)⟩
  · exact_mod_cast le_rfl
  · norm_num

end Rounding

/-! ### Rounding to whole microseconds -/

section Rounded

variable {x : Float} {q r : ℚ}

/-- Rounding misses a fraction by at most a half, and no fraction rounds below zero. -/
theorem roundHalf_spec (whole : ℤ) {rest : Dyadic} (hrest : rest.rational? = some r) (hr : 0 ≤ r)
    (hlt : r < 1) : 0 ≤ roundHalf whole rest ∧ |(roundHalf whole rest : ℚ) - r| ≤ 1 / 2 := by
  cases rest with
  | above | below | undefined => cases hrest
  | finite a i =>
      obtain rfl := Option.some.inj hrest
      have hone : (0 : ℚ) < 2 ^ i := by positivity
      obtain ⟨n, rfl⟩ : ∃ n : ℕ, a = n := by
        apply Int.eq_ofNat_of_zero_le
        rw [le_div_iff₀ hone, zero_mul] at hr
        exact_mod_cast hr
      have hnegative : ¬(n : ℤ) < 0 := Int.not_lt.mpr (Int.natCast_nonneg n)
      have habs : (2 * (n : ℤ)).natAbs = 2 * n := by omega
      simp only [roundHalf, habs, if_neg hnegative, Nat.pow_eq]
      rw [Int.cast_natCast] at *
      rcases lt_trichotomy (2 * n) (2 ^ i) with hbelow | hhalf | habove
      · have hsmall : (n : ℚ) / 2 ^ i ≤ 1 / 2 := by
          have hcast : (2 : ℚ) * n < 2 ^ i := by exact_mod_cast hbelow
          rw [div_le_div_iff₀ hone (by norm_num)]
          linarith
        rw [if_pos hbelow, abs_le, Int.cast_zero]
        exact ⟨le_rfl, by linarith, by linarith⟩
      · have heq : (n : ℚ) / 2 ^ i = 1 / 2 := by
          have hcast : (2 : ℚ) * n = 2 ^ i := by exact_mod_cast hhalf
          rw [div_eq_div_iff hone.ne' (by norm_num)]
          linarith
        rw [if_neg (by omega), if_pos hhalf, heq]
        split <;> norm_num
      · have hlarge : 1 / 2 ≤ (n : ℚ) / 2 ^ i := by
          have hcast : (2 : ℚ) ^ i < 2 * n := by exact_mod_cast habove
          rw [div_le_div_iff₀ (by norm_num) hone]
          linarith
        rw [if_neg (by omega), if_neg (by omega), abs_le, Int.cast_one]
        exact ⟨Int.one_nonneg, by linarith, by linarith⟩

/-- The span of a double that is a number is the nearest count of microseconds, if it is not too many
days. -/
theorem exists_near_spanMicros (h : IsNumber x q) : ∃ total : ℤ, 0 ≤ total ∧ IsNear total q ∧
    ∀ micros, spanMicros x = .ok micros ↔ total / 86400000000 ≤ 999999999 ∧ micros = total := by
  obtain ⟨s, hs, hscaled⟩ := h.exists_scaled
  have hq := Int.floor_nonneg.mpr h.nonneg
  have hs₀ := Int.floor_nonneg.mpr hs.nonneg
  obtain ⟨hround, hhalf⟩ := roundHalf_spec (⌊q⌋ * 1000000 + ⌊s⌋) hs.fractionOf.rational_eq
    (Int.fract_nonneg s) (Int.fract_lt_one s)
  obtain ⟨total, htotal⟩ : ∃ total, ⌊q⌋ * 1000000 + ⌊s⌋ + roundHalf (⌊q⌋ * 1000000 + ⌊s⌋)
    (Dyadic.ofFloat (fractionOf (fractionOf x * 1000000))) = total := ⟨_, rfl⟩
  have hnonneg : 0 ≤ total := by omega
  refine ⟨total, hnonneg, ?_, ?_⟩
  · -- the two errors add up: that of the scaled fraction and that of the last rounding
    have hsplit := Int.floor_add_fract q
    have hsplit' := Int.floor_add_fract s
    rw [abs_le] at hscaled hhalf
    rw [IsNear, abs_le, ← htotal]
    push_cast
    constructor <;> linarith
  · intro micros
    simp only [spanMicros, h.truncate_eq, hs.truncate_eq, Option.getD_some, microsPerSecond, htotal,
      secondsPerDay, Bool.or_eq_true, decide_eq_true_iff]
    constructor
    · intro hok
      split at hok
      · cases hok
      · split at hok
        · cases hok
        · exact ⟨by omega, (Except.ok.inj hok).symm⟩
    · rintro ⟨hdays, rfl⟩
      rw [if_neg (by omega), if_neg (by omega)]

/-- There is no span of seconds that are no number. -/
theorem exists_spanMicros_error (h : (Dyadic.ofFloat x).rational? = none) :
    ∃ e, spanMicros x = .error e := by
  rw [spanMicros]
  generalize Dyadic.ofFloat x = d at *
  cases d with
  | finite a i => cases h
  | above => exact ⟨_, rfl⟩
  | below => exact ⟨_, rfl⟩
  | undefined => exact ⟨_, rfl⟩

variable {micros n : ℤ}

/-- Whole microseconds are kept. -/
theorem IsNear.eq_of_whole (h : IsNear micros q) (hq : 1000000 * q = n) : micros = n := by
  rw [IsNear, hq, abs_le] at h
  have hbelow : (micros : ℚ) < n + 1 := by linarith [h.2]
  have habove : (n : ℚ) < micros + 1 := by linarith [h.1]
  have hle : micros < n + 1 := by exact_mod_cast hbelow
  have hge : n < micros + 1 := by exact_mod_cast habove
  omega

/-- A span of a microsecond or more is not rounded to nothing. -/
theorem IsNear.pos (h : IsNear micros q) (hq : 1 / 1000000 ≤ q) : 0 < micros := by
  rw [IsNear, abs_le] at h
  have hpos : (0 : ℚ) < micros := by linarith [h.1]
  exact_mod_cast hpos

end Rounded

end TaskEndpoints
