import Mathlib

/-!
# How doubles are rounded

A positive number `m * 2 ^ e` is rounded by shifting its mantissa to fifty-three bits, or to the exponent
below which there are no doubles, and by rounding what is shifted out to the nearest. The result is off by
at most half a unit of its last place, and is exact for every number that has so few bits.

## Implementation notes

The arithmetic of doubles is the one by which they are defined, so nothing about it is assumed. All numbers
here are positive or zero; that is what durations need.
-/

namespace TaskEndpoints.Rounding

open Float.Model UnpackedFloat

/-- A mantissa and an exponent as a double has them: all bits are used, unless the exponent is the least
one. -/
structure Canonical (m : ℕ) (e : ℤ) : Prop where
  mantissa : m < 2 ^ 53
  exponent : -1074 ≤ e
  full : 2 ^ 52 ≤ m ∨ e = -1074

/-- The number that an unpacked double holds; only doubles that are finite and not negative hold one. -/
inductive Holds : UnpackedFloat → ℚ → Prop
  | zero : Holds (.zero .positive) 0
  | finite {m : ℕ} {e : ℤ} (h : 0 < m) (hc : Canonical m e) :
      Holds (.finite .positive m e h) (m * 2 ^ e)

/-- A number with so few bits that rounding keeps it. -/
def Representable (q : ℚ) : Prop := ∃ (m : ℕ) (e : ℤ), m < 2 ^ 53 ∧ -1074 ≤ e ∧ q = m * 2 ^ e

/-- The exponent to which a mantissa is shifted. -/
def target (m : ℕ) (e : ℤ) : ℤ := max ((m.log2 : ℤ) + e - 52) (-1074)

theorem targetExponent_eq (m : ℕ) (e : ℤ) :
    Format.binary64.targetExponent (totalExponent m e) = target m e := by
  simp only [Format.targetExponent, totalExponent, Format.mantissaBits, Format.minExponent, target]
  norm_num
  omega

/-! ### Shifting out bits -/

/-- An extended mantissa tells of the bits that were shifted out whether they are at least a half, and
whether they are something else than nothing or a half. -/
structure ShiftedOut (m k : ℕ) (em : ExtendedMantissa) : Prop where
  mantissa : em.mantissa = m / 2 ^ k
  roundBit : em.roundBit = true ↔ 2 ^ k ≤ 2 * (m % 2 ^ k)
  stickyBit : em.stickyBit = true ↔ 2 * (m % 2 ^ k) % 2 ^ k ≠ 0

theorem shiftedOut_zero (m : ℕ) : ShiftedOut m 0 (.ofMantissaAndAccuracy m .exact) where
  mantissa := by simp [ExtendedMantissa.ofMantissaAndAccuracy]
  roundBit := by simp [ExtendedMantissa.ofMantissaAndAccuracy, Nat.mod_one]
  stickyBit := by simp [ExtendedMantissa.ofMantissaAndAccuracy, Nat.mod_one]

/-- What is left of a mantissa when one more bit is shifted out. -/
theorem mod_two_pow_succ (m k : ℕ) : m % 2 ^ (k + 1) = m % 2 ^ k + 2 ^ k * (m / 2 ^ k % 2) := by
  rw [Nat.pow_succ, Nat.mod_mul]

theorem ShiftedOut.shiftRightOne {m k : ℕ} {em : ExtendedMantissa} (h : ShiftedOut m k em) :
    ShiftedOut m (k + 1) em.shiftRightOne := by
  have hpos : 0 < 2 ^ k := Nat.two_pow_pos k
  have hrest := Nat.mod_lt m hpos
  refine ⟨?_, ?_, ?_⟩
  · rw [ExtendedMantissa.shiftRightOne, h.mantissa, Nat.div_div_eq_div_mul, Nat.pow_succ]
  · rw [ExtendedMantissa.shiftRightOne, h.mantissa, mod_two_pow_succ, Nat.pow_succ]
    rcases Nat.mod_two_eq_zero_or_one (m / 2 ^ k) with hbit | hbit
    · rw [hbit]
      simp
      omega
    · rw [hbit]
      simp
      omega
  · have hsticky : 2 * (m % 2 ^ (k + 1)) % 2 ^ (k + 1) = 2 * (m % 2 ^ k) := by
      rw [Nat.pow_succ, Nat.mul_comm (2 ^ k) 2, Nat.mul_mod_mul_left,
        Nat.mod_mod_of_dvd m (Nat.dvd_mul_left (2 ^ k) 2)]
    rw [hsticky, ExtendedMantissa.shiftRightOne, Bool.or_eq_true, h.roundBit, h.stickyBit]
    constructor
    · rintro (hhalf | hother)
      · omega
      · intro hzero
        rw [hzero, Nat.zero_mod] at hother
        exact hother rfl
    · intro hne
      by_cases hhalf : 2 ^ k ≤ 2 * (m % 2 ^ k)
      · exact Or.inl hhalf
      · rw [Nat.mod_eq_of_lt (Nat.not_le.mp hhalf)]
        exact Or.inr hne

theorem shiftedOut (m k : ℕ) :
    ShiftedOut m k (ExtendedMantissa.ofMantissaAndAccuracy m .exact >>> k) := by
  show ShiftedOut m k (k.repeat ExtendedMantissa.shiftRightOne _)
  induction k with
  | zero => exact shiftedOut_zero m
  | succ k ih => exact ih.shiftRightOne

/-- The quotient by a power of two is rounded to the nearest integer. -/
structure RoundsTo (m k r : ℕ) : Prop where
  lower : m / 2 ^ k ≤ r
  upper : r ≤ m / 2 ^ k + 1
  below : 2 * m ≤ 2 * (r * 2 ^ k) + 2 ^ k
  above : 2 * (r * 2 ^ k) ≤ 2 * m + 2 ^ k
  exact : 2 ^ k ∣ m → r * 2 ^ k = m

theorem ShiftedOut.roundsTo {m k : ℕ} {em : ExtendedMantissa} (h : ShiftedOut m k em) :
    RoundsTo m k em.roundedMantissa := by
  have hpos : 0 < 2 ^ k := Nat.two_pow_pos k
  have hrest := Nat.mod_lt m hpos
  have hsplit := Nat.div_add_mod' m (2 ^ k)
  have hdvd : 2 ^ k ∣ m → m % 2 ^ k = 0 := Nat.dvd_iff_mod_eq_zero.mp
  obtain ⟨hm, hround, hsticky⟩ := h
  obtain ⟨q, round, sticky⟩ := em
  obtain rfl : q = m / 2 ^ k := hm
  have hup : (m / 2 ^ k + 1) * 2 ^ k = m / 2 ^ k * 2 ^ k + 2 ^ k := Nat.succ_mul _ _
  cases round with
  | false =>
      have hhalf : 2 * (m % 2 ^ k) < 2 ^ k := by simpa using hround
      have hdown : (ExtendedMantissa.mk (m / 2 ^ k) false sticky).roundedMantissa = m / 2 ^ k := by
        cases sticky <;> rfl
      rw [hdown]
      exact ⟨by omega, by omega, by omega, by omega, by omega⟩
  | true =>
      have hhalf : 2 ^ k ≤ 2 * (m % 2 ^ k) := hround.mp rfl
      have hnot : ¬2 ^ k ∣ m := fun hd => by
        rw [hdvd hd] at hhalf
        omega
      cases sticky with
      | false =>
          -- exactly a half is left, so both neighbours are nearest
          have hzero : 2 * (m % 2 ^ k) % 2 ^ k = 0 := by simpa using hsticky
          have htie : 2 * (m % 2 ^ k) = 2 ^ k := by
            rw [Nat.mod_eq_sub_mod hhalf, Nat.mod_eq_of_lt (by omega)] at hzero
            omega
          have heven : (ExtendedMantissa.mk (m / 2 ^ k) true false).roundedMantissa =
              m / 2 ^ k + m / 2 ^ k % 2 := rfl
          rw [heven]
          rcases Nat.mod_two_eq_zero_or_one (m / 2 ^ k) with hbit | hbit
          · rw [hbit, Nat.add_zero]
            exact ⟨by omega, by omega, by omega, by omega, fun hd => absurd hd hnot⟩
          · rw [hbit]
            exact ⟨by omega, by omega, by omega, by omega, fun hd => absurd hd hnot⟩
      | true =>
          show RoundsTo m k (m / 2 ^ k + 1)
          exact ⟨by omega, by omega, by omega, by omega, fun hd => absurd hd hnot⟩

/-! ### Rounding -/

theorem shiftToTargetExponent_eq (m : ℕ) (e : ℤ) :
    shiftToTargetExponent Format.binary64 m e .exact =
      (ExtendedMantissa.ofMantissaAndAccuracy m .exact >>> (target m e - e).toNat,
        e + (target m e - e).toNat) := by
  simp only [shiftToTargetExponent, shiftToExponent, targetExponent_eq]

theorem mantissa_shiftRight (m k : ℕ) :
    (ExtendedMantissa.ofMantissaAndAccuracy m .exact >>> k).mantissa = m / 2 ^ k :=
  (shiftedOut m k).mantissa

/-- What is left after the shift has at most fifty-three bits, and not fewer above the least exponent. -/
theorem bits_of_shift {m : ℕ} {e : ℤ} (hm : 0 < m) (he : e ≤ target m e) :
    m / 2 ^ (target m e - e).toNat < 2 ^ 53 ∧
      (2 ^ 52 ≤ m / 2 ^ (target m e - e).toNat ∨ target m e = -1074) := by
  have hlow := Nat.log2_self_le (Nat.ne_of_gt hm)
  have hhigh := Nat.lt_log2_self (n := m)
  have htarget : target m e = max ((m.log2 : ℤ) + e - 52) (-1074) := rfl
  constructor
  · rw [Nat.div_lt_iff_lt_mul (Nat.two_pow_pos _), ← Nat.pow_add]
    apply lt_of_lt_of_le hhigh
    apply Nat.pow_le_pow_right (by decide)
    omega
  · by_cases hleast : target m e = -1074
    · exact Or.inr hleast
    · left
      rw [Nat.le_div_iff_mul_le (Nat.two_pow_pos _), ← Nat.pow_add]
      apply le_trans _ hlow
      apply Nat.pow_le_pow_right (by decide)
      omega

theorem target_of_lt {r : ℕ} {e : ℤ} (hr : r < 2 ^ 53) (he : -1074 ≤ e) : target r e ≤ e := by
  have hlog : r.log2 ≤ 52 := by
    by_cases hzero : r = 0
    · rw [hzero]
      decide
    · exact Nat.le_of_lt_succ ((Nat.log2_lt hzero).mpr hr)
  rw [target]
  omega

/-- A positive number is rounded to the nearest multiple of the unit in its last place. -/
theorem exists_holds_roundWithAccuracy {m : ℕ} {e : ℤ} (hm : 0 < m) (he : e ≤ target m e) :
    ∃ r, RoundsTo m (target m e - e).toNat r ∧
      Holds (roundWithAccuracy Format.binary64 .positive m e .exact) (r * 2 ^ target m e) := by
  have hrounds := (shiftedOut m (target m e - e).toNat).roundsTo
  generalize hr : (ExtendedMantissa.ofMantissaAndAccuracy m .exact >>>
    (target m e - e).toNat).roundedMantissa = r at hrounds
  refine ⟨r, hrounds, ?_⟩
  obtain ⟨hbits, hfull⟩ := bits_of_shift hm he
  have hexponent : e + (target m e - e).toNat = target m e := by omega
  have hleast : -1074 ≤ target m e := le_max_right _ _
  have hlower := hrounds.lower
  have hupper := hrounds.upper
  simp only [roundWithAccuracy, shiftToTargetExponent_eq, hr, hexponent, mantissa_shiftRight]
  by_cases hcarry : r < 2 ^ 53
  · have hshift : (target r (target m e) - target m e).toNat = 0 := by
      have hle := target_of_lt hcarry hleast
      omega
    simp only [hshift, Nat.pow_zero, Nat.div_one]
    split
    · rename_i hzero
      rw [hzero]
      simpa using Holds.zero
    · rename_i hne
      have hc : Canonical r (target m e) :=
        ⟨hcarry, hleast, hfull.imp_left fun h => le_trans h hlower⟩
      simpa using Holds.finite (Nat.pos_of_ne_zero hne) hc
  · -- the mantissa is a power of two now and loses one more bit, which is zero
    obtain rfl : r = 2 ^ 53 := by omega
    have hnext : target (2 ^ 53) (target m e) = target m e + 1 := by
      rw [target, Nat.log2_two_pow]
      omega
    have hshift : (target (2 ^ 53) (target m e) - target m e).toNat = 1 := by omega
    have hc : Canonical (2 ^ 52) (target m e + 1) := ⟨by decide, by omega, Or.inl le_rfl⟩
    have hvalue : ((2 ^ 53 : ℕ) : ℚ) * 2 ^ target m e = ((2 ^ 52 : ℕ) : ℚ) * 2 ^ (target m e + 1) := by
      rw [zpow_add₀ (by norm_num), zpow_one]
      push_cast
      ring
    rw [hvalue]
    simp only [hshift]
    exact Holds.finite (by decide) hc

/-! ### What rounding keeps -/

section Values

variable {m : ℕ} {e : ℤ}

theorem zpow_two_pos (e : ℤ) : (0 : ℚ) < 2 ^ e := zpow_pos (by norm_num) e

/-- A shift of the mantissa against the exponent keeps the number. -/
theorem mul_zpow_add (r : ℚ) (k : ℕ) (e : ℤ) : r * 2 ^ k * 2 ^ e = r * 2 ^ (e + k) := by
  rw [zpow_add₀ (by norm_num), zpow_natCast]
  ring

theorem two_zpow_log2_le (hm : 0 < m) (e : ℤ) : (2 : ℚ) ^ ((m.log2 : ℤ) + e) ≤ m * 2 ^ e := by
  have hlow : ((2 ^ m.log2 : ℕ) : ℚ) ≤ m := by
    exact_mod_cast Nat.log2_self_le (Nat.ne_of_gt hm)
  calc
    (2 : ℚ) ^ ((m.log2 : ℤ) + e) = ((2 ^ m.log2 : ℕ) : ℚ) * 2 ^ e := by
      rw [zpow_add₀ (by norm_num), zpow_natCast]
      push_cast
      rfl
    _ ≤ m * 2 ^ e := mul_le_mul_of_nonneg_right hlow (zpow_two_pos e).le

/-- What a bound on a number says about its places. -/
theorem log2_add_lt {bound : ℤ} (hm : 0 < m) (h : (m : ℚ) * 2 ^ e < 2 ^ bound) :
    (m.log2 : ℤ) + e < bound := by
  apply (zpow_lt_zpow_iff_right₀ (by norm_num : (1 : ℚ) < 2)).mp
  exact lt_of_le_of_lt (two_zpow_log2_le hm e) h

/-- A number with few bits is a multiple of the unit to which it is rounded. -/
theorem two_pow_dvd_of_representable (hm : 0 < m) (he : e ≤ target m e)
    (hr : Representable (m * 2 ^ e)) : 2 ^ (target m e - e).toNat ∣ m := by
  obtain ⟨n, d, hn, hd, hvalue⟩ := hr
  have hbound : (m : ℚ) * 2 ^ e < 2 ^ (53 + d) := by
    rw [hvalue, zpow_add₀ (by norm_num)]
    apply mul_lt_mul_of_pos_right _ (zpow_two_pos d)
    exact_mod_cast hn
  have hplaces := log2_add_lt hm hbound
  have htarget : target m e ≤ d := by
    rw [target]
    omega
  obtain ⟨j, hj⟩ := Int.le.dest htarget
  obtain ⟨k, hk⟩ := Int.le.dest he
  have hkn : (target m e - e).toNat = k := by omega
  rw [hkn]
  refine ⟨n * 2 ^ j, ?_⟩
  have hmul : (m : ℚ) * 2 ^ e = (2 ^ k * (n * 2 ^ j) : ℕ) * 2 ^ e := by
    push_cast
    calc
      (m : ℚ) * 2 ^ e = n * 2 ^ (e + (k + j : ℕ)) := by
        rw [hvalue]
        congr 2
        push_cast
        omega
      _ = n * 2 ^ (k + j) * 2 ^ e := (mul_zpow_add n (k + j) e).symm
      _ = 2 ^ k * (n * 2 ^ j) * 2 ^ e := by rw [pow_add]; ring
  exact_mod_cast mul_right_cancel₀ (zpow_two_pos e).ne' hmul

/-- A number with few bits is kept. -/
theorem holds_roundWithAccuracy (hm : 0 < m) (he : e ≤ target m e)
    (hr : Representable (m * 2 ^ e)) :
    Holds (roundWithAccuracy Format.binary64 .positive m e .exact) (m * 2 ^ e) := by
  obtain ⟨r, hrounds, hholds⟩ := exists_holds_roundWithAccuracy hm he
  have hexact := hrounds.exact (two_pow_dvd_of_representable hm he hr)
  have htarget : target m e = e + (target m e - e).toNat := by omega
  have hvalue : (r : ℚ) * 2 ^ target m e = m * 2 ^ e := by
    calc
      (r : ℚ) * 2 ^ target m e = r * 2 ^ (target m e - e).toNat * 2 ^ e := by
        rw [mul_zpow_add, ← htarget]
      _ = m * 2 ^ e := by
        congr 1
        exact_mod_cast hexact
  rwa [hvalue] at hholds

/-- Any other number below a bound is missed by at most half a unit. -/
theorem exists_near_roundWithAccuracy {bound : ℤ} (hm : 0 < m) (he : e ≤ target m e)
    (hb : -1021 ≤ bound) (hbound : (m : ℚ) * 2 ^ e < 2 ^ bound) :
    ∃ q, Holds (roundWithAccuracy Format.binary64 .positive m e .exact) q ∧
      |q - m * 2 ^ e| ≤ 2 ^ (bound - 54) := by
  obtain ⟨r, hrounds, hholds⟩ := exists_holds_roundWithAccuracy hm he
  refine ⟨_, hholds, ?_⟩
  have hplaces := log2_add_lt hm hbound
  have htarget : target m e ≤ bound - 53 := by
    rw [target]
    omega
  have hsplit : target m e = e + (target m e - e).toNat := by omega
  generalize (target m e - e).toNat = k at hrounds hsplit
  have hbelow : (2 : ℚ) * m ≤ 2 * (r * 2 ^ k) + 2 ^ k := by exact_mod_cast hrounds.below
  have habove : (2 : ℚ) * (r * 2 ^ k) ≤ 2 * m + 2 ^ k := by exact_mod_cast hrounds.above
  have hnear : |(r : ℚ) * 2 ^ k - m| ≤ 2 ^ k / 2 := by
    rw [abs_le]
    constructor <;> linarith
  calc
    |(r : ℚ) * 2 ^ target m e - m * 2 ^ e| = |(r : ℚ) * 2 ^ k - m| * 2 ^ e := by
      rw [hsplit, ← mul_zpow_add, ← sub_mul, abs_mul, abs_of_pos (zpow_two_pos e)]
    _ ≤ 2 ^ k / 2 * 2 ^ e := mul_le_mul_of_nonneg_right hnear (zpow_two_pos e).le
    _ = 2 ^ (target m e - 1) := by
      rw [hsplit, sub_eq_add_neg, zpow_add₀ (by norm_num), zpow_add₀ (by norm_num), zpow_natCast,
        zpow_neg_one]
      ring
    _ ≤ 2 ^ (bound - 54) := zpow_le_zpow_right₀ (by norm_num) (by omega)

theorem log2_shiftLeft (hm : 0 < m) (k : ℕ) : (m <<< k).log2 = m.log2 + k := by
  rw [Nat.shiftLeft_eq]
  apply (Nat.log2_eq_iff (Nat.mul_pos hm (Nat.two_pow_pos k)).ne').mpr
  have hlow := Nat.log2_self_le (Nat.ne_of_gt hm)
  have hhigh := Nat.lt_log2_self (n := m)
  constructor
  · rw [Nat.pow_add]
    exact Nat.mul_le_mul_right _ hlow
  · rw [show m.log2 + k + 1 = m.log2 + 1 + k by omega, Nat.pow_add]
    exact Nat.mul_lt_mul_of_pos_right hhigh (Nat.two_pow_pos k)

/-- Numbers that are given with too few places are kept as well. -/
theorem holds_round (hm : 0 < m) (hr : Representable (m * 2 ^ e)) :
    Holds (UnpackedFloat.round Format.binary64 .positive m e) (m * 2 ^ e) := by
  obtain ⟨k, hk⟩ : ∃ k, (e - target m e).toNat = k := ⟨_, rfl⟩
  have hm' : 0 < m <<< k := by
    rw [Nat.shiftLeft_eq]
    exact Nat.mul_pos hm (Nat.two_pow_pos k)
  have hvalue : ((m <<< k : ℕ) : ℚ) * 2 ^ (e - k) = m * 2 ^ e := by
    rw [Nat.shiftLeft_eq]
    push_cast
    rw [mul_zpow_add, sub_add_cancel]
  have he' : e - k ≤ target (m <<< k) (e - k) := by
    rw [target, log2_shiftLeft hm]
    rw [target] at hk
    push_cast
    omega
  have hholds := holds_roundWithAccuracy hm' he' (by rwa [hvalue])
  rw [hvalue] at hholds
  simpa only [UnpackedFloat.round, decreaseExponent, targetExponent_eq, hk] using hholds

theorem holds_normalize {n : ℤ} (hn : 0 ≤ n) (hr : Representable (n * 2 ^ e)) :
    Holds (UnpackedFloat.normalize Format.binary64 n e .positive) (n * 2 ^ e) := by
  obtain ⟨m, rfl⟩ := Int.eq_ofNat_of_zero_le hn
  rw [UnpackedFloat.normalize]
  rcases Nat.eq_zero_or_pos m with rfl | hm
  · simpa using Holds.zero
  · have hgt : compare (m : ℤ) 0 = .gt := Int.compare_eq_gt.mpr (by exact_mod_cast hm)
    rw [hgt]
    simpa using holds_round hm (by simpa using hr)

end Values

/-! ### Packing -/

section Packing

variable {b : BitVec Format.binary64.numBits}

theorem unpackExponent_eq_iff {n : ℕ} (hn : n < 2 ^ 11) :
    unpackExponent b = BitVec.ofNat 11 n ↔ (unpackExponent b).toNat = n := by
  rw [← BitVec.toNat_inj, BitVec.toNat_ofNat, Nat.mod_eq_of_lt hn]

theorem unpackMantissa_eq_zero_iff : unpackMantissa b = 0#52 ↔ (unpackMantissa b).toNat = 0 := by
  rw [← BitVec.toNat_inj]
  rfl

theorem toNat_implicit (f : BitVec 52) : (1#1 ++ f).toNat = 2 ^ 52 + f.toNat := by
  rw [BitVec.toNat_append, ← Nat.shiftLeft_add_eq_or_of_lt f.isLt]
  rfl

/-- Doubles without a number have all bits of the exponent set. -/
theorem unpack_of_top (h : (unpackExponent b).toNat = 2047) :
    ((unpackMantissa b).toNat = 0 ∧
      UnpackedFloat.unpack Format.binary64 b = .infinity (.ofBitVec (unpackSign b))) ∨
    ((unpackMantissa b).toNat ≠ 0 ∧ UnpackedFloat.unpack Format.binary64 b = .notANumber) := by
  have htop : unpackExponent b = -1#11 := (unpackExponent_eq_iff (n := 2047) (by decide)).mpr h
  rw [UnpackedFloat.unpack, if_pos htop]
  by_cases hf : unpackMantissa b = 0#52
  · exact Or.inl ⟨unpackMantissa_eq_zero_iff.mp hf, if_pos hf⟩
  · exact Or.inr ⟨mt unpackMantissa_eq_zero_iff.mpr hf, if_neg hf⟩

/-- Without a bit in the exponent there is a zero or a number with few bits. -/
theorem unpack_of_bottom (h : (unpackExponent b).toNat = 0) :
    ((unpackMantissa b).toNat = 0 ∧
      UnpackedFloat.unpack Format.binary64 b = .zero (.ofBitVec (unpackSign b))) ∨
    ∃ hf, UnpackedFloat.unpack Format.binary64 b =
      .finite (.ofBitVec (unpackSign b)) (unpackMantissa b).toNat (-1074) hf := by
  have hbottom : unpackExponent b = 0#11 := (unpackExponent_eq_iff (n := 0) (by decide)).mpr h
  have htop : ¬unpackExponent b = -1#11 := by
    rw [hbottom]
    decide
  rw [UnpackedFloat.unpack, if_neg htop, if_pos hbottom]
  by_cases hf : unpackMantissa b = 0#52
  · exact Or.inl ⟨unpackMantissa_eq_zero_iff.mp hf, dif_pos hf⟩
  · right
    refine ⟨Nat.pos_of_ne_zero (mt unpackMantissa_eq_zero_iff.mpr hf), ?_⟩
    rw [dif_neg hf]
    congr 1
    rw [h]
    rfl

theorem unpack_of_between (hlow : (unpackExponent b).toNat ≠ 0)
    (hhigh : (unpackExponent b).toNat ≠ 2047) :
    ∃ hf, UnpackedFloat.unpack Format.binary64 b =
      .finite (.ofBitVec (unpackSign b)) (2 ^ 52 + (unpackMantissa b).toNat)
        ((unpackExponent b).toNat - 1075) hf := by
  have htop : ¬unpackExponent b = -1#11 :=
    mt (unpackExponent_eq_iff (n := 2047) (by decide)).mp hhigh
  have hbottom : ¬unpackExponent b = 0#11 := mt (unpackExponent_eq_iff (n := 0) (by decide)).mp hlow
  refine ⟨Nat.add_pos_left (by decide) _, ?_⟩
  rw [UnpackedFloat.unpack, if_neg htop, if_neg hbottom]
  congr 1
  exact toNat_implicit (unpackMantissa b)

variable {m : ℕ} {e : ℤ}

/-- A mantissa with all bits is packed without its first one. -/
theorem unpack_pack_of_full (h : 0 < m) (hbits : 2 ^ 52 ≤ m) (hm : m < 2 ^ 53) (hleast : -1074 ≤ e)
    (he : e ≤ 971) : (Float.Model.pack (.finite .positive m e h)).unpack = .finite .positive m e h := by
  have hbiased : ¬2 ^ 11 ≤ (e + 1023 + 52).toNat + 1 := by omega
  have hlog : m.log2 + 1 = 53 := congrArg (· + 1) ((Nat.log2_eq_iff h.ne').mpr ⟨hbits, hm⟩)
  have hpack : UnpackedFloat.pack Format.binary64 (.finite .positive m e h) =
      packComponents Format.binary64 .positive (BitVec.ofNat 11 (e + 1023 + 52).toNat)
        (BitVec.ofNat 52 m) := by
    rw [UnpackedFloat.pack]
    exact (if_neg hbiased).trans (if_pos hlog)
  have hexponent : (BitVec.ofNat 11 (e + 1023 + 52).toNat).toNat = (e + 1075).toNat := by
    rw [BitVec.toNat_ofNat]
    omega
  have hmantissa : (BitVec.ofNat 52 m).toNat = m - 2 ^ 52 := by
    rw [BitVec.toNat_ofNat]
    omega
  show UnpackedFloat.unpack Format.binary64 (UnpackedFloat.pack Format.binary64 _) = _
  rw [hpack]
  obtain ⟨hf, hunpack⟩ := unpack_of_between (b := packComponents Format.binary64 .positive
      (BitVec.ofNat 11 (e + 1023 + 52).toNat) (BitVec.ofNat 52 m))
    (by rw [unpackExponent_packComponents, hexponent]; omega)
    (by rw [unpackExponent_packComponents, hexponent]; omega)
  refine hunpack.trans ?_
  congr 1
  · rw [unpackSign_packComponents]
    rfl
  · rw [unpackMantissa_packComponents, hmantissa]
    omega
  · rw [unpackExponent_packComponents, hexponent]
    omega

/-- A mantissa with few bits has the least exponent and is packed as it is. -/
theorem unpack_pack_of_few (h : 0 < m) (hbits : m < 2 ^ 52) :
    (Float.Model.pack (.finite .positive m (-1074) h)).unpack = .finite .positive m (-1074) h := by
  have hlog : ¬m.log2 + 1 = 53 := by
    have hlt := (Nat.log2_lt h.ne').mpr hbits
    omega
  have hpack : UnpackedFloat.pack Format.binary64 (.finite .positive m (-1074) h) =
      packComponents Format.binary64 .positive 0#11 (BitVec.ofNat 52 m) := by
    rw [UnpackedFloat.pack]
    exact (if_neg (by decide)).trans (if_neg hlog)
  have hmantissa : (BitVec.ofNat 52 m).toNat = m := by
    rw [BitVec.toNat_ofNat]
    omega
  show UnpackedFloat.unpack Format.binary64 (UnpackedFloat.pack Format.binary64 _) = _
  rw [hpack]
  obtain ⟨hzero, -⟩ | ⟨hf, hunpack⟩ := unpack_of_bottom
    (b := packComponents Format.binary64 .positive 0#11 (BitVec.ofNat 52 m))
    (by rw [unpackExponent_packComponents]; rfl)
  · rw [unpackMantissa_packComponents, hmantissa] at hzero
    exact absurd hzero h.ne'
  · refine hunpack.trans ?_
    congr 1
    · rw [unpackSign_packComponents]
      rfl
    · rw [unpackMantissa_packComponents, hmantissa]

theorem unpack_pack_finite (h : 0 < m) (hc : Canonical m e) (he : e ≤ 971) :
    (Float.Model.pack (.finite .positive m e h)).unpack = .finite .positive m e h := by
  by_cases hbits : 2 ^ 52 ≤ m
  · exact unpack_pack_of_full h hbits hc.mantissa hc.exponent he
  · obtain rfl := hc.full.resolve_left hbits
    exact unpack_pack_of_few h (Nat.not_le.mp hbits)

/-- A number below the bound of doubles is found in what it is packed into. -/
theorem Holds.unpack_pack {f : UnpackedFloat} {q : ℚ} (h : Holds f q) (hq : q < 2 ^ (1024 : ℤ)) :
    (Float.Model.pack f).unpack = f := by
  cases h with
  | zero => rfl
  | finite hm hc =>
      apply unpack_pack_finite hm hc
      rcases hc.full with hfull | hleast
      · have hlog := (Nat.le_log2 hm.ne').mpr hfull
        have hplaces := log2_add_lt hm hq
        omega
      · omega

end Packing

end TaskEndpoints.Rounding
