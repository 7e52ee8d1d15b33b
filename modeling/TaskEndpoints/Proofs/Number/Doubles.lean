import TaskEndpoints.Number.Dyadic
import TaskEndpoints.Proofs.Number.Rounding

/-!
# The numbers that doubles hold

A finite double holds one number, which its fields tell. Differences and products of doubles that are not
negative are those of the numbers, rounded; they are exact where the result has few enough bits.
-/

namespace TaskEndpoints

open Float.Model UnpackedFloat Rounding

/-- The number that a finite double denotes. -/
def Dyadic.rational? : Dyadic → Option ℚ
  | .finite a i => some (a / 2 ^ i)
  | _ => none

namespace Rounding

variable {x y : Float} {p q : ℚ}

/-! ### Fields -/

/-- What the bits of a double stand for by their definition, and what its fields say. -/
inductive Tells : UnpackedFloat → Dyadic → Prop
  | undefined : Tells .notANumber .undefined
  | above : Tells (.infinity .positive) .above
  | below : Tells (.infinity .negative) .below
  | zero (s : Sign) : Tells (.zero s) (.finite 0 1074)
  | finite (s : Sign) {m : ℕ} {e : ℤ} (h : 0 < m) (hc : Canonical m e) (he : e ≤ 971) :
      Tells (.finite s m e h) (.finite (s.apply (m * 2 ^ e.toNat : ℕ)) (-e).toNat)

/-- The sign in the fields of a double. -/
def signOf (f : DoubleFields) : Sign := if f.negative then .negative else .positive

/-- Bits show the fields of a double. -/
structure Shows (b : BitVec Format.binary64.numBits) (f : DoubleFields) : Prop where
  exponent : (unpackExponent b).toNat = f.exponent
  fraction : (unpackMantissa b).toNat = f.fraction
  sign : Sign.ofBitVec (unpackSign b) = signOf f

theorem shows_ofFloat (x : Float) : Shows x.toModel.toBits.toBitVec (DoubleFields.ofFloat x) where
  exponent := by
    rw [unpackExponent, BitVec.toNat_cast, BitVec.extractLsb_toNat, Nat.shiftRight_eq_div_pow]
    rfl
  fraction := by
    rw [unpackMantissa, BitVec.toNat_cast, BitVec.extractLsb_toNat, Nat.shiftRight_eq_div_pow]
    exact congrArg (· % 2 ^ 52) (Nat.div_one _)
  sign := by
    have hbit : (@unpackSign Format.binary64 x.toModel.toBits.toBitVec).toNat =
        x.toBits.toNat / 2 ^ 63 := by
      have hlt := x.toBits.toNat_lt
      rw [unpackSign, BitVec.toNat_cast, BitVec.extractLsb_toNat, Nat.shiftRight_eq_div_pow]
      show x.toBits.toNat / 2 ^ 63 % 2 = _
      omega
    have hneg : (DoubleFields.ofFloat x).negative = (x.toBits.toNat / 2 ^ 63 == 1) := rfl
    rw [signOf, hneg, ← hbit]
    generalize @unpackSign Format.binary64 x.toModel.toBits.toBitVec = s
    rcases BitVec.eq_zero_or_eq_one s with rfl | rfl
    · rfl
    · rfl

section Shown

variable {b : BitVec Format.binary64.numBits} {f : DoubleFields}

theorem canonical_of_fields (hf : f.fraction < 2 ^ 52) : Canonical f.significand f.scale := by
  rw [DoubleFields.significand, DoubleFields.scale]
  split
  · exact ⟨by omega, by omega, Or.inr rfl⟩
  · exact ⟨by omega, by omega, Or.inl (by omega)⟩

theorem Shows.tells_of_top (h : Shows b f) (htop : f.exponent = 2047) :
    Tells (UnpackedFloat.unpack Format.binary64 b)
      (if f.fraction = 0 then (if f.negative then .below else .above) else .undefined) := by
  rcases unpack_of_top (h.exponent.trans htop) with ⟨hzero, hunpack⟩ | ⟨hpos, hunpack⟩
  · rw [hunpack, h.sign, if_pos (h.fraction.symm.trans hzero), signOf]
    split
    · exact .below
    · exact .above
  · rw [hunpack, if_neg fun hzero => hpos (h.fraction.trans hzero)]
    exact .undefined

theorem Shows.tells_of_finite (h : Shows b f) (htop : f.exponent ≠ 2047)
    (hexponent : f.exponent < 2048) (hfraction : f.fraction < 2 ^ 52) :
    Tells (UnpackedFloat.unpack Format.binary64 b)
      (.finite ((signOf f).apply (f.significand * 2 ^ f.scale.toNat : ℕ)) (-f.scale).toNat) := by
  have hc := canonical_of_fields hfraction
  by_cases hbottom : f.exponent = 0
  · have hs : f.significand = f.fraction := if_pos hbottom
    have hd : f.scale = -1074 := by rw [DoubleFields.scale, if_pos hbottom]; rfl
    rw [hs, hd] at hc ⊢
    rcases unpack_of_bottom (h.exponent.trans hbottom) with ⟨hzero, hunpack⟩ | ⟨hpos, hunpack⟩
    · rw [hunpack, h.sign, ← h.fraction, hzero]
      cases signOf f with
      | positive => exact Tells.zero .positive
      | negative => exact Tells.zero .negative
    · rw [hunpack, h.sign]
      simp only [h.fraction] at hpos ⊢
      exact Tells.finite _ hpos hc (by decide)
  · obtain ⟨hpos, hunpack⟩ := unpack_of_between (fun hzero => hbottom (h.exponent.symm.trans hzero))
      fun hall => htop (h.exponent.symm.trans hall)
    have hs : 2 ^ 52 + f.fraction = f.significand := by
      rw [DoubleFields.significand, if_neg hbottom]
      omega
    have hd : (f.exponent : ℤ) - 1075 = f.scale := by rw [DoubleFields.scale, if_neg hbottom]
    rw [hunpack, h.sign]
    simp only [h.fraction, h.exponent, hs, hd] at hpos ⊢
    exact Tells.finite _ hpos hc (by omega)

end Shown

/-- The fields of a double say what its bits stand for. -/
theorem tells_ofFloat (x : Float) : Tells x.toModel.unpack (Dyadic.ofFloat x) := by
  have hshows := shows_ofFloat x
  have hexponent : (DoubleFields.ofFloat x).exponent < 2048 := Nat.mod_lt _ (by decide)
  have hfraction : (DoubleFields.ofFloat x).fraction < 2 ^ 52 := Nat.mod_lt _ (by decide)
  rw [Dyadic.ofFloat, Float.Model.unpack]
  generalize DoubleFields.ofFloat x = f at *
  by_cases htop : f.exponent = 2047
  · have hfinite : f.isFinite ≠ true := by
      rw [DoubleFields.isFinite, htop]
      decide
    simp only [if_neg hfinite]
    exact hshows.tells_of_top htop
  · have hfinite : f.isFinite = true := bne_iff_ne.mpr htop
    have hsigned (n : ℕ) : (signOf f).apply (n : ℤ) = if f.negative then -(n : ℤ) else n := by
      rw [signOf]
      split <;> rfl
    have htells := hshows.tells_of_finite htop hexponent hfraction
    rw [hsigned] at htells
    simp only [if_pos hfinite]
    exact htells

/-! ### Numbers -/

/-- A double that is not negative holds a number. -/
def IsNumber (x : Float) (q : ℚ) : Prop := Holds x.toModel.unpack q

theorem Holds.nonneg {f : UnpackedFloat} (h : Holds f q) : 0 ≤ q := by
  cases h with
  | zero => exact le_rfl
  | finite h hc => exact mul_nonneg (Nat.cast_nonneg _) (zpow_two_pos _).le

/-- A product with a power of two as a quotient of integers. -/
theorem mul_zpow_eq_div (m : ℕ) (e : ℤ) :
    (m : ℚ) * 2 ^ e = ((m * 2 ^ e.toNat : ℕ) : ℤ) / 2 ^ (-e).toNat := by
  rw [eq_div_iff (by positivity), ← zpow_natCast, mul_assoc, ← zpow_add₀ (by norm_num)]
  push_cast
  rw [← zpow_natCast]
  congr 2
  omega

theorem IsNumber.rational_eq (h : IsNumber x q) : (Dyadic.ofFloat x).rational? = some q := by
  have htells := tells_ofFloat x
  rw [IsNumber] at h
  generalize x.toModel.unpack = f at *
  generalize Dyadic.ofFloat x = d at *
  cases h with
  | zero =>
      cases htells
      exact congrArg some (by simp)
  | finite hm hc =>
      cases htells
      exact congrArg some (mul_zpow_eq_div _ _).symm

/-- The integer part of a number that is not negative. -/
theorem IsNumber.truncate_eq (h : IsNumber x q) : (Dyadic.ofFloat x).truncate? = some ⌊q⌋ := by
  have hq := h.nonneg
  have hr := h.rational_eq
  cases hd : Dyadic.ofFloat x with
  | finite a i =>
      rw [hd] at hr
      obtain rfl := Option.some.inj hr
      have ha : 0 ≤ a := by
        have hmul := mul_nonneg hq (pow_nonneg (by norm_num : (0 : ℚ) ≤ 2) i)
        rw [div_mul_cancel₀ _ (by positivity)] at hmul
        exact_mod_cast hmul
      rw [Dyadic.truncate?, Int.tdiv_eq_ediv_of_nonneg ha]
      have hfloor := Rat.floor_intCast_div_natCast a (2 ^ i)
      push_cast at hfloor
      exact congrArg some hfloor.symm
  | above | below | undefined =>
      rw [hd] at hr
      cases hr

theorem unpack_zero : (0 : Float).toModel.unpack = .zero .positive := rfl

theorem le_zero_iff (x : Float) :
    x ≤ 0 ↔ UnpackedFloat.le x.toModel.unpack (.zero .positive) = true := by
  have hle : x ≤ 0 ↔ Float.Model.le x.toModel (0 : Float).toModel = true := decide_eq_true_iff
  rw [hle, Float.Model.le, unpack_zero]

/-- A finite double that does not compare as at most zero is positive. -/
theorem isNumber_of_not_le (h : (Dyadic.ofFloat x).rational? = some q) (hx : ¬x ≤ 0) :
    IsNumber x q ∧ 0 < q := by
  have htells := tells_ofFloat x
  rw [le_zero_iff] at hx
  rw [IsNumber]
  generalize x.toModel.unpack = f at *
  generalize Dyadic.ofFloat x = d at *
  cases htells with
  | undefined | above | below => cases h
  | zero s => exact absurd rfl hx
  | finite s hm hc he =>
      cases s with
      | negative => exact absurd rfl hx
      | positive =>
          have hq := (Option.some.inj h).symm.trans (mul_zpow_eq_div _ _).symm
          rw [hq]
          exact ⟨Holds.finite hm hc, mul_pos (by exact_mod_cast hm) (zpow_two_pos _)⟩

/-! ### Arithmetic -/

theorem isNumber_of_toModel {f : UnpackedFloat} (hx : x.toModel = Float.Model.pack f) (h : Holds f q)
    (hq : q < 2 ^ (1024 : ℤ)) : IsNumber x q := by
  rw [IsNumber, hx, h.unpack_pack hq]
  exact h

theorem IsNumber.lt_bound (h : IsNumber x q) : q < 2 ^ (1024 : ℤ) := by
  have htells := tells_ofFloat x
  rw [IsNumber] at h
  generalize x.toModel.unpack = f at *
  generalize Dyadic.ofFloat x = d at *
  cases h with
  | zero => exact zpow_two_pos _
  | @finite m e hm hc =>
      cases htells with
      | finite _ _ _ he =>
          calc
            (m : ℚ) * 2 ^ e < 2 ^ (53 : ℕ) * 2 ^ e := by
              apply mul_lt_mul_of_pos_right _ (zpow_two_pos e)
              exact_mod_cast hc.mantissa
            _ = 2 ^ (e + (53 : ℕ)) := by rw [zpow_add₀ (by norm_num), zpow_natCast, mul_comm]
            _ ≤ 2 ^ (1024 : ℤ) := zpow_le_zpow_right₀ (by norm_num) (by push_cast; omega)

theorem decreaseExponent_value (m : ℕ) {e least : ℤ} (h : least ≤ e) :
    ((decreaseExponent m e least).1 : ℚ) * 2 ^ least = m * 2 ^ e := by
  have hsplit : e = least + (e - least).toNat := by omega
  rw [decreaseExponent, Nat.shiftLeft_eq]
  push_cast
  rw [mul_zpow_add, ← hsplit]

/-- A difference that is representable is exact. -/
theorem IsNumber.sub (hx : IsNumber x p) (hy : IsNumber y q) (hle : q ≤ p)
    (hr : Representable (p - q)) : IsNumber (x - y) (p - q) := by
  have hmodel : (x - y).toModel = Float.Model.pack
      (UnpackedFloat.sub Format.binary64 x.toModel.unpack y.toModel.unpack) := rfl
  have hbound : p - q < 2 ^ (1024 : ℤ) :=
    lt_of_le_of_lt (sub_le_self p (Holds.nonneg hy)) hx.lt_bound
  refine isNumber_of_toModel hmodel ?_ hbound
  clear hmodel hbound
  rw [IsNumber] at hx hy
  generalize x.toModel.unpack = f at *
  generalize y.toModel.unpack = g at *
  cases hx with
  | zero =>
      cases hy with
      | zero =>
          rw [sub_zero]
          exact Holds.zero
      | @finite n d hn hd =>
          have hpos : (0 : ℚ) < n * 2 ^ d := mul_pos (by exact_mod_cast hn) (zpow_two_pos d)
          exact absurd hle (not_le.mpr hpos)
  | @finite m e hm hc =>
      cases hy with
      | zero =>
          rw [sub_zero]
          exact Holds.finite hm hc
      | @finite n d hn hd =>
          -- both mantissas are brought to the lower exponent, where their difference is exact
          have hm' := decreaseExponent_value m (min_le_left e d)
          have hn' := decreaseExponent_value n (min_le_right e d)
          generalize hleft : (decreaseExponent m e (min e d)).1 = left at hm'
          generalize hright : (decreaseExponent n d (min e d)).1 = right at hn'
          have hvalue : (((left : ℤ) - right : ℤ) : ℚ) * 2 ^ min e d = m * 2 ^ e - n * 2 ^ d := by
            rw [← hm', ← hn', ← sub_mul]
            push_cast
            rfl
          have hnonneg : 0 ≤ (left : ℤ) - right := by
            rw [← hm', ← hn'] at hle
            have hle' := le_of_mul_le_mul_right hle (zpow_two_pos _)
            have hle'' : right ≤ left := by exact_mod_cast hle'
            omega
          have hholds := holds_normalize hnonneg (hvalue ▸ hr)
          rw [hvalue] at hholds
          rw [← hleft, ← hright] at hholds
          exact hholds

theorem log2_mul_ge {m n : ℕ} (hm : 2 ^ 52 ≤ m) (hn : 0 < n) : 52 ≤ (m * n).log2 := by
  apply (Nat.le_log2 (Nat.mul_pos (by omega) hn).ne').mpr
  exact le_trans hm (Nat.le_mul_of_pos_right m hn)

/-- The product of two mantissas has no fewer places than are kept, or is below the least exponent. -/
theorem le_target_mul {m n : ℕ} {e d : ℤ} (hm : 0 < m) (hn : 0 < n) (hc : Canonical m e)
    (hc' : Canonical n d) : e + d ≤ target (m * n) (e + d) := by
  have hleast : -1074 ≤ target (m * n) (e + d) := le_max_right _ _
  have hplaces : ((m * n).log2 : ℤ) + (e + d) - 52 ≤ target (m * n) (e + d) := le_max_left _ _
  rcases hc.full with hfull | hfew
  · have hlog := log2_mul_ge hfull hn
    omega
  · rcases hc'.full with hfull' | hfew'
    · have hlog := log2_mul_ge hfull' hm
      rw [Nat.mul_comm] at hlog
      omega
    · omega

theorem mul_zpow_mul (m n : ℕ) (e d : ℤ) :
    ((m * n : ℕ) : ℚ) * 2 ^ (e + d) = m * 2 ^ e * (n * 2 ^ d) := by
  rw [zpow_add₀ (by norm_num)]
  push_cast
  ring

/-- A product is zero or the rounded product of the mantissas. -/
theorem mul_cases (hx : IsNumber x p) (hy : IsNumber y q) :
    (p * q = 0 ∧ (x * y).toModel = Float.Model.pack (.zero .positive)) ∨
    ∃ (m : ℕ) (e : ℤ), 0 < m ∧ e ≤ target m e ∧ (m : ℚ) * 2 ^ e = p * q ∧
      (x * y).toModel = Float.Model.pack
        (roundWithAccuracy Format.binary64 .positive m e .exact) := by
  have hmodel : (x * y).toModel = Float.Model.pack
      (UnpackedFloat.mul Format.binary64 x.toModel.unpack y.toModel.unpack) := rfl
  rw [hmodel]
  clear hmodel
  rw [IsNumber] at hx hy
  generalize x.toModel.unpack = f at *
  generalize y.toModel.unpack = g at *
  cases hx with
  | zero =>
      left
      rw [zero_mul]
      cases hy <;> exact ⟨rfl, rfl⟩
  | @finite m e hm hc =>
      cases hy with
      | zero => exact Or.inl ⟨mul_zero _, rfl⟩
      | @finite n d hn hd =>
          exact Or.inr ⟨m * n, e + d, Nat.mul_pos hm hn, le_target_mul hm hn hc hd,
            mul_zpow_mul m n e d, rfl⟩

/-- A product that is representable is exact. -/
theorem IsNumber.mul (hx : IsNumber x p) (hy : IsNumber y q) (hr : Representable (p * q))
    (hb : p * q < 2 ^ (1024 : ℤ)) : IsNumber (x * y) (p * q) := by
  rcases mul_cases hx hy with ⟨hzero, hmodel⟩ | ⟨m, e, hm, he, hvalue, hmodel⟩
  · refine isNumber_of_toModel hmodel ?_ hb
    rw [hzero]
    exact Holds.zero
  · refine isNumber_of_toModel hmodel ?_ hb
    rw [← hvalue] at hr ⊢
    exact holds_roundWithAccuracy hm he hr

/-- Any other product is missed by at most half a unit of its last place. -/
theorem IsNumber.exists_near_mul (hx : IsNumber x p) (hy : IsNumber y q) {bound : ℤ}
    (hlow : -1021 ≤ bound) (hhigh : bound < 1024) (hb : p * q < 2 ^ bound) :
    ∃ r, IsNumber (x * y) r ∧ |r - p * q| ≤ 2 ^ (bound - 54) := by
  rcases mul_cases hx hy with ⟨hzero, hmodel⟩ | ⟨m, e, hm, he, hvalue, hmodel⟩
  · refine ⟨0, isNumber_of_toModel hmodel Holds.zero (zpow_two_pos _), ?_⟩
    rw [hzero, sub_zero, abs_zero]
    exact (zpow_two_pos _).le
  · rw [← hvalue] at hb ⊢
    obtain ⟨r, hholds, hnear⟩ := exists_near_roundWithAccuracy hm he hlow hb
    refine ⟨r, isNumber_of_toModel hmodel hholds ?_, hnear⟩
    have hupper := (abs_le.mp hnear).2
    have hsmall : (2 : ℚ) ^ (bound - 54) ≤ 2 ^ bound :=
      zpow_le_zpow_right₀ (by norm_num) (by omega)
    calc
      r ≤ m * 2 ^ e + 2 ^ (bound - 54) := by linarith
      _ < 2 ^ bound + 2 ^ bound := by linarith
      _ = 2 ^ (bound + 1) := by rw [zpow_add_one₀ (by norm_num)]; ring
      _ ≤ 2 ^ (1024 : ℤ) := zpow_le_zpow_right₀ (by norm_num) (by omega)

/-! ### Integers -/

theorem isNumber_one : IsNumber (Float.exactlyRepresentablePowersOfTen[0]) 1 := by
  have hunpack : (Float.exactlyRepresentablePowersOfTen[0]).toModel.unpack =
      .finite .positive (2 ^ 52) (-52) (by decide) := rfl
  have hone : (1 : ℚ) = ((2 ^ 52 : ℕ) : ℚ) * 2 ^ (-52 : ℤ) := by norm_num
  rw [IsNumber, hunpack, hone]
  exact Holds.finite _ ⟨by decide, by decide, Or.inl le_rfl⟩

theorem isNumber_toFloat {n : ℕ} (hn : n < 2 ^ 53) : IsNumber n.toUInt64.toFloat n := by
  have hmodel : n.toUInt64.toFloat.toModel = Float.Model.pack
      (UnpackedFloat.normalize Format.binary64 (n.toUInt64.toNat : ℤ) 0 .positive) := rfl
  have hword : n.toUInt64.toNat = n := Nat.mod_eq_of_lt (lt_trans hn (by decide))
  have hvalue : ((n : ℤ) : ℚ) * 2 ^ (0 : ℤ) = n := by simp
  have hr : Representable (((n : ℤ) : ℚ) * 2 ^ (0 : ℤ)) := ⟨n, 0, hn, by decide, by simp⟩
  refine isNumber_of_toModel hmodel ?_ ?_
  · rw [hword, ← hvalue]
    exact holds_normalize (Int.natCast_nonneg n) hr
  · calc
      (n : ℚ) < 2 ^ (53 : ℤ) := by exact_mod_cast hn
      _ ≤ 2 ^ (1024 : ℤ) := zpow_le_zpow_right₀ (by norm_num) (by norm_num)

/-- An integer that is representable is a double. -/
theorem isNumber_ofNat {n : ℕ} (hr : Representable n) (hb : (n : ℚ) < 2 ^ (1024 : ℤ)) :
    IsNumber (Float.ofNat n) n := by
  show IsNumber (Float.ofScientific n false 0) n
  rw [Float.ofScientific]
  by_cases hn : n < 2 ^ 53
  · rw [dif_pos ⟨hn, by decide⟩]
    have hproduct := (isNumber_toFloat hn).mul isNumber_one (by rwa [mul_one]) (by rwa [mul_one])
    rw [mul_one] at hproduct
    exact hproduct
  · rw [dif_neg fun h => hn h.1]
    have hne : n ≠ 0 := by
      rintro rfl
      exact hn (by decide)
    have hmodel : Float.Model.ofScientific n 0 = Float.Model.pack
        (roundWithAccuracy Format.binary64 .positive (n <<< 53 * 10 ^ 0) (-53 + 0) .exact) := by
      have hhigh : ¬(0 : ℤ) > 2 ^ 11 := by decide
      have hlow : ¬(0 : ℤ) < -(2 ^ 11 + (n.log2 : ℤ)) := by omega
      rw [Float.Model.ofScientific, UnpackedFloat.ofScientific, dif_neg hne]
      apply congrArg Float.Model.pack
      refine (if_neg hhigh).trans ((if_neg hlow).trans ((if_pos le_rfl).trans ?_))
      rw [UnpackedFloat.mul]
      rfl
    have hpos : 0 < n <<< 53 * 10 ^ 0 := by
      rw [pow_zero, Nat.mul_one, Nat.shiftLeft_eq]
      exact Nat.mul_pos (Nat.pos_of_ne_zero hne) (Nat.two_pow_pos 53)
    have hvalue : ((n <<< 53 * 10 ^ 0 : ℕ) : ℚ) * 2 ^ (-53 + 0 : ℤ) = n := by
      rw [pow_zero, Nat.mul_one, Nat.shiftLeft_eq]
      push_cast
      rw [mul_assoc]
      norm_num
    have htarget : (-53 + 0 : ℤ) ≤ target (n <<< 53 * 10 ^ 0) (-53 + 0) := by
      have hlog := (Nat.le_log2 hne).mpr (Nat.not_lt.mp hn)
      rw [pow_zero, Nat.mul_one, target, log2_shiftLeft (Nat.pos_of_ne_zero hne)]
      push_cast
      omega
    refine isNumber_of_toModel hmodel ?_ hb
    have hholds := holds_roundWithAccuracy hpos htarget (by rwa [hvalue])
    rwa [hvalue] at hholds

end Rounding

end TaskEndpoints
