import TaskEndpoints.Proofs.Json.Standard
import Mathlib.Data.Nat.Digits.Defs

/-!
# Numbers as the standard writes them

The text of every integer and of every finite double is a number of the JSON standard. For doubles this
rests on the shortest decimal being positive, so that its digits do not start with a zero.
-/

namespace TaskEndpoints

/-! ### The shortest decimal is positive -/

namespace Shortest

variable {i : Interval} {d : Decimal}

theorem Interval.point_pos_of_holds (hl : 0 < i.low) {unit scaled point : Nat} (hs : 0 < scaled)
    (h : i.holds unit scaled point = true) : 0 < point := by
  have hlow : 0 < i.low * scaled := Nat.mul_pos hl hs
  have hpoint : 0 < point * unit := by
    rw [holds] at h
    split at h
    · simp only [Bool.and_eq_true, decide_eq_true_eq] at h
      omega
    · simp only [Bool.and_eq_true, decide_eq_true_eq] at h
      omega
  exact Nat.pos_of_mul_pos_right hpoint

theorem Interval.digits_pos_of_onGrid? (hl : 0 < i.low) {k : Int} (h : i.onGrid? k = some d) :
    0 < d.digits := by
  have hs : 0 < Nat.pow 2 (i.scale - 2).toNat * Nat.pow 10 (-k).toNat :=
    Nat.mul_pos (Nat.pow_pos (by decide)) (Nat.pow_pos (by decide))
  rw [onGrid?] at h
  split at h
  · rename_i hbelow _
    split at h
    · exact Option.some.inj h ▸ point_pos_of_holds hl hs hbelow
    · exact Option.some.inj h ▸ Nat.succ_pos _
  · rename_i hbelow _
    exact Option.some.inj h ▸ point_pos_of_holds hl hs hbelow
  · exact Option.some.inj h ▸ Nat.succ_pos _
  · cases h

theorem Interval.digits_pos_of_search (hl : 0 < i.low) (hc : 0 < i.centre) (k : Int) (count : Nat) :
    0 < (i.search k count).digits := by
  induction count generalizing k with
  | zero => exact hc
  | succ count ih =>
      rw [search]
      split
      · rename_i d hd
        exact digits_pos_of_onGrid? hl hd
      · exact ih _

theorem digits_pos_of_ofFields {f : DoubleFields} (h : f.significand ≠ 0) :
    0 < (ofFields f).digits := by
  have hlow : 0 < (Interval.ofFields f).low := by
    rw [Interval.ofFields]
    dsimp only
    split
    · omega
    · omega
  have hcentre : 0 < (Interval.ofFields f).centre := by
    show 0 < 4 * f.significand
    omega
  exact Interval.digits_pos_of_search hlow hcentre _ _

end Shortest

/-! ### Digits -/

namespace Text

variable {test : Char → Bool} {c : Char} {cs : List Char}

/-- A character that stays protects those before it. -/
theorem dropEndWhile_cons_of_neg (h : test c = false) :
    dropEndWhile test (c :: cs) = c :: dropEndWhile test cs := by
  rw [dropEndWhile, dropEndWhile, List.reverse_cons, List.dropWhile_append]
  split
  · rename_i hempty
    rw [List.isEmpty_iff.mp hempty, List.dropWhile_cons_of_neg (by simp [h])]
    rfl
  · rw [List.reverse_append]
    rfl

theorem mem_of_mem_dropEndWhile (h : c ∈ dropEndWhile test cs) : c ∈ cs :=
  List.mem_reverse.mp ((List.dropWhile_sublist _).subset (List.mem_reverse.mp h))

end Text

namespace Json.Standard

variable {ds : List Char}

theorem areDigits_decimalDigits (n : Nat) : AreDigits (decimalDigits n) := fun _ hc =>
  Nat.isDigit_of_mem_toDigits (by decide) (by decide) hc

/-- The digits of a positive number do not start with a zero. -/
theorem exists_decimalDigits {n : Nat} (h : 0 < n) : ∃ d ds, decimalDigits n = d :: ds ∧ d ≠ '0' := by
  induction n using Nat.strong_induction_on with
  | _ n ih =>
      rw [decimalDigits, Nat.toDigits_eq_if (by decide)]
      split
      · exact ⟨_, [], rfl, fun h0 => by rw [Nat.digitChar_eq_zero] at h0; omega⟩
      · obtain ⟨d, ds, hd, h0⟩ := ih (n / 10) (by omega) (by omega)
        exact ⟨d, ds ++ [(n % 10).digitChar], by rw [← decimalDigits, hd, List.cons_append], h0⟩

theorem isWhole_decimalDigits (n : Nat) : IsWhole (decimalDigits n) := by
  rcases Nat.eq_zero_or_pos n with rfl | hn
  · exact .zero
  · obtain ⟨d, ds, hd, h0⟩ := exists_decimalDigits hn
    have hdigits := areDigits_decimalDigits n
    rw [hd] at hdigits ⊢
    exact .digits (hdigits d List.mem_cons_self) h0 fun c hc => hdigits c (List.mem_cons_of_mem _ hc)

theorem areDigits_zeros (n : Nat) : AreDigits (List.replicate n '0') := fun _ hc =>
  List.eq_of_mem_replicate hc ▸ rfl

theorem AreDigits.append {ds' : List Char} (h : AreDigits ds) (h' : AreDigits ds') :
    AreDigits (ds ++ ds') := List.forall_mem_append.mpr ⟨h, h'⟩

theorem AreDigits.cons {d : Char} (hd : d.isDigit = true) (h : AreDigits ds) : AreDigits (d :: ds) :=
  List.forall_mem_cons.mpr ⟨hd, h⟩

theorem AreDigits.of_subset {ds' : List Char} (h : AreDigits ds) (hs : ds' ⊆ ds) : AreDigits ds' :=
  fun c hc => h c (hs hc)

theorem IsWhole.isUnsigned (h : IsWhole ds) : IsUnsigned ds := by
  have hparts : IsUnsigned (ds ++ [] ++ []) := .parts h .none .none
  rwa [List.append_nil, List.append_nil] at hparts

theorem IsWhole.isUnsigned_fraction {fraction : List Char} (h : IsWhole ds) (hf : IsFraction fraction) :
    IsUnsigned (ds ++ fraction) := by
  have hparts : IsUnsigned (ds ++ fraction ++ []) := .parts h hf .none
  rwa [List.append_nil] at hparts

/-- The text of an integer is a number. -/
theorem isNumber_intText (n : Int) : IsNumber (intText n).toList := by
  rw [intText]
  split
  · rw [String.toList_ofList]
    exact .negative (isWhole_decimalDigits _).isUnsigned
  · rw [String.toList_ofList]
    exact .unsigned (isWhole_decimalDigits _).isUnsigned

section Digits

variable {d : Char} (hd : d.isDigit = true) (h0 : d ≠ '0') (hds : AreDigits ds)

include hd h0 hds

theorem isUnsigned_withPoint (point : Int) : IsUnsigned (withPoint (d :: ds) point) := by
  rw [withPoint]
  split
  · exact IsWhole.zero.isUnsigned_fraction
      (.digits (by simp) ((areDigits_zeros (-point).toNat).append (hds.cons hd)))
  · split
    · rw [List.cons_append, List.cons_append]
      exact (IsWhole.digits hd h0 (hds.append (areDigits_zeros _))).isUnsigned_fraction
        (.digits (List.cons_ne_nil _ _) (areDigits_zeros 1))
    · rename_i hpoint hlength
      obtain ⟨n, hn⟩ : ∃ n, point.toNat = n + 1 := ⟨point.toNat - 1, by omega⟩
      rw [hn, List.take_succ_cons, List.drop_succ_cons]
      rw [hn, List.length_cons] at hlength
      refine (IsWhole.digits hd h0 (hds.of_subset (List.take_subset _ _))).isUnsigned_fraction
        (.digits ?_ (hds.of_subset (List.drop_subset _ _)))
      rw [Ne, List.drop_eq_nil_iff]
      omega

theorem isUnsigned_withExponent (exponent : Int) : IsUnsigned (withExponent (d :: ds) exponent) := by
  let sign : Char := if exponent < 0 then '-' else '+'
  let digits := padZeros 2 (decimalDigits exponent.natAbs)
  have hsign : [sign] ∈ [[], ['+'], ['-']] := by
    show [if exponent < 0 then '-' else '+'] ∈ [[], ['+'], ['-']]
    split
    · decide
    · decide
  have hexponent : IsExponent ('e' :: ([sign] ++ digits)) :=
    .digits (by decide) hsign (List.append_ne_nil_of_right_ne_nil _ Nat.toDigits_ne_nil)
      ((areDigits_zeros _).append (areDigits_decimalDigits _))
  cases ds with
  | nil =>
      have hnone : IsUnsigned ([d] ++ [] ++ 'e' :: ([sign] ++ digits)) :=
        .parts (.digits hd h0 hds) .none hexponent
      exact hnone
  | cons second rest =>
      have hfraction : IsUnsigned ([d] ++ '.' :: second :: rest ++ 'e' :: ([sign] ++ digits)) :=
        .parts (.digits hd h0 fun c hc => by cases hc) (.digits (List.cons_ne_nil _ _) hds) hexponent
      exact hfraction

end Digits

/-- The text of a positive decimal is a number. -/
theorem isUnsigned_text {decimal : Shortest.Decimal} (h : 0 < decimal.digits) : IsUnsigned decimal.text := by
  obtain ⟨d, ds, hdigits, h0⟩ := exists_decimalDigits h
  have hall := areDigits_decimalDigits decimal.digits
  rw [hdigits] at hall
  obtain ⟨hd, hds⟩ := List.forall_mem_cons.mp hall
  have hds' : AreDigits (Text.dropEndWhile (· == '0') ds) := fun c hc =>
    hds c (Text.mem_of_mem_dropEndWhile hc)
  rw [Shortest.Decimal.text, hdigits, Text.dropEndWhile_cons_of_neg (by simpa using h0)]
  split
  · exact isUnsigned_withPoint hd h0 hds' _
  · exact isUnsigned_withExponent hd h0 hds' _

/-- The text of a finite double is a number. -/
theorem isNumber_doubleText {x : Float} (h : (DoubleFields.ofFloat x).isFinite = true)
    (words : DoubleWords) : IsNumber (doubleText words x).toList := by
  have hbody : IsUnsigned (if (DoubleFields.ofFloat x).significand = 0 then ['0', '.', '0']
      else (Shortest.ofFields (DoubleFields.ofFloat x)).text) := by
    split
    · exact IsWhole.zero.isUnsigned_fraction (.digits (List.cons_ne_nil _ _) (areDigits_zeros 1))
    · exact isUnsigned_text (Shortest.digits_pos_of_ofFields ‹_›)
  rw [doubleText, String.toList_ofList]
  simp only [h, if_true]
  split
  · exact .negative hbody
  · exact .unsigned hbody

/-- The words for doubles without digits. -/
def nonFiniteWords : List (List Char) := ["NaN".toList, "Infinity".toList, "-Infinity".toList]

/-- The text of any other double is one of three words. -/
theorem doubleText_of_not_isFinite {x : Float} (h : (DoubleFields.ofFloat x).isFinite = false) :
    (doubleText doubleWords x).toList ∈ nonFiniteWords := by
  have hwords : doubleText doubleWords x ∈ ["NaN", "Infinity", "-Infinity"] := by
    rw [doubleText]
    simp only [h]
    by_cases hf : (DoubleFields.ofFloat x).fraction = 0
    · cases hn : (DoubleFields.ofFloat x).negative with
      | true => simp [hf, doubleWords]
      | false => simp [hf, doubleWords]
    · simp [hf, doubleWords]
  exact List.mem_map_of_mem hwords

end Json.Standard

end TaskEndpoints
