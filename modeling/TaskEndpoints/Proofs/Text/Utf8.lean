import TaskEndpoints.Text.Encoding

/-!
# Decoding what was encoded

The octets of a text in UTF-8 are read back as its characters, one step for each of them. So a faulty
sequence never comes out of the encoder, and no replacement character is put into what it wrote.

## Implementation notes

Octets are compared as the natural numbers that they are made from. A step consumes one octet at once
and leaves the others of its character to be skipped.
-/

namespace TaskEndpoints.Text

theorem isContinuation_iff (b : UInt8) :
    isContinuation b = true ↔ 0x80 ≤ b.toNat ∧ b.toNat < 0xc0 := by
  simp [isContinuation, UInt8.le_iff_toNat_le, UInt8.lt_iff_toNat_lt]

theorem fitsSecond_iff (a b : UInt8) :
    fitsSecond a b = true ↔ (0x80 ≤ b.toNat ∧ b.toNat < 0xc0) ∧
      (a.toNat = 0xe0 → 0xa0 ≤ b.toNat) ∧ (a.toNat = 0xed → b.toNat < 0xa0) ∧
      (a.toNat = 0xf0 → 0x90 ≤ b.toNat) ∧ (a.toNat = 0xf4 → b.toNat < 0x90) := by
  simp [fitsSecond, isContinuation_iff, UInt8.le_iff_toNat_le, UInt8.lt_iff_toNat_lt,
    ← UInt8.toNat_inj, Decidable.imp_iff_not_or, and_assoc]

section Steps

variable {n : Nat} (rest : List UInt8)

theorem toNat_octet (h : n < 256) : (UInt8.ofNat n).toNat = n :=
  UInt8.toNat_ofNat'.trans (Nat.mod_eq_of_lt h)

/-- A continuation octet carries six bits. -/
theorem continuation_spec (k : Nat) : isContinuation (UInt8.ofNat (k % 64 + 128)) = true ∧
    payload (UInt8.ofNat (k % 64 + 128)) = k % 64 := by
  have hk : (UInt8.ofNat (k % 64 + 128)).toNat = k % 64 + 128 := toNat_octet (by omega)
  rw [isContinuation_iff, payload, hk]
  omega

theorem stepUtf8_one (h : n ≤ 0x7f) : stepUtf8 (UInt8.ofNat n) rest = .point n 1 := by
  have hn : (UInt8.ofNat n).toNat = n := toNat_octet (by omega)
  simp only [stepUtf8, hn]
  rw [if_pos (by omega)]

theorem stepUtf8_two (hlow : 0x7f < n) (hhigh : n ≤ 0x7ff) :
    stepUtf8 (UInt8.ofNat (n / 64 % 32 + 192)) (UInt8.ofNat (n % 64 + 128) :: rest) =
      .point n 2 := by
  have hfirst : (UInt8.ofNat (n / 64 % 32 + 192)).toNat = n / 64 % 32 + 192 :=
    toNat_octet (by omega)
  have hsecond : (UInt8.ofNat (n % 64 + 128)).toNat = n % 64 + 128 := toNat_octet (by omega)
  have hfits : fitsSecond (UInt8.ofNat (n / 64 % 32 + 192)) (UInt8.ofNat (n % 64 + 128)) = true := by
    rw [fitsSecond_iff, hfirst, hsecond]
    omega
  simp only [stepUtf8, hfirst, hfits, (continuation_spec n).2]
  rw [if_neg (by omega), if_neg (by simp; omega), if_neg (by simp), if_pos (by omega)]
  congr 1
  omega

theorem stepUtf8_three (hlow : 0x7ff < n) (hhigh : n ≤ 0xffff) (hs : n < 0xd800 ∨ 0xdfff < n) :
    stepUtf8 (UInt8.ofNat (n / 4096 % 16 + 224)) (UInt8.ofNat (n / 64 % 64 + 128) ::
      UInt8.ofNat (n % 64 + 128) :: rest) = .point n 3 := by
  have hfirst : (UInt8.ofNat (n / 4096 % 16 + 224)).toNat = n / 4096 % 16 + 224 :=
    toNat_octet (by omega)
  have hsecond : (UInt8.ofNat (n / 64 % 64 + 128)).toNat = n / 64 % 64 + 128 :=
    toNat_octet (by omega)
  have hfits : fitsSecond (UInt8.ofNat (n / 4096 % 16 + 224))
      (UInt8.ofNat (n / 64 % 64 + 128)) = true := by
    rw [fitsSecond_iff, hfirst, hsecond]
    omega
  simp only [stepUtf8, hfirst, hfits, (continuation_spec n).1, (continuation_spec n).2,
    (continuation_spec (n / 64)).2]
  rw [if_neg (by omega), if_neg (by simp; omega), if_neg (by simp), if_neg (by omega),
    if_neg (by simp), if_pos (by omega)]
  congr 1
  omega

theorem stepUtf8_four (hlow : 0xffff < n) (hhigh : n < 0x110000) :
    stepUtf8 (UInt8.ofNat (n / 262144 % 8 + 240)) (UInt8.ofNat (n / 4096 % 64 + 128) ::
      UInt8.ofNat (n / 64 % 64 + 128) :: UInt8.ofNat (n % 64 + 128) :: rest) = .point n 4 := by
  have hfirst : (UInt8.ofNat (n / 262144 % 8 + 240)).toNat = n / 262144 % 8 + 240 :=
    toNat_octet (by omega)
  have hsecond : (UInt8.ofNat (n / 4096 % 64 + 128)).toNat = n / 4096 % 64 + 128 :=
    toNat_octet (by omega)
  have hfits : fitsSecond (UInt8.ofNat (n / 262144 % 8 + 240))
      (UInt8.ofNat (n / 4096 % 64 + 128)) = true := by
    rw [fitsSecond_iff, hfirst, hsecond]
    omega
  simp only [stepUtf8, hfirst, hfits, (continuation_spec n).1, (continuation_spec n).2,
    (continuation_spec (n / 64)).1, (continuation_spec (n / 64)).2, (continuation_spec (n / 4096)).2]
  rw [if_neg (by omega), if_neg (by simp; omega), if_neg (by simp), if_neg (by omega),
    if_neg (by simp), if_neg (by omega), if_neg (by simp)]
  congr 1
  omega

end Steps

/-- The octets of a character make up one step, whatever follows them. -/
theorem stepUtf8_encodeChar (c : Char) : ∃ first more,
    String.utf8EncodeChar c = first :: more ∧
      ∀ rest, stepUtf8 first (more ++ rest) = .point c.toNat (more.length + 1) := by
  have hc : c.toNat < 0xd800 ∨ 0xdfff < c.toNat ∧ c.toNat < 0x110000 := c.valid
  have hv : c.val.toNat = c.toNat := rfl
  rw [String.utf8EncodeChar, hv]
  split
  · rename_i h
    exact ⟨_, _, rfl, fun rest => stepUtf8_one rest h⟩
  · split
    · rename_i h₁ h₂
      exact ⟨_, _, rfl, fun rest => stepUtf8_two rest (by omega) h₂⟩
    · split
      · rename_i h₁ h₂ h₃
        exact ⟨_, _, rfl, fun rest => stepUtf8_three rest (by omega) h₃ (by omega)⟩
      · exact ⟨_, _, rfl, fun rest => stepUtf8_four rest (by omega) (by omega)⟩

/-- Octets that belong to the character before are passed over. -/
theorem decodeReplacing_skip (more rest : List UInt8) :
    decodeReplacing more.length (more ++ rest) = decodeReplacing 0 rest := by
  induction more with
  | nil => rfl
  | cons b more ih => exact ih

theorem decodeReplacing_encodeChar (c : Char) (rest : List UInt8) :
    decodeReplacing 0 (String.utf8EncodeChar c ++ rest) = c :: decodeReplacing 0 rest := by
  obtain ⟨first, more, he, hs⟩ := stepUtf8_encodeChar c
  rw [he, List.cons_append, decodeReplacing]
  simp only [hs, Nat.add_sub_cancel, decodeReplacing_skip, Char.ofNat_toNat]

/-- Decoding gives back the characters of a text. -/
theorem decodeReplacing_encodeUtf8 (s : String) : decodeReplacing 0 (encodeUtf8 s) = s.toList := by
  rw [encodeUtf8]
  induction s.toList with
  | nil => rfl
  | cons c cs ih => rw [List.flatMap_cons, decodeReplacing_encodeChar, ih]

section Ascii

/-- What a step puts into the text and how many octets it is about. -/
def Step.replaced : Step → Char × Nat
  | .point value size => (Char.ofNat value, size)
  | .fault size _ => ('\ufffd', size)

theorem decodeReplacing_cons (first : UInt8) (rest : List UInt8) :
    decodeReplacing 0 (first :: rest) = (stepUtf8 first rest).replaced.1 ::
      decodeReplacing ((stepUtf8 first rest).replaced.2 - 1) rest := by
  rw [decodeReplacing]
  cases stepUtf8 first rest with
  | point value size => rfl
  | fault size reason => rfl

variable {b : UInt8}

/-- No sequence goes on into an ASCII character: what stands from it on only changes the reason of a
fault. -/
theorem replaced_stepUtf8_append (hb : b.toNat < 0x80) (first : UInt8) (rest more : List UInt8) :
    (stepUtf8 first (rest ++ b :: more)).replaced = (stepUtf8 first rest).replaced ∧
      (stepUtf8 first rest).replaced.2 ≤ rest.length + 1 := by
  have hc : isContinuation b = false := by
    rw [Bool.eq_false_iff, Ne, isContinuation_iff]
    omega
  have hf (a : UInt8) : fitsSecond a b = false := by
    rw [Bool.eq_false_iff, Ne, fitsSecond_iff]
    omega
  -- The cases are those of the step; it ends at the first octet that is missing or does not fit.
  by_cases hascii : first.toNat < 0x80
  · simp [stepUtf8, hascii, Step.replaced]
  by_cases hstart : first.toNat < 0xc2 ∨ 0xf4 < first.toNat
  · simp [stepUtf8, hascii, hstart, Step.replaced]
  cases rest with
  | nil => simp [stepUtf8, hascii, hstart, hf, Step.replaced]
  | cons second rest =>
      by_cases hsecond : fitsSecond first second = true
      · by_cases htwo : first.toNat < 0xe0
        · simp [stepUtf8, hascii, hstart, hsecond, htwo, Step.replaced]
        cases rest with
        | nil => simp [stepUtf8, hascii, hstart, hsecond, htwo, hc, Step.replaced]
        | cons third rest =>
            by_cases hthird : isContinuation third = true
            · by_cases hthree : first.toNat < 0xf0
              · simp [stepUtf8, hascii, hstart, hsecond, htwo, hthird, hthree, Step.replaced]
              cases rest with
              | nil =>
                  simp [stepUtf8, hascii, hstart, hsecond, htwo, hthird, hthree, hc, Step.replaced]
              | cons fourth rest =>
                  by_cases hfourth : isContinuation fourth = true
                  · simp [stepUtf8, hascii, hstart, hsecond, htwo, hthird, hthree, hfourth,
                      Step.replaced]
                  · simp [stepUtf8, hascii, hstart, hsecond, htwo, hthird, hthree, hfourth,
                      Step.replaced]
            · simp [stepUtf8, hascii, hstart, hsecond, htwo, hthird, Step.replaced]
      · simp [stepUtf8, hascii, hstart, hsecond, Step.replaced]

/-- Decoding goes on anew at every ASCII character. -/
theorem decodeReplacing_append (hb : b.toNat < 0x80) (xs more : List UInt8) {k : Nat}
    (hk : k ≤ xs.length) : decodeReplacing k (xs ++ b :: more) =
      decodeReplacing k xs ++ Char.ofNat b.toNat :: decodeReplacing 0 more := by
  induction xs generalizing k with
  | nil =>
      obtain rfl : k = 0 := Nat.le_zero.mp hk
      have hs : stepUtf8 b more = .point b.toNat 1 := by simp only [stepUtf8, if_pos hb]
      rw [List.nil_append, decodeReplacing_cons, hs]
      rfl
  | cons first rest ih =>
      cases k with
      | zero =>
          obtain ⟨he, hsize⟩ := replaced_stepUtf8_append hb first rest more
          rw [List.cons_append, decodeReplacing_cons, decodeReplacing_cons, he, List.cons_append,
            ih (by omega)]
      | succ k => exact ih (Nat.le_of_succ_le_succ hk)

end Ascii

end TaskEndpoints.Text
