import TaskEndpoints.Json.Octets
import TaskEndpoints.Proofs.Text.Utf8

/-!
# The Unicode encodings

The octets of a text in each of the encodings, and the byte order marks. Decoding strictly gives back the
code points of the text, one step for each character.
-/

namespace TaskEndpoints.Text

/-- The octets of a number below 65536. -/
def octets16 (bigEndian : Bool) (n : Nat) : List UInt8 :=
  if bigEndian then [UInt8.ofNat (n / 256), UInt8.ofNat (n % 256)]
  else [UInt8.ofNat (n % 256), UInt8.ofNat (n / 256)]

/-- The four octets of a code point. -/
def octets32 (bigEndian : Bool) (n : Nat) : List UInt8 :=
  if bigEndian then octets16 true (n / 65536) ++ octets16 true (n % 65536)
  else octets16 false (n % 65536) ++ octets16 false (n / 65536)

namespace Encoding

/-- The octets of a character. -/
def encodeChar (c : Char) : Encoding → List UInt8
  | .utf8 => String.utf8EncodeChar c
  | .utf16le => (Json.units16 c.toNat).flatMap (octets16 false)
  | .utf16be => (Json.units16 c.toNat).flatMap (octets16 true)
  | .utf32le => octets32 false c.toNat
  | .utf32be => octets32 true c.toNat

/-- The octets of a text. -/
def encode (encoding : Encoding) (s : String) : List UInt8 := s.toList.flatMap encoding.encodeChar

/-- The byte order mark is a character of its own, written in front of a text. -/
def mark (encoding : Encoding) : List UInt8 := encoding.encodeChar '\ufeff'

/-- The octets of an ASCII character, given by its number. -/
def asciiOctets (octet : UInt8) : Encoding → List UInt8
  | .utf8 => [octet]
  | .utf16le => [octet, 0]
  | .utf16be => [0, octet]
  | .utf32le => [octet, 0, 0, 0]
  | .utf32be => [0, 0, 0, octet]

theorem encodeChar_of_ascii {c : Char} (hc : c.toNat < 0x80) (encoding : Encoding) :
    encoding.encodeChar c = encoding.asciiOctets (UInt8.ofNat c.toNat) := by
  have hunits : Json.units16 c.toNat = [c.toNat] := if_pos (by omega)
  have hhigh : UInt8.ofNat (c.toNat / 256) = 0 := by rw [Nat.div_eq_of_lt (by omega)]; rfl
  have hlow : c.toNat % 256 = c.toNat := Nat.mod_eq_of_lt (by omega)
  have hplane : c.toNat / 65536 = 0 := Nat.div_eq_of_lt (by omega)
  have hpoint : c.toNat % 65536 = c.toNat := Nat.mod_eq_of_lt (by omega)
  cases encoding with
  | utf8 =>
      rw [encodeChar, String.utf8EncodeChar]
      exact if_pos (Nat.le_of_lt_succ hc)
  | utf16le => simp [encodeChar, hunits, octets16, hhigh, hlow, asciiOctets]
  | utf16be => simp [encodeChar, hunits, octets16, hhigh, hlow, asciiOctets]
  | utf32le => simp [encodeChar, octets32, hplane, hpoint, octets16, hhigh, hlow, asciiOctets]
  | utf32be => simp [encodeChar, octets32, hplane, hpoint, octets16, hhigh, hlow, asciiOctets]

end Encoding

/-! ### One step for each character -/

theorem exists_octets16 (bigEndian : Bool) {n : Nat} (h : n < 65536) :
    ∃ a b, octets16 bigEndian n = [a, b] ∧ unit16 bigEndian a b = n := by
  have hhigh : (UInt8.ofNat (n / 256)).toNat = n / 256 := toNat_octet (by omega)
  have hlow : (UInt8.ofNat (n % 256)).toNat = n % 256 := toNat_octet (by omega)
  cases bigEndian with
  | true => exact ⟨_, _, rfl, by rw [unit16, if_pos rfl, hhigh, hlow]; omega⟩
  | false => exact ⟨_, _, rfl, by rw [unit16, if_neg Bool.false_ne_true, hhigh, hlow]; omega⟩

/-- A code point has one unit, or two which are surrogates. -/
theorem units16_cases (c : Char) :
    (Json.units16 c.toNat = [c.toNat] ∧ c.toNat < 0x10000 ∧ ¬(0xd800 ≤ c.toNat ∧ c.toNat < 0xdc00)) ∨
      ∃ high low, Json.units16 c.toNat = [high, low] ∧ (0xd800 ≤ high ∧ high < 0xdc00) ∧
        (0xdc00 ≤ low ∧ low < 0xe000) ∧
        0x10000 + (high - 0xd800) * 0x400 + (low - 0xdc00) = c.toNat := by
  have hc : c.toNat < 0xd800 ∨ 0xdfff < c.toNat ∧ c.toNat < 0x110000 := c.valid
  rw [Json.units16]
  split
  · exact Or.inl ⟨rfl, by omega⟩
  · exact Or.inr ⟨_, _, rfl, by omega⟩

theorem stepUtf16_encodeChar (bigEndian : Bool) (c : Char) : ∃ first more,
    (Json.units16 c.toNat).flatMap (octets16 bigEndian) = first :: more ∧
      ∀ rest, stepUtf16 bigEndian first (more ++ rest) = .point c.toNat (more.length + 1) := by
  obtain ⟨hu, hlow, hs⟩ | ⟨high, low, hu, hhigh, hlow, hc⟩ := units16_cases c
  · obtain ⟨a, b, ho, hn⟩ := exists_octets16 bigEndian hlow
    refine ⟨a, [b], by rw [hu, List.flatMap_singleton, ho], fun rest => ?_⟩
    simp only [List.singleton_append, stepUtf16, hn]
    split
    · rw [if_neg (by simp; omega)]
      rfl
    · rfl
  · obtain ⟨a, b, ho, hn⟩ := exists_octets16 bigEndian (show high < 65536 by omega)
    obtain ⟨a', b', ho', hn'⟩ := exists_octets16 bigEndian (show low < 65536 by omega)
    refine ⟨a, [b, a', b'], by rw [hu]; simp [ho, ho'], fun rest => ?_⟩
    simp only [List.cons_append, List.nil_append, stepUtf16, hn, hn']
    rw [if_pos (by simp; omega), hc]
    rfl

theorem stepUtf32_encodeChar (bigEndian : Bool) (c : Char) : ∃ first more,
    octets32 bigEndian c.toNat = first :: more ∧
      ∀ rest, stepUtf32 bigEndian first (more ++ rest) = .point c.toNat (more.length + 1) := by
  have hc : c.toNat < 0xd800 ∨ 0xdfff < c.toNat ∧ c.toNat < 0x110000 := c.valid
  obtain ⟨a, b, ho, hn⟩ := exists_octets16 bigEndian (show c.toNat / 65536 < 65536 by omega)
  obtain ⟨a', b', ho', hn'⟩ := exists_octets16 bigEndian (show c.toNat % 65536 < 65536 by omega)
  have hpoint : c.toNat / 65536 * 0x10000 + c.toNat % 65536 = c.toNat := Nat.div_add_mod' _ _
  cases bigEndian with
  | true =>
      refine ⟨a, [b, a', b'], by simp [octets32, ho, ho'], fun rest => ?_⟩
      simp only [List.cons_append, List.nil_append, stepUtf32, hn, hn', if_true, hpoint]
      rw [if_pos (by omega)]
      rfl
  | false =>
      refine ⟨a', [b', a, b], by simp [octets32, ho, ho'], fun rest => ?_⟩
      simp only [List.cons_append, List.nil_append, stepUtf32, hn, hn', Bool.false_eq_true, if_false,
        hpoint]
      rw [if_pos (by omega)]
      rfl

/-- Counting encoded surrogates among the code points makes no difference where a character is found. -/
theorem stepUtf8Surrogates_of_point {first : UInt8} {rest : List UInt8} {value size : Nat}
    (h : stepUtf8 first rest = .point value size) :
    stepUtf8Surrogates first rest = .point value size := by
  rw [stepUtf8Surrogates.eq_def]
  split
  · rename_i second third more
    split
    · rename_i hs
      simp only [Bool.and_eq_true, beq_iff_eq, decide_eq_true_eq, UInt8.le_iff_toNat_le] at hs
      obtain ⟨⟨⟨rfl, hsecond⟩, -⟩, -⟩ := hs
      -- a surrogate does not fit its first octet
      have hfits : fitsSecond 0xed second = false := by
        rw [Bool.eq_false_iff, Ne, fitsSecond_iff]
        intro hf
        have hbelow : second.toNat < 160 := hf.2.2.1 rfl
        exact absurd hsecond (Nat.not_le.mpr hbelow)
      simp [stepUtf8, hfits] at h
    · exact h
  · exact h

namespace Encoding

/-- The octets of a character make up one step, whatever follows them. -/
theorem step_encodeChar (encoding : Encoding) (c : Char) : ∃ first more,
    encoding.encodeChar c = first :: more ∧
      ∀ rest, encoding.step first (more ++ rest) = .point c.toNat (more.length + 1) := by
  cases encoding with
  | utf8 =>
      obtain ⟨first, more, he, hs⟩ := stepUtf8_encodeChar c
      exact ⟨first, more, he, fun rest => stepUtf8Surrogates_of_point (hs rest)⟩
  | utf16le => exact stepUtf16_encodeChar false c
  | utf16be => exact stepUtf16_encodeChar true c
  | utf32le => exact stepUtf32_encodeChar false c
  | utf32be => exact stepUtf32_encodeChar true c

/-- Octets that belong to the character before are passed over. -/
theorem decodeWith_skip (encoding : Encoding) (position : Nat) (more rest : List UInt8) :
    decodeWith encoding encoding.step position more.length (more ++ rest) =
      decodeWith encoding encoding.step (position + more.length) 0 rest := by
  induction more generalizing position with
  | nil => rfl
  | cons b more ih =>
      have hnext := ih (position + 1)
      rw [Nat.add_right_comm] at hnext
      exact hnext

/-- Decoding gives back the code points of a text. -/
theorem decodeWith_encode (encoding : Encoding) (position : Nat) (s : String) :
    decodeWith encoding encoding.step position 0 (encoding.encode s) = .ok (s.toList.map Char.toNat) := by
  rw [encode]
  induction s.toList generalizing position with
  | nil => rfl
  | cons c cs ih =>
      obtain ⟨first, more, he, hs⟩ := encoding.step_encodeChar c
      rw [List.flatMap_cons, he, List.cons_append, decodeWith]
      simp only [hs, Nat.add_sub_cancel, decodeWith_skip, ih]
      rfl

/-- A character beyond the basic plane takes two units. -/
example : Encoding.utf16le.encode "😀" = [0x3d, 0xd8, 0x00, 0xde] := by decide

end Encoding

end TaskEndpoints.Text
