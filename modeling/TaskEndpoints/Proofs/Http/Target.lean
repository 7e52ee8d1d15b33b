import Mathlib.Data.List.TakeWhile
import TaskEndpoints.Http.Target
import TaskEndpoints.Proofs.Http.Paths
import TaskEndpoints.Proofs.Text.Utf8

/-!
# Reading escaped paths

A text that is escaped for a path is the same text again when the path is read, whatever stands before
and after it. So every identifier can be asked for.

## Implementation notes

Only the percent sign begins an escape, and its octet belongs to no other character. So octets are read
character by character, and the characters that an escape keeps may be any but the percent sign.
-/

namespace TaskEndpoints.Http

@[simp] theorem percentDecode_nil : percentDecode [] = [] := rfl

theorem percentDecode_percent_cons (a b : UInt8) (rest : List UInt8) :
    percentDecode (0x25 :: a :: b :: rest) = match hexValue? a, hexValue? b with
      | some high, some low => (high * 16 + low) :: percentDecode rest
      | _, _ => 0x25 :: percentDecode (a :: b :: rest) := rfl

theorem percentDecode_cons_of_ne {octet : UInt8} (h : octet ≠ 0x25) (rest : List UInt8) :
    percentDecode (octet :: rest) = octet :: percentDecode rest := by
  rw [percentDecode]
  intro a b more he
  exact absurd he h

/-- A percent sign without two hexadecimal digits stands for itself. -/
theorem percentDecode_percent {a b : UInt8} (h : hexValue? a = none ∨ hexValue? b = none)
    (rest : List UInt8) :
    percentDecode (0x25 :: a :: b :: rest) = 0x25 :: percentDecode (a :: b :: rest) := by
  rw [percentDecode_percent_cons]
  split
  · rename_i ha hb
    rw [ha, hb] at h
    exact (h.elim nofun nofun)
  · rfl

/-- An escape does not go on into an octet that is no hexadecimal digit. -/
theorem percentDecode_append {b : UInt8} (hb : hexValue? b = none) (hp : b ≠ 0x25)
    (xs more : List UInt8) :
    percentDecode (xs ++ b :: more) = percentDecode xs ++ b :: percentDecode more := by
  fun_induction percentDecode xs with
  | case1 a c rest high low hlow hhigh ih =>
      rw [List.cons_append, List.cons_append, List.cons_append, percentDecode_percent_cons, hlow, hhigh]
      exact congrArg _ ih
  | case2 a c rest hnone ih =>
      have hnot : hexValue? a = none ∨ hexValue? c = none := by
        cases ha : hexValue? a with
        | none => exact Or.inl rfl
        | some high =>
            cases hc : hexValue? c with
            | none => exact Or.inr rfl
            | some low => exact (hnone high low ha hc).elim
      rw [List.cons_append, List.cons_append, List.cons_append, percentDecode_percent hnot]
      exact congrArg _ ih
  | case3 octet rest hshort ih =>
      rw [List.cons_append, List.cons_append, ← ih]
      by_cases ho : octet = 0x25
      · -- Less than two octets are left of the part before.
        subst ho
        rcases rest with _ | ⟨a, _ | ⟨c, rest⟩⟩
        · cases more with
          | nil => rfl
          | cons c more => exact percentDecode_percent (Or.inl hb) more
        · exact percentDecode_percent (Or.inr hb) more
        · exact absurd rfl (hshort a c rest rfl)
      · exact percentDecode_cons_of_ne ho _
  | case4 => exact percentDecode_cons_of_ne hp more

/-- Octets without a percent sign stand for themselves. -/
theorem percentDecode_append_of_forall {octets : List UInt8} (h : ∀ b ∈ octets, b ≠ 0x25)
    (rest : List UInt8) : percentDecode (octets ++ rest) = octets ++ percentDecode rest := by
  induction octets with
  | nil => rfl
  | cons b more ih =>
      rw [List.cons_append, percentDecode_cons_of_ne (h b List.mem_cons_self),
        ih fun b' hb' => h b' (List.mem_cons_of_mem b hb'), List.cons_append]

/-- Only the octet of an ASCII character is below the continuation octets. -/
theorem mem_encodeChar {c : Char} {b : UInt8} (hb : b ∈ String.utf8EncodeChar c) :
    b.toNat = c.toNat ∨ 0x80 ≤ b.toNat := by
  have hv : c.val.toNat = c.toNat := rfl
  have hlarge (n : Nat) (h : n < 0x80) : 0x80 ≤ (UInt8.ofNat (n + 0x80)).toNat := by
    rw [Text.toNat_octet (by omega)]
    omega
  rw [String.utf8EncodeChar, hv] at hb
  split at hb
  · rename_i h
    rw [List.mem_singleton.mp hb, Text.toNat_octet (by omega)]
    exact Or.inl rfl
  · right
    split at hb
    · simp only [List.mem_cons, List.not_mem_nil, or_false] at hb
      rcases hb with rfl | rfl
      · exact hlarge (_ % 32 + 64) (by omega)
      · exact hlarge _ (by omega)
    · split at hb
      · simp only [List.mem_cons, List.not_mem_nil, or_false] at hb
        rcases hb with rfl | rfl | rfl
        · exact hlarge (_ % 16 + 96) (by omega)
        · exact hlarge _ (by omega)
        · exact hlarge _ (by omega)
      · simp only [List.mem_cons, List.not_mem_nil, or_false] at hb
        rcases hb with rfl | rfl | rfl | rfl
        · exact hlarge (_ % 8 + 112) (by omega)
        · exact hlarge _ (by omega)
        · exact hlarge _ (by omega)
        · exact hlarge _ (by omega)

/-- The octet of the percent sign belongs to no other character. -/
theorem ne_percent_of_mem_encodeChar {c : Char} (hc : c ≠ '%') {b : UInt8}
    (hb : b ∈ String.utf8EncodeChar c) : b ≠ 0x25 := by
  rintro rfl
  rcases mem_encodeChar hb with h | h
  · exact hc (Char.ext (UInt32.toNat_inj.mp h.symm))
  · revert h
    decide

/-- A hexadecimal digit is read as its value. -/
theorem hexValue?_upperHexDigit : ∀ n < 16, ∃ octet,
    String.utf8EncodeChar (upperHexDigit n) = [octet] ∧ hexValue? octet = some (UInt8.ofNat n) := by
  have h : ∀ n < 16, ∃ octet ∈ String.utf8EncodeChar (upperHexDigit n),
      String.utf8EncodeChar (upperHexDigit n) = [octet] ∧
        hexValue? octet = some (UInt8.ofNat n) := by decide
  intro n hn
  obtain ⟨octet, -, ho⟩ := h n hn
  exact ⟨octet, ho⟩

/-- An escaped octet is read as this octet. -/
theorem percentDecode_escapeOctet (b : UInt8) (rest : List UInt8) :
    percentDecode ((escapeOctet b).flatMap String.utf8EncodeChar ++ rest) =
      b :: percentDecode rest := by
  have hb : b.toNat < 256 := b.toNat_lt
  obtain ⟨high, hh, hhv⟩ := hexValue?_upperHexDigit (b.toNat / 16) (by omega)
  obtain ⟨low, hl, hlv⟩ := hexValue?_upperHexDigit (b.toNat % 16) (by omega)
  have hp : String.utf8EncodeChar '%' = [0x25] := by decide
  have hv : UInt8.ofNat (b.toNat / 16) * 16 + UInt8.ofNat (b.toNat % 16) = b := by
    rw [← UInt8.toNat_inj, UInt8.toNat_add, UInt8.toNat_mul, Text.toNat_octet (by omega),
      Text.toNat_octet (by omega)]
    simp
    omega
  simp only [escapeOctet, List.flatMap_cons, List.flatMap_nil, hp, hh, hl, List.cons_append,
    List.nil_append]
  rw [percentDecode_percent_cons, hhv, hlv]
  exact congrArg (fun octet => octet :: percentDecode rest) hv

theorem percentDecode_escapeOctets (octets rest : List UInt8) :
    percentDecode ((octets.flatMap escapeOctet).flatMap String.utf8EncodeChar ++ rest) =
      octets ++ percentDecode rest := by
  induction octets with
  | nil => rfl
  | cons b more ih =>
      rw [List.flatMap_cons, List.flatMap_append, List.append_assoc, percentDecode_escapeOctet, ih,
        List.cons_append]

theorem encodeUtf8_append (s t : String) :
    Text.encodeUtf8 (s ++ t) = Text.encodeUtf8 s ++ Text.encodeUtf8 t := by
  rw [Text.encodeUtf8, String.toList_append, List.flatMap_append]
  rfl

/-- A text without a percent sign stands for itself. -/
theorem percentDecode_plain {s : String} (hs : '%' ∉ s.toList) (rest : List UInt8) :
    percentDecode (Text.encodeUtf8 s ++ rest) = Text.encodeUtf8 s ++ percentDecode rest := by
  apply percentDecode_append_of_forall
  intro b hb
  obtain ⟨c, hc, hb⟩ := List.mem_flatMap.mp hb
  exact ne_percent_of_mem_encodeChar (fun h => hs (h ▸ hc)) hb

/-- An escaped text is read as this text. -/
theorem percentDecode_percentEncode {kept : List Char} (hk : '%' ∉ kept) (s : String)
    (rest : List UInt8) : percentDecode (Text.encodeUtf8 (percentEncode kept s) ++ rest) =
      Text.encodeUtf8 s ++ percentDecode rest := by
  rw [Text.encodeUtf8, percentEncode, String.toList_ofList, Text.encodeUtf8]
  induction s.toList with
  | nil => rfl
  | cons c cs ih =>
      rw [List.flatMap_cons, List.flatMap_append, List.append_assoc, List.flatMap_cons,
        List.append_assoc, ← ih]
      split
      · rename_i h
        have hc : c ≠ '%' := by
          rintro rfl
          rcases (Bool.or_eq_true _ _).mp h with h | h
          · exact absurd h (by decide)
          · exact hk (List.contains_iff_mem.mp h)
        rw [List.flatMap_singleton]
        exact percentDecode_append_of_forall (fun b hb => ne_percent_of_mem_encodeChar hc hb) _
      · have hs : Text.encodeUtf8 (String.singleton c) = String.utf8EncodeChar c := by
          rw [Text.encodeUtf8, String.toList_singleton, List.flatMap_singleton]
        rw [hs, percentDecode_escapeOctets]

namespace Target

/-- A path with an escaped text in it. -/
theorem decodePath_escaped {kept : List Char} (hk : '%' ∉ kept) {before after : String}
    (hb : '%' ∉ before.toList) (ha : '%' ∉ after.toList) (s : String) :
    decodePath (before ++ percentEncode kept s ++ after) = before ++ s ++ after := by
  have hafter : percentDecode (Text.encodeUtf8 after) = Text.encodeUtf8 after := by
    have h := percentDecode_plain ha []
    rwa [List.append_nil, percentDecode_nil, List.append_nil] at h
  rw [decodePath, encodeUtf8_append, encodeUtf8_append, List.append_assoc, percentDecode_plain hb,
    percentDecode_percentEncode hk, hafter, ← encodeUtf8_append, ← encodeUtf8_append,
    Text.decodeReplacing_encodeUtf8, String.ofList_toList, String.append_assoc]

/-- A path is read piece by piece: neither an escape nor a character goes on over a slash. -/
theorem decodePath_append_slash (before after : String) :
    decodePath (before ++ "/" ++ after) = decodePath before ++ "/" ++ decodePath after := by
  have hslash : Text.encodeUtf8 "/" = [0x2f] := by decide
  have hchar : Char.ofNat (0x2f : UInt8).toNat = '/' := rfl
  rw [decodePath, encodeUtf8_append, encodeUtf8_append, hslash, List.append_assoc,
    List.singleton_append, percentDecode_append (by decide) (by decide),
    Text.decodeReplacing_append (by decide) _ _ (Nat.zero_le _), hchar, decodePath, decodePath]
  apply String.toList_inj.mp
  simp

/-- A text without a percent sign is read as it is. -/
theorem decodePath_plain {raw : String} (h : '%' ∉ raw.toList) : decodePath raw = raw := by
  have hp := percentDecode_plain h []
  rw [List.append_nil, percentDecode_nil, List.append_nil] at hp
  rw [decodePath, hp, Text.decodeReplacing_encodeUtf8, String.ofList_toList]

/-- The pieces of a path are read one by one. -/
theorem decodePath_joinSegments (piece : String) (more : List String) :
    decodePath (String.ofList (joinSegments (piece :: more))) =
      String.ofList (joinSegments ((piece :: more).map decodePath)) := by
  -- The first slash is read apart, so that every piece before the last is followed by one.
  have hjoin : ∃ after : String, joinSegments (piece :: more) = '/' :: after.toList ∧
      joinSegments ((piece :: more).map decodePath) = '/' :: (decodePath after).toList := by
    induction more generalizing piece with
    | nil => exact ⟨piece, joinSegments_singleton piece, joinSegments_singleton (decodePath piece)⟩
    | cons next rest ih =>
        obtain ⟨after, h, hd⟩ := ih next
        refine ⟨piece ++ "/" ++ after, ?_, ?_⟩
        · rw [joinSegments_cons_cons, h]
          simp
        · rw [List.map_cons] at hd
          rw [List.map_cons, List.map_cons, joinSegments_cons_cons, hd, decodePath_append_slash]
          simp
  obtain ⟨after, h, hd⟩ := hjoin
  have hstart (text : String) : String.ofList ('/' :: text.toList) = "" ++ "/" ++ text := by
    apply String.toList_inj.mp
    simp
  have hempty : decodePath "" = "" := decodePath_plain (by simp)
  rw [h, hd, hstart, hstart, decodePath_append_slash, hempty]

/-- A target without a question mark is all path. -/
theorem ofText_path {raw : String} (h : '?' ∉ raw.toList) : (ofText raw).path = decodePath raw := by
  have hr : raw.toList.takeWhile (· != '?') = raw.toList :=
    List.takeWhile_eq_self_iff.mpr fun c hc => bne_iff_ne.mpr fun he => h (he ▸ hc)
  rw [ofText, hr, String.ofList_toList]

end Target

/-- An escaped text holds a question mark only if that is kept. -/
theorem question_not_mem_percentEncode {kept : List Char} (hk : '?' ∉ kept) (s : String) :
    '?' ∉ (percentEncode kept s).toList := by
  rw [percentEncode, String.toList_ofList, List.mem_flatMap]
  rintro ⟨c, -, hc⟩
  split at hc
  · rename_i h
    rw [← List.mem_singleton.mp hc] at h
    rcases (Bool.or_eq_true _ _).mp h with h | h
    · exact absurd h (by decide)
    · exact hk (List.contains_iff_mem.mp h)
  · obtain ⟨b, -, hb⟩ := List.mem_flatMap.mp hc
    have hdigit : ∀ n < 16, upperHexDigit n ≠ '?' := by decide
    have hlt : b.toNat < 256 := b.toNat_lt
    simp only [escapeOctet, List.mem_cons, List.not_mem_nil, or_false] at hb
    rcases hb with hb | hb | hb
    · exact absurd hb (by decide)
    · exact hdigit (b.toNat / 16) (by omega) hb.symm
    · exact hdigit (b.toNat % 16) (by omega) hb.symm

/-- A path that is escaped as a whole is read as this path. -/
theorem Target.path_percentEncode {kept : List Char} (hp : '%' ∉ kept) (hq : '?' ∉ kept) (path : String) :
    (ofText (percentEncode kept path)).path = path := by
  rw [ofText_path (question_not_mem_percentEncode hq path)]
  have hempty : '%' ∉ "".toList := List.not_mem_nil
  have h := decodePath_escaped hp hempty hempty path
  rwa [String.empty_append, String.append_empty, String.empty_append, String.append_empty] at h

end TaskEndpoints.Http
