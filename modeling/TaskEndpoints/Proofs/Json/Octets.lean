import TaskEndpoints.Json.Octets
import TaskEndpoints.Proofs.Json.Reading
import TaskEndpoints.Proofs.Json.Standard
import TaskEndpoints.Proofs.Text.Encodings

/-!
# JSON documents in octets

A document is read alike as a text and as octets, whatever the encoding and with or without a byte order
mark. The encoding is told right because a document starts with an ASCII character that no null character
follows.
-/

namespace TaskEndpoints.Json

open Text

/-! ### Telling the encoding -/

theorem detectUnmarked_pair (a b : UInt8) :
    detectUnmarked [a, b] = if a == 0 then .utf16be else if b == 0 then .utf16le else .utf8 := rfl

theorem detectUnmarked_cons (a b c d : UInt8) (rest : List UInt8) :
    detectUnmarked (a :: b :: c :: d :: rest) =
      if a == 0 then (if b == 0 then .utf32be else .utf16be)
      else if b == 0 then (if c == 0 && d == 0 then .utf32le else .utf16le)
      else .utf8 := rfl

theorem detect_of_unmarked {octets : List UInt8} (h : ∀ m ∈ marks, ¬m.1 <+: octets) :
    detect octets = (detectUnmarked octets, 0) := by
  have hnone : marks.find? (·.1.isPrefixOf octets) = none := by
    rw [List.find?_eq_none]
    intro m hm
    rw [List.isPrefixOf_iff_prefix]
    exact h m hm
  rw [detect, hnone]

section Octets

variable {a : UInt8} {rest : List UInt8}

/-- The octets start with a unit of UTF-16 other than that of the null character, if with any. -/
def StartsInUnit (octets : List UInt8) : Prop :=
  octets = [] ∨ ∃ first second rest, octets = first :: second :: rest ∧ ¬(first = 0 ∧ second = 0)

/-- The mark of UTF-32 starts with the mark of UTF-16, but goes on with the unit of a null character. -/
theorem detect_mark_utf16le (hrest : StartsInUnit rest) :
    detect (Encoding.utf16le.mark ++ rest) = (.utf16le, Encoding.utf16le.mark.length) := by
  have hmark : Encoding.utf16le.mark = [0xff, 0xfe] := rfl
  obtain rfl | ⟨c, d, rest, rfl, hcd⟩ := hrest
  · rfl
  · have hlong : ¬(0 = c ∧ 0 = d) := fun h => hcd ⟨h.1.symm, h.2.symm⟩
    simp [detect, marks, hmark, hlong]

theorem detect_utf16be (ha : a ≠ 0) (hrest : StartsInUnit rest) :
    detect (0 :: a :: rest) = (.utf16be, 0) := by
  rw [detect_of_unmarked (by simp [marks, ha.symm])]
  obtain rfl | ⟨c, d, rest, rfl, -⟩ := hrest
  · rfl
  · simp [detectUnmarked_cons, ha]

theorem detect_utf32be : detect (0 :: 0 :: 0 :: a :: rest) = (.utf32be, 0) :=
  detect_of_unmarked (by simp [marks])

variable (ha : 0 < a.toNat ∧ a.toNat < 0x80)

include ha

theorem ne_zero_of_ascii : a ≠ 0 := by
  rintro rfl
  exact absurd ha.1 (by decide)

/-- No byte order mark starts with an ASCII character other than the null character. -/
theorem unmarked_of_ascii : ∀ m ∈ marks, ¬m.1 <+: a :: rest := by
  have h0 : 0 ≠ a := (ne_zero_of_ascii ha).symm
  have hhigh {b : UInt8} (hb : 0x80 ≤ b.toNat) : b ≠ a := by
    rintro rfl
    omega
  have hff : 0xff ≠ a := hhigh (by decide)
  have hfe : 0xfe ≠ a := hhigh (by decide)
  have hef : 0xef ≠ a := hhigh (by decide)
  simp [marks, h0, hff, hfe, hef]

theorem detect_utf8 (hrest : rest.head? ≠ some 0) : detect (a :: rest) = (.utf8, 0) := by
  have h0 : a ≠ 0 := ne_zero_of_ascii ha
  rw [detect_of_unmarked (unmarked_of_ascii ha)]
  match rest with
  | [] => rfl
  | [b] =>
      have hb : b ≠ 0 := by simpa using hrest
      simp [detectUnmarked_pair, h0, hb]
  | [b, c] => rfl
  | b :: c :: d :: more =>
      have hb : b ≠ 0 := by simpa using hrest
      simp [detectUnmarked_cons, h0, hb]

theorem detect_utf16le (hrest : StartsInUnit rest) : detect (a :: 0 :: rest) = (.utf16le, 0) := by
  have h0 : a ≠ 0 := ne_zero_of_ascii ha
  rw [detect_of_unmarked (unmarked_of_ascii ha)]
  obtain rfl | ⟨c, d, rest, rfl, hcd⟩ := hrest
  · simp [detectUnmarked_pair, h0]
  · simp [detectUnmarked_cons, h0, hcd]

theorem detect_utf32le : detect (a :: 0 :: 0 :: 0 :: rest) = (.utf32le, 0) := by
  have h0 : a ≠ 0 := ne_zero_of_ascii ha
  rw [detect_of_unmarked (unmarked_of_ascii ha)]
  simp [detectUnmarked_cons, h0]

end Octets

/-! ### Texts that start plainly -/

/-- The first character is an ASCII character other than the null character, which is not the second. -/
def StartsPlainly (cs : List Char) : Prop :=
  ∃ c rest, cs = c :: rest ∧ (0 < c.toNat ∧ c.toNat < 0x80) ∧ rest.head? ≠ some '\x00'

/-- Zero octets are the null character. -/
theorem stepUtf16_zero (bigEndian : Bool) (rest : List UInt8) :
    stepUtf16 bigEndian 0 (0 :: rest) = .point 0 2 := by
  have hunit : unit16 bigEndian 0 0 = 0 := by
    cases bigEndian with
    | false => rfl
    | true => rfl
  match rest with
  | [] => simp [stepUtf16, hunit]
  | [_] => simp [stepUtf16, hunit]
  | _ :: _ :: _ => simp [stepUtf16, hunit]

/-- A character other than the null character has a first unit other than zero. -/
theorem startsInUnit_flatMap (bigEndian : Bool) {cs : List Char} (h : cs.head? ≠ some '\x00') :
    StartsInUnit (cs.flatMap fun c => (units16 c.toNat).flatMap (octets16 bigEndian)) := by
  cases cs with
  | nil => exact Or.inl rfl
  | cons c rest =>
      obtain ⟨first, units, he, hs⟩ := stepUtf16_encodeChar bigEndian c
      rw [List.flatMap_cons, he]
      cases units with
      | nil => cases hs []
      | cons second units =>
          refine Or.inr ⟨first, second, _, rfl, ?_⟩
          rintro ⟨rfl, rfl⟩
          have hpoint := hs []
          rw [List.cons_append, stepUtf16_zero] at hpoint
          have hc : c = '\x00' := Char.toNat_inj.mp (Step.point.inj hpoint).1.symm
          exact h (congrArg some hc)

/-- No octet of a character other than the null character is zero in front. -/
theorem head?_encode_utf8 {cs : List Char} (h : cs.head? ≠ some '\x00') :
    (cs.flatMap Encoding.utf8.encodeChar).head? ≠ some 0 := by
  cases cs with
  | nil => exact nofun
  | cons c rest =>
      obtain ⟨first, more, he, hs⟩ := stepUtf8_encodeChar c
      have hfirst : Encoding.utf8.encodeChar c = first :: more := he
      rw [List.flatMap_cons, hfirst]
      intro hzero
      obtain rfl : first = 0 := Option.some.inj hzero
      have hc : c = '\x00' := Char.toNat_inj.mp (Step.point.inj (hs [])).1.symm
      exact h (congrArg some hc)

section Plain

variable {s : String} (h : StartsPlainly s.toList) (encoding : Encoding)

include h

theorem detect_encode : detect (encoding.encode s) = (encoding, 0) := by
  obtain ⟨c, rest, hs, hc, hrest⟩ := h
  have hoctet : (UInt8.ofNat c.toNat).toNat = c.toNat := toNat_octet (by omega)
  have ha : 0 < (UInt8.ofNat c.toNat).toNat ∧ (UInt8.ofNat c.toNat).toNat < 0x80 := hoctet.symm ▸ hc
  rw [Encoding.encode, hs, List.flatMap_cons, Encoding.encodeChar_of_ascii hc.2]
  cases encoding with
  | utf8 => exact detect_utf8 ha (head?_encode_utf8 hrest)
  | utf16le => exact detect_utf16le ha (startsInUnit_flatMap false hrest)
  | utf16be => exact detect_utf16be (ne_zero_of_ascii ha) (startsInUnit_flatMap true hrest)
  | utf32le => exact detect_utf32le ha
  | utf32be => exact detect_utf32be

theorem detect_mark_encode :
    detect (encoding.mark ++ encoding.encode s) = (encoding, encoding.mark.length) := by
  obtain ⟨c, rest, hs, hc, -⟩ := h
  cases encoding with
  | utf16le =>
      refine detect_mark_utf16le (startsInUnit_flatMap false ?_)
      rw [hs]
      rintro heq
      exact absurd (congrArg (Option.map Char.toNat) heq) (by simp; omega)
  | _ => rfl

end Plain

/-! ### Reading -/

/-- Every character is spelled as itself. -/
theorem flatMap_spell (cs : List Char) : (cs.map Char.toNat).flatMap spell = cs := by
  induction cs with
  | nil => rfl
  | cons c rest ih =>
      have hc : spell c.toNat = [c] := by
        rw [spell, if_pos (show c.toNat.isValidChar from c.valid), Char.ofNat_toNat]
      rw [List.map_cons, List.flatMap_cons, ih, hc, List.singleton_append]

/-- The forms in which a text may be handed over. -/
inductive Carries (s : String) : Value → Prop
  | text : Carries s (.text s)
  | octets (encoding : Encoding) : Carries s (.octets (encoding.encode s))
  /-- A byte order mark stands in front. -/
  | marked (encoding : Encoding) : Carries s (.octets (encoding.mark ++ encoding.encode s))

section Reading

variable {s : String} {encoding : Encoding}

theorem decodeOctets_of_detect {mark : List UInt8}
    (hd : detect (mark ++ encoding.encode s) = (encoding, mark.length)) :
    decodeOctets (mark ++ encoding.encode s) = .ok s.toList := by
  rw [decodeOctets, hd]
  simp only [List.drop_left, Encoding.decodeWith_encode]
  exact congrArg Except.ok (flatMap_spell s.toList)

theorem StartsPlainly.read_eq (h : StartsPlainly s.toList) :
    read s = (readBare s.toList).mapError (Fault.locate s.toList) := by
  obtain ⟨c, rest, hs, hc, -⟩ := h
  have hmark : s.toList.head? ≠ some '\ufeff' := by
    rw [hs]
    rintro heq
    obtain rfl : c = '\ufeff' := Option.some.inj heq
    exact absurd hc.2 (by decide)
  rw [read, readChars, readDocument, if_neg hmark]

/-- Where the encoding is told right, octets are read like the text. -/
theorem readOctets_of_detect (h : StartsPlainly s.toList) {mark : List UInt8}
    (hd : detect (mark ++ encoding.encode s) = (encoding, mark.length)) :
    readOctets (mark ++ encoding.encode s) = (read s).mapError .read := by
  rw [readOctets, decodeOctets_of_detect hd, h.read_eq]
  show (readBare s.toList).mapError _ = _
  cases readBare s.toList with
  | error fault => rfl
  | ok v => rfl

theorem readOctets_encode (h : StartsPlainly s.toList) :
    readOctets (encoding.encode s) = (read s).mapError .read := by
  have hd : detect (([] : List UInt8) ++ encoding.encode s) = (encoding, ([] : List UInt8).length) :=
    detect_encode h encoding
  have hread := readOctets_of_detect h hd
  rwa [List.nil_append] at hread

theorem readOctets_mark_encode (h : StartsPlainly s.toList) :
    readOctets (encoding.mark ++ encoding.encode s) = (read s).mapError .read :=
  readOctets_of_detect h (detect_mark_encode h encoding)

end Reading

/-! ### Documents start plainly -/

theorem StartsPlainly.of_not_mem {c : Char} {cs : List Char} (hc : c.toNat < 0x80)
    (h : '\x00' ∉ c :: cs) : StartsPlainly (c :: cs) := by
  rw [List.mem_cons, not_or] at h
  have hpos : 0 < c.toNat := Nat.pos_of_ne_zero fun h0 => h.1 (Char.toNat_inj.mp h0.symm)
  exact ⟨c, cs, rfl, ⟨hpos, hc⟩, fun hh => h.2 (List.mem_of_head? hh)⟩

namespace Standard

variable {c : Char} {cs : List Char}

theorem IsTextPart.not_mem (h : IsTextPart cs) : '\x00' ∉ cs := by
  cases h with
  | plain hc _ _ =>
      rintro hm
      obtain rfl := List.mem_singleton.mp hm
      exact absurd hc (by decide)
  | letter hc =>
      have hletters : ∀ c ∈ ['"', '\\', '/', 'b', 'f', 'n', 'r', 't'], '\x00' ≠ c :=
        List.all_iff_forall_prop.mp (by decide)
      simp [hletters _ hc]
  | @unit a b c d h =>
      have hdigit : ∀ x ∈ [a, b, c, d], '\x00' ≠ x := by
        rintro x hx rfl
        exact absurd (h _ hx) (by decide)
      simp only [List.forall_mem_cons] at hdigit
      simp [hdigit]

theorem IsText.not_mem (h : IsText cs) : '\x00' ∉ cs := by
  cases h with
  | @parts parts hparts =>
      simp [List.mem_flatten]
      intro part hpart
      exact (hparts part hpart).not_mem

theorem IsBlank.not_mem (h : IsBlank cs) : '\x00' ∉ cs :=
  fun hm => absurd (h _ hm) (by decide)

/-- No phrase of the grammar has a null character. -/
theorem Derives.not_mem {phrase : Phrase} (h : Derives phrase cs) : '\x00' ∉ cs := by
  induction h with
  | word h =>
      have hwords : '\x00' ∉ words.flatten := by decide
      exact fun hm => hwords (List.mem_flatten_of_mem h hm)
  | number h => exact fun hm => absurd (h.isNumeric _ hm) (by decide)
  | text h => exact h.not_mem
  | emptyList h => simpa using h.not_mem
  | list _ ih => simpa using ih
  | emptyMap h => simpa using h.not_mem
  | map _ ih => simpa using ih
  | element hb _ ha ih => simp [hb.not_mem, ih, ha.not_mem]
  | member hb hn ha _ ih => simp [hb.not_mem, hn.not_mem, ha.not_mem, ih]
  | last _ ih => exact ih
  | next _ _ ih ihr => simp [ih, ihr]

theorem IsNumber.ne_nil (h : IsNumber cs) : cs ≠ [] := by
  have hunsigned {ds : List Char} (h : IsUnsigned ds) : ds ≠ [] := by
    obtain ⟨hw, -, -⟩ := h
    cases hw with
    | zero => simp
    | digits _ _ _ => simp
  cases h with
  | unsigned h => exact hunsigned h
  | negative _ => exact List.cons_ne_nil _ _

/-- A value starts with an ASCII character. -/
theorem Derives.exists_ascii (h : Derives .value cs) : ∃ c rest, cs = c :: rest ∧ c.toNat < 0x80 := by
  cases h with
  | word h =>
      have hwords : ∀ cs ∈ words, cs.head?.any (·.toNat < 0x80) = true := by decide
      have hhead := hwords cs h
      cases cs with
      | nil => cases hhead
      | cons c rest => exact ⟨c, rest, rfl, of_decide_eq_true hhead⟩
  | number h =>
      obtain ⟨c, rest, rfl⟩ := List.exists_cons_of_ne_nil h.ne_nil
      have hc : IsPrintable c := (h.isNumeric c List.mem_cons_self).isPrintable
      exact ⟨c, rest, rfl, by have := hc.2; omega⟩
  | text h =>
      obtain ⟨_⟩ := h
      exact ⟨_, _, rfl, by decide⟩
  | _ => exact ⟨_, _, rfl, by decide⟩

/-- A document starts plainly. -/
theorem IsDocument.startsPlainly (h : IsDocument cs) : StartsPlainly cs := by
  have hnot : '\x00' ∉ cs := Derives.not_mem h
  cases h with
  | @element before v after hb hv _ =>
      cases before with
      | nil =>
          obtain ⟨c, rest, rfl, hc⟩ := hv.exists_ascii
          exact .of_not_mem hc hnot
      | cons b before =>
          have hblank : ∀ c ∈ [' ', '\t', '\n', '\r'], c.toNat < 0x80 :=
            List.all_iff_forall_prop.mp (by decide)
          exact .of_not_mem (hblank b (hb b List.mem_cons_self)) hnot

end Standard

/-! ### Objects start plainly -/

variable {c : Char} {cs : List Char}

/-- White space in front does not hide a null character at the start. -/
theorem head?_ne_of_skipSpace (h : (skipSpace cs).head? ≠ some '\x00') : cs.head? ≠ some '\x00' := by
  intro hc
  obtain ⟨rest, rfl⟩ := List.head?_eq_some_iff.mp hc
  exact h rfl

theorem isSpace_ascii (h : isSpace c = true) : 0 < c.toNat ∧ c.toNat < 0x80 := by
  simp only [isSpace, Bool.or_eq_true, beq_iff_eq] at h
  obtain ((rfl | rfl) | rfl) | rfl := h
  all_goals exact ⟨by decide, by decide⟩

theorem StartsPlainly.of_skipSpace (h : StartsPlainly (skipSpace cs)) : StartsPlainly cs := by
  cases cs with
  | nil => exact h
  | cons first rest =>
      cases hs : isSpace first with
      | false =>
          rwa [skipSpace, List.dropWhile_cons_of_neg (by simp [hs])] at h
      | true =>
          rw [skipSpace, List.dropWhile_cons_of_pos hs] at h
          obtain ⟨c, more, hrest, hc, -⟩ := h
          refine ⟨first, rest, rfl, isSpace_ascii hs, head?_ne_of_skipSpace ?_⟩
          rw [skipSpace, hrest]
          rintro heq
          obtain rfl := Option.some.inj heq
          exact absurd hc.1 (by decide)

/-- The text of an object starts plainly. -/
theorem startsPlainly_of_read {s : String} {fields : Fields} (h : read s = .ok (.map fields)) :
    StartsPlainly s.toList := by
  rw [read, readChars, mapError_eq_ok_iff, readDocument] at h
  split at h
  · cases h
  · obtain ⟨⟨v, after⟩, hv, hend⟩ := bind_eq_ok_iff.mp h
    dsimp only at hend
    split at hend
    · obtain rfl := Except.ok.inj hend
      obtain ⟨rest, c, more, hs, hrest, hc⟩ := exists_of_readValue_map hv
      refine .of_skipSpace ⟨_, rest, hs, ⟨by decide, by decide⟩, head?_ne_of_skipSpace ?_⟩
      rw [hrest]
      rintro heq
      obtain rfl := Option.some.inj heq
      exact absurd hc (by decide)
    · cases hend

end TaskEndpoints.Json
