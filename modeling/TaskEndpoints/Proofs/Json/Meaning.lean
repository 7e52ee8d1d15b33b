import TaskEndpoints.Proofs.Assoc
import TaskEndpoints.Proofs.Json.Numbers
import TaskEndpoints.Proofs.Json.Reading
import TaskEndpoints.Proofs.Text.Encodings

/-!
# What documents denote

The grammar of JSON documents without doubles, together with the value that each phrase denotes: any escape
of a character denotes it, also as a pair of surrogates, and an object takes each name where it came first
with the value that came last. Every such document is read as the value that it denotes.

## Implementation notes

Reading takes fuel. A phrase is read with as much of it as the phrase has characters, whatever follows, as
long as a number ends there.
-/

namespace TaskEndpoints.Json.Standard

open Text

/-! ### Texts -/

/-- The hexadecimal digits with their values. -/
def hexValues : List (Char × Nat) := "0123456789abcdef".toList.zipIdx ++ "ABCDEF".toList.zipIdx 10

/-- The escape of a UTF-16 unit, by four hexadecimal digits. -/
inductive Escapes : List Char → Nat → Prop
  | digits {a b c d : Char} {i j k l : Nat} (ha : (a, i) ∈ hexValues) (hb : (b, j) ∈ hexValues)
      (hc : (c, k) ∈ hexValues) (hd : (d, l) ∈ hexValues) :
      Escapes ['\\', 'u', a, b, c, d] (((i * 16 + j) * 16 + k) * 16 + l)

/-- The characters that have a letter for use behind a backslash. -/
def letterValues : List (Char × Char) :=
  [('"', '"'), ('\\', '\\'), ('/', '/'), ('b', '\x08'), ('f', '\x0c'), ('n', '\n'), ('r', '\r'),
    ('t', '\t')]

/-- What stands for a character of a text: the character itself, a backslash with its letter, or the
escapes of its UTF-16 units. -/
inductive Spells : List Char → Char → Prop
  | plain {c : Char} (hc : 0x20 ≤ c.toNat) (hq : c ≠ '"') (hb : c ≠ '\\') : Spells [c] c
  | letter {letter c : Char} (h : (letter, c) ∈ letterValues) : Spells ['\\', letter] c
  | units {escapes : List (List Char)} {c : Char}
      (h : List.Forall₂ Escapes escapes (units16 c.toNat)) : Spells escapes.flatten c

/-- A text in quotes. -/
inductive Quotes : List Char → String → Prop
  | parts {parts : List (List Char)} {s : String} (h : List.Forall₂ Spells parts s.toList) :
      Quotes ('"' :: (parts.flatten ++ ['"'])) s

variable {start rest : List Char} {done : List Nat}

theorem readPoints_unicode (a b c d e : Char) (rest : List Char) :
    readPoints start done ('\\' :: 'u' :: a :: b :: c :: d :: e :: rest) = match hex4? a b c d with
      | some unit => readPoints start (unit :: done) (e :: rest)
      | none => .error (.syntactic .badUnicodeEscape ('u' :: a :: b :: c :: d :: e :: rest)) := rfl

theorem readPoints_escape {form : List Char} {unit : Nat} (h : Escapes form unit) (hrest : rest ≠ []) :
    readPoints start done (form ++ rest) = readPoints start (unit :: done) rest := by
  have hdigit : ∀ p ∈ hexValues, hexDigit? p.1 = some p.2 := List.all_iff_forall_prop.mp (by decide)
  obtain ⟨e, more, rfl⟩ := List.exists_cons_of_ne_nil hrest
  obtain ⟨ha, hb, hc, hd⟩ := h
  have hunit := hdigit _ ha
  simp only [List.cons_append, List.nil_append]
  rw [readPoints_unicode, hex4?, hdigit _ ha, hdigit _ hb, hdigit _ hc, hdigit _ hd]
  simp
  congr 2
  ring

theorem readPoints_letter {letter c : Char} (h : (letter, c) ∈ letterValues) :
    readPoints start done ('\\' :: letter :: rest) = readPoints start (c.toNat :: done) rest := by
  have hvalues : ∀ p ∈ letterValues, letterEscape? p.1 = some p.2.toNat ∧ p.1 ≠ 'u' :=
    List.all_iff_forall_prop.mp (by decide)
  obtain ⟨hl, hu⟩ : letterEscape? letter = some c.toNat ∧ letter ≠ 'u' := hvalues _ h
  rw [readPoints, hl]
  all_goals intros; contradiction

theorem readPoints_plain {c : Char} (hc : 0x20 ≤ c.toNat) (hq : c ≠ '"') (hb : c ≠ '\\') :
    readPoints start done (c :: rest) = readPoints start (c.toNat :: done) rest := by
  rw [readPoints, if_neg (Nat.not_lt.mpr hc)]
  all_goals intros; contradiction

theorem readPoints_escapes {escapes : List (List Char)} {units : List Nat}
    (h : List.Forall₂ Escapes escapes units) (hrest : rest ≠ []) :
    readPoints start done (escapes.flatten ++ rest) = readPoints start (units.reverse ++ done) rest := by
  induction h generalizing done with
  | nil => rfl
  | cons hform hforms ih =>
      rw [List.flatten_cons, List.append_assoc,
        readPoints_escape hform (List.append_ne_nil_of_right_ne_nil _ hrest), ih, List.reverse_cons,
        List.append_assoc, List.singleton_append]

/-- No character is a surrogate, so it is not joined to what follows. -/
theorem joinSurrogates_char (c : Char) (more : List Nat) :
    joinSurrogates (c.toNat :: more) = c.toNat :: joinSurrogates more := by
  have hc : c.toNat < 0xd800 ∨ 0xdfff < c.toNat ∧ c.toNat < 0x110000 := c.valid
  cases more with
  | nil => rfl
  | cons q rest => rw [joinSurrogates, if_neg (by simp; omega)]

/-- The units of a character are joined to it. -/
theorem joinSurrogates_units (c : Char) (more : List Nat) :
    joinSurrogates (units16 c.toNat ++ more) = c.toNat :: joinSurrogates more := by
  obtain ⟨hu, -, -⟩ | ⟨high, low, hu, hhigh, hlow, hc⟩ := units16_cases c
  · rw [hu, List.singleton_append, joinSurrogates_char]
  · rw [hu, List.cons_append, List.singleton_append, joinSurrogates, if_pos (by simp; omega), hc]

/-- What stands for a character is read as code points that are joined to it. -/
theorem Spells.exists_points {part : List Char} {c : Char} (h : Spells part c) : ∃ points,
    (∀ more, joinSurrogates (points ++ more) = c.toNat :: joinSurrogates more) ∧
      ∀ start done rest, rest ≠ [] →
        readPoints start done (part ++ rest) = readPoints start (points.reverse ++ done) rest := by
  cases h with
  | plain hc hq hb =>
      exact ⟨[c.toNat], joinSurrogates_char c, fun _ _ _ _ => readPoints_plain hc hq hb⟩
  | letter hl => exact ⟨[c.toNat], joinSurrogates_char c, fun _ _ _ _ => readPoints_letter hl⟩
  | units hu =>
      exact ⟨units16 c.toNat, joinSurrogates_units c, fun _ _ _ hrest => readPoints_escapes hu hrest⟩

theorem exists_points {parts : List (List Char)} {cs : List Char} (h : List.Forall₂ Spells parts cs) :
    ∃ points, joinSurrogates points = cs.map Char.toNat ∧ ∀ start done rest,
      readPoints start done (parts.flatten ++ '"' :: rest) =
        .ok (joinSurrogates (done.reverse ++ points), rest) := by
  induction h with
  | nil => exact ⟨[], rfl, fun start done rest => by rw [List.append_nil]; rfl⟩
  | @cons part c parts cs hpart hparts ih =>
      obtain ⟨points, hjoin, hread⟩ := hpart.exists_points
      obtain ⟨points', hjoin', hread'⟩ := ih
      refine ⟨points ++ points', by rw [hjoin, hjoin', List.map_cons], fun start done rest => ?_⟩
      rw [List.flatten_cons, List.append_assoc,
        hread _ _ _ (List.append_ne_nil_of_right_ne_nil _ (List.cons_ne_nil _ _)), hread',
        List.reverse_append, List.reverse_reverse, List.append_assoc]

theorem ofPoints_toNat (s : String) : Value.ofPoints (s.toList.map Char.toNat) = .text s := by
  have hvalid : (s.toList.map Char.toNat).all Nat.isValidChar = true := by
    simp only [List.all_map, List.all_eq_true, Function.comp_apply, decide_eq_true_eq]
    exact fun c _ => c.valid
  have hchars : (s.toList.map Char.toNat).map Char.ofNat = s.toList := by
    simp [Function.comp_def]
  rw [Value.ofPoints, if_pos hvalid, hchars, String.ofList_toList]

/-- A text in quotes is read. -/
theorem Quotes.read {cs : List Char} {s : String} (h : Quotes cs s) : ∃ inner, cs = '"' :: inner ∧
    ∀ start rest, readPoints start [] (inner ++ rest) = .ok (s.toList.map Char.toNat, rest) := by
  obtain ⟨hparts⟩ := h
  rename_i parts
  obtain ⟨points, hjoin, hread⟩ := exists_points hparts
  refine ⟨_, rfl, fun start rest => ?_⟩
  rw [List.append_assoc, List.singleton_append, hread, List.reverse_nil, List.nil_append, hjoin]

/-! ### Integers -/

/-- An integer with few enough digits to be converted. -/
inductive Counts : List Char → Int → Prop
  | unsigned {ds : List Char} (h : IsWhole ds) (hl : ds.length ≤ digitLimit) :
      Counts ds (Nat.ofDigitChars 10 ds 0)
  | negative {ds : List Char} (h : IsWhole ds) (hl : ds.length ≤ digitLimit) :
      Counts ('-' :: ds) (-Nat.ofDigitChars 10 ds 0)

/-- A number ends where these characters follow. -/
def EndsNumber (rest : List Char) : Prop := ∀ c ∈ rest.head?, ¬IsNumeric c

theorem readWhole?_append {ds : List Char} (h : IsWhole ds) (hrest : EndsNumber rest) :
    readWhole? (ds ++ rest) = some (ds, rest) := by
  have hend : rest.takeWhile isAsciiDigit = [] ∧ rest.dropWhile isAsciiDigit = rest := by
    cases rest with
    | nil => exact ⟨rfl, rfl⟩
    | cons c more =>
        have hc : ¬isAsciiDigit c = true := fun hd => hrest c rfl (Or.inl hd)
        exact ⟨List.takeWhile_cons_of_neg hc, List.dropWhile_cons_of_neg hc⟩
  cases h with
  | zero => rfl
  | @digits d ds hd h0 hds =>
      have hd : isAsciiDigit d = true := hd
      have hds : ∀ c ∈ ds, isAsciiDigit c = true := hds
      rw [List.cons_append, readWhole?, if_neg (by simpa using h0), if_pos hd,
        List.takeWhile_append_of_pos hds, List.dropWhile_append_of_pos hds, hend.1, hend.2,
        List.append_nil]

theorem readDecimals_of_endsNumber (hrest : EndsNumber rest) : readDecimals rest = ([], rest) := by
  rw [readDecimals.eq_def]
  split
  · exact absurd (Or.inr (by decide)) (hrest '.' rfl)
  · rfl

theorem readExponent?_of_endsNumber (hrest : EndsNumber rest) : readExponent? rest = none := by
  cases rest with
  | nil => rfl
  | cons c more =>
      rw [readExponent?.eq_def]
      dsimp only
      rw [if_neg]
      intro hc
      refine hrest c rfl (Or.inr ?_)
      simp only [Bool.or_eq_true, beq_iff_eq] at hc
      rcases hc with rfl | rfl <;> decide

theorem IsWhole.exists_digit {ds : List Char} (h : IsWhole ds) :
    ∃ d more, ds = d :: more ∧ d.isDigit = true := by
  cases h with
  | zero => exact ⟨_, _, rfl, by decide⟩
  | digits hd _ _ => exact ⟨_, _, rfl, hd⟩

/-- An integer is read with its sign. -/
theorem Counts.readNumber {cs : List Char} {n : Int} (h : Counts cs n) (hrest : EndsNumber rest) :
    readNumber (cs ++ rest) = .ok (.int n, rest) := by
  have hdecimals := readDecimals_of_endsNumber hrest
  have hexponent := readExponent?_of_endsNumber hrest
  cases h with
  | unsigned hw hl =>
      rw [Json.readNumber]
      · simp only [readWhole?_append hw hrest, hdecimals, hexponent, List.isEmpty_nil, if_true,
          if_neg (Nat.not_lt.mpr hl)]
        rfl
      · -- no digit is a minus sign
        obtain ⟨d, more, rfl, hd⟩ := hw.exists_digit
        rintro tail htail
        obtain rfl := (List.cons.inj htail).1
        cases hd
  | negative hw hl =>
      rw [List.cons_append, Json.readNumber]
      simp only [readWhole?_append hw hrest, hdecimals, hexponent, List.isEmpty_nil, if_true,
        if_neg (Nat.not_lt.mpr hl)]
      rfl

/-! ### Phrases -/

/-- What the phrases of the grammar denote. -/
inductive Sense where
  | value (v : Value)
  /-- A value with white space around it. -/
  | element (v : Value)
  | items (vs : List Value)
  /-- A name with a value. -/
  | member (key v : Value)
  | members (ms : Fields)

/-- The words with their values. -/
def wordValues : List (List Char × Value) :=
  [("null".toList, .null), ("true".toList, .bool true), ("false".toList, .bool false)]

/-- What a phrase without doubles denotes. -/
inductive Denotes : List Char → Sense → Prop
  | word {cs : List Char} {v : Value} (h : (cs, v) ∈ wordValues) : Denotes cs (.value v)
  | int {cs : List Char} {n : Int} (h : Counts cs n) : Denotes cs (.value (.int n))
  | text {cs : List Char} {s : String} (h : Quotes cs s) : Denotes cs (.value (.text s))
  | emptyList {gap : List Char} (h : IsBlank gap) : Denotes ('[' :: (gap ++ [']'])) (.value (.list []))
  | list {inner : List Char} {vs : List Value} (h : Denotes inner (.items vs)) :
      Denotes ('[' :: (inner ++ [']'])) (.value (.list vs))
  | emptyMap {gap : List Char} (h : IsBlank gap) :
      Denotes ('\x7b' :: (gap ++ ['\x7d'])) (.value (.map []))
  | map {inner : List Char} {members fields : Fields} (h : Denotes inner (.members members))
      (hf : Assoc.Collects members fields) : Denotes ('\x7b' :: (inner ++ ['\x7d'])) (.value (.map fields))
  | element {before cs after : List Char} {v : Value} (hb : IsBlank before)
      (hv : Denotes cs (.value v)) (ha : IsBlank after) : Denotes (before ++ cs ++ after) (.element v)
  | lastItem {cs : List Char} {v : Value} (h : Denotes cs (.element v)) : Denotes cs (.items [v])
  | nextItem {cs rest : List Char} {v : Value} {vs : List Value} (h : Denotes cs (.element v))
      (hr : Denotes rest (.items vs)) : Denotes (cs ++ ',' :: rest) (.items (v :: vs))
  | member {before name after cs : List Char} {s : String} {v : Value} (hb : IsBlank before)
      (hn : Quotes name s) (ha : IsBlank after) (hv : Denotes cs (.element v)) :
      Denotes (before ++ name ++ after ++ ':' :: cs) (.member (.text s) v)
  | lastMember {cs : List Char} {key v : Value} (h : Denotes cs (.member key v)) :
      Denotes cs (.members [(key, v)])
  | nextMember {cs rest : List Char} {key v : Value} {ms : Fields} (h : Denotes cs (.member key v))
      (hr : Denotes rest (.members ms)) : Denotes (cs ++ ',' :: rest) (.members ((key, v) :: ms))

/-! ### What a phrase starts with -/

/-- The characters that values start with. -/
def StartsValue (c : Char) : Prop := c.isDigit = true ∨ c ∈ ['n', 't', 'f', '-', '"', '[', '\x7b']

theorem StartsValue.ne {c d : Char} (h : StartsValue c) (hd : ¬StartsValue d) : c ≠ d :=
  fun he => hd (he ▸ h)

instance (c : Char) : Decidable (StartsValue c) := inferInstanceAs (Decidable (_ ∨ _))

theorem StartsValue.isSpace_eq {c : Char} (h : StartsValue c) : isSpace c = false := by
  rw [Bool.eq_false_iff]
  intro hs
  simp only [isSpace, Bool.or_eq_true, beq_iff_eq] at hs
  obtain ((rfl | rfl) | rfl) | rfl := hs
  all_goals exact absurd h (by decide)

theorem Denotes.exists_start {cs : List Char} {v : Value} (h : Denotes cs (.value v)) :
    ∃ c more, cs = c :: more ∧ StartsValue c := by
  cases h with
  | int h =>
      cases h with
      | unsigned hw _ =>
          obtain ⟨d, more, rfl, hd⟩ := hw.exists_digit
          exact ⟨d, more, rfl, Or.inl hd⟩
      | negative _ _ => exact ⟨_, _, rfl, by decide⟩
  | text h =>
      obtain ⟨_⟩ := h
      exact ⟨_, _, rfl, by decide⟩
  | word h =>
      simp only [wordValues, List.mem_cons, Prod.mk.injEq, List.not_mem_nil, or_false] at h
      obtain ⟨rfl, -⟩ | ⟨rfl, -⟩ | ⟨rfl, -⟩ := h
      · exact ⟨'n', _, rfl, by decide⟩
      · exact ⟨'t', _, rfl, by decide⟩
      · exact ⟨'f', _, rfl, by decide⟩
  | _ => exact ⟨_, _, rfl, by decide⟩

theorem skipSpace_blank {gap : List Char} (h : IsBlank gap) (rest : List Char) :
    skipSpace (gap ++ rest) = skipSpace rest := by
  have hspace : ∀ c ∈ [' ', '\t', '\n', '\r'], isSpace c = true :=
    List.all_iff_forall_prop.mp (by decide)
  exact List.dropWhile_append_of_pos fun c hc => hspace c (h c hc)

theorem skipSpace_cons {c : Char} (h : isSpace c = false) (cs : List Char) :
    skipSpace (c :: cs) = c :: cs :=
  List.dropWhile_cons_of_neg (Bool.eq_false_iff.mp h)

variable {cs : List Char}

theorem Denotes.element_start {v : Value} (h : Denotes cs (.element v)) (rest : List Char) :
    ∃ c more, skipSpace (cs ++ rest) = c :: more ∧ StartsValue c := by
  cases h with
  | element hb hv _ =>
      obtain ⟨c, more, rfl, hc⟩ := hv.exists_start
      rw [List.append_assoc, List.append_assoc, skipSpace_blank hb, List.cons_append,
        skipSpace_cons hc.isSpace_eq]
      exact ⟨c, _, rfl, hc⟩

theorem Denotes.items_start {vs : List Value} (h : Denotes cs (.items vs)) (rest : List Char) :
    ∃ c more, skipSpace (cs ++ rest) = c :: more ∧ StartsValue c := by
  cases h with
  | lastItem h => exact h.element_start rest
  | nextItem h _ =>
      rw [List.append_assoc]
      exact h.element_start _

theorem Denotes.member_start {key v : Value} (h : Denotes cs (.member key v)) (rest : List Char) :
    ∃ more, skipSpace (cs ++ rest) = '"' :: more := by
  cases h with
  | member hb hn _ _ =>
      obtain ⟨inner, rfl, -⟩ := hn.read
      rw [List.append_assoc, List.append_assoc, List.append_assoc, skipSpace_blank hb,
        List.cons_append, skipSpace_cons (by decide)]
      exact ⟨_, rfl⟩

theorem Denotes.members_start {ms : Fields} (h : Denotes cs (.members ms)) (rest : List Char) :
    ∃ more, skipSpace (cs ++ rest) = '"' :: more := by
  cases h with
  | lastMember h => exact h.member_start rest
  | nextMember h _ =>
      rw [List.append_assoc]
      exact h.member_start _

/-! ### Phrases are read as what they denote -/

theorem endsNumber_cons {c : Char} (h : c ∈ [',', ':', ']', '\x7d', ' ', '\t', '\n', '\r']) (cs : List Char) :
    EndsNumber (c :: cs) := by
  have hmarks : ∀ c ∈ [',', ':', ']', '\x7d', ' ', '\t', '\n', '\r'], ¬IsNumeric c :=
    List.all_iff_forall_prop.mp (by decide)
  rintro d hd
  obtain rfl := Option.some.inj hd
  exact hmarks c h

theorem IsBlank.endsNumber {gap : List Char} (h : IsBlank gap) (hrest : EndsNumber rest) :
    EndsNumber (gap ++ rest) := by
  cases gap with
  | nil => exact hrest
  | cons b gap =>
      have hb : b ∈ [' ', '\t', '\n', '\r'] := h b List.mem_cons_self
      exact endsNumber_cons (List.mem_append_right [',', ':', ']', '\x7d'] hb) (gap ++ rest)

/-- The words start with letters, or with a minus sign that a letter follows. -/
theorem readWord?_eq_none {c : Char} {cs : List Char}
    (hc : c.isDigit = true ∨ c = '-' ∧ cs.head? ≠ some 'I') : readWord? (c :: cs) = none := by
  rw [readWord?.eq_def]
  split
  case h_7 => rfl
  all_goals
    rename_i heq
    obtain ⟨rfl, rfl⟩ := List.cons.inj heq
    simp at hc

theorem readValue_word {cs : List Char} {v : Value} (h : (cs, v) ∈ wordValues) (fuel : Nat)
    (rest : List Char) : readValue (fuel + 1) (cs ++ rest) = .ok (v, rest) := by
  simp only [wordValues, List.mem_cons, Prod.mk.injEq, List.not_mem_nil, or_false] at h
  obtain ⟨rfl, rfl⟩ | ⟨rfl, rfl⟩ | ⟨rfl, rfl⟩ := h
  · exact readValue_of_word (show StartsScalar 'n' by decide) rfl
  · exact readValue_of_word (show StartsScalar 't' by decide) rfl
  · exact readValue_of_word (show StartsScalar 'f' by decide) rfl

theorem Counts.readValue {n : Int} (h : Counts cs n) (hrest : EndsNumber rest) (fuel : Nat) :
    readValue (fuel + 1) (cs ++ rest) = .ok (.int n, rest) := by
  have hnumber := h.readNumber hrest
  have hdigit {d : Char} (hd : d.isDigit = true) : StartsScalar d ∧ d ≠ 'I' := by
    refine ⟨⟨?_, ?_, ?_⟩, ?_⟩
    all_goals
      rintro rfl
      cases hd
  cases h with
  | unsigned hw _ =>
      obtain ⟨d, more, rfl, hd⟩ := hw.exists_digit
      rw [List.cons_append] at hnumber ⊢
      rw [readValue_of_number (hdigit hd).1 (readWord?_eq_none (Or.inl hd)), hnumber]
  | negative hw _ =>
      obtain ⟨d, more, rfl, hd⟩ := hw.exists_digit
      have hsign : (d :: more ++ rest).head? ≠ some 'I' :=
        fun he => (hdigit hd).2 (Option.some.inj he)
      rw [List.cons_append] at hnumber ⊢
      rw [readValue_of_number (by decide) (readWord?_eq_none (Or.inr ⟨rfl, hsign⟩)), hnumber]

/-- How a phrase is read. -/
def IsRead (cs : List Char) : Sense → Prop
  | .value v => ∀ fuel rest, cs.length ≤ fuel → EndsNumber rest →
      readValue fuel (cs ++ rest) = .ok (v, rest)
  | .element v => ∀ fuel rest, cs.length ≤ fuel → EndsNumber rest → ∃ after,
      readValue fuel (skipSpace (cs ++ rest)) = .ok (v, after) ∧ skipSpace after = skipSpace rest
  | .items vs => ∀ fuel done rest, cs.length < fuel →
      readItems fuel done (skipSpace (cs ++ ']' :: rest)) = .ok (.list (done.reverse ++ vs), rest)
  | .member key v => ∀ fuel done rest, cs.length ≤ fuel → EndsNumber rest →
      readFields (fuel + 1) done (skipSpace (cs ++ rest)) =
        match skipSpace rest with
        | '\x7d' :: rest => .ok (.map (Assoc.insert done key v), rest)
        | ',' :: rest => readFields fuel (Assoc.insert done key v) (skipSpace rest)
        | rest => .error (.syntactic .expectedComma rest)
  | .members ms => ∀ fuel done rest, cs.length < fuel →
      readFields fuel done (skipSpace (cs ++ '\x7d' :: rest)) =
        .ok (.map (Assoc.insertAll done ms), rest)

theorem readItems_of_read {fuel : Nat} {done : List Value} {cs after : List Char} {v : Value}
    (h : readValue fuel cs = .ok (v, after)) (hafter : skipSpace after = skipSpace rest) :
    readItems (fuel + 1) done cs = match skipSpace rest with
      | ']' :: rest => .ok (.list (v :: done).reverse, rest)
      | ',' :: rest => readItems fuel (v :: done) (skipSpace rest)
      | rest => .error (.syntactic .expectedComma rest) := by
  rw [readItems, h, ← hafter]
  rfl

theorem readFields_of_read {fuel : Nat} {done : Fields} {inner afterName beforeValue after : List Char}
    {points : List Nat} {v : Value} (hname : readPoints ('"' :: inner) [] inner = .ok (points, afterName))
    (hcolon : skipSpace afterName = ':' :: beforeValue)
    (hvalue : readValue fuel (skipSpace beforeValue) = .ok (v, after))
    (hafter : skipSpace after = skipSpace rest) :
    readFields (fuel + 1) done ('"' :: inner) = match skipSpace rest with
      | '\x7d' :: rest => .ok (.map (Assoc.insert done (.ofPoints points) v), rest)
      | ',' :: rest => readFields fuel (Assoc.insert done (.ofPoints points) v) (skipSpace rest)
      | rest => .error (.syntactic .expectedComma rest) := by
  rw [readFields, hname, ← hafter]
  simp only [bind, Except.bind, hcolon, hvalue]
  rfl

/-- A value is read with fuel for its first character. -/
theorem isRead_value {c : Char} {v : Value} (h : ∀ fuel rest, cs.length ≤ fuel → EndsNumber rest →
    readValue (fuel + 1) (c :: (cs ++ rest)) = .ok (v, rest)) : IsRead (c :: cs) (.value v) := by
  rintro (_ | fuel) rest hf hrest
  · cases hf
  · exact h fuel rest (Nat.le_of_succ_le_succ hf) hrest

theorem isRead_word {v : Value} (h : (cs, v) ∈ wordValues) : IsRead cs (.value v) := by
  obtain ⟨c, more, rfl, -⟩ := (Denotes.word h).exists_start
  exact isRead_value fun fuel rest _ _ => readValue_word h fuel rest

theorem Counts.isRead {n : Int} (h : Counts cs n) : IsRead cs (.value (.int n)) := by
  obtain ⟨c, more, rfl, -⟩ := (Denotes.int h).exists_start
  exact isRead_value fun fuel rest _ hrest => h.readValue hrest fuel

theorem Quotes.isRead {s : String} (h : Quotes cs s) : IsRead cs (.value (.text s)) := by
  obtain ⟨inner, rfl, hread⟩ := h.read
  refine isRead_value fun fuel rest _ _ => ?_
  rw [readValue_text, hread]
  exact congrArg (fun v => Except.ok (v, rest)) (ofPoints_toNat s)

theorem isRead_emptyList (h : IsBlank cs) : IsRead ('[' :: (cs ++ [']'])) (.value (.list [])) := by
  refine isRead_value fun fuel rest _ _ => readValue_emptyList ?_
  rw [List.append_assoc, skipSpace_blank h]
  rfl

theorem isRead_list {vs : List Value} (h : Denotes cs (.items vs)) (ih : IsRead cs (.items vs)) :
    IsRead ('[' :: (cs ++ [']'])) (.value (.list vs)) := by
  refine isRead_value fun fuel rest hf _ => ?_
  rw [List.length_append, List.length_singleton] at hf
  obtain ⟨c, more, hs, hc⟩ := h.items_start ([']'] ++ rest)
  have hlist : (skipSpace (cs ++ ([']'] ++ rest))).head? ≠ some ']' := by
    rw [hs]
    exact fun he => hc.ne (by decide) (Option.some.inj he)
  rw [List.append_assoc, readValue_list hlist]
  exact ih fuel [] rest hf

theorem isRead_emptyMap (h : IsBlank cs) : IsRead ('\x7b' :: (cs ++ ['\x7d'])) (.value (.map [])) := by
  refine isRead_value fun fuel rest _ _ => readValue_emptyMap ?_
  rw [List.append_assoc, skipSpace_blank h]
  rfl

theorem isRead_map {ms fields : Fields} (h : Denotes cs (.members ms)) (hf : Assoc.Collects ms fields)
    (ih : IsRead cs (.members ms)) : IsRead ('\x7b' :: (cs ++ ['\x7d'])) (.value (.map fields)) := by
  refine isRead_value fun fuel rest hfuel _ => ?_
  rw [List.length_append, List.length_singleton] at hfuel
  obtain ⟨more, hs⟩ := h.members_start (['\x7d'] ++ rest)
  have hmap : (skipSpace (cs ++ (['\x7d'] ++ rest))).head? ≠ some '\x7d' := by
    rw [hs]
    exact fun he => absurd (Option.some.inj he) (by decide)
  rw [List.append_assoc, readValue_map hmap, ← hf.ofPairs_eq]
  exact ih fuel [] rest hfuel

theorem isRead_element {before after : List Char} {v : Value} (hb : IsBlank before)
    (hv : Denotes cs (.value v)) (ha : IsBlank after) (ih : IsRead cs (.value v)) :
    IsRead (before ++ cs ++ after) (.element v) := by
  intro fuel rest hf hrest
  obtain ⟨c, more, rfl, hc⟩ := hv.exists_start
  refine ⟨_, ?_, skipSpace_blank ha rest⟩
  rw [List.append_assoc, List.append_assoc, skipSpace_blank hb, List.cons_append,
    skipSpace_cons hc.isSpace_eq]
  refine ih fuel _ ?_ (ha.endsNumber hrest)
  simp only [List.length_append] at hf
  omega

theorem isRead_lastItem {v : Value} (ih : IsRead cs (.element v)) : IsRead cs (.items [v]) := by
  rintro (_ | fuel) done rest hf
  · cases hf
  · obtain ⟨after, hread, hafter⟩ := ih fuel (']' :: rest) (by omega) (endsNumber_cons (by decide) _)
    rw [readItems_of_read hread hafter, skipSpace_cons (by decide), List.reverse_cons]
    rfl

theorem isRead_nextItem {more : List Char} {v : Value} {vs : List Value} (ih : IsRead cs (.element v))
    (ihr : IsRead more (.items vs)) : IsRead (cs ++ ',' :: more) (.items (v :: vs)) := by
  rintro (_ | fuel) done rest hf
  · cases hf
  · rw [List.length_append, List.length_cons] at hf
    rw [List.append_assoc, List.cons_append]
    obtain ⟨after, hread, hafter⟩ := ih fuel (',' :: (more ++ ']' :: rest)) (by omega)
      (endsNumber_cons (by decide) _)
    rw [readItems_of_read hread hafter, skipSpace_cons (by decide)]
    have hitems := ihr fuel (v :: done) rest (by omega)
    rw [List.reverse_cons, List.append_assoc, List.singleton_append] at hitems
    exact hitems

theorem isRead_member {before name after : List Char} {s : String} {v : Value} (hb : IsBlank before)
    (hn : Quotes name s) (ha : IsBlank after) (ih : IsRead cs (.element v)) :
    IsRead (before ++ name ++ after ++ ':' :: cs) (.member (.text s) v) := by
  intro fuel done rest hf hrest
  obtain ⟨inner, rfl, hread⟩ := hn.read
  simp only [List.length_append, List.length_cons] at hf
  obtain ⟨behind, hvalue, hbehind⟩ := ih fuel rest (by omega) hrest
  have hcolon : skipSpace (after ++ (':' :: cs ++ rest)) = ':' :: (cs ++ rest) := by
    rw [skipSpace_blank ha]
    rfl
  rw [List.append_assoc, List.append_assoc, List.append_assoc, skipSpace_blank hb, List.cons_append,
    skipSpace_cons (by decide), readFields_of_read (hread _ _) hcolon hvalue hbehind, ofPoints_toNat]

theorem isRead_lastMember {key v : Value} (ih : IsRead cs (.member key v)) :
    IsRead cs (.members [(key, v)]) := by
  rintro (_ | fuel) done rest hf
  · cases hf
  · rw [ih fuel done ('\x7d' :: rest) (by omega) (endsNumber_cons (by decide) _),
      skipSpace_cons (by decide)]
    rfl

theorem isRead_nextMember {more : List Char} {key v : Value} {ms : Fields}
    (ih : IsRead cs (.member key v)) (ihr : IsRead more (.members ms)) :
    IsRead (cs ++ ',' :: more) (.members ((key, v) :: ms)) := by
  rintro (_ | fuel) done rest hf
  · cases hf
  · rw [List.length_append, List.length_cons] at hf
    rw [List.append_assoc, List.cons_append, ih fuel done _ (by omega) (endsNumber_cons (by decide) _),
      skipSpace_cons (by decide)]
    exact ihr fuel _ rest (by omega)

/-- Every phrase is read as what it denotes. -/
theorem Denotes.isRead {sense : Sense} (h : Denotes cs sense) : IsRead cs sense := by
  induction h with
  | word h => exact isRead_word h
  | int h => exact h.isRead
  | text h => exact h.isRead
  | emptyList h => exact isRead_emptyList h
  | list h ih => exact isRead_list h ih
  | emptyMap h => exact isRead_emptyMap h
  | map h hf ih => exact isRead_map h hf ih
  | element hb hv ha ih => exact isRead_element hb hv ha ih
  | lastItem _ ih => exact isRead_lastItem ih
  | nextItem _ _ ih ihr => exact isRead_nextItem ih ihr
  | member hb hn ha _ ih => exact isRead_member hb hn ha ih
  | lastMember _ ih => exact isRead_lastMember ih
  | nextMember _ _ ih ihr => exact isRead_nextMember ih ihr

/-- A document is read as the value that it denotes. -/
theorem read_of_denotes {s : String} {v : Value} (h : Denotes s.toList (.element v)) :
    Json.read s = .ok v := by
  have hmark : s.toList.head? ≠ some '\ufeff' := by
    intro hm
    obtain ⟨rest, hs⟩ := List.head?_eq_some_iff.mp hm
    obtain ⟨c, more, hskip, hc⟩ := h.element_start []
    rw [hs, List.append_nil, skipSpace_cons (by decide)] at hskip
    exact hc.ne (by decide) (List.cons.inj hskip).1.symm
  have hlength : s.toList.length ≤ 2 * s.toList.length + 2 := by omega
  obtain ⟨after, hread, hafter⟩ := h.isRead _ [] hlength (fun c hc => by cases hc)
  rw [List.append_nil] at hread
  have hbare : readBare s.toList = .ok v := by
    rw [readBare, hread]
    simp only [bind, Except.bind, hafter]
    rfl
  rw [Json.read, readChars, readDocument, if_neg hmark, hbare]
  rfl

end TaskEndpoints.Json.Standard
