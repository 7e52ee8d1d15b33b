import TaskEndpoints.Json.Writer
import Mathlib.Data.Bool.AllAny

/-!
# The JSON standard

The grammar of JSON documents, over lists of characters, and what a document shows outside of its texts.
The grammar knows numbers with digits only, so none of the words `NaN`, `Infinity` and `-Infinity` stands
outside of the texts of a document.

## Implementation notes

The standard allows white space around every comma, colon, brace and bracket. Here white space belongs to
the values and names between them, which gives the same documents.
-/

namespace TaskEndpoints.Json.Standard

/-- White space. -/
def IsBlank (cs : List Char) : Prop := ∀ c ∈ cs, c ∈ [' ', '\t', '\n', '\r']

/-- Digits, if any. -/
def AreDigits (cs : List Char) : Prop := ∀ c ∈ cs, c.isDigit = true

/-- The digits before the point: a single zero, or digits that do not start with one. -/
inductive IsWhole : List Char → Prop
  | zero : IsWhole ['0']
  | digits {d : Char} {ds : List Char} (hd : d.isDigit = true) (h0 : d ≠ '0') (hds : AreDigits ds) :
      IsWhole (d :: ds)

/-- A point with digits, which may be left out. -/
inductive IsFraction : List Char → Prop
  | none : IsFraction []
  | digits {ds : List Char} (hne : ds ≠ []) (hds : AreDigits ds) : IsFraction ('.' :: ds)

/-- An exponent, which may be left out and may have a sign. -/
inductive IsExponent : List Char → Prop
  | none : IsExponent []
  | digits {e : Char} {sign ds : List Char} (he : e ∈ ['e', 'E']) (hs : sign ∈ [[], ['+'], ['-']])
      (hne : ds ≠ []) (hds : AreDigits ds) : IsExponent (e :: (sign ++ ds))

/-- A number without its sign. -/
inductive IsUnsigned : List Char → Prop
  | parts {whole fraction exponent : List Char} (hw : IsWhole whole) (hf : IsFraction fraction)
      (he : IsExponent exponent) : IsUnsigned (whole ++ fraction ++ exponent)

/-- A number. -/
inductive IsNumber : List Char → Prop
  | unsigned {cs : List Char} (h : IsUnsigned cs) : IsNumber cs
  | negative {cs : List Char} (h : IsUnsigned cs) : IsNumber ('-' :: cs)

/-- A hexadecimal digit. -/
def IsHexDigit (c : Char) : Prop :=
  c.isDigit = true ∨ ('a' ≤ c ∧ c ≤ 'f') ∨ ('A' ≤ c ∧ c ≤ 'F')

instance (c : Char) : Decidable (IsHexDigit c) :=
  inferInstanceAs (Decidable (c.isDigit = true ∨ ('a' ≤ c ∧ c ≤ 'f') ∨ ('A' ≤ c ∧ c ≤ 'F')))

/-- What stands for one character of a text: the character itself, or an escape. -/
inductive IsTextPart : List Char → Prop
  | plain {c : Char} (hc : 0x20 ≤ c.toNat) (hq : c ≠ '"') (hb : c ≠ '\\') : IsTextPart [c]
  | letter {c : Char} (hc : c ∈ ['"', '\\', '/', 'b', 'f', 'n', 'r', 't']) : IsTextPart ['\\', c]
  | unit {a b c d : Char} (h : ∀ x ∈ [a, b, c, d], IsHexDigit x) : IsTextPart ['\\', 'u', a, b, c, d]

/-- A text in quotes. -/
inductive IsText : List Char → Prop
  | parts {parts : List (List Char)} (h : ∀ part ∈ parts, IsTextPart part) :
      IsText ('"' :: (parts.flatten ++ ['"']))

/-- The phrases of the grammar that contain each other. -/
inductive Phrase where
  | value
  /-- A value with white space around it. -/
  | element
  /-- A name with a value. -/
  | member
  /-- One or more phrases with commas between them. -/
  | several (p : Phrase)

/-- The words that are values. -/
def words : List (List Char) := ["null".toList, "true".toList, "false".toList]

/-- The grammar. -/
inductive Derives : Phrase → List Char → Prop
  | word {cs : List Char} (h : cs ∈ words) : Derives .value cs
  | number {cs : List Char} (h : IsNumber cs) : Derives .value cs
  | text {cs : List Char} (h : IsText cs) : Derives .value cs
  | emptyList {gap : List Char} (h : IsBlank gap) : Derives .value ('[' :: (gap ++ [']']))
  | list {inner : List Char} (h : Derives (.several .element) inner) :
      Derives .value ('[' :: (inner ++ [']']))
  | emptyMap {gap : List Char} (h : IsBlank gap) : Derives .value ('\x7b' :: (gap ++ ['\x7d']))
  | map {inner : List Char} (h : Derives (.several .member) inner) :
      Derives .value ('\x7b' :: (inner ++ ['\x7d']))
  | element {before v after : List Char} (hb : IsBlank before) (hv : Derives .value v)
      (ha : IsBlank after) : Derives .element (before ++ v ++ after)
  | member {before name after v : List Char} (hb : IsBlank before) (hn : IsText name)
      (ha : IsBlank after) (hv : Derives .element v) : Derives .member (before ++ name ++ after ++ ':' :: v)
  | last {p : Phrase} {cs : List Char} (h : Derives p cs) : Derives (.several p) cs
  | next {p : Phrase} {cs rest : List Char} (h : Derives p cs) (hr : Derives (.several p) rest) :
      Derives (.several p) (cs ++ ',' :: rest)

/-- A document is one value with white space around it. -/
def IsDocument (cs : List Char) : Prop := Derives .element cs

/-! ### Outside of texts -/

/-- Where a reader of a document stands. -/
inductive Place where
  | outside
  | inText
  /-- Behind a backslash in a text. -/
  | inEscape
deriving DecidableEq

/-- Where the reader stands behind one more character. -/
def Place.step : Place → Char → Place
  | .outside, c => if c = '"' then .inText else .outside
  | .inText, c => if c = '"' then .outside else if c = '\\' then .inEscape else .inText
  | .inEscape, _ => .inText

/-- Where the reader stands behind some characters. -/
def Place.after (p : Place) (cs : List Char) : Place := cs.foldl Place.step p

/-- The characters that are read while the reader stands outside of texts. -/
def bare : Place → List Char → List Char
  | _, [] => []
  | p, c :: cs => if p = .outside then c :: bare (p.step c) cs else bare (p.step c) cs

/-- Read from outside, the characters end outside. -/
def IsBalanced (cs : List Char) : Prop := Place.outside.after cs = .outside

/-- The characters that begin the words for doubles without digits. -/
def IsStray (c : Char) : Prop := c = 'N' ∨ c = 'I'

/-- The character hides nothing and begins no such word. -/
def IsPlain (c : Char) : Prop := c ≠ '"' ∧ ¬IsStray c

instance (c : Char) : Decidable (IsStray c) := inferInstanceAs (Decidable (c = 'N' ∨ c = 'I'))

instance (c : Char) : Decidable (IsPlain c) := inferInstanceAs (Decidable (c ≠ '"' ∧ ¬IsStray c))

variable {p : Place} {c : Char} {cs xs ys : List Char}

@[simp] theorem after_nil : p.after [] = p := rfl

@[simp] theorem after_cons : p.after (c :: cs) = (p.step c).after cs := rfl

@[simp] theorem after_append : p.after (xs ++ ys) = (p.after xs).after ys := List.foldl_append

@[simp] theorem bare_nil : bare p [] = [] := rfl

@[simp] theorem bare_outside_cons : bare .outside (c :: cs) = c :: bare (Place.outside.step c) cs := rfl

@[simp] theorem bare_inText_cons : bare .inText (c :: cs) = bare (Place.inText.step c) cs := rfl

@[simp] theorem bare_inEscape_cons : bare .inEscape (c :: cs) = bare .inText cs := rfl

theorem bare_append : bare p (xs ++ ys) = bare p xs ++ bare (p.after xs) ys := by
  induction xs generalizing p with
  | nil => rfl
  | cons c rest ih =>
      rw [List.cons_append, bare, bare, ih, after_cons]
      split
      · rfl
      · rfl

theorem isBalanced_nil : IsBalanced [] := rfl

theorem IsBalanced.append (hx : IsBalanced xs) (hy : IsBalanced ys) : IsBalanced (xs ++ ys) := by
  rw [IsBalanced, after_append, hx, hy]

theorem IsBalanced.cons (hc : c ≠ '"') (h : IsBalanced cs) : IsBalanced (c :: cs) := by
  rw [IsBalanced, after_cons, Place.step, if_neg hc, h]

theorem IsBalanced.bare_append (hx : IsBalanced xs) :
    bare .outside (xs ++ ys) = bare .outside xs ++ bare .outside ys := by
  rw [Standard.bare_append, hx]

theorem bare_cons_of_ne (hc : c ≠ '"') : bare .outside (c :: cs) = c :: bare .outside cs := by
  rw [bare_outside_cons, Place.step, if_neg hc]

/-- Brackets and braces keep what stands between them balanced. -/
theorem IsBalanced.frame {opening closing : Char} (ho : opening ≠ '"') (hc : closing ≠ '"')
    (h : IsBalanced cs) : IsBalanced (opening :: (cs ++ [closing])) :=
  (h.append (isBalanced_nil.cons hc)).cons ho

/-- What stands between brackets or braces is shown like what stands alone. -/
theorem IsBalanced.bare_subset_frame {opening closing : Char} (ho : opening ≠ '"') (h : IsBalanced cs) :
    bare .outside cs ⊆ bare .outside (opening :: (cs ++ [closing])) := by
  rw [bare_cons_of_ne ho, h.bare_append]
  exact fun c hc => List.mem_cons_of_mem _ (List.mem_append_left _ hc)

/-- Without quotes nothing is hidden. -/
theorem balanced_of_unquoted (h : ∀ c ∈ cs, c ≠ '"') : IsBalanced cs ∧ bare .outside cs = cs := by
  induction cs with
  | nil => exact ⟨rfl, rfl⟩
  | cons c rest ih =>
      obtain ⟨hc, hrest⟩ := List.forall_mem_cons.mp h
      obtain ⟨hb, he⟩ := ih hrest
      exact ⟨hb.cons hc, by rw [bare_cons_of_ne hc, he]⟩

theorem IsTextPart.hidden (h : IsTextPart cs) :
    Place.inText.after cs = .inText ∧ bare .inText cs = [] := by
  cases h with
  | plain _ hq hb => simp [Place.step, hq, hb]
  | letter _ => simp [Place.step]
  | unit hx =>
      -- no hexadecimal digit ends the text or begins an escape
      have hdigit {x : Char} (hx : IsHexDigit x) : Place.inText.step x = .inText := by
        have hq : x ≠ '"' := fun h => absurd (h ▸ hx) (by decide)
        have hb : x ≠ '\\' := fun h => absurd (h ▸ hx) (by decide)
        rw [Place.step, if_neg hq, if_neg hb]
      simp only [List.forall_mem_cons] at hx
      obtain ⟨ha, hb, hc, hd, -⟩ := hx
      have hstart : Place.inText.step '\\' = .inEscape := rfl
      have hu : Place.inEscape.step 'u' = .inText := rfl
      simp [hstart, hu, hdigit ha, hdigit hb, hdigit hc, hdigit hd]

theorem hidden_flatten {parts : List (List Char)} (h : ∀ part ∈ parts, IsTextPart part) :
    Place.inText.after parts.flatten = .inText ∧ bare .inText parts.flatten = [] := by
  induction parts with
  | nil => exact ⟨rfl, rfl⟩
  | cons part rest ih =>
      obtain ⟨hpart, hrest⟩ := List.forall_mem_cons.mp h
      obtain ⟨hafter, hbare⟩ := hpart.hidden
      obtain ⟨hafter', hbare'⟩ := ih hrest
      simp only [List.flatten_cons, after_append, bare_append, hafter, hbare, hafter', hbare',
        List.append_nil, and_self]

/-- Of a text only the quote at its start is read outside of texts. -/
theorem IsText.shown (h : IsText cs) : IsBalanced cs ∧ bare .outside cs = ['"'] := by
  cases h with
  | parts hparts =>
      obtain ⟨hafter, hbare⟩ := hidden_flatten hparts
      have hstart : Place.outside.step '"' = .inText := rfl
      have hend : Place.inText.step '"' = .outside := rfl
      constructor
      · simp [IsBalanced, hstart, hafter, hend]
      · simp [bare_append, hstart, hafter, hbare]

/-- The characters of numbers. -/
def IsNumeric (c : Char) : Prop := c.isDigit = true ∨ c ∈ ['-', '+', '.', 'e', 'E']

/-- The printable ASCII characters. -/
def IsPrintable (c : Char) : Prop := 0x20 ≤ c.toNat ∧ c.toNat ≤ 0x7e

instance (c : Char) : Decidable (IsNumeric c) :=
  inferInstanceAs (Decidable (c.isDigit = true ∨ c ∈ ['-', '+', '.', 'e', 'E']))

instance (c : Char) : Decidable (IsPrintable c) :=
  inferInstanceAs (Decidable (0x20 ≤ c.toNat ∧ c.toNat ≤ 0x7e))

theorem IsNumeric.isPrintable (h : IsNumeric c) : IsPrintable c := by
  have hmarks : ∀ c ∈ ['-', '+', '.', 'e', 'E'], IsPrintable c :=
    List.all_iff_forall_prop.mp (by decide)
  rcases h with hd | hm
  · have hrange : 48 ≤ c.toNat ∧ c.toNat ≤ 57 := Char.isDigit_iff_toNat.mp hd
    exact ⟨by omega, by omega⟩
  · exact hmarks c hm

theorem AreDigits.isNumeric (h : AreDigits cs) : ∀ c ∈ cs, IsNumeric c := fun c hc => Or.inl (h c hc)

theorem IsUnsigned.isNumeric (h : IsUnsigned cs) : ∀ c ∈ cs, IsNumeric c := by
  have hmark {c : Char} (hc : c ∈ ['-', '+', '.', 'e', 'E']) : IsNumeric c := Or.inr hc
  obtain ⟨hwhole, hfraction, hexponent⟩ := h
  rw [List.forall_mem_append, List.forall_mem_append]
  refine ⟨⟨?whole, ?fraction⟩, ?exponent⟩
  case whole =>
    cases hwhole with
    | zero => exact List.forall_mem_singleton.mpr (Or.inl rfl)
    | digits hd _ hds => exact List.forall_mem_cons.mpr ⟨Or.inl hd, hds.isNumeric⟩
  case fraction =>
    cases hfraction with
    | none => exact fun c hc => by cases hc
    | digits _ hds => exact List.forall_mem_cons.mpr ⟨hmark (by decide), hds.isNumeric⟩
  case exponent =>
    cases hexponent with
    | none => exact fun c hc => by cases hc
    | digits he hs _ hds =>
        have hletter : ∀ e ∈ ['e', 'E'], e ∈ ['-', '+', '.', 'e', 'E'] :=
          List.all_iff_forall_prop.mp (by decide)
        have hsign : ∀ c ∈ [[], ['+'], ['-']].flatten, c ∈ ['-', '+', '.', 'e', 'E'] :=
          List.all_iff_forall_prop.mp (by decide)
        exact List.forall_mem_cons.mpr ⟨hmark (hletter _ he), List.forall_mem_append.mpr
          ⟨fun c hc => hmark (hsign c (List.mem_flatten_of_mem hs hc)), hds.isNumeric⟩⟩

theorem IsNumber.isNumeric (h : IsNumber cs) : ∀ c ∈ cs, IsNumeric c := by
  cases h with
  | unsigned h => exact h.isNumeric
  | negative h => exact List.forall_mem_cons.mpr ⟨Or.inr (by decide), h.isNumeric⟩

/-- Read from outside, the characters end outside, and no word for doubles without digits begins. -/
structure IsClean (cs : List Char) : Prop where
  balanced : IsBalanced cs
  shown : ∀ c ∈ bare .outside cs, ¬IsStray c

theorem IsClean.append (hx : IsClean xs) (hy : IsClean ys) : IsClean (xs ++ ys) where
  balanced := hx.balanced.append hy.balanced
  shown := by
    rw [hx.balanced.bare_append]
    exact List.forall_mem_append.mpr ⟨hx.shown, hy.shown⟩

theorem IsClean.cons (h : IsClean cs) (hc : IsPlain c) : IsClean (c :: cs) where
  balanced := h.balanced.cons hc.1
  shown := by
    rw [bare_cons_of_ne hc.1]
    exact List.forall_mem_cons.mpr ⟨hc.2, h.shown⟩

theorem isClean_nil : IsClean [] := ⟨isBalanced_nil, fun _ hc => (List.not_mem_nil hc).elim⟩

theorem IsClean.frame {opening closing : Char} (h : IsClean cs) (ho : IsPlain opening)
    (hc : IsPlain closing) : IsClean (opening :: (cs ++ [closing])) :=
  (h.append (isClean_nil.cons hc)).cons ho

theorem isClean_of_plain (h : ∀ c ∈ cs, IsPlain c) : IsClean cs := by
  obtain ⟨hb, he⟩ := balanced_of_unquoted fun c hc => (h c hc).1
  exact ⟨hb, he.symm ▸ fun c hc => (h c hc).2⟩

theorem IsBlank.isClean (h : IsBlank cs) : IsClean cs := by
  have hplain : ∀ c ∈ [' ', '\t', '\n', '\r'], IsPlain c :=
    List.all_iff_forall_prop.mp (by decide)
  exact isClean_of_plain fun c hc => hplain c (h c hc)

theorem IsNumeric.plain (h : IsNumeric c) : IsPlain c := by
  have hmarks : ∀ c ∈ ['-', '+', '.', 'e', 'E'], IsPlain c :=
    List.all_iff_forall_prop.mp (by decide)
  rcases h with hd | hm
  · constructor
    · rintro rfl
      cases hd
    · rintro (rfl | rfl) <;> cases hd
  · exact hmarks c hm

theorem IsNumber.isClean (h : IsNumber cs) : IsClean cs :=
  isClean_of_plain fun c hc => (h.isNumeric c hc).plain

theorem IsText.isClean (h : IsText cs) : IsClean cs := by
  obtain ⟨hb, he⟩ := h.shown
  exact ⟨hb, he.symm ▸ List.forall_mem_singleton.mpr (by decide)⟩

/-- No phrase of the grammar shows the beginning of a word for doubles without digits. -/
theorem Derives.isClean {phrase : Phrase} (h : Derives phrase cs) : IsClean cs := by
  induction h with
  | word h =>
      have hwords : ∀ c ∈ words.flatten, IsPlain c :=
        List.all_iff_forall_prop.mp (by decide)
      exact isClean_of_plain fun c hc => hwords c (List.mem_flatten_of_mem h hc)
  | number h => exact h.isClean
  | text h => exact h.isClean
  | emptyList h => exact h.isClean.frame (by decide) (by decide)
  | list _ ih => exact ih.frame (by decide) (by decide)
  | emptyMap h => exact h.isClean.frame (by decide) (by decide)
  | map _ ih => exact ih.frame (by decide) (by decide)
  | element hb _ ha ih => exact (hb.isClean.append ih).append ha.isClean
  | member hb hn ha _ ih =>
      exact ((hb.isClean.append hn.isClean).append ha.isClean).append (ih.cons (by decide))
  | last _ ih => exact ih
  | next _ _ ih ihr => exact ih.append (ihr.cons (by decide))

end TaskEndpoints.Json.Standard
