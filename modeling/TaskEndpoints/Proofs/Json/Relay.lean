import TaskEndpoints.Proofs.Json.Documents
import TaskEndpoints.Proofs.Json.Meaning

/-!
# Values that survive being written

A value that a document without doubles denotes is written as a document that denotes it again, so reading
gives it back. Whatever is written is one line of printable ASCII characters.
-/

namespace TaskEndpoints.Json.Standard

open Text

/-! ### Only printable characters are written -/

variable {cs : List Char}

theorem isPrintable_unitEscape (unit : Nat) : ∀ c ∈ unitEscape unit, IsPrintable c := by
  have hdigit : ∀ n < 16, IsPrintable n.digitChar := by decide
  simp only [unitEscape, hex4, List.map_cons, List.map_nil, List.forall_mem_cons]
  exact ⟨by decide, by decide, hdigit _ (Nat.mod_lt _ (by decide)), hdigit _ (Nat.mod_lt _ (by decide)),
    hdigit _ (Nat.mod_lt _ (by decide)), hdigit _ (Nat.mod_lt _ (by decide)), nofun⟩

theorem isPrintable_escapePoint (point : Nat) : ∀ c ∈ escapePoint point, IsPrintable c := by
  obtain ⟨letter, h, he⟩ | ⟨c, rfl, hvisible, -, -, he⟩ | he := escapePoint_cases point
  · have hletters : ∀ e ∈ escapeLetters, IsPrintable e.2 := by decide
    rw [he]
    exact List.forall_mem_cons.mpr ⟨by decide, List.forall_mem_singleton.mpr (hletters _ h)⟩
  · rw [he]
    exact List.forall_mem_singleton.mpr hvisible
  · rw [he]
    intro c hc
    obtain ⟨unit, -, hunit⟩ := List.mem_flatMap.mp hc
    exact isPrintable_unitEscape unit c hunit

theorem isPrintable_writePoints (points : List Nat) : ∀ c ∈ writePoints points, IsPrintable c := by
  rw [writePoints, List.forall_mem_append, List.forall_mem_cons]
  refine ⟨⟨by decide, fun c hc => ?_⟩, List.forall_mem_singleton.mpr (by decide)⟩
  obtain ⟨point, -, hpoint⟩ := List.mem_flatMap.mp hc
  exact isPrintable_escapePoint point c hpoint

theorem isPrintable_of_scalar {v : Value} (h : writeScalar? v = some cs) : ∀ c ∈ cs, IsPrintable c := by
  have hwords : ∀ c ∈ (words ++ nonFiniteWords).flatten, IsPrintable c :=
    List.all_iff_forall_prop.mp (by decide)
  rcases scalar_cases h with hw | hn | ⟨-, hw⟩
  · exact fun c hc => hwords c (List.mem_flatten_of_mem (List.mem_append_left _ hw) hc)
  · exact fun c hc => (hn.isNumeric c hc).isPrintable
  · exact fun c hc => hwords c (List.mem_flatten_of_mem (List.mem_append_right _ hw) hc)

theorem isPrintable_frame {opening closing : Char} (ho : IsPrintable opening) (hc : IsPrintable closing)
    (h : ∀ c ∈ cs, IsPrintable c) : ∀ c ∈ opening :: (cs ++ [closing]), IsPrintable c :=
  List.forall_mem_cons.mpr ⟨ho, List.forall_mem_append.mpr ⟨h, List.forall_mem_singleton.mpr hc⟩⟩

theorem isPrintable_of_writeKey {v : Value} (h : writeKey v = .ok cs) : ∀ c ∈ cs, IsPrintable c := by
  obtain ⟨points, rfl⟩ | ⟨form, hs, rfl⟩ := writeKey_cases h
  · exact isPrintable_writePoints points
  · exact isPrintable_frame (by decide) (by decide) (isPrintable_of_scalar hs)

/-- Separators are printable, so items between them stay so. -/
theorem isPrintable_joinItems {forms : List (List Char)} (h : ∀ form ∈ forms, ∀ c ∈ form, IsPrintable c) :
    ∀ c ∈ joinItems forms, IsPrintable c := by
  induction forms with
  | nil => exact nofun
  | cons form rest ih =>
      obtain ⟨hform, hrest⟩ := List.forall_mem_cons.mp h
      cases rest with
      | nil => exact hform
      | cons second others =>
          exact List.forall_mem_append.mpr ⟨hform, List.forall_mem_cons.mpr
            ⟨by decide, List.forall_mem_cons.mpr ⟨by decide, ih hrest⟩⟩⟩

/-- The text of every value is made of printable ASCII characters. -/
theorem isPrintable_writeChars {v : Value} (h : writeChars v = .ok cs) : ∀ c ∈ cs, IsPrintable c := by
  induction v using Value.nested generalizing cs with
  | scalar v hlist hmap =>
      obtain ⟨points, rfl⟩ | hs := writeChars_cases hlist hmap h
      · exact isPrintable_writePoints points
      · exact isPrintable_of_scalar hs
  | list items ih =>
      obtain ⟨forms, hforms, rfl⟩ := writeChars_list_eq_ok_iff.mp h
      refine isPrintable_frame (by decide) (by decide) (isPrintable_joinItems fun form hf => ?_)
      obtain ⟨v, hm, hw⟩ := exists_mem_of_mapM_eq_ok hforms hf
      exact ih v hm hw
  | map entries ih =>
      obtain ⟨forms, hforms, rfl⟩ := writeChars_map_eq_ok_iff.mp h
      refine isPrintable_frame (by decide) (by decide) (isPrintable_joinItems fun form hf => ?_)
      obtain ⟨e, hm, hw⟩ := exists_mem_of_mapM_eq_ok hforms hf
      obtain ⟨key, item, hk, hi, rfl⟩ := writeEntry_eq_ok_iff.mp hw
      exact List.forall_mem_append.mpr ⟨isPrintable_of_writeKey hk, List.forall_mem_cons.mpr
        ⟨by decide, List.forall_mem_cons.mpr ⟨by decide, ih e hm hi⟩⟩⟩

/-! ### Values of documents without doubles -/

/-- The value is denoted by a document without doubles: its keys are distinct texts, and its integers have
few enough digits to be read. -/
inductive Relayable : Value → Prop
  | null : Relayable .null
  | bool (b : Bool) : Relayable (.bool b)
  | int {n : Int} (h : (decimalDigits n.natAbs).length ≤ digitLimit) : Relayable (.int n)
  | text (s : String) : Relayable (.text s)
  | list {items : List Value} (h : ∀ v ∈ items, Relayable v) : Relayable (.list items)
  | map {entries : Fields} (hn : (Assoc.keys entries).Nodup) (hk : ∀ e ∈ entries, ∃ s, e.1 = .text s)
      (hv : ∀ e ∈ entries, Relayable e.2) : Relayable (.map entries)

theorem ofDigitChars_lt {ds : List Char} (h : AreDigits ds) (start : Nat) :
    Nat.ofDigitChars 10 ds start < (start + 1) * 10 ^ ds.length := by
  induction ds generalizing start with
  | nil => exact (Nat.lt_succ_self start).trans_eq (Nat.mul_one _).symm
  | cons d ds ih =>
      obtain ⟨hd, hds⟩ := List.forall_mem_cons.mp h
      have hrange : 48 ≤ d.toNat ∧ d.toNat ≤ 57 := Char.isDigit_iff_toNat.mp hd
      calc Nat.ofDigitChars 10 ds (10 * start + (d.toNat - 48))
          < (10 * start + (d.toNat - 48) + 1) * 10 ^ ds.length := ih hds _
        _ ≤ ((start + 1) * 10) * 10 ^ ds.length := Nat.mul_le_mul_right _ (by omega)
        _ = (start + 1) * 10 ^ (d :: ds).length := by rw [List.length_cons, pow_succ']; ring

/-- A number has no more digits than were read for it. -/
theorem IsWhole.length_decimalDigits_le {ds : List Char} (h : IsWhole ds) :
    (decimalDigits (Nat.ofDigitChars 10 ds 0)).length ≤ ds.length := by
  have hdigits : AreDigits ds := by
    cases h with
    | zero => exact areDigits_zeros 1
    | digits hd _ hds => exact hds.cons hd
  have hpos : 0 < ds.length := by
    obtain ⟨d, more, rfl, -⟩ := h.exists_digit
    exact Nat.succ_pos _
  rw [decimalDigits, Nat.length_toDigits_le_iff (by decide) hpos]
  simpa using ofDigitChars_lt hdigits 0

theorem Counts.relayable {n : Int} (h : Counts cs n) : Relayable (.int n) := by
  cases h with
  | unsigned hw hl => exact .int (hw.length_decimalDigits_le.trans hl)
  | negative hw hl =>
      refine .int ?_
      rw [Int.natAbs_neg]
      exact hw.length_decimalDigits_le.trans hl

/-- What is asked of the values that a phrase denotes. -/
def Sense.IsRelayable : Sense → Prop
  | .value v => Relayable v
  | .element v => Relayable v
  | .items vs => ∀ v ∈ vs, Relayable v
  | .member key v => (∃ s, key = .text s) ∧ Relayable v
  | .members ms => ∀ m ∈ ms, (∃ s, m.1 = .text s) ∧ Relayable m.2

theorem Denotes.isRelayable {sense : Sense} (h : Denotes cs sense) : sense.IsRelayable := by
  induction h with
  | word h =>
      simp only [wordValues, List.mem_cons, Prod.mk.injEq, List.not_mem_nil, or_false] at h
      obtain ⟨-, rfl⟩ | ⟨-, rfl⟩ | ⟨-, rfl⟩ := h
      · exact .null
      · exact .bool true
      · exact .bool false
  | int h => exact h.relayable
  | text _ => exact .text _
  | emptyList _ => exact .list (List.forall_mem_nil _)
  | list _ ih => exact .list ih
  | emptyMap _ => exact .map List.nodup_nil (List.forall_mem_nil _) (List.forall_mem_nil _)
  | @map inner members fields _ hf ih =>
      have hmem : ∀ f ∈ fields, f ∈ members := by
        intro f hfield
        obtain ⟨before, after, rfl, -⟩ := hf.last f hfield
        exact List.mem_append_right _ List.mem_cons_self
      exact .map (hf.keys ▸ Assoc.nodup_eraseDups _) (fun f hfield => (ih f (hmem f hfield)).1)
        fun f hfield => (ih f (hmem f hfield)).2
  | element _ _ _ ih => exact ih
  | lastItem _ ih => exact List.forall_mem_singleton.mpr ih
  | nextItem _ _ ih ihr => exact List.forall_mem_cons.mpr ⟨ih, ihr⟩
  | member _ _ _ _ ih => exact ⟨⟨_, rfl⟩, ih⟩
  | lastMember _ ih => exact List.forall_mem_singleton.mpr ih
  | nextMember _ _ ih ihr => exact List.forall_mem_cons.mpr ⟨ih, ihr⟩

/-! ### What is written denotes the value -/

theorem escapes_unitEscape {unit : Nat} (h : unit < 65536) : Escapes (unitEscape unit) unit := by
  have hdigit : ∀ n < 16, (n.digitChar, n) ∈ hexValues := by decide
  have hescape := Escapes.digits (hdigit _ (Nat.mod_lt (unit / 4096) (by decide)))
    (hdigit _ (Nat.mod_lt (unit / 256) (by decide))) (hdigit _ (Nat.mod_lt (unit / 16) (by decide)))
    (hdigit _ (Nat.mod_lt unit (by decide)))
  rwa [show ((unit / 4096 % 16 * 16 + unit / 256 % 16) * 16 + unit / 16 % 16) * 16 + unit % 16 = unit
    by omega] at hescape

theorem spells_escapePoint (c : Char) : Spells (escapePoint c.toNat) c := by
  obtain ⟨letter, h, he⟩ | ⟨d, hd, hvisible, hquote, hbackslash, he⟩ | he := escapePoint_cases c.toNat
  · have hletters : ∀ e ∈ escapeLetters, (e.2, Char.ofNat e.1) ∈ letterValues := by decide
    have hletter := hletters _ h
    rw [Char.ofNat_toNat] at hletter
    rw [he]
    exact .letter hletter
  · obtain rfl := Char.toNat_inj.mp hd
    rw [he]
    exact .plain hvisible.1 hquote hbackslash
  · have hunits : ∀ unit ∈ units16 c.toNat, unit < 65536 := by
      obtain ⟨hu, hlow, -⟩ | ⟨high, low, hu, hhigh, hlow, -⟩ := units16_cases c
      · rw [hu]
        exact List.forall_mem_singleton.mpr hlow
      · rw [hu]
        exact List.forall_mem_cons.mpr ⟨by omega, List.forall_mem_singleton.mpr (by omega)⟩
    rw [he, List.flatMap_def]
    refine .units ?_
    rw [List.forall₂_map_left_iff, List.forall₂_same]
    exact fun unit hu => escapes_unitEscape (hunits unit hu)

theorem quotes_writeText (s : String) : Quotes (writeText s) s := by
  have hparts : List.Forall₂ Spells (s.toList.map fun c => escapePoint c.toNat) s.toList := by
    rw [List.forall₂_map_left_iff, List.forall₂_same]
    exact fun c _ => spells_escapePoint c
  have hform : writeText s = '"' :: ((s.toList.map fun c => escapePoint c.toNat).flatten ++ ['"']) := by
    rw [writeText, writePoints, List.flatMap_map, List.flatMap_def]
    rfl
  exact hform ▸ .parts hparts

theorem counts_intText {n : Int} (h : (decimalDigits n.natAbs).length ≤ digitLimit) :
    Counts (intText n).toList n := by
  have hvalue : Nat.ofDigitChars 10 (decimalDigits n.natAbs) 0 = n.natAbs :=
    Nat.ofDigitChars_toDigits (by decide) (by decide)
  rw [intText]
  split
  · have hcounts := Counts.negative (isWhole_decimalDigits n.natAbs) h
    rw [hvalue, show -(n.natAbs : Int) = n by omega] at hcounts
    rwa [String.toList_ofList]
  · have hcounts := Counts.unsigned (isWhole_decimalDigits n.natAbs) h
    rw [hvalue, show (n.natAbs : Int) = n by omega] at hcounts
    rwa [String.toList_ofList]

theorem Denotes.space_element {v : Value} (h : Denotes cs (.element v)) :
    Denotes (' ' :: cs) (.element v) := by
  cases h with
  | element hb hv ha => exact .element hb.space hv ha

theorem Denotes.space_member {key v : Value} (h : Denotes cs (.member key v)) :
    Denotes (' ' :: cs) (.member key v) := by
  cases h with
  | member hb hn ha hv => exact .member hb.space hn ha hv

theorem Denotes.element_of_value {v : Value} (h : Denotes cs (.value v)) : Denotes cs (.element v) := by
  have hpadded : Denotes ([] ++ cs ++ []) (.element v) := .element isBlank_nil h isBlank_nil
  rwa [List.nil_append, List.append_nil] at hpadded

theorem Denotes.space_items {vs : List Value} (h : Denotes cs (.items vs)) :
    Denotes (' ' :: cs) (.items vs) := by
  cases h with
  | lastItem h => exact .lastItem h.space_element
  | nextItem h hr => exact .nextItem h.space_element hr

theorem Denotes.space_members {ms : Fields} (h : Denotes cs (.members ms)) :
    Denotes (' ' :: cs) (.members ms) := by
  cases h with
  | lastMember h => exact .lastMember h.space_member
  | nextMember h hr => exact .nextMember h.space_member hr

theorem denotes_joinItems {vs : List Value} {forms : List (List Char)} (hne : vs ≠ [])
    (h : List.Forall₂ (fun v form => Denotes form (.value v)) vs forms) :
    Denotes (joinItems forms) (.items vs) := by
  induction h with
  | nil => exact absurd rfl hne
  | cons hform hrest ih =>
      cases hrest with
      | nil => exact .lastItem hform.element_of_value
      | cons _ _ =>
          exact .nextItem hform.element_of_value (Denotes.space_items (ih (List.cons_ne_nil _ _)))

theorem denotes_joinMembers {ms : Fields} {forms : List (List Char)} (hne : ms ≠ [])
    (h : List.Forall₂ (fun m form => Denotes form (.member m.1 m.2)) ms forms) :
    Denotes (joinItems forms) (.members ms) := by
  induction h with
  | nil => exact absurd rfl hne
  | cons hform hrest ih =>
      cases hrest with
      | nil => exact .lastMember hform
      | cons _ _ => exact .nextMember hform (Denotes.space_members (ih (List.cons_ne_nil _ _)))

/-- A name is a member together with the value behind the colon. -/
theorem Quotes.member {name : List Char} {s : String} {v : Value} (hn : Quotes name s)
    (hv : Denotes cs (.element v)) : Denotes (name ++ ':' :: cs) (.member (.text s) v) := by
  have hpadded : Denotes ([] ++ name ++ [] ++ ':' :: cs) (.member (.text s) v) :=
    .member isBlank_nil hn isBlank_nil hv
  rwa [List.nil_append, List.append_nil] at hpadded

/-- A written field is a member. -/
theorem denotes_writeEntry {e : Value × Value} {form : List Char} (hk : ∃ s, e.1 = .text s)
    (hv : ∀ {item}, writeChars e.2 = .ok item → Denotes item (.value e.2))
    (h : writeEntry e = .ok form) : Denotes form (.member e.1 e.2) := by
  obtain ⟨key, item, hkey, hitem, rfl⟩ := writeEntry_eq_ok_iff.mp h
  obtain ⟨s, hs⟩ := hk
  rw [hs] at hkey ⊢
  obtain rfl := Except.ok.inj hkey
  exact (quotes_writeText s).member (hv hitem).element_of_value.space_element

/-- What is written for a relayable value denotes it. -/
theorem denotes_writeChars {v : Value} (hv : Relayable v) (h : writeChars v = .ok cs) :
    Denotes cs (.value v) := by
  induction hv generalizing cs with
  | null => exact .word (Except.ok.inj h ▸ by decide)
  | bool b =>
      cases b with
      | true => exact .word (Except.ok.inj h ▸ by decide)
      | false => exact .word (Except.ok.inj h ▸ by decide)
  | int hn => exact .int (Except.ok.inj h ▸ counts_intText hn)
  | text s => exact .text (Except.ok.inj h ▸ quotes_writeText s)
  | list _ ih =>
      obtain ⟨forms, hforms, rfl⟩ := writeChars_list_eq_ok_iff.mp h
      have hall := forall₂_of_mapM_eq_ok ih hforms
      cases hall with
      | nil => exact .emptyList isBlank_nil
      | cons hform hrest => exact .list (denotes_joinItems (List.cons_ne_nil _ _) (.cons hform hrest))
  | map hn hk _ ih =>
      obtain ⟨forms, hforms, rfl⟩ := writeChars_map_eq_ok_iff.mp h
      have hall := forall₂_of_mapM_eq_ok (fun e hm => denotes_writeEntry (hk e hm) (ih e hm)) hforms
      cases hall with
      | nil => exact .emptyMap isBlank_nil
      | cons hform hrest =>
          exact .map (denotes_joinMembers (List.cons_ne_nil _ _) (.cons hform hrest))
            (Assoc.collects_self hn)

theorem Relayable.writable {v : Value} (h : Relayable v) : Writable v := by
  induction h with
  | null => exact writable_null
  | bool b => exact writable_bool b
  | int _ => exact writable_int _
  | text s => exact writable_text s
  | list _ ih => exact writable_list_iff.mpr ih
  | map _ hk _ ih =>
      refine writable_map_iff.mpr fun e hm => ⟨?_, ih e hm⟩
      obtain ⟨s, hs⟩ := hk e hm
      exact hs ▸ writableKey_text s

/-- The value of a document without doubles is written as one line of printable ASCII characters that is a
document of the same value. -/
theorem exists_line {v : Value} (h : Denotes cs (.element v)) : ∃ line, write v = .ok line ∧
    (∀ c ∈ line.toList, IsPrintable c) ∧ Denotes (line ++ "\n").toList (.element v) := by
  have hv : Relayable v := h.isRelayable
  obtain ⟨form, hform⟩ := writable_iff.mp hv.writable
  refine ⟨String.ofList form, by rw [write, hform]; rfl, ?_, ?_⟩
  · rw [String.toList_ofList]
    exact isPrintable_writeChars hform
  · have hend : IsBlank ['\n'] := List.forall_mem_singleton.mpr (by decide)
    have hline : (String.ofList form ++ "\n").toList = [] ++ form ++ ['\n'] := by
      rw [String.toList_append, String.toList_ofList]
      rfl
    rw [hline]
    exact .element isBlank_nil (denotes_writeChars hv hform) hend

end TaskEndpoints.Json.Standard
