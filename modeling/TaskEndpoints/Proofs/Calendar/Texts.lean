import Mathlib.Data.List.Basic
import TaskEndpoints.Proofs.Calendar.Counting

/-!
# The texts of published times

A published time shows a date of the calendar and a time of day in universal time, and nothing else
shows the same text. The main statement says that the seconds which the text stands for are the seconds
that were published, so that different seconds have different texts, and that later seconds have
later texts as far as all years have four digits.

## Implementation notes

The form of a text is stated here without the padding by which it is written. Years before 1000 have
fewer than four digits, so that their texts are not in the order of time.
-/

namespace TaskEndpoints

/-- The two decimal places of a number below a hundred. -/
def twoPlaces (n : Nat) : List Char := [Nat.digitChar (n / 10), Nat.digitChar (n % 10)]

/-- Numbers in two places each, every one of them followed by its mark. -/
def stamp : List Char → List Nat → List Char
  | mark :: marks, n :: ns => twoPlaces n ++ mark :: stamp marks ns
  | _, _ => []

section Places

variable {m n : Nat} {ms ns : List Nat} {marks xs ys : List Char}

theorem digitChar_lt (h : m < n) (hn : n < 10) : Nat.digitChar m < Nat.digitChar n := by
  have hval : (Nat.digitChar m).toNat < (Nat.digitChar n).toNat := by
    rw [Nat.toNat_digitChar_of_lt_ten (Nat.lt_trans h hn), Nat.toNat_digitChar_of_lt_ten hn]
    exact Nat.add_lt_add_left h 48
  exact hval

theorem digitChar_inj (hm : m < 10) (hn : n < 10) (h : Nat.digitChar m = Nat.digitChar n) :
    m = n := by
  have hval := congrArg Char.toNat h
  rw [Nat.toNat_digitChar_of_lt_ten hm, Nat.toNat_digitChar_of_lt_ten hn] at hval
  omega

theorem twoPlaces_inj (hm : m < 100) (hn : n < 100) (h : twoPlaces m = twoPlaces n) : m = n := by
  obtain ⟨htens, hrest⟩ := List.cons.inj h
  have htens := digitChar_inj (by omega) (by omega) htens
  have hones := digitChar_inj (by omega) (by omega) (List.cons.inj hrest).1
  omega

/-- Greater numbers come later, whatever follows them. -/
theorem twoPlaces_append_lt (h : m < n) (hn : n < 100) : twoPlaces m ++ xs < twoPlaces n ++ ys := by
  have hcases : m / 10 < n / 10 ∨ m / 10 = n / 10 ∧ m % 10 < n % 10 := by omega
  simp only [twoPlaces, List.cons_append, List.nil_append, List.cons_lt_cons_iff]
  rcases hcases with htens | ⟨htens, hones⟩
  · exact Or.inl (digitChar_lt htens (by omega))
  · exact Or.inr ⟨congrArg Nat.digitChar htens, Or.inl (digitChar_lt hones (by omega))⟩

/-- What is written with padding has two places. -/
theorem twoDigits_eq (h : n < 100) : twoDigits n = twoPlaces n := by
  rw [twoDigits, decimalDigits, Nat.toDigits_eq_if (by decide), twoPlaces]
  split
  · rw [Nat.div_eq_of_lt ‹_›, Nat.mod_eq_of_lt ‹_›]
    rfl
  · rw [Nat.toDigits_of_lt_base (by omega)]
    rfl

theorem toDigits_of_four (hlow : 1000 ≤ n) (hhigh : n ≤ 9999) :
    Nat.toDigits 10 n = twoPlaces (n / 100) ++ twoPlaces (n % 100) := by
  rw [Nat.toDigits_eq_if (by decide), if_neg (by omega), Nat.toDigits_eq_if (by decide),
    if_neg (by omega), Nat.toDigits_eq_if (by decide), if_neg (by omega),
    Nat.toDigits_of_lt_base (by omega)]
  have htens : n % 100 / 10 = n / 10 % 10 := by omega
  have hones : n % 100 % 10 = n % 10 := by omega
  simp only [twoPlaces, Nat.div_div_eq_div_mul, htens, hones, List.cons_append, List.nil_append]

/-- The first mark parts a text in one way. -/
theorem append_cons_inj {mark : Char} {us vs : List Char} (hx : mark ∉ xs) (hy : mark ∉ ys)
    (h : xs ++ mark :: us = ys ++ mark :: vs) : xs = ys ∧ us = vs := by
  induction xs generalizing ys with
  | nil =>
      cases ys with
      | nil => exact ⟨rfl, (List.cons.inj h).2⟩
      | cons y ys => exact absurd ((List.cons.inj h).1 ▸ List.mem_cons_self) hy
  | cons x xs ih =>
      cases ys with
      | nil => exact absurd ((List.cons.inj h).1 ▸ List.mem_cons_self) hx
      | cons y ys =>
          obtain ⟨rfl, htail⟩ := List.cons.inj h
          exact (ih (mt (List.mem_cons_of_mem x) hx) (mt (List.mem_cons_of_mem x) hy) htail).imp_left
            (congrArg (List.cons x))

/-- The numbers are found again. -/
theorem stamp_inj (hlen : ms.length = ns.length) (hle : ns.length ≤ marks.length)
    (hm : ∀ m ∈ ms, m < 100) (hn : ∀ n ∈ ns, n < 100) (h : stamp marks ms = stamp marks ns) :
    ms = ns := by
  induction marks generalizing ms ns with
  | nil =>
      rw [List.eq_nil_of_length_eq_zero (Nat.le_zero.mp hle)] at hlen ⊢
      exact List.eq_nil_of_length_eq_zero hlen
  | cons mark marks ih =>
      match ms, ns, hlen with
      | [], [], _ => rfl
      | m :: ms, n :: ns, hlen =>
          obtain ⟨hhead, htail⟩ := List.append_inj h rfl
          obtain rfl := twoPlaces_inj (hm m List.mem_cons_self) (hn n List.mem_cons_self) hhead
          rw [ih (Nat.succ.inj hlen) (Nat.le_of_succ_le_succ hle)
            (fun m' h' => hm m' (List.mem_cons_of_mem m h'))
            (fun n' h' => hn n' (List.mem_cons_of_mem m h')) (List.cons.inj htail).2]

/-- The texts are in the order of the numbers, of which earlier ones count first. -/
theorem stamp_lt (hlen : ms.length = ns.length) (hle : ns.length ≤ marks.length)
    (hn : ∀ n ∈ ns, n < 100) (h : ms < ns) : stamp marks ms < stamp marks ns := by
  induction marks generalizing ms ns with
  | nil =>
      rw [List.eq_nil_of_length_eq_zero (Nat.le_zero.mp hle)] at h
      exact absurd h (List.not_lt_nil ms)
  | cons mark marks ih =>
      match ms, ns, hlen with
      | [], [], _ => exact absurd h (List.not_lt_nil [])
      | m :: ms, n :: ns, hlen =>
          rcases List.cons_lt_cons_iff.mp h with hlt | ⟨rfl, hlt⟩
          · exact twoPlaces_append_lt hlt (hn n List.mem_cons_self)
          · have htail := ih (Nat.succ.inj hlen) (Nat.le_of_succ_le_succ hle)
              (fun n' h' => hn n' (List.mem_cons_of_mem m h')) hlt
            exact List.append_left_lt (List.cons_lt_cons_iff.mpr (Or.inr ⟨rfl, htail⟩))

end Places

namespace ClockReading

/-- The text of a universal time with a year that exists: the year without padding, and two places for
each of the other fields. -/
structure IsShownBy (text : String) (r : ClockReading) : Prop where
  valid : r.Valid
  year : 1 ≤ r.date.year ∧ r.date.year ≤ 9999
  text : text.toList = Nat.toDigits 10 r.date.year.toNat ++
    '-' :: (twoPlaces r.date.month ++ '-' :: (twoPlaces r.date.day ++
    'T' :: (twoPlaces r.hour ++ ':' :: (twoPlaces r.minute ++ ':' :: (twoPlaces r.second ++ ['Z'])))))

/-- The fields after the year. -/
def fields (r : ClockReading) : List Nat := [r.date.month, r.date.day, r.hour, r.minute, r.second]

variable {r r' : ClockReading} {text text' : String}

theorem lt_hundred_of_mem_fields (h : r.Valid) : ∀ n ∈ r.fields, n < 100 := by
  obtain ⟨length, -, hlength, -, hday⟩ := h.date
  have hmonth : r.date.month - 1 < 12 := by
    have hlt := (List.getElem?_eq_some_iff.mp hlength).1
    rwa [monthLengths] at hlt
  have hbound : ∀ leap, ∀ l ∈ monthLengths leap, l ≤ 31 := by decide
  have hle := hbound _ _ (List.mem_of_getElem? hlength)
  have hhour := h.hour
  have hminute := h.minute
  have hsecond := h.second
  simp only [fields, List.forall_mem_cons, List.not_mem_nil, false_implies, implies_true, and_true]
  omega

/-- The fields after the year as they are shown. -/
theorem IsShownBy.text_eq (h : r.IsShownBy text) : text.toList =
    Nat.toDigits 10 r.date.year.toNat ++ '-' :: stamp ['-', 'T', ':', ':', 'Z'] r.fields :=
  h.text

theorem isShownBy_text (hvalid : r.Valid) (hyear : 1 ≤ r.date.year ∧ r.date.year ≤ 9999) :
    r.IsShownBy r.text where
  valid := hvalid
  year := hyear
  text := by
    have hfields := lt_hundred_of_mem_fields hvalid
    simp only [fields, List.forall_mem_cons] at hfields
    obtain ⟨hmonth, hday, hhour, hminute, hsecond, -⟩ := hfields
    have hdigits : intText r.date.year = String.ofList (Nat.toDigits 10 r.date.year.toNat) := by
      rw [intText, if_neg (by omega), decimalDigits, show r.date.year.natAbs = r.date.year.toNat by omega]
    rw [ClockReading.text, String.toList_ofList, hdigits, String.toList_ofList, twoDigits_eq hmonth,
      twoDigits_eq hday, twoDigits_eq hhour, twoDigits_eq hminute, twoDigits_eq hsecond]
    simp only [List.append_assoc, List.cons_append]

/-- A text shows one reading only. -/
theorem IsShownBy.unique (h : r.IsShownBy text) (h' : r'.IsShownBy text) : r = r' := by
  have hmark (n : Nat) : '-' ∉ Nat.toDigits 10 n := by
    intro hm
    exact absurd (Nat.isDigit_of_mem_toDigits (by decide) (by decide) hm) (by decide)
  obtain ⟨hdigits, hstamp⟩ :=
    append_cons_inj (hmark _) (hmark _) (h.text_eq.symm.trans h'.text_eq)
  have hyear : r.date.year.toNat = r'.date.year.toNat := by
    calc
      r.date.year.toNat = Nat.ofDigitChars 10 (Nat.toDigits 10 r.date.year.toNat) 0 :=
        Nat.ofDigitChars_ten_toDigits.symm
      _ = Nat.ofDigitChars 10 (Nat.toDigits 10 r'.date.year.toNat) 0 := by rw [hdigits]
      _ = r'.date.year.toNat := Nat.ofDigitChars_ten_toDigits
  have hmarks : r'.fields.length ≤ ['-', 'T', ':', ':', 'Z'].length := Nat.le_refl 5
  have hfields : r.fields = r'.fields :=
    stamp_inj rfl hmarks (lt_hundred_of_mem_fields h.valid) (lt_hundred_of_mem_fields h'.valid) hstamp
  have hlow := h.year.1
  have hlow' := h'.year.1
  obtain ⟨⟨year, month, day⟩, hour, minute, second⟩ := r
  obtain ⟨⟨year', month', day'⟩, hour', minute', second'⟩ := r'
  simp only [fields, List.cons.injEq] at hfields
  obtain ⟨rfl, rfl, rfl, rfl, rfl, -⟩ := hfields
  obtain rfl : year = year' := by
    simp only at hyear hlow hlow'
    omega
  rfl

/-- In years of four digits, texts are in the order of the years and then of the other fields. -/
theorem IsShownBy.text_lt (h : r.IsShownBy text) (h' : r'.IsShownBy text')
    (hyear : 1000 ≤ r.date.year)
    (hlt : r.date.year < r'.date.year ∨ r.date.year = r'.date.year ∧ r.fields < r'.fields) :
    text < text' := by
  rw [String.lt_iff, h.text_eq, h'.text_eq]
  have hhigh := h.year.2
  have hhigh' := h'.year.2
  rcases hlt with hlt | ⟨heq, hlt⟩
  · rw [toDigits_of_four (n := r.date.year.toNat) (by omega) (by omega),
      toDigits_of_four (n := r'.date.year.toNat) (by omega) (by omega),
      List.append_assoc, List.append_assoc]
    have hcases : r.date.year.toNat / 100 < r'.date.year.toNat / 100 ∨
        r.date.year.toNat / 100 = r'.date.year.toNat / 100 ∧
          r.date.year.toNat % 100 < r'.date.year.toNat % 100 := by
      omega
    rcases hcases with hlt | ⟨heq, hlt⟩
    · exact twoPlaces_append_lt hlt (by omega)
    · rw [heq]
      exact List.append_left_lt (twoPlaces_append_lt hlt (by omega))
  · rw [heq]
    apply List.append_left_lt
    apply List.cons_lt_cons_iff.mpr
    exact Or.inr ⟨rfl, stamp_lt rfl (Nat.le_refl 5) (lt_hundred_of_mem_fields h'.valid) hlt⟩

/-- Later clocks show later fields. -/
theorem ofSeconds_lt {seconds later : Int} (h : seconds < later) :
    (ofSeconds seconds).date.year < (ofSeconds later).date.year ∨
      (ofSeconds seconds).date.year = (ofSeconds later).date.year ∧
        (ofSeconds seconds).fields < (ofSeconds later).fields := by
  have hdays : seconds / secondsPerDay < later / secondsPerDay ∨
      seconds / secondsPerDay = later / secondsPerDay ∧
        seconds % secondsPerDay < later % secondsPerDay := by
    simp only [secondsPerDay]
    omega
  rcases hdays with hdays | ⟨hdays, htime⟩
  · apply (Date.ofDayNumber_lt hdays).imp_right
    apply And.imp_right
    intro hdate
    simp only [fields, List.cons_lt_cons_iff]
    exact hdate.imp_right (And.imp_right Or.inl)
  · have hdate : (ofSeconds seconds).date = (ofSeconds later).date :=
      congrArg Date.ofDayNumber hdays
    have hpos := Int.emod_nonneg seconds (show secondsPerDay ≠ 0 by decide)
    refine Or.inr ⟨congrArg Date.year hdate, ?_⟩
    rw [fields, fields, hdate]
    simp only [List.cons_lt_cons_iff, Nat.lt_irrefl, true_and, false_or, ofSeconds]
    omega

end ClockReading

open ClockReading

variable {t t' : Int} {text text' : String}

/-- A published time shows the reading of a clock that counts from the start of the year 1. -/
theorem isShownBy_of_unixTimeText (h : unixTimeText t = .ok text) :
    (ofSeconds (epochClock + t)).IsShownBy text := by
  obtain ⟨hyear, rfl⟩ := unixTimeText_eq_ok_iff.mp h
  exact isShownBy_text (valid_ofSeconds _) (yearExists_iff.mp hyear)

theorem unixSeconds_of_unixTimeText (h : unixTimeText t = .ok text) {r : ClockReading}
    (hr : r.IsShownBy text) : r.unixSeconds = t := by
  have hshown := isShownBy_of_unixTimeText h
  rw [hr.unique hshown]
  exact unixSeconds_ofSeconds t hshown.year.1

/-- The published time of a count of seconds exists exactly in the years 1 to 9999. It shows one date and
time of day, and the seconds from the start of the year 1970 to them are the seconds that were given.
So no other seconds have the same text, and from the year 1000 on later seconds have later texts. -/
theorem unixTimeText_exact (t : Int) :
    ((∃ text, unixTimeText t = .ok text) ↔ -62135596800 ≤ t ∧ t ≤ 253402300799) ∧
      ((∃ e, unixTimeText t = .error e) ↔ t < -62135596800 ∨ 253402300799 < t) ∧
      ∀ text, unixTimeText t = .ok text →
        ∃ r : ClockReading, r.IsShownBy text ∧ r.unixSeconds = t ∧
          (∀ other : ClockReading, other.IsShownBy text → other = r) ∧
          ∀ t' text', unixTimeText t' = .ok text' →
            (t ≠ t' → text ≠ text') ∧ (1000 ≤ r.date.year → t < t' → text < text') := by
  refine ⟨unixTimeText_isOk_iff, ?_, ?_⟩
  · have hok := @unixTimeText_isOk_iff t
    cases h : unixTimeText t with
    | error e =>
        have hnot := mt hok.mpr (by simp [h])
        exact iff_of_true ⟨e, rfl⟩ (by omega)
    | ok text =>
        have hrange := hok.mp ⟨text, h⟩
        exact iff_of_false (by simp) (by omega)
  · intro text h
    have hshown := isShownBy_of_unixTimeText h
    refine ⟨_, hshown, unixSeconds_of_unixTimeText h hshown, fun other ho => ho.unique hshown, ?_⟩
    intro t' text' h'
    have hshown' := isShownBy_of_unixTimeText h'
    constructor
    · rintro hne rfl
      apply hne
      calc
        t = (ofSeconds (epochClock + t)).unixSeconds := (unixSeconds_of_unixTimeText h hshown).symm
        _ = t' := unixSeconds_of_unixTimeText h' hshown
    · intro hyear hlt
      exact hshown.text_lt hshown' hyear (ofSeconds_lt (Int.add_lt_add_left hlt epochClock))

/-- The last second of a leap day and the first of the month after it. -/
theorem unixTimeText_exact_example :
    let lastOfLeapDay : ClockReading := ⟨⟨2000, 2, 29⟩, 23, 59, 59⟩
    unixTimeText 951868799 = .ok "2000-02-29T23:59:59Z" ∧
      unixTimeText 951868800 = .ok "2000-03-01T00:00:00Z" ∧
      lastOfLeapDay.unixSeconds = 951868799 ∧ "2000-02-29T23:59:59Z" < "2000-03-01T00:00:00Z" := by
  intro lastOfLeapDay
  have hlast : unixTimeText 951868799 = .ok "2000-02-29T23:59:59Z" := by decide
  have hnext : unixTimeText 951868800 = .ok "2000-03-01T00:00:00Z" := by decide
  have hshown : lastOfLeapDay.IsShownBy "2000-02-29T23:59:59Z" :=
    { valid := ⟨⟨29, by decide⟩, by decide, by decide, by decide⟩
      year := by decide
      text := by decide }
  obtain ⟨r, -, hcount, hunique, hother⟩ :=
    (unixTimeText_exact 951868799).2.2 "2000-02-29T23:59:59Z" hlast
  obtain rfl := hunique lastOfLeapDay hshown
  exact ⟨hlast, hnext, hcount, (hother 951868800 _ hnext).2 (by decide) (by decide)⟩

namespace Moment

/-- What the local clock shows, to the second. -/
def reading (m : Moment) : ClockReading := ⟨m.date, m.hour, m.minute, m.second⟩

/-- A moment shows a date in a year that exists and a time of day, and its clock differs from universal
time by less than a day. -/
structure Valid (m : Moment) : Prop where
  reading : m.reading.Valid
  year : 1 ≤ m.date.year ∧ m.date.year ≤ 9999
  micro : m.micro < 1000000
  offset : ∀ ahead ∈ m.offset, -86400 < ahead ∧ ahead < 86400

/-- The microseconds of universal time from the start of the year 1970; an open zone counts as
universal. -/
def instant (m : Moment) : Int :=
  (m.reading.unixSeconds - m.offset.getD 0) * 1000000 + m.micro

variable {m : Moment}

theorem universalMicros_eq (h : m.Valid) :
    m.universalMicros = epochClock * microsPerSecond + m.instant := by
  obtain ⟨length, -, -, hday, -⟩ := h.reading.date
  have hcount : m.reading.toSeconds = epochClock + m.reading.unixSeconds :=
    toSeconds_eq h.year.1 hday
  rw [universalMicros, localMicros, ← reading, hcount, instant]
  simp only [microsPerSecond]
  omega

/-- The second that holds the instant of a moment. -/
theorem universalMicros_div (h : m.Valid) :
    m.universalMicros / microsPerSecond = epochClock + m.instant / 1000000 := by
  rw [universalMicros_eq h]
  simp only [microsPerSecond]
  omega

/-- A moment is published as the seconds of universal time are that have passed by then, whatever its
offset and its microseconds are, and not at all if its instant is outside the years 1 to 9999. So
moments of one instant are published alike. -/
theorem universalText_agrees (m : Moment) (h : m.Valid) :
    (-62135596800000000 ≤ m.instant ∧ m.instant < 253402300800000000 →
        ∃ text, m.universalText = .ok text ∧ unixTimeText (m.instant / 1000000) = .ok text) ∧
      (m.instant < -62135596800000000 ∨ 253402300800000000 ≤ m.instant →
        ∃ e, m.universalText = .error e) ∧
      ∀ other : Moment, other.Valid → other.instant = m.instant →
        other.universalText = m.universalText := by
  have hyear := @yearExists_ofSeconds_iff (m.instant / 1000000)
  refine ⟨?_, ?_, ?_⟩
  · intro hrange
    have hexists := hyear.mpr (by omega)
    refine ⟨_, ?_, unixTimeText_eq_ok_iff.mpr ⟨hexists, rfl⟩⟩
    rw [universalText, universalMicros_div h]
    exact if_pos hexists
  · intro hrange
    have hnone := mt hyear.mp (by omega)
    refine ⟨.dateOutOfRange, ?_⟩
    rw [universalText, universalMicros_div h]
    exact if_neg hnone
  · intro other ho hsame
    rw [universalText, universalText, universalMicros_div h, universalMicros_div ho, hsame]

/-- One instant on two clocks, for which the leap day is over or is not yet, and an instant before the
year 1. -/
theorem universalText_agrees_example :
    let east : Moment := ⟨⟨2000, 3, 1⟩, 0, 30, 0, 999999, some 3600⟩
    let west : Moment := ⟨⟨2000, 2, 29⟩, 18, 30, 0, 999999, some (-18000)⟩
    let early : Moment := ⟨⟨1, 1, 1⟩, 0, 0, 0, 0, some 1⟩
    (east.Valid ∧ west.Valid ∧ early.Valid) ∧ west.instant = east.instant ∧
      (∃ text, east.universalText = .ok text ∧ unixTimeText 951867000 = .ok text) ∧
      west.universalText = east.universalText ∧ ∃ e, early.universalText = .error e := by
  intro east west early
  have heast : east.Valid :=
    ⟨⟨⟨31, by decide⟩, by decide, by decide, by decide⟩, by decide, by decide, by decide⟩
  have hwest : west.Valid :=
    ⟨⟨⟨29, by decide⟩, by decide, by decide, by decide⟩, by decide, by decide, by decide⟩
  have hearly : early.Valid :=
    ⟨⟨⟨31, by decide⟩, by decide, by decide, by decide⟩, by decide, by decide, by decide⟩
  have hsame : west.instant = east.instant := by decide +kernel
  have hseconds : east.instant / 1000000 = 951867000 := by decide +kernel
  obtain ⟨hagree, -, hother⟩ := universalText_agrees east heast
  rw [hseconds] at hagree
  exact ⟨⟨heast, hwest, hearly⟩, hsame, hagree (by decide +kernel), hother west hwest hsame,
    (universalText_agrees early hearly).2.1 (by decide +kernel)⟩

end Moment

end TaskEndpoints
