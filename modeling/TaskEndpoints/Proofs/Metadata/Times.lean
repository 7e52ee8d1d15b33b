import TaskEndpoints.Proofs.Calendar.Texts
import TaskEndpoints.Proofs.Metadata

/-!
# Published times in standard form

The standard form of a universal time has twenty characters: a year of four digits and five more fields of
two digits each. Times are published with all of their fields, but the year has no more digits than it
needs. The main statement says that the times of containers and the expirations of credentials are in
standard form exactly from the year 1000 on, and that an earlier one lacks zeros at its start and nothing
else.

## Implementation notes

The standard form is stated without the functions that write texts. Years are shown to be complete by
padding, so that the defect of early years is told by the zeros that are missing.
-/

namespace TaskEndpoints

/-- The four decimal places of a number below ten thousand. -/
def fourPlaces (n : Nat) : List Char := twoPlaces (n / 100) ++ twoPlaces (n % 100)

/-- A universal time in the form of RFC 3339: a year of four digits, two digits for the month, the day, the
hour, the minute and the second, each field with its mark, and all of them those of a date and a time of
day that exist. -/
def IsStandardTime (text : String) : Prop :=
  ∃ r : ClockReading, r.Valid ∧ 0 ≤ r.date.year ∧ r.date.year ≤ 9999 ∧
    text.toList = fourPlaces r.date.year.toNat ++
      '-' :: (twoPlaces r.date.month ++ '-' :: (twoPlaces r.date.day ++
      'T' :: (twoPlaces r.hour ++ ':' :: (twoPlaces r.minute ++ ':' :: (twoPlaces r.second ++ ['Z'])))))

theorem IsStandardTime.length_eq {text : String} (h : IsStandardTime text) : text.length = 20 := by
  obtain ⟨r, -, -, -, htext⟩ := h
  rw [← String.length_toList, htext]
  rfl

/-- Zeros complete the digits of a number to four places. -/
theorem padZeros_toDigits {n : Nat} (h : n < 10000) :
    padZeros 4 (Nat.toDigits 10 n) = fourPlaces n := by
  rw [padZeros, fourPlaces]
  by_cases h1000 : 1000 ≤ n
  · rw [toDigits_of_four h1000 (by omega)]
    rfl
  · rw [Nat.toDigits_eq_if (by decide)]
    split
    · have hhigh : n / 100 = 0 := by omega
      have hlow : n % 100 = n := by omega
      have htens : n / 10 = 0 := by omega
      have hones : n % 10 = n := by omega
      rw [hhigh, hlow, twoPlaces, twoPlaces, htens, hones]
      rfl
    · rw [Nat.toDigits_eq_if (by decide)]
      split
      · have hhigh : n / 100 = 0 := by omega
        have hlow : n % 100 = n := by omega
        rw [hhigh, hlow, twoPlaces, twoPlaces]
        rfl
      · have hhundreds : n / 10 / 10 < 10 := by omega
        have hhigh : n / 100 / 10 = 0 := by omega
        have hone : n / 100 % 10 = n / 10 / 10 := by omega
        have htens : n % 100 / 10 = n / 10 % 10 := by omega
        have hones : n % 100 % 10 = n % 10 := by omega
        rw [Nat.toDigits_of_lt_base hhundreds, twoPlaces, twoPlaces, hhigh, hone, htens, hones]
        rfl

/-- How many digits a year has. -/
theorem length_toDigits_lt {n : Nat} (h : n < 1000) : (Nat.toDigits 10 n).length < 4 := by
  rw [Nat.toDigits_eq_if (by decide)]
  split
  · exact (by decide : 1 < 4)
  · rw [Nat.toDigits_eq_if (by decide)]
    split
    · exact (by decide : 2 < 4)
    · rw [Nat.toDigits_of_lt_base (by omega)]
      exact (by decide : 3 < 4)

/-- What is published for a second from the start of the year 1970 shows the date and the time of day of
this second. It has the standard form from the year 1000 on, and an earlier one is completed to it by zeros
at the start. -/
structure PublishedFor (text : String) (seconds : Int) : Prop where
  standard_iff : ∃ r : ClockReading, r.IsShownBy text ∧ r.unixSeconds = seconds ∧
    (IsStandardTime text ↔ 1000 ≤ r.date.year) ∧ (text.length = 20 ↔ 1000 ≤ r.date.year)
  completed : IsStandardTime (String.ofList (padZeros 20 text.toList))

namespace ClockReading

variable {r : ClockReading} {text : String}

/-- The characters after the digits of the year. -/
theorem length_stamp (marks : List Char) (ns : List Nat) (h : marks.length = ns.length) :
    (stamp marks ns).length = 3 * ns.length := by
  induction marks generalizing ns with
  | nil =>
      rw [List.eq_nil_of_length_eq_zero h.symm]
      rfl
  | cons mark marks ih =>
      cases ns with
      | nil => cases h
      | cons n ns =>
          have hrest := ih ns (Nat.succ.inj h)
          rw [stamp, List.length_append, List.length_cons, hrest, List.length_cons]
          show 2 + (3 * ns.length + 1) = 3 * (ns.length + 1)
          omega

theorem IsShownBy.length_eq (h : r.IsShownBy text) :
    text.length = (Nat.toDigits 10 r.date.year.toNat).length + 16 := by
  rw [← String.length_toList, h.text_eq, List.length_append, List.length_cons,
    length_stamp ['-', 'T', ':', ':', 'Z'] r.fields rfl]
  rfl

/-- The zeros that a shown text lacks are those that its year lacks. -/
theorem IsShownBy.completed (h : r.IsShownBy text) :
    IsStandardTime (String.ofList (padZeros 20 text.toList)) := by
  have hyear := h.year
  have hpad := padZeros_toDigits (n := r.date.year.toNat) (by omega)
  refine ⟨r, h.valid, by omega, hyear.2, ?_⟩
  have hmissing : 20 - text.toList.length = 4 - (Nat.toDigits 10 r.date.year.toNat).length := by
    rw [String.length_toList, h.length_eq]
    omega
  rw [String.toList_ofList, padZeros, hmissing, h.text, ← List.append_assoc]
  congr 1

theorem IsShownBy.isStandardTime (h : r.IsShownBy text) (hyear : 1000 ≤ r.date.year) :
    IsStandardTime text := by
  have hhigh := h.year.2
  refine ⟨r, h.valid, by omega, hhigh, ?_⟩
  rw [h.text, toDigits_of_four (by omega) (by omega)]
  rfl

theorem IsShownBy.length_ne (h : r.IsShownBy text) (hyear : r.date.year < 1000) : text.length ≠ 20 := by
  have hdigits := length_toDigits_lt (n := r.date.year.toNat) (by omega)
  have hlength := h.length_eq
  omega

/-- A reading that is shown is published for its second. -/
theorem IsShownBy.publishedFor (h : r.IsShownBy text) : PublishedFor text r.unixSeconds where
  standard_iff := by
    refine ⟨r, h, rfl, ?_, ?_⟩
    · constructor
      · intro hs
        apply Int.not_lt.mp
        intro hyear
        exact h.length_ne hyear hs.length_eq
      · exact h.isStandardTime
    · constructor
      · intro hlength
        apply Int.not_lt.mp
        intro hyear
        exact h.length_ne hyear hlength
      · intro hyear
        exact (h.isStandardTime hyear).length_eq
  completed := h.completed

end ClockReading

variable {seconds : Int} {text : String}

theorem publishedFor_of_unixTimeText (h : unixTimeText seconds = .ok text) :
    PublishedFor text seconds := by
  have hshown := isShownBy_of_unixTimeText h
  have hcount := unixSeconds_of_unixTimeText h hshown
  exact hcount ▸ hshown.publishedFor

/-- The expiration of a moment is what is published for the second that holds its instant. -/
theorem Moment.unixTimeText_of_universalText {m : Moment} (hm : m.Valid)
    (h : m.universalText = .ok text) : unixTimeText (m.instant / 1000000) = .ok text := by
  rw [universalText, universalMicros_div hm] at h
  split at h
  · rename_i hyear
    exact unixTimeText_eq_ok_iff.mpr ⟨hyear, (Except.ok.inj h).symm⟩
  · cases h

theorem Container.times_of_metadata {c : Container} {overrides : Fields} {v : Value}
    (h : c.metadata overrides = .ok v) (hc : Lacks "CreatedAt" overrides)
    (hs : Lacks "StartedAt" overrides) :
    ∃ text, unixTimeText c.created = .ok text ∧ v.field? "CreatedAt" = some (.text text) ∧
      v.field? "StartedAt" = some (.text text) := by
  obtain ⟨text, ht, rfl⟩ := Container.metadata_eq_ok_iff.mp h
  exact ⟨text, ht, Assoc.get?_insertAll_of_not_mem hc _, Assoc.get?_insertAll_of_not_mem hs _⟩

/-- The creation and the start of a container are published as the time of its creation, and an expiration
as the time of the second that holds its instant: in standard form if the year is 1000 or later, and
else without the zeros at the start of the year. -/
theorem published_times_standard_from_year_1000 (c : Container) (overrides : Fields) (m : Moment) :
    (∀ v, c.metadata overrides = .ok v → Lacks "CreatedAt" overrides → Lacks "StartedAt" overrides →
      ∃ text, v.field? "CreatedAt" = some (.text text) ∧ v.field? "StartedAt" = some (.text text) ∧
        PublishedFor text c.created) ∧
    ∀ text, m.Valid → m.universalText = .ok text → PublishedFor text (m.instant / 1000000) := by
  constructor
  · intro v h hc hs
    obtain ⟨text, ht, hcreated, hstarted⟩ := Container.times_of_metadata h hc hs
    exact ⟨text, hcreated, hstarted, publishedFor_of_unixTimeText ht⟩
  · intro text hm h
    exact publishedFor_of_unixTimeText (m.unixTimeText_of_universalText hm h)

/-- A container that was created at a second from the start of the year 1970. -/
def Container.createdAt (seconds : Int) : Container :=
  { Container.inNetwork "a1" "front" "10.0.0.2" "shop" with created := seconds }

/-- The last second of a leap day, the first second of the year 1, which stands for no time of creation, and
an instant of the year 999 on a clock that shows the year 1000 already. -/
theorem published_times_standard_from_year_1000_example :
    let leapDay := Container.createdAt 951868799
    let unset := Container.createdAt (-62135596800)
    let eve : Moment := ⟨⟨1000, 1, 1⟩, 0, 30, 0, 5, some 3600⟩
    (∃ v, leapDay.metadata [] = .ok v ∧ v.field? "CreatedAt" = some (.text "2000-02-29T23:59:59Z") ∧
      PublishedFor "2000-02-29T23:59:59Z" leapDay.created) ∧
    (∃ v, unset.metadata [] = .ok v ∧ v.field? "CreatedAt" = some (.text "1-01-01T00:00:00Z") ∧
      PublishedFor "1-01-01T00:00:00Z" unset.created) ∧
    eve.Valid ∧ eve.universalText = .ok "999-12-31T23:30:00Z" ∧
      PublishedFor "999-12-31T23:30:00Z" (-30610225800) := by
  intro leapDay unset eve
  have hlacks (name : String) : Lacks name [] := List.not_mem_nil
  have hshown {c : Container} {text : String} (h : unixTimeText c.created = .ok text) :
      ∃ v, c.metadata [] = .ok v ∧ v.field? "CreatedAt" = some (.text text) ∧
        PublishedFor text c.created := by
    obtain ⟨v, hv⟩ : ∃ v, c.metadata [] = .ok v := ⟨_, Container.metadata_eq_ok_iff.mpr ⟨text, h, rfl⟩⟩
    obtain ⟨other, hother, hcreated, -⟩ := Container.times_of_metadata hv (hlacks _) (hlacks _)
    obtain rfl := Except.ok.inj (h.symm.trans hother)
    obtain ⟨hpublishes, -⟩ := published_times_standard_from_year_1000 c [] eve
    obtain ⟨other, hsame, -, hpublished⟩ := hpublishes _ hv (hlacks _) (hlacks _)
    obtain rfl := Value.text.inj (Option.some.inj (hcreated.symm.trans hsame))
    exact ⟨_, hv, hcreated, hpublished⟩
  have heve : eve.Valid :=
    ⟨⟨⟨31, by decide⟩, by decide, by decide, by decide⟩, by decide, by decide, by decide⟩
  have htext : eve.universalText = .ok "999-12-31T23:30:00Z" := by decide
  have hsecond : eve.instant / 1000000 = -30610225800 := by decide +kernel
  refine ⟨hshown (by decide), hshown (by decide), heve, htext, ?_⟩
  rw [← hsecond]
  exact (published_times_standard_from_year_1000 leapDay [] eve).2 _ heve htext

/-- The time that stands for no time of creation is published in a form that is not the standard one. -/
theorem first_second_not_standard :
    ∃ v text, (Container.createdAt (-62135596800)).metadata [] = .ok v ∧
      v.field? "CreatedAt" = some (.text text) ∧ v.field? "StartedAt" = some (.text text) ∧
      text = "1-01-01T00:00:00Z" ∧ ¬IsStandardTime text := by
  have hfirst : unixTimeText (Container.createdAt (-62135596800)).created =
      .ok "1-01-01T00:00:00Z" := by
    decide
  have hlacks (name : String) : Lacks name [] := List.not_mem_nil
  obtain ⟨v, hv⟩ : ∃ v, (Container.createdAt (-62135596800)).metadata [] = .ok v :=
    ⟨_, Container.metadata_eq_ok_iff.mpr ⟨_, hfirst, rfl⟩⟩
  obtain ⟨text, ht, hcreated, hstarted⟩ := Container.times_of_metadata hv (hlacks _) (hlacks _)
  obtain rfl := Except.ok.inj (hfirst.symm.trans ht)
  refine ⟨_, _, hv, hcreated, hstarted, rfl, ?_⟩
  intro hs
  have hlength := hs.length_eq
  revert hlength
  decide

end TaskEndpoints
