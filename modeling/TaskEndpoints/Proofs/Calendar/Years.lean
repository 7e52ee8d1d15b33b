import TaskEndpoints.Calendar.Moment

/-!
# Years of days and of published times

The year of a day number is the one that begins on this day or before it and does not end before it. So
times can be published exactly in the years 1 to 9999.
-/

namespace TaskEndpoints

/-- A day lies in its year. -/
theorem yearOfDay_spec (day : Int) :
    daysBeforeYear (yearOfDay day) ≤ day ∧ day < daysBeforeYear (yearOfDay day + 1) := by
  have hlow : daysBeforeYear (day * 400 / 146097 + 1 - 1) ≤ day := by
    simp only [daysBeforeYear]
    omega
  have hhigh : day < daysBeforeYear (day * 400 / 146097 + 1 + 1 + 1) := by
    simp only [daysBeforeYear]
    omega
  simp only [yearOfDay]
  split
  · exact ⟨‹_›, hhigh⟩
  · split
    · exact ⟨hlow, by rwa [Int.sub_add_cancel]⟩
    · exact ⟨Int.not_lt.mp ‹_›, Int.not_le.mp ‹_›⟩

/-- Years begin in order. -/
theorem daysBeforeYear_le {a b : Int} (h : a ≤ b) : daysBeforeYear a ≤ daysBeforeYear b := by
  simp only [daysBeforeYear]
  omega

theorem le_yearOfDay_iff (year day : Int) : year ≤ yearOfDay day ↔ daysBeforeYear year ≤ day := by
  obtain ⟨hlow, hhigh⟩ := yearOfDay_spec day
  constructor
  · intro h
    exact Int.le_trans (daysBeforeYear_le h) hlow
  · intro h
    apply Int.not_lt.mp
    intro hlt
    have hle := daysBeforeYear_le (Int.add_one_le_of_lt hlt)
    omega

theorem yearExists_iff {year : Int} : yearExists year = true ↔ 1 ≤ year ∧ year ≤ 9999 := by
  rw [yearExists, Bool.and_eq_true, decide_eq_true_iff, decide_eq_true_iff]

/-- The days whose year exists. -/
theorem yearExists_yearOfDay_iff {day : Int} :
    yearExists (yearOfDay day) = true ↔ 0 ≤ day ∧ day < 3652059 := by
  have hfirst : daysBeforeYear 1 = 0 := by decide
  have hend : daysBeforeYear 10000 = 3652059 := by decide
  have hlow := le_yearOfDay_iff 1 day
  have hhigh := le_yearOfDay_iff 10000 day
  rw [yearExists_iff]
  omega

/-- The seconds from the Unix epoch in years that exist. -/
theorem yearExists_ofSeconds_iff {seconds : Int} :
    yearExists (ClockReading.ofSeconds (epochClock + seconds)).date.year = true ↔
      -62135596800 ≤ seconds ∧ seconds ≤ 253402300799 := by
  have hday : 0 ≤ (epochClock + seconds) / secondsPerDay ∧
      (epochClock + seconds) / secondsPerDay < 3652059 ↔
      -62135596800 ≤ seconds ∧ seconds ≤ 253402300799 := by
    simp only [epochClock, epochDay, secondsPerDay]
    omega
  exact yearExists_yearOfDay_iff.trans hday

/-- A time is published exactly if its year exists, and it is published as the clock shows it. -/
theorem unixTimeText_eq_ok_iff {seconds : Int} {text : String} :
    unixTimeText seconds = .ok text ↔
      yearExists (ClockReading.ofSeconds (epochClock + seconds)).date.year = true ∧
        text = (ClockReading.ofSeconds (epochClock + seconds)).text := by
  constructor
  · intro h
    simp only [unixTimeText] at h
    split at h
    · cases h
    · split at h
      · cases h
      · split at h
        · exact ⟨‹_›, (Except.ok.inj h).symm⟩
        · cases h
  · rintro ⟨h, rfl⟩
    obtain ⟨hfirst, hlast⟩ := yearExists_iff.mp h
    obtain ⟨hlow, hhigh⟩ := yearExists_ofSeconds_iff.mp h
    simp only [unixTimeText, Bool.or_eq_true, decide_eq_true_iff]
    rw [if_neg, if_neg, if_pos h]
    · omega
    · omega

/-- A time is published exactly if it lies between the start of the year 1 and the end of the year
9999. -/
theorem unixTimeText_isOk_iff {seconds : Int} :
    (∃ text, unixTimeText seconds = .ok text) ↔
      -62135596800 ≤ seconds ∧ seconds ≤ 253402300799 := by
  rw [← yearExists_ofSeconds_iff]
  constructor
  · rintro ⟨text, h⟩
    exact (unixTimeText_eq_ok_iff.mp h).1
  · intro h
    exact ⟨_, unixTimeText_eq_ok_iff.mpr ⟨h, rfl⟩⟩

end TaskEndpoints
