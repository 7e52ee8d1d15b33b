import TaskEndpoints.Proofs.Calendar.Texts

/-!
# Shifted moments

Dates and times of day are found again from the days and the seconds that are counted up to them. So a
moment that is shifted by microseconds is the one moment on the same clock whose instant is so much later,
and there is none only where the calendar ends.
-/

namespace TaskEndpoints

/-! ### Finding days and seconds again -/

/-- A day of a month comes after all days of the months before. -/
theorem placeInMonths_totalDays {lengths : List Nat} {month length day : Nat}
    (h : lengths[month]? = some length) (hday : day < length) :
    totalDays (lengths.take month) + day < totalDays lengths ∧
      placeInMonths lengths (totalDays (lengths.take month) + day) = (month + 1, day + 1) := by
  induction lengths generalizing month with
  | nil => cases h
  | cons first rest ih =>
      cases month with
      | zero =>
          obtain rfl := Option.some.inj h
          rw [List.take_zero, totalDays, Nat.zero_add, placeInMonths_cons, if_pos hday, totalDays]
          exact ⟨Nat.lt_add_right _ hday, rfl⟩
      | succ month =>
          obtain ⟨hlt, hplace⟩ := ih h
          have hrest : first + totalDays (rest.take month) + day - first =
              totalDays (rest.take month) + day := by
            omega
          rw [List.take_succ_cons, totalDays, totalDays, placeInMonths_cons, if_neg (by omega), hrest, hplace]
          exact ⟨by omega, rfl⟩

/-- A day lies in the year that begins before it and does not end before it. -/
theorem yearOfDay_eq {year day : Int} (hlow : daysBeforeYear year ≤ day)
    (hhigh : day < daysBeforeYear (year + 1)) : yearOfDay day = year := by
  have hle := (le_yearOfDay_iff year day).mpr hlow
  have hlt := mt (le_yearOfDay_iff (year + 1) day).mp (Int.not_le.mpr hhigh)
  omega

namespace Date

variable {d : Date}

/-- The day of a date within its year. -/
theorem Valid.dayNumber_spec (h : d.Valid) : yearOfDay d.dayNumber = d.year ∧
    placeInMonths (monthLengths (isLeapYear d.year)) (d.dayNumber - daysBeforeYear d.year).toNat =
      (d.month, d.day) := by
  obtain ⟨length, hmonth, hlength, hday, hle⟩ := h
  obtain ⟨hlt, hplace⟩ := placeInMonths_totalDays hlength (Nat.sub_one_lt_of_le hday hle)
  have hnumber : d.dayNumber = daysBeforeYear d.year +
      (totalDays ((monthLengths (isLeapYear d.year)).take (d.month - 1)) + (d.day - 1) : ℕ) := by
    rw [dayNumber, foldl_add_eq]
    omega
  have hend : d.dayNumber < daysBeforeYear (d.year + 1) := by
    rw [daysBeforeYear_succ, yearLength]
    omega
  have hrest : (d.dayNumber - daysBeforeYear d.year).toNat =
      totalDays ((monthLengths (isLeapYear d.year)).take (d.month - 1)) + (d.day - 1) := by
    omega
  refine ⟨yearOfDay_eq (by omega) hend, ?_⟩
  rw [hrest, hplace, Nat.sub_add_cancel hmonth, Nat.sub_add_cancel hday]

/-- The date of a day number is found again. -/
theorem ofDayNumber_dayNumber (h : d.Valid) : ofDayNumber d.dayNumber = d := by
  obtain ⟨hyear, hplace⟩ := h.dayNumber_spec
  simp only [ofDayNumber, hyear, hplace]

end Date

/-- What a clock shows is found again from the seconds that it has counted. -/
theorem ClockReading.ofSeconds_toSeconds {r : ClockReading} (h : r.Valid) :
    ofSeconds r.toSeconds = r := by
  obtain ⟨hdate, hhour, hminute, hsecond⟩ := h
  have hday : r.toSeconds / secondsPerDay = r.date.dayNumber := by
    simp only [toSeconds, secondsPerDay]
    omega
  have hrest : (r.toSeconds % secondsPerDay).toNat = (r.hour * 60 + r.minute) * 60 + r.second := by
    simp only [toSeconds, secondsPerDay]
    omega
  simp only [ofSeconds, hday, hrest, Date.ofDayNumber_dayNumber hdate]
  congr 1 <;> omega

/-! ### Moments on one clock -/

namespace Moment

variable {m later : Moment} {micros : Int}

/-- A moment on the same clock whose instant comes so many microseconds later. -/
structure IsLater (later m : Moment) (micros : Int) : Prop where
  valid : later.Valid
  offset : later.offset = m.offset
  instant : later.instant = m.instant + micros

theorem IsLater.lt (h : later.IsLater m micros) (hpos : 0 < micros) : m.instant < later.instant := by
  rw [h.instant]
  omega

/-- The local clock is ahead of universal time by the offset. -/
theorem Valid.localMicros_eq (h : m.Valid) :
    m.localMicros = epochClock * microsPerSecond + m.instant + m.offset.getD 0 * microsPerSecond := by
  have hcount := universalMicros_eq h
  rw [universalMicros] at hcount
  omega

/-- The moments of the calendar are those that a local clock shows. -/
theorem ofLocalMicros_eq_ok_iff {offset : Option Int} :
    ofLocalMicros micros offset = .ok later ↔
      later.reading.Valid ∧ (1 ≤ later.date.year ∧ later.date.year ≤ 9999) ∧ later.micro < 1000000 ∧
        later.offset = offset ∧ later.localMicros = micros := by
  constructor
  · intro h
    simp only [ofLocalMicros] at h
    split at h
    · rename_i hyear
      obtain rfl := Except.ok.inj h
      refine ⟨ClockReading.valid_ofSeconds _, yearExists_iff.mp hyear, ?_, rfl, ?_⟩
      · simp only [microsPerSecond]
        omega
      · show (ClockReading.ofSeconds (micros / microsPerSecond)).toSeconds * microsPerSecond +
          ((micros % microsPerSecond).toNat : Int) = micros
        rw [ClockReading.toSeconds_ofSeconds]
        simp only [microsPerSecond]
        omega
    · cases h
  · rintro ⟨hreading, hyear, hmicro, rfl, rfl⟩
    have hseconds : later.localMicros / microsPerSecond = later.reading.toSeconds := by
      rw [localMicros, ← reading]
      simp only [microsPerSecond]
      omega
    have hmicros : (later.localMicros % microsPerSecond).toNat = later.micro := by
      rw [localMicros, ← reading]
      simp only [microsPerSecond]
      omega
    simp only [ofLocalMicros, hseconds, hmicros, ClockReading.ofSeconds_toSeconds hreading]
    exact if_pos (yearExists_iff.mpr hyear)

/-- A shifted moment is the one that comes so much later. -/
theorem shift_eq_ok_iff (hm : m.Valid) : m.shift micros = .ok later ↔ later.IsLater m micros := by
  rw [shift, ofLocalMicros_eq_ok_iff, hm.localMicros_eq]
  constructor
  · rintro ⟨hreading, hyear, hmicro, hoffset, hclock⟩
    have hvalid : later.Valid := ⟨hreading, hyear, hmicro, hoffset ▸ hm.offset⟩
    rw [hvalid.localMicros_eq, hoffset] at hclock
    exact ⟨hvalid, hoffset, by omega⟩
  · intro h
    refine ⟨h.valid.reading, h.valid.year, h.valid.micro, h.offset, ?_⟩
    rw [h.valid.localMicros_eq, h.offset, h.instant]
    omega

/-- A moment is shifted exactly as far as its clock stays in the years 1 to 9999. -/
theorem exists_shift_iff (m : Moment) (micros : Int) : (∃ later, m.shift micros = .ok later) ↔
    0 ≤ m.localMicros + micros ∧ m.localMicros + micros < 315537897600000000 := by
  have hrange : yearExists (ClockReading.ofSeconds
      ((m.localMicros + micros) / microsPerSecond)).date.year = true ↔
      0 ≤ m.localMicros + micros ∧ m.localMicros + micros < 315537897600000000 := by
    refine yearExists_yearOfDay_iff.trans ?_
    simp only [microsPerSecond, secondsPerDay]
    omega
  rw [← hrange, shift, ofLocalMicros]
  split
  · exact ⟨fun _ => ‹_›, fun _ => ⟨_, rfl⟩⟩
  · constructor
    · rintro ⟨_, h⟩
      cases h
    · exact fun h => absurd h ‹_›

/-- The clock of a moment has not counted less than nothing. -/
theorem Valid.localMicros_nonneg (h : m.Valid) : 0 ≤ m.localMicros := by
  have hself : m.IsLater m 0 := ⟨h, rfl, (Int.add_zero _).symm⟩
  obtain ⟨hstart, -⟩ := (exists_shift_iff m 0).mp ⟨m, (shift_eq_ok_iff h).mpr hself⟩
  rwa [Int.add_zero] at hstart

/-- What a local clock has counted by the end of the year 9000. -/
theorem Valid.localMicros_lt (h : m.Valid) (hyear : m.date.year ≤ 9000) :
    m.localMicros < 284012524800000000 := by
  have hday : yearOfDay m.date.dayNumber = m.date.year := h.reading.date.dayNumber_spec.1
  have hlast := mt (le_yearOfDay_iff 9001 m.date.dayNumber).mpr
    (Int.not_le.mpr (hday ▸ Int.lt_add_one_of_le hyear))
  have hend : daysBeforeYear 9001 = 3287182 := by decide
  have hhour : m.hour < 24 := h.reading.hour
  have hminute : m.minute < 60 := h.reading.minute
  have hsecond : m.second < 60 := h.reading.second
  have hmicro := h.micro
  simp only [localMicros, ClockReading.toSeconds, secondsPerDay, microsPerSecond]
  omega

/-- Up to the year 9000 there is time for a shift by more than nine hundred years. -/
theorem exists_isLater (hm : m.Valid) (hyear : m.date.year ≤ 9000) (hlow : 0 ≤ micros)
    (hhigh : micros ≤ 31525372800000000) : ∃ later : Moment, later.IsLater m micros := by
  have hstart := hm.localMicros_nonneg
  have hend := hm.localMicros_lt hyear
  obtain ⟨later, hlater⟩ := (exists_shift_iff m micros).mpr (by omega)
  exact ⟨later, (shift_eq_ok_iff hm).mp hlater⟩

end Moment

end TaskEndpoints
