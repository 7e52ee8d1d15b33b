import TaskEndpoints.Proofs.Calendar.Years

/-!
# Counting days and seconds

Days are counted here year by year and month by month, and seconds from the days. The date of a day
number is a date of the calendar that is reached by counting as many days, and what a clock shows is a
time of day that is reached by counting as many seconds.

## Implementation notes

Counting starts with the year 1, because the calendar of published times does.
-/

namespace TaskEndpoints

/-- The days of all months together. -/
def totalDays : List Nat → Nat
  | [] => 0
  | length :: rest => length + totalDays rest

/-- The number of days of a year. -/
def yearLength (year : Int) : Nat := totalDays (monthLengths (isLeapYear year))

/-- The number of days of the first `n` years. -/
def daysOfYears : Nat → Nat
  | 0 => 0
  | n + 1 => daysOfYears n + yearLength (n + 1)

theorem isLeapYear_iff (year : Int) :
    isLeapYear year = true ↔ year % 4 = 0 ∧ (year % 100 ≠ 0 ∨ year % 400 = 0) := by
  simp [isLeapYear]

theorem yearLength_eq (year : Int) : yearLength year = if isLeapYear year then 366 else 365 := by
  rw [yearLength]
  cases isLeapYear year with
  | true => rfl
  | false => rfl

/-- A year begins as many days after the one before it as that one has. -/
theorem daysBeforeYear_succ (year : Int) :
    daysBeforeYear (year + 1) = daysBeforeYear year + yearLength year := by
  have hleap := isLeapYear_iff year
  rw [yearLength_eq]
  simp only [daysBeforeYear]
  split
  · have h := hleap.mp ‹_›
    omega
  · have h := mt hleap.mpr ‹_›
    omega

theorem daysOfYears_eq (n : Nat) : (daysOfYears n : Int) = daysBeforeYear (n + 1) := by
  induction n with
  | zero => rfl
  | succ n ih =>
      rw [daysOfYears, Int.natCast_add, ih]
      exact (daysBeforeYear_succ (n + 1)).symm

theorem foldl_add_eq (lengths : List Nat) (start : Nat) :
    lengths.foldl (· + ·) start = start + totalDays lengths := by
  induction lengths generalizing start with
  | nil => rfl
  | cons length rest ih => rw [List.foldl_cons, ih, totalDays, Nat.add_assoc]

theorem placeInMonths_cons (length : Nat) (rest : List Nat) (day : Nat) :
    placeInMonths (length :: rest) day = if day < length then (1, day + 1) else
      ((placeInMonths rest (day - length)).1 + 1, (placeInMonths rest (day - length)).2) := rfl

/-- A place in months is in one of them, and as many days are before it as were placed. -/
theorem placeInMonths_spec {lengths : List Nat} {day : Nat} (h : day < totalDays lengths) :
    ∃ month length, (placeInMonths lengths day).1 = month + 1 ∧ lengths[month]? = some length ∧
      1 ≤ (placeInMonths lengths day).2 ∧ (placeInMonths lengths day).2 ≤ length ∧
      totalDays (lengths.take month) + ((placeInMonths lengths day).2 - 1) = day := by
  induction lengths generalizing day with
  | nil => exact absurd h (Nat.not_lt_zero day)
  | cons length rest ih =>
      rw [placeInMonths_cons]
      split
      · rename_i hd
        exact ⟨0, length, rfl, rfl, Nat.succ_pos day, hd, Nat.zero_add day⟩
      · rename_i hd
        have hrest : day - length < totalDays rest := by
          rw [totalDays] at h
          omega
        obtain ⟨month, found, hmonth, hfound, hlow, hhigh, hcount⟩ := ih hrest
        refine ⟨month + 1, found, congrArg (· + 1) hmonth, hfound, hlow, hhigh, ?_⟩
        show length + totalDays (rest.take month) + ((placeInMonths rest (day - length)).2 - 1) = day
        omega

theorem placeInMonths_pos (lengths : List Nat) (day : Nat) : 0 < (placeInMonths lengths day).1 := by
  cases lengths with
  | nil => exact Nat.one_pos
  | cons length rest =>
      rw [placeInMonths_cons]
      split
      · exact Nat.one_pos
      · exact Nat.succ_pos _

/-- Later days have later places. -/
theorem placeInMonths_lt (lengths : List Nat) {day day' : Nat} (h : day < day') :
    (placeInMonths lengths day).1 < (placeInMonths lengths day').1 ∨
      (placeInMonths lengths day).1 = (placeInMonths lengths day').1 ∧
        (placeInMonths lengths day).2 < (placeInMonths lengths day').2 := by
  induction lengths generalizing day day' with
  | nil => exact Or.inr ⟨rfl, Nat.succ_lt_succ h⟩
  | cons length rest ih =>
      rw [placeInMonths_cons, placeInMonths_cons]
      split
      · split
        · exact Or.inr ⟨rfl, Nat.succ_lt_succ h⟩
        · exact Or.inl (Nat.succ_lt_succ (placeInMonths_pos rest _))
      · rw [if_neg (by omega)]
        exact (ih (Nat.sub_lt_sub_right (Nat.not_lt.mp ‹_›) h)).imp Nat.succ_lt_succ
          (And.imp_left (congrArg (· + 1)))

namespace Date

/-- The days from the first of January of the year 1 to a date. -/
def daysElapsed (d : Date) : Nat :=
  daysOfYears (d.year - 1).toNat
    + totalDays ((monthLengths (isLeapYear d.year)).take (d.month - 1)) + (d.day - 1)

/-- The number of a date tells how many days are before it. -/
theorem dayNumber_eq_daysElapsed {d : Date} (hyear : 1 ≤ d.year) (hday : 1 ≤ d.day) :
    d.dayNumber = d.daysElapsed := by
  have hyears := daysOfYears_eq (d.year - 1).toNat
  rw [Int.toNat_of_nonneg (by omega), Int.sub_add_cancel] at hyears
  rw [dayNumber, foldl_add_eq, daysElapsed]
  omega

variable (day : Int)

/-- The days of its year before a day are fewer than the year has. -/
theorem dayOfYear_lt : (day - daysBeforeYear (yearOfDay day)).toNat < yearLength (yearOfDay day) := by
  obtain ⟨hlow, hhigh⟩ := yearOfDay_spec day
  rw [daysBeforeYear_succ] at hhigh
  omega

theorem valid_ofDayNumber : (ofDayNumber day).Valid := by
  obtain ⟨month, length, hmonth, hlength, hlow, hhigh, -⟩ := placeInMonths_spec (dayOfYear_lt day)
  have hm : (ofDayNumber day).month = month + 1 := hmonth
  refine ⟨length, ?_, ?_, hlow, hhigh⟩
  · rw [hm]
    exact Nat.succ_pos month
  · rw [hm]
    exact hlength

/-- Days are told apart by their dates. -/
theorem dayNumber_ofDayNumber : (ofDayNumber day).dayNumber = day := by
  obtain ⟨month, length, hmonth, -, hlow, -, hcount⟩ := placeInMonths_spec (dayOfYear_lt day)
  have hm : (ofDayNumber day).month = month + 1 := hmonth
  have hyear := (yearOfDay_spec day).1
  rw [dayNumber, foldl_add_eq, hm]
  simp only [ofDayNumber, Nat.add_sub_cancel]
  omega

variable {day}

/-- Later days have later dates. -/
theorem ofDayNumber_lt {later : Int} (h : day < later) :
    (ofDayNumber day).year < (ofDayNumber later).year ∨
      (ofDayNumber day).year = (ofDayNumber later).year ∧
        ((ofDayNumber day).month < (ofDayNumber later).month ∨
          (ofDayNumber day).month = (ofDayNumber later).month ∧
            (ofDayNumber day).day < (ofDayNumber later).day) := by
  have hlow := (yearOfDay_spec day).1
  have hyear : yearOfDay day ≤ yearOfDay later :=
    (le_yearOfDay_iff _ _).mpr (Int.le_trans hlow (Int.le_of_lt h))
  rcases Int.lt_or_eq_of_le hyear with hlt | heq
  · exact Or.inl hlt
  · have hday : (day - daysBeforeYear (yearOfDay day)).toNat <
        (later - daysBeforeYear (yearOfDay day)).toNat := by
      omega
    refine Or.inr ⟨heq, ?_⟩
    simp only [ofDayNumber, ← heq]
    exact placeInMonths_lt _ hday

end Date

namespace ClockReading

/-- A reading shows a date of the calendar and a time of day. -/
structure Valid (r : ClockReading) : Prop where
  date : r.date.Valid
  hour : r.hour < 24
  minute : r.minute < 60
  second : r.second < 60

/-- The seconds from the start of the year 1970 to a reading. -/
def unixSeconds (r : ClockReading) : Int :=
  ((r.date.daysElapsed : Int) - (Date.mk 1970 1 1).daysElapsed) * 86400
    + r.hour * 3600 + r.minute * 60 + r.second

theorem daysElapsed_epoch : ((Date.mk 1970 1 1).daysElapsed : Int) = epochDay := by
  rw [← Date.dayNumber_eq_daysElapsed (by decide) (by decide)]
  exact dayNumber_epoch

/-- The clock counts as many seconds as there are from the start of its count. -/
theorem toSeconds_eq {r : ClockReading} (hyear : 1 ≤ r.date.year) (hday : 1 ≤ r.date.day) :
    r.toSeconds = epochClock + r.unixSeconds := by
  rw [toSeconds, unixSeconds, daysElapsed_epoch, Date.dayNumber_eq_daysElapsed hyear hday]
  simp only [epochClock, secondsPerDay]
  omega

variable (seconds : Int)

theorem valid_ofSeconds : (ofSeconds seconds).Valid where
  date := Date.valid_ofDayNumber _
  hour := by
    simp only [ofSeconds, secondsPerDay]
    omega
  minute := by
    simp only [ofSeconds]
    omega
  second := by
    simp only [ofSeconds]
    omega

theorem toSeconds_ofSeconds : (ofSeconds seconds).toSeconds = seconds := by
  rw [toSeconds, ofSeconds, Date.dayNumber_ofDayNumber]
  simp only [secondsPerDay]
  omega

/-- What a clock shows is found again by counting. -/
theorem unixSeconds_ofSeconds (h : 1 ≤ (ofSeconds (epochClock + seconds)).date.year) :
    (ofSeconds (epochClock + seconds)).unixSeconds = seconds := by
  obtain ⟨length, -, -, hday, -⟩ := (valid_ofSeconds (epochClock + seconds)).date
  have hcount := toSeconds_eq h hday
  rw [toSeconds_ofSeconds] at hcount
  omega

end ClockReading

end TaskEndpoints
