import Deferral.Time.Instant

/-!
# Days and dates

The date of a day is a date of the calendar, and it is the date of no other day. The proof takes the
day of an era apart as the calendar does: into centuries, groups of four years, years and days, of
which the last of each may be longer or shorter than the others by the leap day.

## Main results

* `exists_eraDay` — every day by its era and the parts of its day in the era;
* `toDays_ofDays` — the day of the date of a day is that day;
* `isValid_ofDays` — the date of a day is valid.
-/

namespace Deferral.Date

/-! ### Months -/

/-- No month has more than 31 days. -/
theorem daysInMonth_le (year : Int) (month : Nat) : daysInMonth year month ≤ 31 := by
  unfold daysInMonth
  split
  · split <;> decide
  all_goals decide

/-- A date has a month of twelve and a day of at most 31. -/
theorem le_of_isValid {d : Date} (h : d.isValid = true) : d.month ≤ 12 ∧ d.day ≤ 31 := by
  rw [isValid, Bool.and_eq_true, decide_eq_true_eq, decide_eq_true_eq] at h
  refine ⟨Nat.le_of_not_lt fun hmonth => ?_, Nat.le_trans h.2 (daysInMonth_le _ _)⟩
  have hnone : daysInMonth d.year d.month = 0 := by
    unfold daysInMonth
    split <;> first | rfl | omega
  omega

/-- The number of days of a month counted from March, but for February. -/
theorem daysInMonth_of_lt {m : Int} (hm : 0 ≤ m) (hlt : m < 11) (year : Int) :
    daysInMonth year (if m < 10 then m + 3 else m - 9).toNat =
      (153 * (m + 1) + 2) / 5 - (153 * m + 2) / 5 := by
  obtain ⟨n, rfl⟩ := Int.eq_ofNat_of_zero_le hm
  match n, (by omega : n < 11) with
  | 0, _ | 1, _ | 2, _ | 3, _ | 4, _ | 5, _ | 6, _ | 7, _ | 8, _ | 9, _ | 10, _ => rfl

/-! ### Days of an era -/

/-- A day of an era of 400 years that start in March. Only the last year of a group has a leap day,
and the last group of a century has it only in the last century. -/
structure EraDay where
  century : Int
  group : Int
  year : Int
  day : Int
  century_bounds : 0 ≤ century ∧ century ≤ 3
  group_bounds : 0 ≤ group ∧ group ≤ 24
  year_bounds : 0 ≤ year ∧ year ≤ 3
  day_bounds : 0 ≤ day ∧ day ≤ 365
  of_leap : day = 365 → year = 3 ∧ (group ≤ 23 ∨ century = 3)

namespace EraDay

/-- The number of a day within its era. -/
def toDay (d : EraDay) : Int := 36524 * d.century + 1461 * d.group + 365 * d.year + d.day

/-- The number of the year of a day within its era. -/
def yearOfEra (d : EraDay) : Int := 100 * d.century + 4 * d.group + d.year

/-- Every day of an era has its parts. -/
theorem exists_of_lt {n : Int} (hpos : 0 ≤ n) (hlt : n < 146097) : ∃ d : EraDay, d.toDay = n := by
  -- The last part of each kind may be longer than the others, so it is not the quotient.
  obtain ⟨c, hc⟩ : ∃ c, c = min (n / 36524) 3 := ⟨_, rfl⟩
  obtain ⟨r, hr⟩ : ∃ r, r = n - 36524 * c := ⟨_, rfl⟩
  obtain ⟨y, hy⟩ : ∃ y, y = min (r % 1461 / 365) 3 := ⟨_, rfl⟩
  refine ⟨⟨c, r / 1461, y, r % 1461 - 365 * y,
    by omega, by omega, by omega, by omega, by omega⟩, ?_⟩
  simp only [toDay]
  omega

/-- An era has 146097 days. -/
theorem toDay_bounds (d : EraDay) : 0 ≤ d.toDay ∧ d.toDay < 146097 := by
  obtain ⟨c, g, y, n, hc, hg, hy, hn, hleap⟩ := d
  simp only [toDay]
  omega

/-- An era has 400 years. -/
theorem yearOfEra_bounds (d : EraDay) : 0 ≤ d.yearOfEra ∧ d.yearOfEra < 400 := by
  obtain ⟨c, g, y, n, hc, hg, hy, hn, hleap⟩ := d
  simp only [yearOfEra]
  omega

/-- The year of a day is found by leaving out the leap days before it. -/
theorem yearOfEra_eq (d : EraDay) :
    (d.toDay - d.toDay / 1460 + d.toDay / 36524 - d.toDay / 146096) / 365 = d.yearOfEra := by
  obtain ⟨c, g, y, n, hc, hg, hy, hn, hleap⟩ := d
  simp only [toDay, yearOfEra]
  obtain ⟨day, hday⟩ : ∃ day, day = 36524 * c + 1461 * g + 365 * y + n := ⟨_, rfl⟩
  -- The last day of the era is one too many for its century, and for the era as well.
  have hcenturies : day / 36524 - day / 146096 = c := by
    have hcases : day = 146096 ∧ c = 3 ∨ 36524 * c ≤ day ∧ day < 36524 * (c + 1) := by omega
    rcases hcases with ⟨hlast, hthree⟩ | ⟨hle, hlt⟩
    · rw [hlast, hthree]
      decide
    · omega
  have hgroups : day / 1460 = 25 * c + g + (24 * c + g + 365 * y + n) / 1460 := by omega
  have hrest : (24 * c + g + 365 * y + n) / 1460 ≤ n ∧
      n - (24 * c + g + 365 * y + n) / 1460 < 365 := by omega
  rw [← hday]
  omega

/-- The days before the year of a day. -/
theorem daysBefore_yearOfEra (d : EraDay) :
    365 * d.yearOfEra + d.yearOfEra / 4 - d.yearOfEra / 100 = d.toDay - d.day := by
  obtain ⟨c, g, y, n, hc, hg, hy, hn, hleap⟩ := d
  simp only [toDay, yearOfEra]
  omega

/-- The last day of a long year lies in February of a leap year. -/
theorem isLeapYear_of_day {d : EraDay} (hday : d.day = 365) (era : Int) :
    isLeapYear (d.yearOfEra + era * 400 + 1) = true := by
  obtain ⟨c, g, y, n, hc, hg, hy, hn, hleap⟩ := d
  obtain ⟨hyear, hlast⟩ := hleap hday
  simp only [isLeapYear, yearOfEra, Bool.and_eq_true, Bool.or_eq_true, beq_iff_eq, bne_iff_ne]
  omega

/-! ### The date of a day -/

/-- The number of the month of a day, from March on. -/
def month (d : EraDay) : Int := (5 * d.day + 2) / 153

/-- The date of a day of an era. -/
def date (d : EraDay) (era : Int) : Date :=
  let month := if d.month < 10 then d.month + 3 else d.month - 9
  let year := d.yearOfEra + era * 400
  ⟨if month ≤ 2 then year + 1 else year, month.toNat,
    (d.day - (153 * d.month + 2) / 5 + 1).toNat⟩

/-- The date of a day is made of the parts of the day in its era. -/
theorem ofDays_eq_date (d : EraDay) (era : Int) :
    ofDays (era * 146097 + d.toDay - 719468) = d.date era := by
  obtain ⟨hpos, hlt⟩ := d.toDay_bounds
  have hday : (era * 146097 + d.toDay - 719468 + 719468) % 146097 = d.toDay := by omega
  have hera : (era * 146097 + d.toDay - 719468 + 719468) / 146097 = era := by omega
  have hrest : d.toDay - (d.toDay - d.day) = d.day := by omega
  simp only [ofDays, hday, hera, d.yearOfEra_eq, d.daysBefore_yearOfEra, hrest]
  rfl

/-- The months of an era's years count from March. -/
theorem month_bounds (d : EraDay) : 0 ≤ d.month ∧ d.month ≤ 11 := by
  have hday := d.day_bounds
  rw [month]
  omega

/-- A day lies within the days that its month has by the formula. -/
theorem day_within_month (d : EraDay) :
    (153 * d.month + 2) / 5 ≤ d.day ∧ d.day < (153 * (d.month + 1) + 2) / 5 := by
  have hday := d.day_bounds
  rw [month]
  omega

/-- The day of the date of a day is that day. -/
theorem toDays_date (d : EraDay) (era : Int) :
    (d.date era).toDays = era * 146097 + d.toDay - 719468 := by
  have hyear := d.yearOfEra_bounds
  have hmonth := d.month_bounds
  have hbefore := d.daysBefore_yearOfEra
  have hday := d.day_within_month
  have hera : (d.yearOfEra + era * 400) / 400 = era := by omega
  have hrest : (d.yearOfEra + era * 400) % 400 = d.yearOfEra := by omega
  -- January and February belong to the year before.
  by_cases hten : d.month < 10
  · have hlate : ¬ d.month + 3 ≤ 2 := by omega
    have hlate' : ¬ (d.month + 3).toNat ≤ 2 := by omega
    simp only [date, toDays, if_pos hten, if_neg hlate, if_neg hlate', hera, hrest]
    omega
  · have hearly : d.month - 9 ≤ 2 := by omega
    have hearly' : (d.month - 9).toNat ≤ 2 := by omega
    simp only [date, toDays, if_neg hten, if_pos hearly, if_pos hearly', hera, hrest,
      Int.add_sub_cancel]
    omega

/-- January and February come last. -/
theorem month_date (d : EraDay) (era : Int) :
    (d.date era).month = (if d.month < 10 then d.month + 3 else d.month - 9).toNat := rfl

/-- The day of the month. -/
theorem day_date (d : EraDay) (era : Int) :
    (d.date era).day = (d.day - (153 * d.month + 2) / 5 + 1).toNat := rfl

/-- Every day of an era has a date that exists. -/
theorem isValid_date (d : EraDay) (era : Int) : (d.date era).isValid = true := by
  have hmonth := d.month_bounds
  have hday := d.day_within_month
  rw [Date.isValid, Bool.and_eq_true, decide_eq_true_eq, decide_eq_true_eq]
  by_cases hlast : d.month < 11
  · have hlength := daysInMonth_of_lt hmonth.1 hlast (d.date era).year
    rw [← d.month_date era] at hlength
    rw [day_date]
    omega
  · -- February has its last day in leap years only.
    have hfeb : d.month = 11 := by omega
    have hdate : d.date era = ⟨d.yearOfEra + era * 400 + 1, 2, (d.day - 337 + 1).toNat⟩ := by
      simp [date, hfeb]
    have hle := d.day_bounds
    rw [hfeb] at hday
    simp only [hdate, daysInMonth]
    refine ⟨by omega, ?_⟩
    split
    · omega
    · next hleap =>
        have hshort : d.day ≠ 365 := fun hlong => hleap (isLeapYear_of_day hlong era)
        omega

end EraDay

/-! ### Days and dates -/

/-- Every day lies in an era, and has its parts there. -/
theorem exists_eraDay (days : Int) :
    ∃ (d : EraDay) (era : Int), days = era * 146097 + d.toDay - 719468 := by
  have hpos : 0 ≤ (days + 719468) % 146097 := by omega
  obtain ⟨d, hday⟩ := EraDay.exists_of_lt hpos (by omega)
  exact ⟨d, (days + 719468) / 146097, by omega⟩

/-- **Days.** The date of a day is the date of no other day. -/
theorem toDays_ofDays (days : Int) : (ofDays days).toDays = days := by
  obtain ⟨d, era, rfl⟩ := exists_eraDay days
  rw [d.ofDays_eq_date, d.toDays_date]

/-- **Dates.** The date of a day is a date of the calendar. -/
theorem isValid_ofDays (days : Int) : (ofDays days).isValid = true := by
  obtain ⟨d, era, rfl⟩ := exists_eraDay days
  rw [d.ofDays_eq_date, d.isValid_date]

end Deferral.Date
