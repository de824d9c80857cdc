import TaskEngine.Time

/-!
# Dates and days

The date of a day is a date of the calendar, and the day of that date is the day again. Days are
counted in eras of 400 years that start in March, so that a leap day is the last one of its year. The
year of a day is found by one division, whose result grows with the day; it is the year in whose days
the day lies, since it is so for the first and for the last day of every year.
-/

namespace TaskEngine.CalendarDate

/-! ## Years of an era -/

/-- The days of an era. -/
def daysOfEra : Nat := 146097

/-- The days of an era in front of one of its years. -/
def daysBefore (year : Nat) : Nat := 365 * year + year / 4 - year / 100 + year / 400

/-- The year of an era that one of its days lies in. -/
def yearOf (day : Nat) : Nat := (day - day / 1460 + day / 36524 - day / 146096) / 365

/-- Whether a year of an era ends with a leap day, which is in February of the next year. -/
def endsLeaping (year : Nat) : Bool := isLeapYear (year + 1 : Nat)

theorem daysBefore_succ :
    ∀ year < 400, daysBefore (year + 1) =
      daysBefore year + if endsLeaping year then 366 else 365 := by
  decide +kernel

/-- Later days lie in later years. -/
theorem yearOf_le_yearOf {a b : Nat} (h : a ≤ b) (hb : b < daysOfEra) : yearOf a ≤ yearOf b := by
  rw [daysOfEra] at hb
  apply Nat.div_le_div_right
  omega

/-- The first and the last day of a year lie in it. -/
theorem yearOf_daysBefore :
    ∀ year < 400, yearOf (daysBefore year) = year ∧ yearOf (daysBefore (year + 1) - 1) = year := by
  decide +kernel

/-- Every day lies in some year. -/
theorem exists_year {years day : Nat} (h : day < daysBefore years) :
    ∃ year < years, daysBefore year ≤ day ∧ day < daysBefore (year + 1) := by
  induction years with
  | zero => cases h
  | succ years ih =>
    by_cases hday : day < daysBefore years
    · obtain ⟨year, hyear, hdays⟩ := ih hday
      exact ⟨year, Nat.lt_succ_of_lt hyear, hdays⟩
    · exact ⟨years, Nat.lt_succ_self years, Nat.not_lt.mp hday, h⟩

/-- A day of an era lies in its year. -/
theorem yearOf_spec {day : Nat} (h : day < daysOfEra) :
    yearOf day < 400 ∧ daysBefore (yearOf day) ≤ day ∧ day < daysBefore (yearOf day + 1) := by
  obtain ⟨year, hyear, hfrom, hbefore⟩ := exists_year (show day < daysBefore 400 from h)
  obtain ⟨hfirst, hlast⟩ := yearOf_daysBefore year hyear
  have hlower := yearOf_le_yearOf hfrom h
  have hupper : yearOf day ≤ yearOf (daysBefore (year + 1) - 1) := by
    refine yearOf_le_yearOf (by omega) ?_
    have hera : ∀ year < 400, daysBefore (year + 1) - 1 < daysOfEra := by decide +kernel
    exact hera year hyear
  have hyearOf : yearOf day = year := by omega
  rw [hyearOf]
  exact ⟨hyear, hfrom, hbefore⟩

/-! ## Months of a year -/

/-- The months in front of a day, in a year that starts in March. -/
def monthsBefore (day : Nat) : Nat := (5 * day + 2) / 153

/-- The days in front of a month, in a year that starts in March. -/
def daysBeforeMonth (months : Nat) : Nat := (153 * months + 2) / 5

/-- The number by which a month goes that comes after so many others since March. -/
def monthOf (months : Nat) : Nat := if months < 10 then months + 3 else months - 9

/-- The days of a month that starts so many months after March begins. -/
def daysOfMonth (months : Nat) (leaping : Bool) : Nat :=
  if months = 11 then if leaping then 29 else 28 else daysInMonth 1 (monthOf months)

/-- A day of a year lies in one of twelve months, and in the days of that month. -/
theorem monthsBefore_spec :
    ∀ leaping : Bool, ∀ day < if leaping then 366 else 365,
      monthsBefore day < 12 ∧ daysBeforeMonth (monthsBefore day) ≤ day ∧
        day - daysBeforeMonth (monthsBefore day) < daysOfMonth (monthsBefore day) leaping := by
  decide +kernel

/-- Months go by twelve numbers. -/
theorem monthOf_spec : ∀ months < 12, 1 ≤ monthOf months ∧ monthOf months ≤ 12 ∧
    (monthOf months + 9) % 12 = months ∧ (monthOf months ≤ 2 ↔ 10 ≤ months) := by
  decide

/-- No month is longer than 31 days. -/
theorem daysInMonth_le (year : Int) (month : Nat) : daysInMonth year month ≤ 31 := by
  unfold daysInMonth
  repeat' split
  all_goals decide

/-- Only the second month has other numbers of days in other years. -/
theorem daysInMonth_eq {month : Nat} (h : month ≠ 2) (year year' : Int) :
    daysInMonth year month = daysInMonth year' month := by
  unfold daysInMonth
  split <;> first | rfl | exact absurd rfl h

/-! ## Days of the calendar -/

/-- The date of a day of a year that starts in March. -/
def dateIn (year : Int) (day : Nat) : CalendarDate where
  year := if monthOf (monthsBefore day) ≤ 2 then year + 1 else year
  month := monthOf (monthsBefore day)
  day := day - daysBeforeMonth (monthsBefore day) + 1

/-- Where a day lies: in an era, a year of it, and that year's days. -/
structure Place where
  era : Int
  year : Nat
  day : Nat
  year_lt : year < 400
  day_lt : day < if endsLeaping year then 366 else 365

namespace Place

/-- The day that lies there, counted from 1970-01-01. -/
def toDays (p : Place) : Int := p.era * daysOfEra + daysBefore p.year + p.day - 719468

/-- The date of the day that lies there. The year of the calendar starts two months before a year of an
era ends. -/
def date (p : Place) : CalendarDate :=
  dateIn (p.year + p.era * 400) p.day

/-- A leap day is the last day of its year in every era. -/
theorem isLeapYear_date {p : Place} (h : monthsBefore p.day = 11) :
    isLeapYear p.date.year = endsLeaping p.year := by
  have hyear : p.date.year = (p.year + 1 : Nat) + p.era * 400 := by
    simp only [date, dateIn, h]
    rw [if_pos (by decide)]
    omega
  have hmod : ∀ n ∈ [4, 100, 400], p.date.year % n = ((p.year + 1 : Nat) : Int) % n := by
    simp only [List.forall_mem_cons, hyear]
    refine ⟨by omega, by omega, by omega, by simp⟩
  simp only [List.forall_mem_cons] at hmod
  rw [endsLeaping, isLeapYear, isLeapYear, hmod.1, hmod.2.1, hmod.2.2.1]

/-- The date is one of the calendar. -/
theorem date_spec (p : Place) :
    (1 ≤ p.date.month ∧ p.date.month ≤ 12) ∧
      1 ≤ p.date.day ∧ p.date.day ≤ daysInMonth p.date.year p.date.month := by
  obtain ⟨hmonths, -, hdays⟩ := monthsBefore_spec (endsLeaping p.year) p.day p.day_lt
  obtain ⟨hfirst, hlast, -⟩ := monthOf_spec _ hmonths
  refine ⟨⟨hfirst, hlast⟩, Nat.succ_pos _, Nat.le_trans (Nat.succ_le_of_lt hdays) ?_⟩
  rw [daysOfMonth]
  split
  · rename_i hleap
    have hfebruary : p.date.month = 2 := by
      rw [date, dateIn, hleap]
      rfl
    rw [hfebruary]
    change _ ≤ if isLeapYear p.date.year then 29 else 28
    exact Nat.le_of_eq (by rw [isLeapYear_date hleap])
  · rename_i hother
    have hfixed : ∀ months < 12, months ≠ 11 → monthOf months ≠ 2 := by decide
    exact Nat.le_of_eq (daysInMonth_eq (hfixed _ hmonths hother) _ _)

/-- The day of the date is the day that lies there. -/
theorem toDays_date (p : Place) : p.date.toDays = p.toDays := by
  obtain ⟨hmonths, hfrom, -⟩ := monthsBefore_spec (endsLeaping p.year) p.day p.day_lt
  obtain ⟨-, -, hshifted, -⟩ := monthOf_spec _ hmonths
  have hyear : (if p.date.month ≤ 2 then p.date.year - 1 else p.date.year) =
      p.year + p.era * 400 := by
    simp only [date, dateIn]
    split <;> omega
  have hera : Int.fdiv (p.year + p.era * 400) 400 = p.era := by
    have := p.year_lt
    rw [Int.fdiv_eq_ediv_of_nonneg _ (by decide)]
    omega
  have hday : (153 * ((p.date.month + 9) % 12) + 2) / 5 + p.date.day - 1 = p.day := by
    simp only [date, dateIn, hshifted]
    change daysBeforeMonth _ + _ - 1 = _
    omega
  have hbefore : (p.year : Int) * 365 + Int.fdiv p.year 4 - Int.fdiv p.year 100 =
      daysBefore p.year := by
    have := p.year_lt
    rw [Int.fdiv_eq_ediv_of_nonneg _ (by decide), Int.fdiv_eq_ediv_of_nonneg _ (by decide),
      daysBefore]
    omega
  have hyearOfEra : (p.year : Int) + p.era * 400 - p.era * 400 = p.year := by omega
  simp only [CalendarDate.toDays, hyear, hera, hyearOfEra, hday, hbefore, toDays, daysOfEra]
  omega

end Place

/-- Every day lies somewhere, and its date is the one there. -/
theorem exists_place (days : Int) : ∃ p : Place, p.toDays = days ∧ p.date = ofDays days := by
  let era := Int.fdiv (days + 719468) daysOfEra
  let dayOfEra := (days + 719468 - era * daysOfEra).toNat
  have hera : era = (days + 719468) / 146097 := Int.fdiv_eq_ediv_of_nonneg _ (by decide)
  have hdayOfEra : (dayOfEra : Int) = days + 719468 - era * daysOfEra := by
    simp only [dayOfEra, hera, daysOfEra]
    omega
  have hlt : dayOfEra < daysOfEra := by
    have : (dayOfEra : Int) < daysOfEra := by
      rw [hdayOfEra, hera, daysOfEra]
      omega
    exact_mod_cast this
  obtain ⟨hyear, hfrom, hbefore⟩ := yearOf_spec hlt
  have hday : dayOfEra - daysBefore (yearOf dayOfEra) <
      if endsLeaping (yearOf dayOfEra) then 366 else 365 := by
    rw [daysBefore_succ _ hyear] at hbefore
    omega
  refine ⟨⟨era, yearOf dayOfEra, dayOfEra - daysBefore (yearOf dayOfEra), hyear, hday⟩, ?_, ?_⟩
  · simp only [Place.toDays]
    omega
  · have hplain : 365 * yearOf dayOfEra + yearOf dayOfEra / 4 - yearOf dayOfEra / 100 =
        daysBefore (yearOf dayOfEra) := by
      rw [daysBefore]
      omega
    change dateIn _ _ = dateIn (yearOf dayOfEra + era * 400) (dayOfEra -
      (365 * yearOf dayOfEra + yearOf dayOfEra / 4 - yearOf dayOfEra / 100))
    rw [hplain]

/-- The date of a day is a date of the calendar, and its day is that day. -/
theorem ofDays_spec (days : Int) :
    (ofDays days).toDays = days ∧ (1 ≤ (ofDays days).month ∧ (ofDays days).month ≤ 12) ∧
      1 ≤ (ofDays days).day ∧
        (ofDays days).day ≤ daysInMonth (ofDays days).year (ofDays days).month := by
  obtain ⟨p, rfl, hdate⟩ := exists_place days
  rw [← hdate]
  exact ⟨p.toDays_date, p.date_spec⟩

end TaskEngine.CalendarDate
