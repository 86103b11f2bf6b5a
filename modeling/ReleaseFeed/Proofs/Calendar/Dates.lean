import Mathlib
import ReleaseFeed.Calendar

/-! # Days are counted one by one

The rules of the calendar are the lengths of its months, and when a year is a leap year.  They say which
dates there are (`Date.Valid`), which date follows which (`Date.next`), and which is the earlier of two
(`Date.Before`).

The number of a day is computed without them, from the start of its year and month where both begin in
March (`dayNumber_eq`).  It agrees with the rules all the same: it goes up by one from a date to the next
(`dayNumber_next`), it is smaller for the earlier date (`before_iff`), and every number is that of one valid
date, which `ofDayNumber` finds (`ofDayNumber_dayNumber`, `dayNumber_ofDayNumber`).
-/
namespace ReleaseFeed.Date

/-! ## The rules of the calendar -/

/-- Every fourth year is a leap year, but of the years that end a century only every fourth. -/
def IsLeap (year : Int) : Prop :=
  4 ∣ year ∧ (100 ∣ year → 400 ∣ year)

instance (year : Int) : Decidable (IsLeap year) :=
  inferInstanceAs (Decidable (_ ∧ _))

/-- How many days a month has. -/
def monthLength (year : Int) (month : Nat) : Nat :=
  if month = 2 then if IsLeap year then 29 else 28
  else if month ∈ [4, 6, 9, 11] then 30
  else 31

/-- The month has the day, and the year the month. -/
structure Valid (d : Date) : Prop where
  one_le_month : 1 ≤ d.month
  month_le : d.month ≤ 12
  one_le_day : 1 ≤ d.day
  day_le : d.day ≤ monthLength d.year d.month

theorem valid_iff {d : Date} : d.Valid ↔
    1 ≤ d.month ∧ d.month ≤ 12 ∧ 1 ≤ d.day ∧ d.day ≤ monthLength d.year d.month :=
  ⟨fun h => ⟨h.1, h.2, h.3, h.4⟩, fun h => ⟨h.1, h.2.1, h.2.2.1, h.2.2.2⟩⟩

instance (d : Date) : Decidable d.Valid :=
  decidable_of_iff _ valid_iff.symm

/-- The day after. -/
def next (d : Date) : Date :=
  if d.day < monthLength d.year d.month then ⟨d.year, d.month, d.day + 1⟩
  else if d.month < 12 then ⟨d.year, d.month + 1, 1⟩
  else ⟨d.year + 1, 1, 1⟩

/-- The date is the earlier one. -/
def Before (d d' : Date) : Prop :=
  d.year < d'.year ∨
    d.year = d'.year ∧ (d.month < d'.month ∨ d.month = d'.month ∧ d.day < d'.day)

instance (d d' : Date) : Decidable (d.Before d') :=
  inferInstanceAs (Decidable (_ ∨ _))

theorem one_le_monthLength (year : Int) (month : Nat) : 1 ≤ monthLength year month := by
  unfold monthLength
  split_ifs <;> decide

theorem monthLength_le (year : Int) (month : Nat) : monthLength year month ≤ 31 := by
  unfold monthLength
  split_ifs <;> decide

theorem Valid.next {d : Date} (h : d.Valid) : d.next.Valid := by
  obtain ⟨hone, htwelve, hday, hle⟩ := h
  unfold Date.next
  split_ifs with hinside hmonth
  · exact ⟨hone, htwelve, Nat.le_add_left _ _, hinside⟩
  · exact ⟨Nat.le_add_left _ _, hmonth, le_rfl, one_le_monthLength _ _⟩
  · exact ⟨le_rfl, Nat.le_add_left _ _, le_rfl, one_le_monthLength _ _⟩

/-! ## Years and months from March on -/

/-- The year, where years begin in March. -/
def marchYear (d : Date) : Int :=
  if d.month ≤ 2 then d.year - 1 else d.year

/-- The month, where March is month 0. -/
def marchMonth (d : Date) : Nat :=
  (d.month + 9) % 12

/-- Days from 0000-03-01 to the first of March of a year. -/
def yearStart (year : Int) : Int :=
  365 * year + year / 4 - year / 100 + year / 400

/-- Days from the first of March to the start of a month. -/
def monthStart (month : Nat) : Nat :=
  (153 * month + 2) / 5

theorem dayNumber_eq (d : Date) : d.dayNumber =
    yearStart d.marchYear + monthStart d.marchMonth + d.day - 1 - epochShift := by
  simp only [dayNumber, yearStart, monthStart, marchYear, marchMonth, cycleDays]
  push_cast
  generalize (if d.month ≤ 2 then d.year - 1 else d.year) = year
  omega

/-- A year has 366 days if it ends with a leap day. -/
theorem yearStart_succ (year : Int) :
    yearStart (year + 1) = yearStart year + if IsLeap (year + 1) then 366 else 365 := by
  unfold yearStart IsLeap
  split_ifs
  · omega
  · omega

theorem strictMono_yearStart : StrictMono yearStart := by
  refine strictMono_int_of_lt_succ fun year => ?_
  rw [yearStart_succ]
  split_ifs
  · omega
  · omega

theorem monthStart_mono : Monotone monthStart := by
  intro month month' hle
  unfold monthStart
  omega

/-- A month other than February goes up to the start of the next one. -/
theorem monthStart_succ {d : Date} (h : d.Valid) (hfeb : d.month ≠ 2) :
    monthStart (d.marchMonth + 1) = monthStart d.marchMonth + monthLength d.year d.month := by
  obtain ⟨year, month, day⟩ := d
  have hone : 1 ≤ month := h.one_le_month
  have htwelve : month ≤ 12 := h.month_le
  simp only [marchMonth, monthStart, monthLength]
  interval_cases month
  all_goals first | rfl | exact absurd rfl hfeb

/-- February goes up to the end of the year. -/
theorem yearStart_add_one {d : Date} (hfeb : d.month = 2) :
    yearStart (d.marchYear + 1) =
      yearStart d.marchYear + monthStart d.marchMonth + monthLength d.year d.month := by
  obtain ⟨year, month, day⟩ := d
  obtain rfl : month = 2 := hfeb
  have hyear : marchYear ⟨year, 2, day⟩ + 1 = year := by
    show year - 1 + 1 = year
    omega
  rw [yearStart_succ, hyear]
  simp only [marchMonth, monthStart, monthLength]
  split_ifs
  · omega
  · omega

namespace Valid
variable {d d' : Date}

/-- A day is before the start of the next month. -/
theorem lt_monthStart (h : d.Valid) :
    monthStart d.marchMonth + d.day ≤ monthStart (d.marchMonth + 1) := by
  have hle := h.day_le
  by_cases hfeb : d.month = 2
  · have hmonth : d.marchMonth = 11 := by
      rw [marchMonth, hfeb]
    have hdays : monthLength d.year d.month ≤ 29 := by
      rw [monthLength, if_pos hfeb]
      split_ifs <;> decide
    simp only [hmonth, monthStart]
    omega
  · rw [monthStart_succ h hfeb]
    omega

/-- A day is before the start of the next year. -/
theorem lt_yearStart (h : d.Valid) :
    yearStart d.marchYear + monthStart d.marchMonth + d.day ≤ yearStart (d.marchYear + 1) := by
  have hle := h.day_le
  by_cases hfeb : d.month = 2
  · rw [yearStart_add_one hfeb]
    omega
  · have hmonth : d.marchMonth + 1 ≤ 11 := by
      have hone := h.one_le_month
      have htwelve := h.month_le
      unfold marchMonth
      omega
    have hstart : monthStart (d.marchMonth + 1) ≤ 337 := monthStart_mono hmonth
    have hday := h.lt_monthStart
    rw [yearStart_succ]
    split_ifs
    · omega
    · omega

/-! ## From a date to the next -/

/-- The next month starts where this one ends. -/
theorem monthStart_next (h : d.Valid) (hlast : d.day = monthLength d.year d.month) :
    yearStart d.next.marchYear + monthStart d.next.marchMonth =
      yearStart d.marchYear + monthStart d.marchMonth + monthLength d.year d.month := by
  have hone := h.one_le_month
  have htwelve := h.month_le
  have hnext : d.next =
      if d.month < 12 then ⟨d.year, d.month + 1, 1⟩ else ⟨d.year + 1, 1, 1⟩ := if_neg (by omega)
  by_cases hfeb : d.month = 2
  · have hmarch : d.next = ⟨d.year, 3, 1⟩ := by
      rw [hnext, hfeb]
      rfl
    have hyear : d.next.marchYear = d.marchYear + 1 := by
      rw [hmarch, marchYear, marchYear, hfeb]
      show d.year = d.year - 1 + 1
      omega
    have hmonth : d.next.marchMonth = 0 := by
      simp only [hmarch, marchMonth]
    rw [hyear, hmonth, yearStart_add_one hfeb]
    exact add_zero _
  · have hyear : d.next.marchYear = d.marchYear := by
      rw [hnext]
      split_ifs with hbefore
      · simp only [marchYear]
        split_ifs <;> omega
      · have hdec : d.month = 12 := by omega
        simp only [marchYear, hdec]
        omega
    have hmonth : d.next.marchMonth = d.marchMonth + 1 := by
      rw [hnext]
      unfold marchMonth
      split_ifs
      · dsimp only
        omega
      · dsimp only
        omega
    rw [hyear, hmonth, monthStart_succ h hfeb, Nat.cast_add, add_assoc]

/-- **The number of a day goes up by one from a date to the next.** -/
theorem dayNumber_next (h : d.Valid) : d.next.dayNumber = d.dayNumber + 1 := by
  rw [dayNumber_eq, dayNumber_eq]
  by_cases hinside : d.day < monthLength d.year d.month
  · have hnext : d.next = ⟨d.year, d.month, d.day + 1⟩ := if_pos hinside
    rw [hnext]
    show yearStart d.marchYear + monthStart d.marchMonth + (d.day + 1 : Nat) - 1 - epochShift = _
    omega
  · have hlast : d.day = monthLength d.year d.month :=
      Nat.le_antisymm h.day_le (Nat.le_of_not_lt hinside)
    have hfirst : d.next.day = 1 := by
      rw [Date.next, if_neg hinside]
      split_ifs <;> rfl
    rw [h.monthStart_next hlast, hfirst, ← hlast]
    omega

/-! ## Earlier and later -/

/-- The order of dates is that of their years, months and days from March on. -/
theorem march_lt (h : d.Valid) (h' : d'.Valid) (hbefore : d.Before d') :
    d.marchYear < d'.marchYear ∨ d.marchYear = d'.marchYear ∧
      (d.marchMonth < d'.marchMonth ∨ d.marchMonth = d'.marchMonth ∧ d.day < d'.day) := by
  have hone := h.one_le_month
  have hone' := h'.one_le_month
  have htwelve := h.month_le
  have htwelve' := h'.month_le
  unfold Before at hbefore
  unfold marchYear marchMonth
  split_ifs <;> omega

theorem dayNumber_lt (h : d.Valid) (h' : d'.Valid) (hbefore : d.Before d') :
    d.dayNumber < d'.dayNumber := by
  have hday := h.lt_monthStart
  have hday' := h'.one_le_day
  rw [dayNumber_eq, dayNumber_eq]
  rcases h.march_lt h' hbefore with hyear | ⟨hyear, hmonth | ⟨hmonth, hlt⟩⟩
  · have hend := h.lt_yearStart
    have hstart : yearStart (d.marchYear + 1) ≤ yearStart d'.marchYear :=
      strictMono_yearStart.monotone hyear
    omega
  · have hstart : monthStart (d.marchMonth + 1) ≤ monthStart d'.marchMonth := monthStart_mono hmonth
    rw [hyear]
    omega
  · rw [hyear, hmonth]
    omega

theorem before_or_eq_or_before (d d' : Date) : d.Before d' ∨ d = d' ∨ d'.Before d := by
  obtain ⟨year, month, day⟩ := d
  obtain ⟨year', month', day'⟩ := d'
  simp only [Before, mk.injEq]
  omega

/-- **The earlier date has the smaller number.** -/
theorem before_iff (h : d.Valid) (h' : d'.Valid) : d.Before d' ↔ d.dayNumber < d'.dayNumber := by
  refine ⟨h.dayNumber_lt h', fun hlt => ?_⟩
  rcases before_or_eq_or_before d d' with hbefore | rfl | hafter
  · exact hbefore
  · exact absurd hlt (lt_irrefl _)
  · exact absurd hlt (h'.dayNumber_lt h hafter).le.not_gt

end Valid

/-! ## From a number to its date -/

/-- A year in its 400-year cycle: the full centuries, then the full periods of four years, then the
years that are left. -/
structure CycleParts (century leap rest : Int) : Prop where
  century_mem : 0 ≤ century ∧ century ≤ 3
  leap_mem : 0 ≤ leap ∧ leap ≤ 24
  rest_mem : 0 ≤ rest ∧ rest ≤ 3

theorem exists_cycleParts (year : Int) : ∃ cycle century leap rest, CycleParts century leap rest ∧
    year = 400 * cycle + 100 * century + 4 * leap + rest :=
  ⟨year / 400, year % 400 / 100, year % 100 / 4, year % 4, ⟨by omega, by omega, by omega⟩, by omega⟩

namespace CycleParts
variable {century leap rest : Int}

theorem yearStart_eq (h : CycleParts century leap rest) (cycle : Int) :
    yearStart (400 * cycle + 100 * century + 4 * leap + rest) =
      cycleDays * cycle + (36524 * century + 1461 * leap + 365 * rest) := by
  obtain ⟨hcentury, hleap, hrest⟩ := h
  unfold yearStart cycleDays
  omega

/-- Only the last day of a leap year is day 365. -/
theorem rest_eq (h : CycleParts century leap rest) {cycle : Int}
    (hleap : IsLeap (400 * cycle + 100 * century + 4 * leap + rest + 1)) :
    rest = 3 ∧ (leap = 24 → century = 3) := by
  obtain ⟨hcentury, hfours, hrest⟩ := h
  unfold IsLeap at hleap
  omega

/-- The year is found from the day of the cycle. -/
theorem yearOfCycle_eq (h : CycleParts century leap rest) {day dayOfYear : Int}
    (hday : 0 ≤ dayOfYear ∧ dayOfYear ≤ 365)
    (hlast : dayOfYear = 365 → rest = 3 ∧ (leap = 24 → century = 3))
    (heq : day = 36524 * century + 1461 * leap + 365 * rest + dayOfYear) :
    (day - day / 1460 + day / 36524 - day / 146096) / 365 = 100 * century + 4 * leap + rest := by
  obtain ⟨hcentury, hleap, hrest⟩ := h
  have hfours : day / 1460 = 25 * century + leap ∧
        24 * century + leap + 365 * rest + dayOfYear < 1460 ∨
      day / 1460 = 25 * century + leap + 1 ∧
        1460 ≤ 24 * century + leap + 365 * rest + dayOfYear := by omega
  have hhundreds : day / 36524 = century ∧ 1461 * leap + 365 * rest + dayOfYear < 36524 ∨
      day / 36524 = century + 1 ∧ 1461 * leap + 365 * rest + dayOfYear = 36524 := by omega
  have hcycle : day / 146096 = 0 ∧ day < 146096 ∨ day / 146096 = 1 ∧ day = 146096 := by omega
  rcases hfours with hfours | hfours
  · rcases hhundreds with hhundreds | hhundreds
    · rcases hcycle with hcycle | hcycle <;> omega
    · rcases hcycle with hcycle | hcycle <;> omega
  · rcases hhundreds with hhundreds | hhundreds
    · rcases hcycle with hcycle | hcycle <;> omega
    · rcases hcycle with hcycle | hcycle <;> omega

theorem yearOfCycle_days (h : CycleParts century leap rest) :
    365 * (100 * century + 4 * leap + rest) + (100 * century + 4 * leap + rest) / 4 -
      (100 * century + 4 * leap + rest) / 100 = 36524 * century + 1461 * leap + 365 * rest := by
  obtain ⟨hcentury, hleap, hrest⟩ := h
  omega

end CycleParts

/-- The year is found from the number, and the month from the day of the year. -/
theorem ofDayNumber_eq {n year dayOfYear month : Int}
    (hn : n + epochShift = yearStart year + dayOfYear)
    (hday : 0 ≤ dayOfYear ∧ dayOfYear ≤ 365) (hlast : dayOfYear = 365 → IsLeap (year + 1))
    (hmonth : (5 * dayOfYear + 2) / 153 = month) :
    ofDayNumber n = ⟨if month < 10 then year else year + 1,
      (if month < 10 then month + 3 else month - 9).toNat,
      (dayOfYear - (153 * month + 2) / 5 + 1).toNat⟩ := by
  obtain ⟨cycle, century, leap, rest, hparts, rfl⟩ := exists_cycleParts year
  rw [hparts.yearStart_eq, add_assoc] at hn
  have hend : dayOfYear = 365 → rest = 3 ∧ (leap = 24 → century = 3) :=
    fun h => hparts.rest_eq (hlast h)
  have hrange : 0 ≤ 36524 * century + 1461 * leap + 365 * rest + dayOfYear ∧
      36524 * century + 1461 * leap + 365 * rest + dayOfYear < cycleDays := by
    obtain ⟨hcentury, hleap, hrest⟩ := hparts
    unfold cycleDays
    omega
  have hcycle : (n + epochShift) / cycleDays = cycle := by
    rw [hn, Int.add_comm, Int.add_mul_ediv_left _ _ (by decide),
      Int.ediv_eq_zero_of_lt hrange.1 hrange.2, Int.zero_add]
  have hdayOfCycle : (n + epochShift) % cycleDays =
      36524 * century + 1461 * leap + 365 * rest + dayOfYear := by
    rw [hn, Int.add_comm, Int.add_mul_emod_self_left, Int.emod_eq_of_lt hrange.1 hrange.2]
  have hyear := hparts.yearOfCycle_eq hday hend hdayOfCycle
  have hdayOfYear : 36524 * century + 1461 * leap + 365 * rest + dayOfYear -
      (365 * (100 * century + 4 * leap + rest) + (100 * century + 4 * leap + rest) / 4 -
        (100 * century + 4 * leap + rest) / 100) = dayOfYear := by
    rw [hparts.yearOfCycle_days, Int.add_comm, Int.add_sub_cancel]
  rw [hdayOfCycle] at hyear
  unfold ofDayNumber
  simp only [hcycle, hdayOfCycle, hyear, hdayOfYear, hmonth, mk.injEq, and_true]
  -- from month 10 on, which is January, the next year has begun
  clear hdayOfYear hdayOfCycle hyear
  split_ifs <;> omega

namespace Valid
variable {d : Date}

/-- **The date of a day is found from its number.** -/
theorem ofDayNumber_dayNumber (h : d.Valid) : ofDayNumber d.dayNumber = d := by
  obtain ⟨dayOfYear, hdef⟩ : ∃ n : Nat, n = monthStart d.marchMonth + d.day - 1 := ⟨_, rfl⟩
  have hone := h.one_le_day
  have hmonth := h.lt_monthStart
  have hyear := h.lt_yearStart
  have hnumber : d.dayNumber + epochShift = yearStart d.marchYear + dayOfYear := by
    rw [dayNumber_eq]
    omega
  have hle : dayOfYear ≤ 365 ∧ (dayOfYear = 365 → IsLeap (d.marchYear + 1)) := by
    rw [yearStart_succ] at hyear
    split_ifs at hyear with hleap
    · exact ⟨by omega, fun _ => hleap⟩
    · exact ⟨by omega, fun hend => by omega⟩
  have hmarch : (5 * (dayOfYear : Int) + 2) / 153 = d.marchMonth := by
    unfold monthStart at hmonth hdef
    omega
  rw [ofDayNumber_eq hnumber ⟨by omega, by omega⟩ (fun hend => hle.2 (by omega)) hmarch]
  have hfirst := h.one_le_month
  have htwelve := h.month_le
  have hsameYear : (if (d.marchMonth : Int) < 10 then d.marchYear else d.marchYear + 1) = d.year := by
    unfold marchYear marchMonth
    split_ifs <;> omega
  have hsameMonth : (if (d.marchMonth : Int) < 10 then (d.marchMonth : Int) + 3
      else (d.marchMonth : Int) - 9).toNat = d.month := by
    unfold marchMonth
    split_ifs <;> omega
  have hsameDay : ((dayOfYear : Int) - (153 * (d.marchMonth : Int) + 2) / 5 + 1).toNat = d.day := by
    unfold monthStart at hdef
    omega
  rw [hsameYear, hsameMonth, hsameDay]

end Valid

theorem valid_epoch : epoch.Valid := by
  decide

theorem dayNumber_epoch : epoch.dayNumber = 0 := by
  decide

/-- After 400 years the calendar repeats itself. -/
theorem exists_cyclesAway {d : Date} (h : d.Valid) (cycles : Int) :
    ∃ d' : Date, d'.Valid ∧ d'.dayNumber = d.dayNumber + cycleDays * cycles := by
  obtain ⟨hone, htwelve, hday, hle⟩ := h
  have hleap : IsLeap (d.year + 400 * cycles) ↔ IsLeap d.year := by
    unfold IsLeap
    omega
  refine ⟨⟨d.year + 400 * cycles, d.month, d.day⟩, ⟨hone, htwelve, hday, ?_⟩, ?_⟩
  · simpa only [monthLength, hleap] using hle
  · simp only [dayNumber_eq, marchYear, marchMonth, yearStart, cycleDays]
    split_ifs <;> omega

/-- Counting on from the epoch comes to every number from zero on. -/
theorem exists_dayNumber_eq_natCast (n : Nat) : ∃ d : Date, d.Valid ∧ d.dayNumber = n := by
  induction n with
  | zero => exact ⟨epoch, valid_epoch, dayNumber_epoch⟩
  | succ n ih =>
    obtain ⟨d, hd, hn⟩ := ih
    exact ⟨d.next, hd.next, by rw [hd.dayNumber_next, hn]; rfl⟩

/-- Every number is that of a date. -/
theorem exists_dayNumber_eq (n : Int) : ∃ d : Date, d.Valid ∧ d.dayNumber = n := by
  have hpos : 0 ≤ n % cycleDays := Int.emod_nonneg _ (by decide)
  obtain ⟨d, hd, hn⟩ := exists_dayNumber_eq_natCast (n % cycleDays).toNat
  obtain ⟨d', hd', hn'⟩ := exists_cyclesAway hd (n / cycleDays)
  refine ⟨d', hd', ?_⟩
  rw [hn', hn, Int.toNat_of_nonneg hpos]
  exact Int.emod_add_mul_ediv n cycleDays

theorem valid_ofDayNumber (n : Int) : (ofDayNumber n).Valid := by
  obtain ⟨d, hd, rfl⟩ := exists_dayNumber_eq n
  rwa [hd.ofDayNumber_dayNumber]

/-- **The number of the date with a number is that number.** -/
theorem dayNumber_ofDayNumber (n : Int) : (ofDayNumber n).dayNumber = n := by
  obtain ⟨d, hd, rfl⟩ := exists_dayNumber_eq n
  rw [hd.ofDayNumber_dayNumber]

/-! ## The first and the last day -/

/-- The first day of the calendar. -/
def first : Date :=
  ⟨minYear, 1, 1⟩

/-- The last day of the calendar. -/
def last : Date :=
  ⟨maxYear, 12, 31⟩

theorem dayNumber_first : first.dayNumber = -96465292 := by
  decide

theorem dayNumber_last : last.dayNumber = 95026236 := by
  decide

theorem inCalendar_iff {n : Int} :
    inCalendar n = true ↔ first.dayNumber ≤ n ∧ n ≤ last.dayNumber := by
  show (decide (first.dayNumber ≤ n) && decide (n ≤ last.dayNumber)) = true ↔ _
  rw [Bool.and_eq_true, decide_eq_true_eq, decide_eq_true_eq]

/-- A date of which the calendar has the year. -/
structure InRange (d : Date) : Prop extends d.Valid where
  minYear_le : minYear ≤ d.year
  le_maxYear : d.year ≤ maxYear

theorem inRange_iff {d : Date} : d.InRange ↔ d.Valid ∧ minYear ≤ d.year ∧ d.year ≤ maxYear :=
  ⟨fun h => ⟨h.toValid, h.minYear_le, h.le_maxYear⟩, fun h => ⟨h.1, h.2.1, h.2.2⟩⟩

instance (d : Date) : Decidable d.InRange :=
  decidable_of_iff _ inRange_iff.symm

/-- The dates in range are those whose numbers the calendar holds. -/
theorem Valid.inRange_iff {d : Date} (h : d.Valid) :
    d.InRange ↔ inCalendar d.dayNumber = true := by
  have hfirst : first.Valid := by decide
  have hlast : last.Valid := by decide
  have hbelow : first.dayNumber ≤ d.dayNumber ↔ ¬ d.Before first := by
    rw [h.before_iff hfirst, Int.not_lt]
  have habove : d.dayNumber ≤ last.dayNumber ↔ ¬ last.Before d := by
    rw [hlast.before_iff h, Int.not_lt]
  have hone := h.one_le_month
  have htwelve := h.month_le
  have hday := h.one_le_day
  have hend := h.day_le.trans (monthLength_le d.year d.month)
  rw [inCalendar_iff, hbelow, habove, Date.inRange_iff]
  simp only [h, true_and, Before, first, last]
  omega

theorem InRange.dayNumber_le {d : Date} (h : d.InRange) :
    -96465292 ≤ d.dayNumber ∧ d.dayNumber ≤ 95026236 := by
  have hrange := inCalendar_iff.mp (h.toValid.inRange_iff.mp h)
  rwa [dayNumber_first, dayNumber_last] at hrange

end ReleaseFeed.Date
