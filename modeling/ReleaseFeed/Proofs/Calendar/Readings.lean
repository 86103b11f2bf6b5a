import ReleaseFeed.Proofs.Calendar.Dates
import ReleaseFeed.Timestamp

/-! # Readings and microseconds

A reading of a wall clock is a date and a time of day, and the order of readings is that of their parts
(`WallClock.Before`).  It is also the order of the nanoseconds that have passed since the epoch
(`Valid.before_iff`), and the microseconds of a reading are these nanoseconds, cut (`micros_eq`).

So microseconds and the readings that have no part of a microsecond are one and the same
(`ofMicros?_eq_some_iff`): a timestamp keeps all of a reading from the epoch on but its last nanoseconds,
and every timestamp up to the end of the calendar has a reading (`Timestamp.convertsExactly`).
-/
namespace ReleaseFeed

/-! ## Times of day -/

namespace TimeOfDay

/-- A time of day that is no leap second. -/
structure Valid (t : TimeOfDay) : Prop where
  hour_lt : t.hour < 24
  minute_lt : t.minute < 60
  second_lt : t.second < 60
  nanos_lt : t.nanos < 1_000_000_000

theorem valid_iff {t : TimeOfDay} :
    t.Valid ↔ t.hour < 24 ∧ t.minute < 60 ∧ t.second < 60 ∧ t.nanos < 1_000_000_000 :=
  ⟨fun h => ⟨h.1, h.2, h.3, h.4⟩, fun h => ⟨h.1, h.2.1, h.2.2.1, h.2.2.2⟩⟩

instance (t : TimeOfDay) : Decidable t.Valid :=
  decidable_of_iff _ valid_iff.symm

/-- The time is the earlier one. -/
def Before (t t' : TimeOfDay) : Prop :=
  t.hour < t'.hour ∨ t.hour = t'.hour ∧
    (t.minute < t'.minute ∨ t.minute = t'.minute ∧
      (t.second < t'.second ∨ t.second = t'.second ∧ t.nanos < t'.nanos))

instance (t t' : TimeOfDay) : Decidable (t.Before t') :=
  inferInstanceAs (Decidable (_ ∨ _))

/-- The nanoseconds since midnight. -/
def sinceMidnight (t : TimeOfDay) : Nat :=
  (t.hour * 3600 + t.minute * 60 + t.second) * 1_000_000_000 + t.nanos

/-- The time without a part of a microsecond. -/
def cut (t : TimeOfDay) : TimeOfDay :=
  { t with nanos := t.nanos / 1000 * 1000 }

variable {t t' : TimeOfDay}

theorem Valid.before_iff (h : t.Valid) (h' : t'.Valid) :
    t.Before t' ↔ t.sinceMidnight < t'.sinceMidnight := by
  obtain ⟨hhour, hminute, hsecond, hnanos⟩ := h
  obtain ⟨hhour', hminute', hsecond', hnanos'⟩ := h'
  unfold Before sinceMidnight
  omega

theorem Valid.sinceMidnight_lt (h : t.Valid) : t.sinceMidnight < 86_400_000_000_000 := by
  obtain ⟨hhour, hminute, hsecond, hnanos⟩ := h
  unfold sinceMidnight
  omega

/-- The parts of a time are found from its microseconds. -/
theorem Valid.eq_of_micros (h : t.Valid) (hcut : t.nanos % 1000 = 0) :
    (⟨t.sinceMidnight / 1000 / 1_000_000 / 3600, t.sinceMidnight / 1000 / 1_000_000 / 60 % 60,
      t.sinceMidnight / 1000 / 1_000_000 % 60, t.sinceMidnight / 1000 % 1_000_000 * 1000⟩ :
      TimeOfDay) = t := by
  obtain ⟨hour, minute, second, nanos⟩ := t
  obtain ⟨hhour, hminute, hsecond, hnanos⟩ := h
  dsimp only at hhour hminute hsecond hnanos hcut
  have hmicros : sinceMidnight ⟨hour, minute, second, nanos⟩ / 1000 =
      (hour * 3600 + minute * 60 + second) * 1_000_000 + nanos / 1000 := by
    simp only [sinceMidnight]
    omega
  have hseconds : ((hour * 3600 + minute * 60 + second) * 1_000_000 + nanos / 1000) / 1_000_000 =
      hour * 3600 + minute * 60 + second := by
    omega
  rw [hmicros, hseconds, mk.injEq]
  omega

theorem Valid.cut (h : t.Valid) : t.cut.Valid where
  hour_lt := h.hour_lt
  minute_lt := h.minute_lt
  second_lt := h.second_lt
  nanos_lt := Nat.lt_of_le_of_lt (Nat.div_mul_le_self _ _) h.nanos_lt

end TimeOfDay

/-! ## Readings -/

namespace WallClock

/-- A reading that the calendar has, and no leap second. -/
structure Valid (w : WallClock) : Prop where
  date : w.date.InRange
  time : w.time.Valid

instance (w : WallClock) : Decidable w.Valid :=
  decidable_of_iff (w.date.InRange ∧ w.time.Valid) ⟨fun h => ⟨h.1, h.2⟩, fun h => ⟨h.1, h.2⟩⟩

/-- The reading is the earlier one. -/
def Before (w w' : WallClock) : Prop :=
  w.date.Before w'.date ∨ w.date = w'.date ∧ w.time.Before w'.time

instance (w w' : WallClock) : Decidable (w.Before w') :=
  inferInstanceAs (Decidable (_ ∨ _))

/-- 1970-01-01T00:00:00. -/
def epoch : WallClock :=
  ⟨.epoch, .midnight⟩

/-- The last reading before the calendar ends. -/
def last : WallClock :=
  ⟨.last, ⟨23, 59, 59, 999_999_999⟩⟩

/-- The reading without a part of a microsecond. -/
def cut (w : WallClock) : WallClock :=
  { w with time := w.time.cut }

/-- The nanoseconds from the epoch to the reading. -/
def nanos (w : WallClock) : Int :=
  w.date.dayNumber * 86_400_000_000_000 + w.time.sinceMidnight

variable {w w' : WallClock}

theorem valid_epoch : epoch.Valid := by
  decide

theorem valid_last : last.Valid := by
  decide

theorem nanos_epoch : epoch.nanos = 0 := by
  decide

/-- The microseconds are the nanoseconds, cut. -/
theorem micros_eq (w : WallClock) : w.micros = w.nanos / 1000 := by
  unfold micros nanos dayMicros TimeOfDay.sinceMidnight
  omega

theorem micros_cut (w : WallClock) : w.cut.micros = w.micros := by
  simp only [micros, cut, TimeOfDay.cut, Nat.mul_div_left _ (show 0 < 1000 by decide)]

theorem Valid.cut (h : w.Valid) : w.cut.Valid :=
  ⟨h.date, h.time.cut⟩

/-- **The earlier reading is the one with fewer nanoseconds.** -/
theorem Valid.before_iff (h : w.Valid) (h' : w'.Valid) : w.Before w' ↔ w.nanos < w'.nanos := by
  have hlt := h.time.sinceMidnight_lt
  have hlt' := h'.time.sinceMidnight_lt
  have hdates := h.date.before_iff h'.date.toValid
  have htimes := h.time.before_iff h'.time
  rw [Before, hdates, htimes]
  unfold nanos
  by_cases hsame : w.date = w'.date
  · simp only [hsame, true_and]
    omega
  · have hne : w.date.dayNumber ≠ w'.date.dayNumber := by
      intro heq
      rw [← h.date.ofDayNumber_dayNumber, heq, h'.date.ofDayNumber_dayNumber] at hsame
      exact hsame rfl
    simp only [hsame, false_and, or_false]
    omega

/-- From the epoch on, microseconds are not negative. -/
theorem Valid.not_before_epoch_iff (h : w.Valid) : ¬ w.Before epoch ↔ 0 ≤ w.micros := by
  rw [h.before_iff valid_epoch, nanos_epoch, micros_eq]
  omega

theorem Valid.not_last_before (h : w.Valid) : ¬ last.Before w := by
  have hdate := h.date.dayNumber_le
  have htime := h.time.sinceMidnight_lt
  have hlast : last.nanos = 95026236 * 86_400_000_000_000 + 86_399_999_999_999 := by decide
  rw [valid_last.before_iff h, hlast]
  unfold nanos
  omega

/-- The microseconds of a reading fit a signed word of 64 bits. -/
theorem Valid.micros_fit (h : w.Valid) : -2 ^ 63 ≤ w.micros ∧ w.micros < 2 ^ 63 := by
  have hdate := h.date.dayNumber_le
  have htime := h.time.sinceMidnight_lt
  rw [micros_eq, nanos]
  omega

/-! ## From microseconds to readings -/

/-- **The reading of microseconds is the one reading that has them**, and no part of a microsecond
besides. -/
theorem ofMicros?_eq_some_iff {m : Int} :
    ofMicros? m = some w ↔ w.Valid ∧ w.time.nanos % 1000 = 0 ∧ w.micros = m := by
  constructor
  · intro hsome
    simp only [ofMicros?] at hsome
    split_ifs at hsome with hcalendar
    have hvalid : (Date.ofDayNumber (m / dayMicros)).Valid := Date.valid_ofDayNumber _
    cases hsome
    refine ⟨⟨hvalid.inRange_iff.mpr ?_, ?_⟩, Nat.mul_mod_left _ _, ?_⟩
    · rwa [Date.dayNumber_ofDayNumber]
    · constructor <;> dsimp only <;> unfold dayMicros <;> omega
    · unfold micros
      rw [Date.dayNumber_ofDayNumber]
      unfold dayMicros
      dsimp only
      omega
  · rintro ⟨hvalid, hcut, rfl⟩
    have hlt := hvalid.time.sinceMidnight_lt
    have hday : w.micros / dayMicros = w.date.dayNumber := by
      rw [micros_eq, nanos]
      unfold dayMicros
      omega
    have hrest : (w.micros % dayMicros).toNat = w.time.sinceMidnight / 1000 := by
      rw [micros_eq, nanos]
      unfold dayMicros
      omega
    have hcalendar := hvalid.date.toValid.inRange_iff.mp hvalid.date
    simp only [ofMicros?, hday, hrest, hcalendar, if_true, hvalid.date.ofDayNumber_dayNumber,
      hvalid.time.eq_of_micros hcut]

/-- There is a reading of all microseconds that some reading of the calendar has. -/
theorem isSome_ofMicros?_iff {m : Int} :
    (ofMicros? m).isSome = true ↔ ∃ w : WallClock, w.Valid ∧ w.micros = m := by
  constructor
  · intro hsome
    obtain ⟨w, hw⟩ := Option.isSome_iff_exists.mp hsome
    obtain ⟨hvalid, -, hmicros⟩ := ofMicros?_eq_some_iff.mp hw
    exact ⟨w, hvalid, hmicros⟩
  · rintro ⟨w, hvalid, rfl⟩
    have hw : ofMicros? w.micros = some w.cut :=
      ofMicros?_eq_some_iff.mpr ⟨hvalid.cut, Nat.mul_mod_left _ _, w.micros_cut⟩
    rw [hw]
    rfl

theorem ofMicros?_eq_none_iff {m : Int} (hm : 0 ≤ m) : ofMicros? m = none ↔ last.micros < m := by
  have hlast : last.micros = 95026236 * dayMicros + 86_399_999_999 := by decide
  have hcalendar : ofMicros? m = none ↔ ¬ Date.inCalendar (m / dayMicros) = true := by
    simp only [ofMicros?]
    split_ifs with h <;> simp [h]
  rw [hcalendar, Date.inCalendar_iff, Date.dayNumber_first, Date.dayNumber_last, hlast]
  unfold dayMicros
  omega

end WallClock

/-! ## Timestamps -/

namespace Timestamp
variable {w w' : WallClock} {t : Timestamp} {offset offset' : Int16}

theorem toNat_micros_ofWallClock (h : w.Valid) (offset : Int16) :
    (ofWallClock w offset).micros.toNat = w.micros.toNat := by
  have hfit := h.micros_fit
  show (UInt64.ofNat w.micros.toNat).toNat = w.micros.toNat
  rw [UInt64.toNat_ofNat']
  omega

theorem wallClock?_ofWallClock (h : w.Valid) (hepoch : ¬ w.Before .epoch) (offset : Int16) :
    (ofWallClock w offset).wallClock? = some w.cut := by
  have hpos : 0 ≤ w.micros := h.not_before_epoch_iff.mp hepoch
  rw [wallClock?, toNat_micros_ofWallClock h, Int.toNat_of_nonneg hpos,
    WallClock.ofMicros?_eq_some_iff]
  exact ⟨h.cut, Nat.mul_mod_left _ _, w.micros_cut⟩

theorem ofWallClock_of_wallClock? (h : t.wallClock? = some w) : ofWallClock w t.offset = t := by
  obtain ⟨-, -, hmicros⟩ := WallClock.ofMicros?_eq_some_iff.mp h
  rw [ofWallClock, hmicros, Int.toNat_natCast, UInt64.ofNat_toNat]

theorem wallClock?_eq_none_iff : t.wallClock? = none ↔
    (ofWallClock .last offset).micros < t.micros := by
  have hpos : 0 ≤ WallClock.last.micros := by decide
  rw [wallClock?, WallClock.ofMicros?_eq_none_iff (Int.natCast_nonneg _), UInt64.lt_iff_toNat_lt,
    toNat_micros_ofWallClock WallClock.valid_last]
  omega

/-- What becomes of readings and timestamps when they are turned into each other. -/
structure ConvertsExactly (t : Timestamp) (w w' : WallClock) (offset offset' : Int16) : Prop where
  /-- The days are those of the calendar, counted one by one from 1970-01-01. -/
  days : Date.epoch.dayNumber = 0 ∧ w.date.next.dayNumber = w.date.dayNumber + 1
  /-- The microseconds are a signed word of 64 bits, also before the epoch. -/
  fits : -2 ^ 63 ≤ w.micros ∧ w.micros < 2 ^ 63
  offset_eq : (ofWallClock w offset).offset = offset
  clamped : w.Before .epoch → (ofWallClock w offset).micros = 0
  kept : ¬ w.Before .epoch → (ofWallClock w offset).wallClock? = some w.cut
  /-- Every reading that a timestamp has is a reading of the calendar, and gives the timestamp back. -/
  back : ∀ r, t.wallClock? = some r → r.Valid ∧ ofWallClock r t.offset = t
  none_iff : t.wallClock? = none ↔ (ofWallClock .last offset).micros < t.micros
  not_last_before : ¬ WallClock.last.Before w
  before_iff : w.Before w' ↔ w.nanos < w'.nanos
  monotone : ¬ w'.Before w →
    (ofWallClock w offset).micros ≤ (ofWallClock w' offset').micros
  strict : ¬ w.Before .epoch → w.nanos + 1000 ≤ w'.nanos →
    (ofWallClock w offset).micros < (ofWallClock w' offset').micros

/-- **Readings are kept to the microsecond**, from the epoch to the end of the calendar. -/
theorem convertsExactly (t : Timestamp) (hw : w.Valid) (hw' : w'.Valid) (offset offset' : Int16) :
    ConvertsExactly t w w' offset offset' where
  days := ⟨Date.dayNumber_epoch, hw.date.toValid.dayNumber_next⟩
  fits := hw.micros_fit
  offset_eq := rfl
  clamped hbefore := by
    have hneg : ¬ 0 ≤ w.micros := fun hpos => hw.not_before_epoch_iff.mpr hpos hbefore
    have hzero : w.micros.toNat = 0 := by omega
    rw [ofWallClock, hzero]
    rfl
  kept hepoch := wallClock?_ofWallClock hw hepoch offset
  back r hr := ⟨(WallClock.ofMicros?_eq_some_iff.mp hr).1, ofWallClock_of_wallClock? hr⟩
  none_iff := wallClock?_eq_none_iff
  not_last_before := hw.not_last_before
  before_iff := hw.before_iff hw'
  monotone horder := by
    rw [hw'.before_iff hw, Int.not_lt] at horder
    rw [UInt64.le_iff_toNat_le, toNat_micros_ofWallClock hw, toNat_micros_ofWallClock hw',
      WallClock.micros_eq, WallClock.micros_eq]
    omega
  strict hepoch hlater := by
    have hpos : 0 ≤ w.micros := hw.not_before_epoch_iff.mp hepoch
    rw [UInt64.lt_iff_toNat_lt, toNat_micros_ofWallClock hw, toNat_micros_ofWallClock hw']
    rw [WallClock.micros_eq] at hpos ⊢
    rw [WallClock.micros_eq]
    omega

/-- The last nanosecond of a leap day. -/
def leapEvening : WallClock :=
  ⟨⟨2000, 2, 29⟩, ⟨23, 59, 59, 999_999_999⟩⟩

/-- A microsecond later it is March. -/
def marchMorning : WallClock :=
  ⟨⟨2000, 3, 1⟩, ⟨0, 0, 0, 999⟩⟩

theorem convertsExactly_leapEvening : leapEvening.Valid ∧ marchMorning.Valid ∧
    (ofWallClock leapEvening (-240)).wallClock? =
      some ⟨⟨2000, 2, 29⟩, ⟨23, 59, 59, 999_999_000⟩⟩ ∧
    (ofWallClock leapEvening (-240)).micros < (ofWallClock marchMorning 60).micros ∧
    (Timestamp.mk 8_210_266_876_800_000_000 60).wallClock? = none := by
  have hevening : leapEvening.Valid := by decide
  have hmorning : marchMorning.Valid := by decide
  have h := convertsExactly ⟨8_210_266_876_800_000_000, 60⟩ hevening hmorning (-240) 60
  exact ⟨hevening, hmorning, h.kept (by decide), h.strict (by decide) (by decide),
    h.none_iff.mpr (by decide)⟩

end Timestamp

end ReleaseFeed
