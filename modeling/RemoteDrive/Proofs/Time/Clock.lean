import RemoteDrive.Proofs.Time.Calendar

/-!
# What a clock shows, and when

A clock that runs a whole number of minutes ahead of universal time, or behind it, shows a moment in
such a way that the moment can be told from it again (`toInstant?_ofInstant`). Whole minutes matter:
a leap second is the second behind the last one of a minute, so that it is seen as one only by a
clock whose minutes end when those of universal time do.

A clock in universal time shows a year of the calendar at every moment that there is
(`inCalendar_ofInstant`). Another may be a year further at either end.
-/

set_option autoImplicit false

namespace RemoteDrive

namespace Instant

variable {t : Instant}

theorem isLeap_iff : t.isLeap = true ↔ nanosPerSecond ≤ t.nanos := by
  simp [isLeap]

theorem zero_lt_two_seconds : 0 < 2 * nanosPerSecond := by
  decide

/-- `t` cut to the second. -/
def wholeSecond (t : Instant) : Instant where
  seconds := t.seconds
  nanos := 0
  seconds_ge := t.seconds_ge
  seconds_le := t.seconds_le
  nanos_lt := zero_lt_two_seconds
  leap_at_end h := absurd h (by decide)

theorem wholeSecond_of_nanos (h : t.nanos = 0) : t.wholeSecond = t := by
  obtain ⟨seconds, nanos, _, _, _, _⟩ := t
  cases h
  rfl

theorem make?_of_seconds {seconds : Int} (h : seconds = t.seconds) :
    make? seconds t.nanos = some t :=
  h ▸ t.make?_self

end Instant

namespace WallClock

variable {t : Instant} {offset : Int}

/-! ## What is shown -/

/-- The seconds of its day that a clock has counted. -/
def inDay (t : Instant) (offset : Int) : Nat := ((t.seconds + offset) % secondsPerDay).toNat

theorem inDay_lt (t : Instant) (offset : Int) : inDay t offset < 86400 := by
  unfold inDay secondsPerDay
  omega

theorem day_add_inDay (t : Instant) (offset : Int) :
    (t.seconds + offset) / secondsPerDay * secondsPerDay + inDay t offset = t.seconds + offset := by
  unfold inDay secondsPerDay
  omega

theorem inDay_of_leap (hoffset : offset % 60 = 0) (h : t.isLeap = true) :
    inDay t offset % 60 = 59 := by
  have hend := t.leap_at_end (Instant.isLeap_iff.mp h)
  unfold inDay secondsPerDay
  omega

theorem date_ofInstant (t : Instant) (offset : Int) : (ofInstant t offset).date =
    Date.ofDayNumber ((t.seconds + offset) / secondsPerDay) := rfl

theorem hour_ofInstant (t : Instant) (offset : Int) :
    (ofInstant t offset).hour = inDay t offset / 3600 := rfl

theorem minute_ofInstant (t : Instant) (offset : Int) :
    (ofInstant t offset).minute = inDay t offset / 60 % 60 := rfl

theorem second_ofInstant (h : t.isLeap = false) :
    (ofInstant t offset).second = inDay t offset % 60 := by
  simp only [ofInstant, h, Bool.false_eq_true, if_false, inDay]

theorem nanos_ofInstant (h : t.isLeap = false) : (ofInstant t offset).nanos = t.nanos := by
  simp only [ofInstant, h, Bool.false_eq_true, if_false]

theorem second_of_leap (hoffset : offset % 60 = 0) (h : t.isLeap = true) :
    (ofInstant t offset).second = 60 := by
  have hsecond := inDay_of_leap hoffset h
  simp only [ofInstant, h, if_true]
  exact congrArg (· + 1) hsecond

theorem nanos_of_leap (h : t.isLeap = true) :
    (ofInstant t offset).nanos = t.nanos - nanosPerSecond := by
  simp only [ofInstant, h, if_true]

theorem isValid_iff {w : WallClock} : w.isValid = true ↔ w.date.isValid = true ∧
    inCalendar w.date.year = true ∧ w.hour ≤ 23 ∧ w.minute ≤ 59 ∧ w.second ≤ 60 ∧
    w.nanos < nanosPerSecond := by
  simp [isValid]

/-- What a clock shows it can show, as far as the calendar goes. -/
theorem isValid_ofInstant (hoffset : offset % 60 = 0)
    (hyear : inCalendar (ofInstant t offset).date.year = true) :
    (ofInstant t offset).isValid = true := by
  have hday := inDay_lt t offset
  have hhour : inDay t offset / 3600 ≤ 23 := by omega
  have hminute : inDay t offset / 60 % 60 ≤ 59 := by omega
  refine isValid_iff.mpr ⟨Date.isValid_ofDayNumber _, hyear, hhour, hminute, ?_⟩
  cases hleap : t.isLeap with
  | true =>
    have hlt := t.nanos_lt
    rw [second_of_leap hoffset hleap, nanos_of_leap hleap]
    have hleap := Instant.isLeap_iff.mp hleap
    omega
  | false =>
    rw [second_ofInstant hleap, nanos_ofInstant hleap]
    have hleap := mt Instant.isLeap_iff.mpr (Bool.eq_false_iff.mp hleap)
    omega

/-! ## The moment that is meant -/

/-- **A moment can be told from what a clock shows at it.** -/
theorem toInstant?_ofInstant (hoffset : offset % 60 = 0)
    (hyear : inCalendar (ofInstant t offset).date.year = true) :
    (ofInstant t offset).toInstant? offset = some t := by
  have hday := day_add_inDay t offset
  rw [toInstant?, if_pos (isValid_ofInstant hoffset hyear), date_ofInstant,
    Date.dayNumber_ofDayNumber, hour_ofInstant, minute_ofInstant]
  cases hleap : t.isLeap with
  | true =>
    have hsecond := inDay_of_leap hoffset hleap
    have hnanos := Instant.isLeap_iff.mp hleap
    rw [if_pos (second_of_leap hoffset hleap), nanos_of_leap hleap, Nat.sub_add_cancel hnanos]
    exact Instant.make?_of_seconds (by omega)
  | false =>
    have hsecond : (ofInstant t offset).second ≠ 60 := by
      rw [second_ofInstant hleap]
      omega
    rw [if_neg hsecond, nanos_ofInstant hleap, second_ofInstant hleap]
    exact Instant.make?_of_seconds (by omega)

/-! ## Years -/

theorem year_le {year n last : Int} (hbegun : Date.daysBeforeYear year ≤ n)
    (hn : n < Date.daysBeforeYear (last + 1)) : year ≤ last := by
  refine Int.not_lt.mp fun h => ?_
  have hmono := Date.daysBeforeYear_mono (show last + 1 ≤ year from h)
  omega

theorem le_year {year n first : Int} (hnext : n < Date.daysBeforeYear (year + 1))
    (hn : Date.daysBeforeYear first ≤ n) : first ≤ year := by
  refine Int.not_lt.mp fun h => ?_
  have hmono := Date.daysBeforeYear_mono (show year + 1 ≤ first from h)
  omega

theorem inCalendar_ofInstant (t : Instant) : inCalendar (ofInstant t 0).date.year = true := by
  have hge := t.seconds_ge
  have hle := t.seconds_le
  have hyear : (ofInstant t 0).date.year =
    Date.yearOf ((t.seconds + 0) / secondsPerDay + Date.epochDays) := rfl
  have hfirst : Date.daysBeforeYear (-262143) = -95745764 := by decide
  have hlast : Date.daysBeforeYear (262142 + 1) = 95745765 := by decide
  simp only [inCalendar, decide_eq_true_eq, hyear]
  constructor
  · refine le_year (Date.lt_daysBeforeYear_yearOf _) ?_
    rw [hfirst]
    unfold secondsPerDay Date.epochDays
    omega
  · refine year_le (Date.daysBeforeYear_yearOf_le _) ?_
    rw [hlast]
    unfold secondsPerDay Date.epochDays
    omega

end WallClock
end RemoteDrive
