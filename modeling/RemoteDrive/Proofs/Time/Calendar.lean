import Mathlib.Algebra.Order.Ring.Nat
import RemoteDrive.Time.Instant

/-!
# Days and their numbers

Every number is that of one day of the calendar: the day that `Date.ofDayNumber` finds is one that
the calendar has (`isValid_ofDayNumber`), and its number is the number that was asked for
(`dayNumber_ofDayNumber`). That is all that a round trip through a date needs. That the days are
those of the proleptic Gregorian calendar is a matter of two facts, that day zero is the first of
January 1970 and that the number after that of a day is the number of the day that follows it
(`ofDayNumber_add_one`), where `Date.next` says what follows without any count of days.

The year is the delicate part. `yearOf` guesses it from the mean length of a year and mends the
guess by one at most, which is enough because `daysBeforeYear` is never two days away from the mean.
-/

set_option autoImplicit false

namespace RemoteDrive
namespace Date

/-! ## Years -/

/-- The length of a year. -/
def yearLength (leap : Bool) : Nat := if leap then 366 else 365

theorem isLeap_iff {year : Int} :
    isLeap year = true ↔ year % 4 = 0 ∧ (year % 100 ≠ 0 ∨ year % 400 = 0) := by
  simp [isLeap]

theorem daysBeforeYear_add_one (year : Int) :
    daysBeforeYear (year + 1) = daysBeforeYear year + yearLength (isLeap year) := by
  unfold daysBeforeYear
  cases h : isLeap year with
  | true =>
    have hleap := isLeap_iff.mp h
    rw [yearLength, if_pos rfl]
    omega
  | false =>
    have hleap := mt isLeap_iff.mpr (Bool.eq_false_iff.mp h)
    rw [yearLength, if_neg Bool.false_ne_true]
    omega

theorem daysBeforeYear_mono {y z : Int} (h : y ≤ z) : daysBeforeYear y ≤ daysBeforeYear z := by
  unfold daysBeforeYear
  omega

/-- The year that is found has begun, -/
theorem daysBeforeYear_yearOf_le (n : Int) : daysBeforeYear (yearOf n) ≤ n := by
  unfold yearOf
  dsimp only
  split
  · assumption
  split
  · assumption
  · unfold daysBeforeYear
    omega

/-- and the next one has not. -/
theorem lt_daysBeforeYear_yearOf (n : Int) : n < daysBeforeYear (yearOf n + 1) := by
  unfold yearOf
  dsimp only
  split
  · unfold daysBeforeYear
    omega
  · rename_i hnext
    split
    · omega
    · rw [Int.sub_add_cancel]
      omega

theorem yearOf_eq {n year : Int} (hle : daysBeforeYear year ≤ n)
    (hlt : n < daysBeforeYear (year + 1)) : yearOf n = year := by
  have hbegun := daysBeforeYear_yearOf_le n
  have hnext := lt_daysBeforeYear_yearOf n
  rcases Int.lt_trichotomy (yearOf n) year with h | h | h
  · have hmono := daysBeforeYear_mono (show yearOf n + 1 ≤ year from h)
    omega
  · exact h
  · have hmono := daysBeforeYear_mono (show year + 1 ≤ yearOf n from h)
    omega

/-! ## Months

The months of a year are taken off one after the other, so what is said of them is said of any list
of lengths, from any of its months on.
-/

section Months

variable {place length day n : Nat} {lengths : List Nat}

/-- The day with this number in one of the months, `day` being counted from zero. -/
structure IsDay (lengths : List Nat) (place day n : Nat) : Prop where
  inMonth : ∃ length, lengths[place]? = some length ∧ day < length
  number : n = (lengths.take place).sum + day

theorem exists_isDay (h : n < lengths.sum) : ∃ place day, IsDay lengths place day n := by
  induction lengths generalizing n with
  | nil => exact absurd h (Nat.not_lt_zero n)
  | cons length rest ih =>
    rw [List.sum_cons] at h
    by_cases hlt : n < length
    · exact ⟨0, n, ⟨length, rfl, hlt⟩, by simp⟩
    · obtain ⟨place, day, hmonth, hn⟩ := ih (show n - length < rest.sum by omega)
      refine ⟨place + 1, day, hmonth, ?_⟩
      rw [List.take_succ_cons, List.sum_cons]
      omega

theorem IsDay.lt_sum (h : IsDay lengths place day n) : n < lengths.sum := by
  obtain ⟨⟨length, hlength, hday⟩, rfl⟩ := h
  obtain ⟨hplace, rfl⟩ := List.getElem?_eq_some_iff.mp hlength
  have hsplit := congrArg List.sum (List.take_append_drop place lengths)
  rw [List.drop_eq_getElem_cons hplace, List.sum_append, List.sum_cons] at hsplit
  omega

theorem IsDay.monthAndDay (month : Nat) (h : IsDay lengths place day n) :
    monthAndDay month n lengths = (month + place, day + 1) := by
  obtain ⟨⟨length, hlength, hday⟩, rfl⟩ := h
  induction lengths generalizing month place with
  | nil => cases hlength
  | cons first rest ih =>
    cases place with
    | zero =>
      cases hlength
      simp only [List.take_zero, List.sum_nil, Nat.zero_add, Date.monthAndDay, if_pos hday,
        Nat.add_zero]
    | succ place =>
      have hbehind : ¬ first + ((rest.take place).sum + day) < first := by omega
      rw [List.take_succ_cons, List.sum_cons, Nat.add_assoc, Date.monthAndDay, if_neg hbehind,
        Nat.add_sub_cancel_left, ih (month + 1) hlength, Nat.add_right_comm, Nat.add_assoc]

end Months

theorem sum_monthLengths (leap : Bool) : (monthLengths leap).sum = yearLength leap := by
  cases leap <;> rfl

theorem length_monthLengths (leap : Bool) : (monthLengths leap).length = 12 := rfl

theorem daysBeforeMonth_eq (leap : Bool) (month : Nat) :
    daysBeforeMonth leap month = ((monthLengths leap).take (month - 1)).sum := rfl

/-! ## Days -/

section Days

variable {d : Date} {number : Int}

theorem isValid_iff : d.isValid = true ↔ 1 ≤ d.month ∧ d.month ≤ 12 ∧ 1 ≤ d.day ∧
    d.day ≤ monthLength (isLeap d.year) d.month := by
  simp [isValid]

theorem monthLength_add_one (leap : Bool) {place length : Nat}
    (h : (monthLengths leap)[place]? = some length) : monthLength leap (place + 1) = length := by
  rw [monthLength, if_neg (Nat.succ_ne_zero place), Nat.add_sub_cancel, List.getD_eq_getElem?_getD,
    h, Option.getD_some]

/-- The day of the calendar with this number, place and day in its month being counted from zero. -/
structure HasNumber (d : Date) (number : Int) : Prop where
  month_pos : 1 ≤ d.month
  day_pos : 1 ≤ d.day
  inYear : ∃ n : Nat, IsDay (monthLengths (isLeap d.year)) (d.month - 1) (d.day - 1) n ∧
    number + epochDays = daysBeforeYear d.year + n

theorem hasNumber_ofDayNumber (number : Int) : (ofDayNumber number).HasNumber number := by
  have hle := daysBeforeYear_yearOf_le (number + epochDays)
  have hlt := lt_daysBeforeYear_yearOf (number + epochDays)
  rw [daysBeforeYear_add_one, ← sum_monthLengths] at hlt
  generalize hyear : yearOf (number + epochDays) = year at hle hlt
  have hinYear : (number + epochDays - daysBeforeYear year).toNat <
      (monthLengths (isLeap year)).sum := by omega
  obtain ⟨place, day, hday⟩ := exists_isDay hinYear
  have hdate : ofDayNumber number = ⟨year, 1 + place, day + 1⟩ := by
    simp only [ofDayNumber, hyear, hday.monthAndDay]
  rw [hdate]
  refine ⟨Nat.le_add_right 1 place, Nat.le_add_left 1 day,
    (number + epochDays - daysBeforeYear year).toNat, ?_, by dsimp only; omega⟩
  rwa [Nat.add_sub_cancel_left, Nat.add_sub_cancel]

theorem hasNumber_of_isValid (h : d.isValid = true) : d.HasNumber d.dayNumber := by
  obtain ⟨hmonth, hmonths, hday, hdays⟩ := isValid_iff.mp h
  have hplace : d.month - 1 < (monthLengths (isLeap d.year)).length := by
    rw [length_monthLengths]
    omega
  have hlength := monthLength_add_one (isLeap d.year) (List.getElem?_eq_getElem hplace)
  rw [Nat.sub_add_cancel hmonth] at hlength
  refine ⟨hmonth, hday, _, ⟨⟨_, List.getElem?_eq_getElem hplace, by omega⟩, rfl⟩, ?_⟩
  rw [dayNumber, daysBeforeMonth_eq]
  push_cast
  omega

theorem HasNumber.isValid (h : d.HasNumber number) : d.isValid = true := by
  obtain ⟨hmonth, hday, n, ⟨⟨length, hlength, hlt⟩, -⟩, -⟩ := h
  have hplace := (List.getElem?_eq_some_iff.mp hlength).1
  have hmonthLength := monthLength_add_one _ hlength
  rw [length_monthLengths] at hplace
  rw [Nat.sub_add_cancel hmonth] at hmonthLength
  exact isValid_iff.mpr ⟨hmonth, by omega, hday, by omega⟩

theorem HasNumber.dayNumber_eq (h : d.HasNumber number) : d.dayNumber = number := by
  obtain ⟨hmonth, hday, n, ⟨-, hn⟩, hnumber⟩ := h
  rw [dayNumber, daysBeforeMonth_eq]
  omega

theorem HasNumber.ofDayNumber_eq (h : d.HasNumber number) : ofDayNumber number = d := by
  obtain ⟨hmonth, hday, n, hisDay, hnumber⟩ := h
  have hlt := hisDay.lt_sum
  rw [sum_monthLengths] at hlt
  have hyear : yearOf (number + epochDays) = d.year :=
    yearOf_eq (by omega) (by rw [daysBeforeYear_add_one]; omega)
  have hn : (number + epochDays - daysBeforeYear d.year).toNat = n := by omega
  simp only [ofDayNumber, hyear, hn, hisDay.monthAndDay]
  rw [Nat.add_sub_cancel' hmonth, Nat.sub_add_cancel hday]

theorem isValid_ofDayNumber (number : Int) : (ofDayNumber number).isValid = true :=
  (hasNumber_ofDayNumber number).isValid

theorem dayNumber_ofDayNumber (number : Int) : (ofDayNumber number).dayNumber = number :=
  (hasNumber_ofDayNumber number).dayNumber_eq

theorem ofDayNumber_dayNumber (h : d.isValid = true) : ofDayNumber d.dayNumber = d :=
  (hasNumber_of_isValid h).ofDayNumber_eq

/-! ## From day to day -/

/-- The day that follows a day: the next of its month, or the first of the next month. -/
def next (d : Date) : Date :=
  if d.day < monthLength (isLeap d.year) d.month then ⟨d.year, d.month, d.day + 1⟩
  else if d.month < 12 then ⟨d.year, d.month + 1, 1⟩
  else ⟨d.year + 1, 1, 1⟩

theorem monthLength_pos (leap : Bool) : ∀ month ≤ 12, 1 ≤ month → 1 ≤ monthLength leap month := by
  cases leap <;> decide

theorem daysBeforeMonth_add_one (leap : Bool) : ∀ month ≤ 12, 1 ≤ month →
    daysBeforeMonth leap (month + 1) = daysBeforeMonth leap month + monthLength leap month := by
  cases leap <;> decide

theorem daysBeforeMonth_behind (leap : Bool) : daysBeforeMonth leap 13 = yearLength leap := by
  cases leap <;> decide

theorem isValid_next (h : d.isValid = true) : d.next.isValid = true := by
  obtain ⟨hmonth, hmonths, hday, hdays⟩ := isValid_iff.mp h
  unfold next
  split
  · exact isValid_iff.mpr ⟨hmonth, hmonths, Nat.le_add_left 1 d.day, by assumption⟩
  split
  · exact isValid_iff.mpr ⟨Nat.le_add_left 1 d.month, by assumption, Nat.le_refl 1,
      monthLength_pos _ _ (by assumption) (Nat.le_add_left 1 d.month)⟩
  · exact isValid_iff.mpr ⟨Nat.le_refl 1, Nat.le_add_left 1 11, Nat.le_refl 1,
      monthLength_pos _ 1 (Nat.le_add_left 1 11) (Nat.le_refl 1)⟩

theorem dayNumber_next (h : d.isValid = true) : d.next.dayNumber = d.dayNumber + 1 := by
  obtain ⟨hmonth, hmonths, hday, hdays⟩ := isValid_iff.mp h
  have hmonthEnd := daysBeforeMonth_add_one (isLeap d.year) d.month hmonths hmonth
  unfold next dayNumber
  split
  · push_cast
    omega
  split
  · rw [hmonthEnd]
    push_cast
    omega
  · -- the last day of December
    have hyearEnd : daysBeforeMonth (isLeap d.year) (d.month + 1) = yearLength (isLeap d.year) := by
      rw [show d.month + 1 = 13 by omega, daysBeforeMonth_behind]
    have hfirst : daysBeforeMonth (isLeap (d.year + 1)) 1 = 0 := rfl
    rw [daysBeforeYear_add_one, hfirst]
    push_cast
    omega

/-- **The number after that of a day is the number of the day that follows it.** -/
theorem ofDayNumber_add_one (number : Int) :
    ofDayNumber (number + 1) = (ofDayNumber number).next := by
  have hvalid := isValid_ofDayNumber number
  have hnext := dayNumber_next hvalid
  rw [dayNumber_ofDayNumber] at hnext
  rw [← hnext, ofDayNumber_dayNumber (isValid_next hvalid)]

example : ofDayNumber 0 = ⟨1970, 1, 1⟩ := by decide

end Days

end Date
end RemoteDrive
